import ObjectModel.Attribute
import ObjectModel.Number.Decimal
import ObjectModel.Text.Quoted

set_option autoImplicit false

namespace ObjectModel

def tupleText : List String → String
  | [single] => s!"({single},)"
  | parts => "(" ++ ", ".intercalate parts ++ ")"

def World.defaultText (world : World) (value : Value) : String :=
  let digits := String.ofList (Nat.toDigits 16 value.identityNumber)
  s!"<{world.typeName value} object at 0x{digits}>"

namespace Engine

variable {σ : Type}

def customText (engine : Engine σ) (value : Value) : Eval σ String := do
  let answer ← try engine.callSpecial value "__repr__" [] catch _ => pure none
  match answer with
  | some (.str text) => return text
  | _ => return (← Eval.world).defaultText value

mutual

def repr (engine : Engine σ) : Value → Eval σ String
  | .none => return "None"
  | .notImplemented => return "NotImplemented"
  | .bool truth => return if truth then "True" else "False"
  | .int number => return toString number.toInt
  | .float number => return number.render
  | .str text => return Text.quoted text
  | .type key => do
    let name := (← Eval.world).nameOf key
    return s!"<class '{name}'>"
  | value@(.object ⟨_, _, _, .tuple items⟩) => do
    if (← Eval.world).isExactTuple value then
      return tupleText (← engine.reprItems items)
    else
      engine.customText value
  | value@(.object ⟨_, _, _, .empty⟩) => engine.customText value
  | .function f => return s!"<method '{f.name}' of '{f.owner}' objects>"
  | .boundMethod _ f receiver => do
    let typeName ← Eval.typeName receiver
    return s!"<built-in method {f.name} of {typeName} object>"
  | .descriptor held =>
    return if held.isData then s!"<property '{held.name}'>" else s!"<descriptor '{held.name}'>"
  | .slice _ slice => return slice.render
  | value@(.iterator ..) => return (← Eval.world).defaultText value

def reprItems (engine : Engine σ) : List Value → Eval σ (List String)
  | [] => return []
  | item :: rest => do
    let text ← engine.repr item
    return text :: (← engine.reprItems rest)

end

def reprTuple (engine : Engine σ) (items : List Value) : Eval σ String := do
  return tupleText (← engine.reprItems items)

end Engine

end ObjectModel
