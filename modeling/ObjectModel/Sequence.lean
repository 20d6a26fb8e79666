import ObjectModel.Tuple

set_option autoImplicit false

namespace ObjectModel

def Slice.boundOf (value : Value) : Except Error (Option Int64) :=
  match value with
  | .none => .ok none
  | other =>
    match other.asIndex? with
    | some position => .ok (some position)
    | none => .error .badSliceBound

def Slice.ofValues (start stop step : Value) : Except Error Slice := do
  Slice.make (← Slice.boundOf start) (← Slice.boundOf stop) (← Slice.boundOf step)

namespace Engine

variable {σ : Type}

def length (engine : Engine σ) (value : Value) : Eval σ Nat := do
  match value with
  | .str text => return text.length
  | .object _ =>
    match ← engine.callSpecial value "__len__" [] with
    | none => .failFor value .noLength
    | some answer =>
      match answer.asIndex? with
      | some size => if size < 0 then throw (.notASize "__len__") else return size.toInt.toNat
      | none => throw (.notASize "__len__")
  | _ => .failFor value .noLength

def getItem (engine : Engine σ) (container key : Value) : Eval σ Value := do
  match container with
  | .object _ =>
    match ← engine.callSpecial container "__getitem__" [key] with
    | some item => return item
    | none => .failFor container .notSubscriptable
  | _ => .failFor container .notSubscriptable

def searchFor (engine : Engine σ) (iterator item : Value) : Nat → Eval σ Bool
  | 0 => .exhausted
  | rounds + 1 => do
    match ← engine.next iterator with
    | none => return false
    | some element =>
      if ← Eval.holding [element] (engine.equal element item) then return true
      engine.searchFor iterator item rounds

def contains (engine : Engine σ) (container item : Value) : Eval σ Bool := do
  match container with
  | .str haystack =>
    match item with
    | .str needle => return haystack.contains needle
    | other => .failFor other .substringExpected
  | .object _ =>
    match ← engine.callSpecial container "__contains__" [item] with
    | some answer => engine.truthy answer
    | none =>
      let iterator ← engine.iter container
      Eval.holding [iterator] (engine.searchFor iterator item (← engine.roundsFor iterator))
  | .iterator .. => engine.searchFor container item (← engine.roundsFor container)
  | _ => .failFor container .notAContainer

def failOperands {α : Type} (symbol : String) (left right : Value) : Eval σ α := do
  let world ← Eval.world
  throw (.unsupportedOperands symbol (world.typeName left) (world.typeName right))

def concat (engine : Engine σ) (left right : Value) : Eval σ Value := do
  match left, right with
  | .str first, .str second => return .str (first ++ second)
  | _, _ =>
    match left.items? with
    | some items => engine.tupleConcat items right
    | none => failOperands "+" left right

def repetition (engine : Engine σ) (sequence count : Value) : Eval σ Value := do
  match sequence.items? with
  | some items => engine.tupleRepeat items count
  | none => failOperands "*" sequence count

end Engine

end ObjectModel
