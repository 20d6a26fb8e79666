import ObjectModel.Attribute

set_option autoImplicit false

namespace ObjectModel

def Value.plainTruth : Value → Bool
  | .none => false
  | .bool truth => truth
  | .int number => number ≠ 0
  | .float number => !number.isZero
  | .str text => !text.isEmpty
  | _ => true

namespace Engine

variable {σ : Type}

/-- Judges a value, following at most `rounds` answers of `__bool__`. -/
def truthWithin (engine : Engine σ) : Nat → Value → Eval σ Bool
  | rounds, value@(.object _) =>
    match rounds with
    | 0 => .exhausted
    | rounds + 1 => Eval.holding [value] do
      match ← engine.callSpecial value "__bool__" [] with
      | some answer => engine.truthWithin rounds answer
      | none =>
        match ← engine.callSpecial value "__len__" [] with
        | some size => return size.asIndex?.any (· ≠ 0)
        | none => return true
  | _, value => return value.plainTruth

def truthy (engine : Engine σ) (value : Value) : Eval σ Bool :=
  engine.truthWithin engine.patience value

end Engine

end ObjectModel
