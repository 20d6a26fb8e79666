import ObjectModel.Comparison
import ObjectModel.Truth

set_option autoImplicit false

namespace ObjectModel

inductive Numeric where
  | int (number : Int64)
  | float (number : Binary64)

def Value.numeric? : Value → Option Numeric
  | .int number => some (.int number)
  | .bool truth => some (.int (if truth then 1 else 0))
  | .float number => some (.float number)
  | _ => Option.none

def Numeric.ordering? : Numeric → Numeric → Option Ordering
  | int left, int right => some (compare left.toInt right.toInt)
  | int left, float right => Binary64.orderingOfInt? left right
  | float left, int right => (Binary64.orderingOfInt? right left).map Ordering.swap
  | float left, float right => left.ordering? right

def Value.compareImmediate? (left right : Value) (op : Comparison) : Option Bool :=
  match left, right with
  | .str left, .str right => some (op.accepts (compare left right))
  | .slice _ left, .slice _ right => op.ofEquality? (left = right)
  | _, _ =>
    match left.numeric?, right.numeric? with
    | some left, some right => some (op.acceptsOrder? (left.ordering? right))
    | _, _ => Option.none

theorem Value.sizeOf_items_lt {value : Value} {items : List Value}
    (held : value.items? = some items) : sizeOf items < sizeOf value := by
  match value with
  | .object ⟨_, _, _, .tuple inner⟩ =>
    simp only [Value.items?, Payload.items?, Option.some.injEq] at held
    subst held
    decreasing_tactic
  | .object ⟨_, _, _, .empty⟩ => simp [Value.items?, Payload.items?] at held
  | .none | .notImplemented | .bool _ | .int _ | .float _ | .str _ | .type _ | .function _
  | .boundMethod _ _ _ | .descriptor _ | .slice _ _ | .iterator _ _ => simp [Value.items?] at held

namespace Engine

variable {σ : Type}

mutual

def richCompare (engine : Engine σ) (left right : Value) (op : Comparison) : Eval σ Bool := do
  match ← engine.slotCompare left right op with
  | some answer => return answer
  | none =>
    match ← engine.slotCompare right left op.swapped with
    | some answer => return answer
    | none =>
      match op.ofEquality? (left.is right) with
      | some answer => return answer
      | none =>
        let world ← Eval.world
        throw (.unordered op.symbol (world.typeName left) (world.typeName right))
termination_by 4 * (sizeOf left + sizeOf right) + 2
decreasing_by all_goals omega

def slotCompare (engine : Engine σ) (left right : Value) (op : Comparison) :
    Eval σ (Option Bool) := do
  if left.isInstance then
    match ← engine.callSpecial left op.method [right] with
    | some .notImplemented => return none
    | some answer => return some (← engine.truthy answer)
    | none =>
      match _held : left.items? with
      | none => return none
      | some items => engine.tupleCompare items right op
  else
    return left.compareImmediate? right op
termination_by 4 * (sizeOf left + sizeOf right) + 1
decreasing_by have := Value.sizeOf_items_lt _held; omega

/-- Compares a tuple with a value; with anything but a tuple it is merely unequal. -/
def tupleCompare (engine : Engine σ) (items : List Value) (right : Value) (op : Comparison) :
    Eval σ (Option Bool) := do
  match _held : right.items? with
  | none => return op.ofEquality? false
  | some others => return some (← engine.compareItems items others op)
termination_by 4 * (sizeOf items + sizeOf right) + 3
decreasing_by have := Value.sizeOf_items_lt _held; omega

def compareItems (engine : Engine σ) (items others : List Value) (op : Comparison) :
    Eval σ Bool := do
  match items, others with
  | [], [] => return op.accepts .eq
  | [], _ :: _ => return op.accepts .lt
  | _ :: _, [] => return op.accepts .gt
  | item :: items, other :: others =>
    if ← engine.containerCompare item other .eq then
      engine.compareItems items others op
    else
      match op.ofEquality? false with
      | some answer => return answer
      | none => engine.containerCompare item other op
termination_by 4 * (sizeOf items + sizeOf others)
decreasing_by all_goals simp only [List.cons.sizeOf_spec]; omega

/-- Compares two values the way containers do: identical ones are equal. -/
def containerCompare (engine : Engine σ) (left right : Value) (op : Comparison) : Eval σ Bool :=
  match if left.is right then op.ofEquality? true else none with
  | some answer => pure answer
  | none => engine.richCompare left right op
termination_by 4 * (sizeOf left + sizeOf right) + 3
decreasing_by all_goals omega

end

def equal (engine : Engine σ) (left right : Value) : Eval σ Bool :=
  engine.containerCompare left right .eq

end Engine

end ObjectModel
