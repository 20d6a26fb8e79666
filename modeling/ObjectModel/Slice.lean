import ObjectModel.Error
import ObjectModel.Number.Word

set_option autoImplicit false

namespace ObjectModel

/-- Optional bounds and step; the step is never zero. -/
structure Slice where
  start : Option Int64
  stop : Option Int64
  step : Option Int64
  step_ne_zero : step ≠ some 0
  deriving DecidableEq

structure Slice.Bounds where
  start : Int64
  step : Int64
  length : Nat
  deriving DecidableEq, Repr

namespace Slice

def make (start stop step : Option Int64) : Except Error Slice :=
  if zero : step = some 0 then .error .zeroSliceStep else .ok ⟨start, stop, step, zero⟩

def clamp? (size lower upper : Int64) (bound : Option Int64) (default : Int64) : Option Int64 :=
  match bound with
  | none => some default
  | some position =>
    if position < 0 then (Word.add? position size).map (max · lower) else some (min position upper)

def countBetween? (low high step : Int64) : Option Int64 := do
  let gap ← Word.sub? (← Word.sub? high low) 1
  Word.add? (← Word.div? gap step) 1

def count? (start stop step : Int64) : Option Int64 :=
  if 0 < step && start < stop then countBetween? start stop step
  else if step < 0 && stop < start then (Word.neg? step).bind (countBetween? stop start)
  else some 0

def upperEnd? (size step : Int64) : Option Int64 :=
  if step < 0 then Word.sub? size 1 else some size

/-- The positions selected in a sequence of `length` items. A length from `2 ^ 63` on wraps around
to a negative word, and with it a bound may leave the range of words. -/
def resolve? (slice : Slice) (length : Nat) : Option Bounds := do
  let size := Int64.ofNat length
  -- The least step has no counterpart of the other sign.
  let step := max (slice.step.getD 1) (-Int64.maxValue)
  let lower : Int64 := if step < 0 then -1 else 0
  let upper ← upperEnd? size step
  let start ← clamp? size lower upper slice.start (if step < 0 then upper else lower)
  let stop ← clamp? size lower upper slice.stop (if step < 0 then lower else upper)
  let count ← count? start stop step
  return { start, step, length := count.toUInt64.toNat }

def Bounds.position? (bounds : Bounds) (number : Nat) : Option Nat := do
  let distance ← Word.mul? (Int64.ofNat number) bounds.step
  return (← Word.add? bounds.start distance).toUInt64.toNat

def Bounds.firstPositions? (bounds : Bounds) (count : Nat) : Option (List Nat) :=
  (List.range (min count bounds.length)).mapM bounds.position?

def Bounds.positions? (bounds : Bounds) : Option (List Nat) :=
  bounds.firstPositions? bounds.length

def boundText : Option Int64 → String
  | none => "None"
  | some position => toString position.toInt

def render (slice : Slice) : String :=
  s!"slice({boundText slice.start}, {boundText slice.stop}, {boundText slice.step})"

end Slice

end ObjectModel
