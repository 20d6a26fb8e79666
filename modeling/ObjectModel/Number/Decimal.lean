import ObjectModel.Number.Binary64

/-!
# Shortest decimals

A finite number is written with the fewest decimal digits that read back as the same number; of
several such decimals the nearest one is taken, and of two equally near ones the larger. All
comparisons are exact: magnitudes are counted in quarters of the least unit, times a power of ten
that makes the finest decimal grid a grid of whole numbers.
-/

set_option autoImplicit false

namespace ObjectModel.Decimal

/-- A positive decimal: `digits` without trailing zeros, the point standing `point` places to the
right of the first digit's left edge. -/
structure Digits where
  digits : List Char
  point : Int
  deriving DecidableEq, Repr

/-- The decimal places that the scaled magnitudes carry; the least number needs 324 and 17 more. -/
def places : Nat := 345

/-- The magnitudes around a finite number that read back as that number, scaled. -/
structure Interval where
  low : Nat
  value : Nat
  high : Nat
  -- Do the ends themselves read back?
  closed : Bool

def denominator : Nat := 4 * Binary64.unitsPerOne

def interval (x : Binary64) : Interval :=
  let quarters := 4 * x.significand
  let below := if x.significand = Binary64.leadingBit then 1 else 2
  let factor := Nat.pow 2 x.scale * Nat.pow 10 places
  { low := (quarters - below) * factor
    value := quarters * factor
    high := (quarters + 2) * factor
    closed := x.significand % 2 = 0 }

def Interval.contains (range : Interval) (magnitude : Nat) : Bool :=
  if range.closed then range.low ≤ magnitude && magnitude ≤ range.high
  else range.low < magnitude && magnitude < range.high

def Interval.nearest? (range : Interval) (step : Nat) : Option Nat :=
  let below := range.value / (denominator * step)
  let above := below + 1
  let lower := below * (denominator * step)
  let upper := above * (denominator * step)
  match range.contains lower, range.contains upper with
  | true, true => some (if range.value - lower < upper - range.value then below else above)
  | true, false => some below
  | false, true => some above
  | false, false => none

def length (n : Nat) : Nat :=
  (Nat.toDigits 10 n).length

def search (range : Interval) (whole : Nat) : Nat → Nat → Nat × Nat
  | _, 0 => (range.value / denominator, 0)
  | count, fuel + 1 =>
    match range.nearest? (Nat.pow 10 (whole - count)) with
    | some coefficient => (coefficient, whole - count)
    | none => search range whole (count + 1) fuel

def stripZeros (digits : List Char) : List Char :=
  (digits.reverse.dropWhile (· = '0')).reverse

def shortest (x : Binary64) : Digits :=
  let range := interval x
  let whole := length (range.value / denominator)
  let (coefficient, exponent) := search range whole 1 17
  let digits := Nat.toDigits 10 coefficient
  { digits := stripZeros digits
    point := (digits.length + exponent : Nat) - (places : Nat) }

structure Format where
  leastPoint : Int
  greatestPoint : Int
  mark : Char

def standard : Format := ⟨-3, 16, 'e'⟩

def positional (decimal : Digits) : List Char :=
  let count : Int := decimal.digits.length
  if decimal.point ≤ 0 then
    '0' :: '.' :: List.replicate (-decimal.point).toNat '0' ++ decimal.digits
  else if decimal.point < count then
    decimal.digits.take decimal.point.toNat ++ '.' :: decimal.digits.drop decimal.point.toNat
  else
    decimal.digits ++ List.replicate (decimal.point - count).toNat '0' ++ ['.', '0']

def scientific (mark : Char) (decimal : Digits) : List Char :=
  let body := match decimal.digits with
    | first :: second :: rest => first :: '.' :: second :: rest
    | digits => digits
  body ++ mark :: (toString (decimal.point - 1)).toList

def Format.render (format : Format) (decimal : Digits) : List Char :=
  if format.leastPoint ≤ decimal.point && decimal.point ≤ format.greatestPoint then
    positional decimal
  else
    scientific format.mark decimal

end ObjectModel.Decimal

namespace ObjectModel.Binary64

def render (x : Binary64) : String :=
  if x.isNaN then "nan"
  else
    let sign := if x.isNegative then "-" else ""
    if x.isInfinite then sign ++ "inf"
    else if x.isZero then sign ++ "0.0"
    else sign ++ String.ofList (Decimal.standard.render (Decimal.shortest x))

end ObjectModel.Binary64
