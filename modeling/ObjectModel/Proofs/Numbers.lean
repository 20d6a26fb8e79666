import Mathlib.Algebra.Order.Ring.Int
import Mathlib.Order.Compare
import Mathlib.Tactic.Ring
import Mathlib.Tactic.Linarith
import ObjectModel.Compare

set_option autoImplicit false

namespace ObjectModel

namespace Binary64

def unitsOf (magnitude : Nat) : Nat :=
  if magnitude / leadingBit = 0 then magnitude
  else (magnitude % leadingBit + leadingBit) * 2 ^ (magnitude / leadingBit - 1)

theorem units_eq (x : Binary64) : x.units = unitsOf x.magnitudeBits := by
  rw [units, significand, scale, exponentField, unitsOf]
  by_cases subnormal : x.magnitudeBits / leadingBit = 0
  · simp [subnormal]
  · simp only [subnormal, if_false]
    rfl

theorem unitsOf_strictMono : StrictMono unitsOf := by
  intro left right smaller
  have positive : 0 < leadingBit := by decide
  have leftBound : left % leadingBit < leadingBit := Nat.mod_lt _ positive
  have leftSplit := Nat.div_add_mod left leadingBit
  have rightSplit := Nat.div_add_mod right leadingBit
  have exponents : left / leadingBit ≤ right / leadingBit := Nat.div_le_div_right smaller.le
  rw [unitsOf, unitsOf]
  generalize left / leadingBit = low at *
  generalize right / leadingBit = high at *
  have shift : 0 < 2 ^ (high - 1) := Nat.two_pow_pos _
  by_cases same : low = high
  · -- With one exponent the significands decide.
    subst same
    by_cases subnormal : low = 0
    · simpa only [subnormal, if_true] using smaller
    · simp only [subnormal, if_false]
      exact Nat.mul_lt_mul_of_pos_right (by omega) shift
  · rw [if_neg (show high ≠ 0 by omega)]
    have least : leadingBit * 2 ^ (high - 1) ≤ (right % leadingBit + leadingBit) * 2 ^ (high - 1) :=
      Nat.mul_le_mul_right _ (by omega)
    by_cases subnormal : low = 0
    · rw [if_pos subnormal]
      calc left = left % leadingBit := by simpa [subnormal] using leftSplit.symm
        _ < leadingBit := leftBound
        _ ≤ leadingBit * 2 ^ (high - 1) := Nat.le_mul_of_pos_right _ shift
        _ ≤ _ := least
    · rw [if_neg subnormal]
      -- A step of the exponent doubles the least number that has it.
      have doubled : 2 * 2 ^ (low - 1) ≤ 2 ^ (high - 1) := by
        rw [← Nat.pow_succ']
        exact Nat.pow_le_pow_right (by decide) (by omega)
      calc (left % leadingBit + leadingBit) * 2 ^ (low - 1)
          < (2 * leadingBit) * 2 ^ (low - 1) :=
            Nat.mul_lt_mul_of_pos_right (by omega) (Nat.two_pow_pos _)
        _ = leadingBit * (2 * 2 ^ (low - 1)) := by ring
        _ ≤ leadingBit * 2 ^ (high - 1) := Nat.mul_le_mul_left _ doubled
        _ ≤ _ := least

def unitsOfRank (rank : Int) : Int :=
  if rank < 0 then -(unitsOf rank.natAbs : Int) else unitsOf rank.natAbs

theorem unitsOf_zero : unitsOf 0 = 0 := by
  simp [unitsOf]

theorem unitsOfRank_lt {left right : Int} (smaller : left < right) :
    unitsOfRank left < unitsOfRank right := by
  have zero := unitsOf_zero
  rw [unitsOfRank, unitsOfRank]
  by_cases leftNegative : left < 0
  · have above : 0 < unitsOf left.natAbs := by
      have grows := unitsOf_strictMono (show 0 < left.natAbs by omega)
      omega
    by_cases rightNegative : right < 0
    · have grows := unitsOf_strictMono (show right.natAbs < left.natAbs by omega)
      simp only [leftNegative, rightNegative, if_true]
      omega
    · simp only [leftNegative, rightNegative, if_true, if_false]
      omega
  · have rightNegative : ¬right < 0 := by omega
    have grows := unitsOf_strictMono (show left.natAbs < right.natAbs by omega)
    simp only [leftNegative, rightNegative, if_false]
    omega

theorem unitsOfRank_neg (rank : Int) : unitsOfRank (-rank) = -unitsOfRank rank := by
  have zero := unitsOf_zero
  rw [unitsOfRank, unitsOfRank, Int.natAbs_neg]
  rcases lt_trichotomy rank 0 with below | rfl | above
  · rw [if_neg (by omega), if_pos below, Int.neg_neg]
  · simp [zero]
  · rw [if_pos (by omega), if_neg (by omega)]

/-- A number in units of `2 ^ (-1074)`. -/
def signedUnits (x : Binary64) : Int :=
  if x.isNegative then -(x.units : Int) else x.units

theorem signedUnits_eq (x : Binary64) : x.signedUnits = unitsOfRank x.rank := by
  have zero := unitsOf_zero
  rw [signedUnits, unitsOfRank, rank, units_eq]
  cases x.isNegative with
  | false => simp [Int.not_lt.mpr (Int.natCast_nonneg _)]
  | true =>
    by_cases none : x.magnitudeBits = 0
    · simp [none, zero]
    · have negative : -(x.magnitudeBits : Int) < 0 := by omega
      rw [if_pos rfl, if_pos rfl, if_pos negative, Int.natAbs_neg, Int.natAbs_natCast]

theorem compare_signedUnits (x y : Binary64) :
    compare x.signedUnits y.signedUnits = compare x.rank y.rank := by
  have increasing : StrictMono unitsOfRank := fun _ _ => unitsOfRank_lt
  rw [signedUnits_eq, signedUnits_eq, ← cmp_eq_compare, ← cmp_eq_compare, increasing.cmp_map_eq]

theorem ordering?_eq (x y : Binary64) (left : x.isNaN = false) (right : y.isNaN = false) :
    x.ordering? y = some (compare x.signedUnits y.signedUnits) := by
  simp [ordering?, left, right, compare_signedUnits]

theorem unitsPerOne_power : ∃ exponent, unitsPerOne = 2 ^ exponent ∧
    wordRank = ((exponent + 11 + 1) * leadingBit : Nat) := by
  -- With a name for the exponent, the power is not computed.
  obtain ⟨exponent, number⟩ : ∃ exponent, exponent = 1074 := ⟨1074, rfl⟩
  refine ⟨exponent, ?_, ?_⟩
  · delta unitsPerOne
    rw [← number]
    exact Nat.pow_eq
  · rw [number]
    decide

theorem unitsPerOne_pos : 0 < unitsPerOne := by
  obtain ⟨exponent, power, _⟩ := unitsPerOne_power
  rw [power]
  exact Nat.two_pow_pos exponent

theorem unitsOf_power (exponent : Nat) :
    unitsOf ((exponent + 1) * leadingBit) = leadingBit * 2 ^ exponent := by
  have positive : 0 < leadingBit := by decide
  simp [unitsOf, Nat.mul_div_cancel _ positive, Nat.mul_mod_left]

theorem unitsOfRank_wordRank : unitsOfRank wordRank = 2 ^ 63 * (unitsPerOne : Int) := by
  obtain ⟨exponent, power, bits⟩ := unitsPerOne_power
  have nonnegative : ¬wordRank < 0 := by decide
  have shift : leadingBit * 2 ^ 11 = 2 ^ 63 := by decide
  have units : unitsOf ((exponent + 11 + 1) * leadingBit) = 2 ^ 63 * unitsPerOne := by
    rw [unitsOf_power, power, Nat.pow_add, ← shift]
    ring
  rw [unitsOfRank, if_neg nonnegative, bits, Int.natAbs_natCast, units]
  push_cast
  rfl

theorem compare_coarse {scale rest : Int} (low : -scale < rest) (high : rest < scale)
    (left right : Int) :
    compare (left * scale) (right * scale + rest) = (compare left right).then (compare 0 rest) := by
  rcases lt_trichotomy left right with less | rfl | greater
  · have whole : (left + 1) * scale ≤ right * scale :=
      Int.mul_le_mul_of_nonneg_right less (by omega)
    rw [compare_lt_iff_lt.mpr less, compare_lt_iff_lt.mpr (by linarith)]
    rfl
  · have shifted : compare (left * scale + 0) (left * scale + rest) = compare 0 rest := by
      rw [← cmp_eq_compare, ← cmp_eq_compare, cmp_add_left]
    rw [compare_eq_iff_eq.mpr rfl, ← shifted, Int.add_zero]
    rfl
  · have whole : (right + 1) * scale ≤ left * scale :=
      Int.mul_le_mul_of_nonneg_right greater (by omega)
    rw [compare_gt_iff_gt.mpr greater, compare_gt_iff_gt.mpr (by linarith)]
    rfl

theorem compare_whole (n : Int) (x : Binary64) :
    (compare n x.wholePart).then
        (if x.isWhole then .eq else if x.isNegative then .gt else .lt) =
      compare (n * unitsPerOne) x.signedUnits := by
  have bound : x.units % unitsPerOne < unitsPerOne := Nat.mod_lt _ unitsPerOne_pos
  have split : (x.units : Int) =
      (x.units / unitsPerOne : Nat) * unitsPerOne + (x.units % unitsPerOne : Nat) := by
    exact_mod_cast (Nat.div_add_mod' x.units unitsPerOne).symm
  cases negative : x.isNegative with
  | false =>
    rw [signedUnits, wholePart, isWhole, negative, split]
    simp only [Bool.false_eq_true, if_false]
    rw [compare_coarse (by omega) (by omega)]
    by_cases none : x.units % unitsPerOne = 0
    · simp only [none]
      rfl
    · have above : (0 : Int) < (x.units % unitsPerOne : Nat) := by omega
      rw [compare_lt_iff_lt.mpr above]
      simp only [none, decide_false, Bool.false_eq_true, if_false]
  | true =>
    rw [signedUnits, wholePart, isWhole, negative, split]
    simp only [if_true, Int.neg_add, ← Int.neg_mul]
    rw [compare_coarse (by omega) (by omega)]
    by_cases none : x.units % unitsPerOne = 0
    · simp only [none]
      rfl
    · have below : -((x.units % unitsPerOne : Nat) : Int) < 0 := by omega
      rw [compare_gt_iff_gt.mpr below]
      simp only [none, decide_false, Bool.false_eq_true, if_false]

theorem orderingOfInt?_eq (n : Int64) (x : Binary64) (number : x.isNaN = false) :
    orderingOfInt? n x = some (compare (n.toInt * unitsPerOne) x.signedUnits) := by
  have positive : (0 : Int) < unitsPerOne := by exact_mod_cast unitsPerOne_pos
  have least : -(2 ^ 63) * (unitsPerOne : Int) ≤ n.toInt * unitsPerOne :=
    Int.mul_le_mul_of_nonneg_right (Int64.le_toInt n) positive.le
  have most : n.toInt * (unitsPerOne : Int) < 2 ^ 63 * unitsPerOne :=
    Int.mul_lt_mul_of_pos_right (Int64.toInt_lt n) positive
  rw [orderingOfInt?, number, if_neg Bool.false_ne_true]
  by_cases beyond : wordRank ≤ x.rank
  · have high : unitsOfRank wordRank ≤ unitsOfRank x.rank := by
      rcases beyond.lt_or_eq with above | same
      · exact (unitsOfRank_lt above).le
      · rw [same]
    rw [unitsOfRank_wordRank, ← signedUnits_eq] at high
    rw [if_pos beyond, compare_lt_iff_lt.mpr (by omega)]
  · rw [if_neg beyond]
    by_cases under : x.rank < -wordRank
    · have low := unitsOfRank_lt under
      rw [unitsOfRank_neg, unitsOfRank_wordRank, ← signedUnits_eq] at low
      rw [if_pos under, compare_gt_iff_gt.mpr (by linarith)]
    · rw [if_neg under, compare_whole]

end Binary64

namespace Numeric

def units? : Numeric → Option Int
  | int number => some (number.toInt * Binary64.unitsPerOne)
  | float number => if number.isNaN then none else some number.signedUnits

theorem units?_nan {x : Binary64} (nan : x.isNaN = true) : (float x).units? = none := by
  rw [units?, nan, if_pos rfl]

theorem units?_float {x : Binary64} (number : x.isNaN = false) :
    (float x).units? = some x.signedUnits := by
  rw [units?, number, if_neg Bool.false_ne_true]

theorem ordering?_eq (left right : Numeric) :
    left.ordering? right = left.units?.bind fun left => right.units?.map (compare left ·) := by
  cases left with
  | int n =>
    cases right with
    | int m =>
      have positive : (0 : Int) < Binary64.unitsPerOne := by
        exact_mod_cast Binary64.unitsPerOne_pos
      have scaled := cmp_mul_pos_right positive n.toInt m.toInt
      rw [cmp_eq_compare, cmp_eq_compare] at scaled
      exact congrArg some scaled.symm
    | float y =>
      cases number : y.isNaN with
      | true =>
        rw [units?_nan number, ordering?, Binary64.orderingOfInt?, number]
        rfl
      | false =>
        rw [units?_float number, ordering?, Binary64.orderingOfInt?_eq n y number]
        rfl
  | float x =>
    cases number : x.isNaN with
    | true =>
      rw [units?_nan number]
      cases right with
      | int m =>
        rw [ordering?, Binary64.orderingOfInt?, number]
        rfl
      | float y =>
        rw [ordering?, Binary64.ordering?, number]
        rfl
    | false =>
      rw [units?_float number]
      cases right with
      | int m =>
        rw [ordering?, Binary64.orderingOfInt?_eq m x number]
        exact congrArg some Std.OrientedCmp.eq_swap.symm
      | float y =>
        cases other : y.isNaN with
        | true =>
          rw [units?_nan other, ordering?, Binary64.ordering?, other, Bool.or_true]
          rfl
        | false =>
          rw [units?_float other, ordering?, Binary64.ordering?_eq x y number other]
          rfl

theorem ordering?_swap (left right : Numeric) :
    right.ordering? left = (left.ordering? right).map Ordering.swap := by
  rw [ordering?_eq, ordering?_eq]
  cases left.units? with
  | none => cases right.units? <;> rfl
  | some units =>
    cases right.units? with
    | none => rfl
    | some others => exact congrArg some Std.OrientedCmp.eq_swap

end Numeric

end ObjectModel
