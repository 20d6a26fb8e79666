import Mathlib.Data.Int.ConditionallyCompleteOrder
import Mathlib.Tactic.Linarith
import ObjectModel.Proofs.Coherence

set_option autoImplicit false

namespace ObjectModel

abbrev Extended := WithBot (WithTop ℚ)

namespace Extended

def ofRat (value : ℚ) : Extended :=
  (value : WithTop ℚ)

@[simp]
theorem ofRat_lt (left right : ℚ) : ofRat left < ofRat right ↔ left < right := by
  rw [ofRat, ofRat, WithBot.coe_lt_coe, WithTop.coe_lt_coe]

end Extended

namespace Comparison

variable {α : Type} [LinearOrder α]

def Relates (op : Comparison) (left right : α) : Prop :=
  match op with
  | lt => left < right
  | le => left ≤ right
  | eq => left = right
  | ne => left ≠ right
  | gt => right < left
  | ge => right ≤ left

instance (op : Comparison) (left right : α) : Decidable (op.Relates left right) :=
  match op with
  | lt => inferInstanceAs (Decidable (left < right))
  | le => inferInstanceAs (Decidable (left ≤ right))
  | eq => inferInstanceAs (Decidable (left = right))
  | ne => inferInstanceAs (Decidable (left ≠ right))
  | gt => inferInstanceAs (Decidable (right < left))
  | ge => inferInstanceAs (Decidable (right ≤ left))

def Holds (op : Comparison) : Option α → Option α → Prop
  | some left, some right => op.Relates left right
  | _, _ => op = ne

instance (op : Comparison) (left right : Option α) : Decidable (op.Holds left right) :=
  match left, right with
  | some left, some right => inferInstanceAs (Decidable (op.Relates left right))
  | none, _ | some _, none => inferInstanceAs (Decidable (op = ne))

theorem accepts_compare (op : Comparison) (left right : α) :
    op.accepts (compare left right) = decide (op.Relates left right) := by
  rcases lt_trichotomy left right with less | rfl | greater
  · rw [compare_lt_iff_lt.mpr less]
    cases op <;> simp [accepts, Relates, less, less.le, less.ne, less.not_gt, less.not_ge]
  · rw [compare_eq_iff_eq.mpr rfl]
    cases op <;> simp [accepts, Relates]
  · rw [compare_gt_iff_gt.mpr greater]
    cases op <;>
      simp [accepts, Relates, greater, greater.le, greater.ne', greater.not_gt, greater.not_ge]

end Comparison

namespace Binary64

def fraction (x : Binary64) : Nat :=
  x.bits.toNat % 2 ^ 52

def exponent (x : Binary64) : Nat :=
  x.bits.toNat / 2 ^ 52 % 2 ^ 11

def magnitude (x : Binary64) : ℚ :=
  if x.exponent = 0 then
    x.fraction * 2 ^ (-1074 : ℤ)
  else
    (x.fraction + 2 ^ 52) * 2 ^ ((x.exponent : ℤ) - 1075)

/-- What the bits of a number stand for. -/
def exactValue? (x : Binary64) : Option Extended :=
  -- The uppermost bit is the sign.
  let negative := x.bits.toNat / 2 ^ 63 = 1
  if x.exponent = 2 ^ 11 - 1 then
    if x.fraction = 0 then some (if negative then ⊥ else ⊤) else none
  else
    some (.ofRat (if negative then -x.magnitude else x.magnitude))

theorem isNegative_iff (x : Binary64) : x.isNegative = true ↔ x.bits.toNat / 2 ^ 63 = 1 := by
  have range := x.bits.toNat_lt
  rw [isNegative, decide_eq_true_eq, signBit]
  omega

theorem exponentField_eq (x : Binary64) : x.exponentField = x.exponent := by
  simp only [exponentField, magnitudeBits, signBit, leadingBit, exponent]
  omega

theorem magnitudeBits_eq (x : Binary64) :
    x.magnitudeBits = x.exponent * leadingBit + x.fraction := by
  simp only [magnitudeBits, signBit, leadingBit, exponent, fraction]
  omega

theorem fraction_lt (x : Binary64) : x.fraction < leadingBit :=
  Nat.mod_lt _ (by decide)

theorem exponent_lt (x : Binary64) : x.exponent < 2 ^ 11 :=
  Nat.mod_lt _ (by decide)

theorem isNaN_iff (x : Binary64) :
    x.isNaN = true ↔ x.exponent = 2 ^ 11 - 1 ∧ x.fraction ≠ 0 := by
  have range := x.exponent_lt
  have part := x.fraction_lt
  simp only [isNaN, decide_eq_true_eq, magnitudeBits_eq, infinityBits, leadingBit] at *
  omega

def unboundedUnits : Int :=
  unitsOf infinityBits

def ofUnits (units : Int) : Extended :=
  if unboundedUnits ≤ units then ⊤
  else if units ≤ -unboundedUnits then ⊥
  else .ofRat (units / unitsPerOne)

theorem unboundedUnits_pos : 0 < unboundedUnits := by
  have grows := unitsOf_strictMono (show 0 < infinityBits by decide)
  rw [unitsOf_zero] at grows
  exact Int.natCast_pos.mpr grows

theorem ofUnits_unbounded : ofUnits unboundedUnits = ⊤ := by
  rw [ofUnits, if_pos le_rfl]

theorem ofUnits_neg_unbounded : ofUnits (-unboundedUnits) = ⊥ := by
  have positive := unboundedUnits_pos
  rw [ofUnits, if_neg (by omega), if_pos le_rfl]

theorem ofUnits_bounded {units : Int} (low : -unboundedUnits < units)
    (high : units < unboundedUnits) : ofUnits units = .ofRat (units / unitsPerOne) := by
  rw [ofUnits, if_neg (by omega), if_neg (by omega)]

theorem ofUnits_strictMonoOn :
    StrictMonoOn ofUnits (Set.Icc (-unboundedUnits) unboundedUnits) := by
  rintro left ⟨leftLow, _⟩ right ⟨_, rightHigh⟩ smaller
  have positive : (0 : ℚ) < unitsPerOne := by exact_mod_cast unitsPerOne_pos
  rcases leftLow.eq_or_lt with rfl | leftAbove
  · rw [ofUnits_neg_unbounded]
    rcases rightHigh.eq_or_lt with rfl | rightBelow
    · rw [ofUnits_unbounded]
      exact bot_lt_top
    · rw [ofUnits_bounded smaller rightBelow]
      exact WithBot.bot_lt_coe _
  · rw [ofUnits_bounded leftAbove (by omega)]
    rcases rightHigh.eq_or_lt with rfl | rightBelow
    · rw [ofUnits_unbounded]
      exact WithBot.coe_lt_coe.mpr (WithTop.coe_lt_top _)
    · rw [ofUnits_bounded (by omega) rightBelow, Extended.ofRat_lt]
      exact div_lt_div_of_pos_right (by exact_mod_cast smaller) positive

theorem unitsPerOne_cast : (unitsPerOne : ℚ) = 2 ^ (1074 : ℤ) := by
  obtain ⟨power, units, bits⟩ := unitsPerOne_power
  have same : (power : ℤ) = 1074 := by
    rw [wordRank, leadingBit] at bits
    omega
  rw [units, Nat.cast_pow, Nat.cast_ofNat, ← zpow_natCast, same]

theorem magnitude_eq (x : Binary64) : x.magnitude = (x.units : ℚ) / unitsPerOne := by
  have rest : x.magnitudeBits % leadingBit = x.fraction := by
    rw [magnitudeBits_eq, Nat.mul_add_mod', Nat.mod_eq_of_lt x.fraction_lt]
  rw [magnitude, units, significand, scale, exponentField_eq, unitsPerOne_cast, rest]
  by_cases subnormal : x.exponent = 0
  · rw [if_pos subnormal, if_pos subnormal, magnitudeBits_eq, subnormal, zpow_neg]
    simp [div_eq_mul_inv]
  · have shift : (2 : ℚ) ^ ((x.exponent : ℤ) - 1075) =
        2 ^ (x.exponent - 1) / 2 ^ (1074 : ℤ) := by
      rw [← zpow_natCast, ← zpow_sub₀ two_ne_zero]
      congr 1
      omega
    rw [if_neg subnormal, if_neg subnormal, shift, mul_div_assoc']
    congr 1
    norm_num [leadingBit]

theorem units_infinite {x : Binary64} (infinite : x.magnitudeBits = infinityBits) :
    (x.units : Int) = unboundedUnits := by
  rw [units_eq, infinite, unboundedUnits]

theorem units_lt_unbounded {x : Binary64} (finite : x.magnitudeBits < infinityBits) :
    (x.units : Int) < unboundedUnits := by
  rw [units_eq, unboundedUnits, Int.ofNat_lt]
  exact unitsOf_strictMono finite

theorem exactValue?_eq {x : Binary64} (number : x.isNaN = false) :
    x.signedUnits ∈ Set.Icc (-unboundedUnits) unboundedUnits ∧
      x.exactValue? = some (ofUnits x.signedUnits) := by
  have positive := unboundedUnits_pos
  have fields := x.magnitudeBits_eq
  have part := x.fraction_lt
  have field := x.exponent_lt
  have ordinary : ¬(x.exponent = 2 ^ 11 - 1 ∧ x.fraction ≠ 0) := by
    rw [← isNaN_iff, number]
    exact Bool.false_ne_true
  rw [exactValue?, signedUnits]
  simp only [← isNegative_iff]
  by_cases greatest : x.exponent = 2 ^ 11 - 1
  · have whole : x.fraction = 0 := by simpa [greatest] using ordinary
    have units : (x.units : Int) = unboundedUnits := by
      apply units_infinite
      rw [fields, greatest, whole]
      decide
    rw [if_pos greatest, if_pos whole, units]
    cases x.isNegative with
    | false => exact ⟨⟨by simp; omega, by simp⟩, by simp [ofUnits_unbounded]⟩
    | true => exact ⟨⟨by simp, by simp; omega⟩, by simp [ofUnits_neg_unbounded]⟩
  · have units : (x.units : Int) < unboundedUnits := by
      apply units_lt_unbounded
      rw [fields, infinityBits]
      simp only [leadingBit] at part ⊢
      omega
    rw [if_neg greatest, magnitude_eq]
    cases x.isNegative with
    | false =>
      simp only [Bool.false_eq_true, if_false]
      exact ⟨⟨by omega, by omega⟩, by rw [ofUnits_bounded (by omega) units, Int.cast_natCast]⟩
    | true =>
      simp only [if_true]
      refine ⟨⟨by omega, by omega⟩, ?_⟩
      rw [ofUnits_bounded (by omega) (by omega), Int.cast_neg, Int.cast_natCast, neg_div]

theorem unitsOfRank_strictMono : StrictMono unitsOfRank :=
  fun _ _ => unitsOfRank_lt

theorem word_bounded (n : Int64) :
    -unboundedUnits < n.toInt * unitsPerOne ∧ n.toInt * unitsPerOne < unboundedUnits := by
  have positive : (0 : Int) < unitsPerOne := by exact_mod_cast unitsPerOne_pos
  have least : -(2 ^ 63) * (unitsPerOne : Int) ≤ n.toInt * unitsPerOne :=
    Int.mul_le_mul_of_nonneg_right (Int64.le_toInt n) positive.le
  have most : n.toInt * (unitsPerOne : Int) < 2 ^ 63 * unitsPerOne :=
    Int.mul_lt_mul_of_pos_right (Int64.toInt_lt n) positive
  have beyond : unitsOfRank wordRank < unitsOfRank infinityBits :=
    unitsOfRank_lt (by decide)
  rw [unitsOfRank_wordRank, unitsOfRank, if_neg (by omega), Int.natAbs_natCast,
    ← unboundedUnits] at beyond
  constructor <;> linarith

theorem ofUnits_word (n : Int64) :
    ofUnits (n.toInt * unitsPerOne) = .ofRat n.toInt := by
  obtain ⟨low, high⟩ := word_bounded n
  have positive : (unitsPerOne : ℚ) ≠ 0 := by exact_mod_cast unitsPerOne_pos.ne'
  rw [ofUnits_bounded low high]
  push_cast
  rw [mul_div_cancel_right₀ _ positive]

end Binary64

namespace Numeric

def exactValue? : Numeric → Option Extended
  | int number => some (.ofRat number.toInt)
  | float number => number.exactValue?

theorem exactValue?_eq (number : Numeric) :
    (∀ units ∈ number.units?,
      units ∈ Set.Icc (-Binary64.unboundedUnits) Binary64.unboundedUnits) ∧
    number.exactValue? = number.units?.map Binary64.ofUnits := by
  cases number with
  | int n =>
    have bounds := Binary64.word_bounded n
    simp only [units?, exactValue?, Option.mem_some_iff, forall_eq', Option.map_some]
    exact ⟨⟨bounds.1.le, bounds.2.le⟩, by rw [Binary64.ofUnits_word]⟩
  | float x =>
    cases number : x.isNaN with
    | true =>
      obtain ⟨greatest, rest⟩ := x.isNaN_iff.mp number
      rw [units?_nan number, exactValue?, Binary64.exactValue?, if_pos greatest, if_neg rest]
      simp
    | false =>
      obtain ⟨bounded, same⟩ := Binary64.exactValue?_eq number
      rw [units?_float number, exactValue?, same]
      simpa using bounded

theorem acceptsOrder?_ordering? (op : Comparison) (left right : Numeric) :
    op.acceptsOrder? (left.ordering? right) =
      decide (op.Holds left.exactValue? right.exactValue?) := by
  obtain ⟨leftBounds, leftExact⟩ := left.exactValue?_eq
  obtain ⟨rightBounds, rightExact⟩ := right.exactValue?_eq
  rw [ordering?_eq, leftExact, rightExact]
  cases leftUnits : left.units? with
  | none => rfl
  | some units =>
    cases rightUnits : right.units? with
    | none => rfl
    | some others =>
      have same := Binary64.ofUnits_strictMonoOn.cmp_map_eq (leftBounds units leftUnits)
        (rightBounds others rightUnits)
      rw [cmp_eq_compare, cmp_eq_compare] at same
      exact (congrArg op.accepts same.symm).trans (op.accepts_compare _ _)

def hash : Numeric → Int64
  | int number => Hash.avoidMark number
  | float number => Hash.ofFloat number

end Numeric

namespace Binary64

theorem rank_of_signedUnits {x y : Binary64} (same : x.signedUnits = y.signedUnits) :
    x.rank = y.rank := by
  rw [signedUnits_eq, signedUnits_eq] at same
  exact unitsOfRank_strictMono.injective same

theorem bits_eq (x : Binary64) :
    x.bits.toNat = (if x.isNegative then signBit else 0) + x.magnitudeBits := by
  have range := x.bits.toNat_lt
  rw [magnitudeBits]
  cases negative : x.isNegative with
  | false =>
    rw [isNegative, decide_eq_false_iff_not] at negative
    rw [if_neg Bool.false_ne_true, Nat.mod_eq_of_lt (by omega), Nat.zero_add]
  | true =>
    rw [isNegative, decide_eq_true_eq] at negative
    rw [if_pos rfl]
    simp only [signBit] at negative ⊢
    omega

theorem eq_of_rank {x y : Binary64} (same : x.rank = y.rank) (nonzero : x.rank ≠ 0) : x = y := by
  have bits : x.bits.toNat = y.bits.toNat := by
    rw [rank, rank] at same
    rw [rank] at nonzero
    rw [bits_eq, bits_eq y]
    cases negative : x.isNegative <;> cases negative' : y.isNegative <;>
      simp only [negative, negative', Bool.false_eq_true, if_true, if_false] at same nonzero ⊢ <;>
      omega
  cases x
  cases y
  exact congrArg mk (UInt64.toNat_inj.mp bits)

theorem isInfinite_of_bounded {x : Binary64} (low : -unboundedUnits < x.signedUnits)
    (high : x.signedUnits < unboundedUnits) : x.isInfinite = false := by
  rw [isInfinite, decide_eq_false_iff_not]
  intro infinite
  rw [signedUnits, units_infinite infinite] at low high
  cases negative : x.isNegative with
  | false => simp [negative] at high
  | true => simp [negative] at low

theorem wholePart_eq {x : Binary64} {n : Int} (same : x.signedUnits = n * unitsPerOne) :
    x.isWhole = true ∧ x.wholePart = n := by
  have positive : (unitsPerOne : Int) ≠ 0 := by exact_mod_cast unitsPerOne_pos.ne'
  have size : x.units = n.natAbs * unitsPerOne := by
    have sizes := congrArg Int.natAbs same
    rw [Int.natAbs_mul, Int.natAbs_natCast, signedUnits] at sizes
    split at sizes <;> simpa using sizes
  have whole : x.isWhole = true := by simp [isWhole, size]
  refine ⟨whole, Int.eq_of_mul_eq_mul_right positive ?_⟩
  rw [← same, wholePart, signedUnits, size, Nat.mul_div_cancel _ unitsPerOne_pos]
  split <;> push_cast <;> ring

theorem ofFloat_word {x : Binary64} {n : Int64} (number : x.isNaN = false)
    (same : x.signedUnits = n.toInt * unitsPerOne) : Hash.ofFloat x = Hash.avoidMark n := by
  have positive : (0 : Int) < unitsPerOne := by exact_mod_cast unitsPerOne_pos
  have bounds := word_bounded n
  rw [← same] at bounds
  obtain ⟨whole, part⟩ := wholePart_eq same
  have low : -wordRank ≤ x.rank := by
    have least := Int.mul_le_mul_of_nonneg_right (Int64.le_toInt n) positive.le
    rw [← unitsOfRank_strictMono.le_iff_le, ← signedUnits_eq, unitsOfRank_neg,
      unitsOfRank_wordRank, same]
    linarith
  have high : x.rank < wordRank := by
    rw [← unitsOfRank_strictMono.lt_iff_lt, ← signedUnits_eq, unitsOfRank_wordRank, same]
    exact Int.mul_lt_mul_of_pos_right (Int64.toInt_lt n) positive
  have word : x.isWord = true := by simp [isWord, number, whole, low, high]
  rw [Hash.ofFloat, number, isInfinite_of_bounded bounds.1 bounds.2, word, part,
    Int64.ofInt_toInt]
  rfl

theorem ofFloat_of_signedUnits {x y : Binary64} (left : x.isNaN = false) (right : y.isNaN = false)
    (same : x.signedUnits = y.signedUnits) : Hash.ofFloat x = Hash.ofFloat y := by
  have ranks := rank_of_signedUnits same
  by_cases zero : x.rank = 0
  · have none : y.signedUnits = Int64.toInt 0 * unitsPerOne := by
      rw [signedUnits_eq, ← ranks, zero, unitsOfRank, if_neg (by omega), Int.natAbs_zero,
        unitsOf_zero, Int64.toInt_zero, Int.zero_mul, Int.natCast_zero]
    rw [ofFloat_word left (same.trans none), ofFloat_word right none]
  · rw [eq_of_rank ranks zero]

end Binary64

theorem Numeric.hash_of_units {left right : Numeric} {units : Int}
    (first : left.units? = some units) (second : right.units? = some units) :
    left.hash = right.hash := by
  have number {x : Binary64} (known : (float x).units? = some units) :
      x.isNaN = false ∧ x.signedUnits = units := by
    cases nan : x.isNaN with
    | true => cases (units?_nan nan).symm.trans known
    | false => exact ⟨rfl, Option.some.inj ((units?_float nan).symm.trans known)⟩
  cases left with
  | int n =>
    cases first
    cases right with
    | int m =>
      have positive : (Binary64.unitsPerOne : Int) ≠ 0 := by
        exact_mod_cast Binary64.unitsPerOne_pos.ne'
      have same := Int.eq_of_mul_eq_mul_right positive (Option.some.inj second)
      rw [Int64.toInt_inj.mp same]
    | float y =>
      obtain ⟨ordinary, same⟩ := number second
      exact (Binary64.ofFloat_word ordinary same).symm
  | float x =>
    obtain ⟨ordinary, same⟩ := number first
    cases right with
    | int m =>
      cases second
      exact Binary64.ofFloat_word ordinary same
    | float y =>
      obtain ⟨ordinary', same'⟩ := number second
      exact Binary64.ofFloat_of_signedUnits ordinary ordinary' (same.trans same'.symm)

theorem Numeric.units?_of_eq {left right : Numeric} (same : left.ordering? right = some .eq) :
    ∃ units, left.units? = some units ∧ right.units? = some units := by
  rw [ordering?_eq] at same
  obtain ⟨units, first, compared⟩ := Option.bind_eq_some_iff.mp same
  obtain ⟨others, second, equal⟩ := Option.map_eq_some_iff.mp compared
  cases compare_eq_iff_eq.mp equal
  exact ⟨units, first, second⟩

namespace Value

def exactValue? : Value → Option (Option Extended)
  | .bool truth => some (some (.ofRat (if truth then 1 else 0)))
  | .int number => some (some (.ofRat number.toInt))
  | .float number => some number.exactValue?
  | _ => Option.none

theorem exactValue?_eq_some {value : Value} {exactly : Option Extended}
    (known : value.exactValue? = some exactly) :
    ∃ number, value.scalar = .number number ∧ number.exactValue? = exactly := by
  cases value with
  | bool truth =>
    cases known
    refine ⟨_, rfl, ?_⟩
    cases truth <;> simp [Numeric.exactValue?]
  | int number => exact ⟨.int number, rfl, Option.some.inj known⟩
  | float number => exact ⟨.float number, rfl, Option.some.inj known⟩
  | _ => cases known

theorem flat_of_number {value : Value} {number : Numeric} (seen : value.scalar = .number number) :
    value.items? = Option.none ∧ value.isInstance = false := by
  cases value <;> first
  | exact ⟨rfl, rfl⟩
  | cases seen

end Value

theorem World.Silent.of_number (world : World) {value : Value} {number : Numeric}
    (seen : value.scalar = .number number) (op : Comparison) : world.Silent op value := by
  obtain ⟨flat, notInstance⟩ := Value.flat_of_number seen
  intro inner nested isInstance
  rw [nested.eq_of_flat flat, notInstance] at isInstance
  cases isInstance

namespace Engine

variable {σ : Type} {engine : Engine σ} {held : Roots} {state : State σ} {left right : Value}
  {number other : Numeric}

theorem hash_number (seen : left.scalar = .number number) :
    engine.hash left held state = .done (.ok number.hash) state := by
  cases left with
  | bool truth =>
    cases seen
    cases truth <;> rfl
  | int number => cases seen; rfl
  | float number => cases seen; rfl
  | _ => cases seen

theorem richCompare_numbers (seen : left.scalar = .number number)
    (seen' : right.scalar = .number other) (op : Comparison) :
    engine.richCompare left right op held state =
      .done (.ok (op.acceptsOrder? (number.ordering? other))) state := by
  have settled : (engine.richCompare left right op).Settles held state
      ((left.standing right).answer? op) :=
    richCompare_settles left right (.of_number _ seen op) (.of_number _ seen' op) held
  rw [Value.standing_flat (.inl (Value.flat_of_number seen).1), Value.flatStanding, seen,
    seen'] at settled
  simp only [Standing.ofOrder?_answer?] at settled
  exact Eval.settles_some.mp settled

theorem equal_numbers (seen : left.scalar = .number number) (seen' : right.scalar = .number other) :
    engine.equal left right held state =
      .done (.ok (left.is right || Comparison.eq.acceptsOrder? (number.ordering? other)))
        state := by
  by_cases same : left = right
  · subst same
    rw [equal, containerCompare]
    simp [Comparison.ofEquality?]
  · rw [equal, containerCompare_of_ne same, richCompare_numbers seen seen']
    simp [Value.is, same]

/-- Comparing two numbers is comparing what they stand for, and numbers that are equal hash
alike. -/
theorem numbers_exact (engine : Engine σ) (held : Roots) (state : State σ)
    {exactLeft exactRight : Option Extended} (leftNumber : left.exactValue? = some exactLeft)
    (rightNumber : right.exactValue? = some exactRight) :
    (∀ op, engine.richCompare left right op held state =
      .done (.ok (decide (op.Holds exactLeft exactRight))) state) ∧
    engine.equal left right held state =
      .done (.ok (left.is right || decide (Comparison.eq.Holds exactLeft exactRight))) state ∧
    (engine.equal left right held state = .done (.ok true) state →
      ∃ hash, engine.hash left held state = .done (.ok hash) state ∧
        engine.hash right held state = .done (.ok hash) state) := by
  obtain ⟨number, seen, rfl⟩ := Value.exactValue?_eq_some leftNumber
  obtain ⟨other, seen', rfl⟩ := Value.exactValue?_eq_some rightNumber
  simp only [← Numeric.acceptsOrder?_ordering?]
  refine ⟨richCompare_numbers seen seen', equal_numbers seen seen', fun same => ?_⟩
  rw [hash_number seen, hash_number seen']
  rw [equal_numbers seen seen'] at same
  simp only [Outcome.done.injEq, Except.ok.injEq, and_true, Bool.or_eq_true, Value.is_iff] at same
  rcases same with rfl | accepted
  · cases seen.symm.trans seen'
    exact ⟨_, rfl, rfl⟩
  · have ordered : number.ordering? other = some .eq := by
      cases order : number.ordering? other with
      | none => simp [order, Comparison.acceptsOrder?] at accepted
      | some found => simpa [order, Comparison.acceptsOrder?, Comparison.accepts] using accepted
    obtain ⟨units, first, second⟩ := Numeric.units?_of_eq ordered
    exact ⟨_, rfl, by rw [Numeric.hash_of_units first second]⟩

-- The floating-point number nearest to this integer is the next smaller one.
theorem numbers_exact_beyond_precision :
    (Value.int 9007199254740993).exactValue? = some (some (.ofRat 9007199254740993)) ∧
    (Value.float ⟨0x4340000000000000⟩).exactValue? = some (some (.ofRat 9007199254740992)) ∧
    (idleHost.engine {} 1 1).richCompare (.int 9007199254740993) (.float ⟨0x4340000000000000⟩) .gt
      {} ⟨World.initial, ()⟩ = .done (.ok true) ⟨World.initial, ()⟩ := by
  have integer : (Value.int 9007199254740993).exactValue? =
      some (some (.ofRat 9007199254740993)) := by
    simp [Value.exactValue?]
  have float : (Value.float ⟨0x4340000000000000⟩).exactValue? =
      some (some (.ofRat 9007199254740992)) := by
    have fields : (Binary64.mk 0x4340000000000000).exponent = 1076 ∧
        (Binary64.mk 0x4340000000000000).fraction = 0 := by decide
    have sign : ¬(0x4340000000000000 : UInt64).toNat / 2 ^ 63 = 1 := by decide
    rw [Value.exactValue?, Binary64.exactValue?]
    simp only [sign, Binary64.magnitude, fields, if_false]
    norm_num
  refine ⟨integer, float, ?_⟩
  rw [(numbers_exact _ _ _ integer float).1, decide_eq_true]
  simp only [Comparison.Holds, Comparison.Relates, Extended.ofRat_lt]
  norm_num

end Engine

end ObjectModel
