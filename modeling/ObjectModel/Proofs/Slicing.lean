import Mathlib.Tactic.Ring
import ObjectModel.Proofs.Construction

set_option autoImplicit false

namespace ObjectModel

namespace Word

theorem ofInt?_of_fits (number : Int) (low : -2 ^ 63 ≤ number) (high : number < 2 ^ 63) :
    ∃ word, ofInt? number = some word ∧ word.toInt = number := by
  have exact : (Int64.ofInt number).toInt = number := Int64.toInt_ofInt_of_le low high
  exact ⟨_, (ofInt?_eq_some_iff number _).mpr exact, exact⟩

theorem toInt_max (left right : Int64) : (max left right).toInt = max left.toInt right.toInt := by
  by_cases above : left ≤ right
  · rw [show max left right = right from if_pos above]
    have := Int64.le_iff_toInt_le.mp above
    omega
  · rw [show max left right = left from if_neg above]
    have := mt Int64.le_iff_toInt_le.mpr above
    omega

theorem toInt_min (left right : Int64) : (min left right).toInt = min left.toInt right.toInt := by
  by_cases below : left ≤ right
  · rw [show min left right = left from if_pos below]
    have := Int64.le_iff_toInt_le.mp below
    omega
  · rw [show min left right = right from if_neg below]
    have := mt Int64.le_iff_toInt_le.mpr below
    omega

end Word

namespace Slice

def Ahead (stride stop position : Int) : Prop :=
  0 < stride ∧ position < stop ∨ stride < 0 ∧ stop < position

instance (stride stop position : Int) : Decidable (Ahead stride stop position) :=
  inferInstanceAs (Decidable (_ ∨ _))

/-- The positions that a walk passes which starts at `position`, adds `stride` again and again, and
ends where it has reached or passed `stop`. -/
def walk (stride stop position : Int) : List Int :=
  if Ahead stride stop position then position :: walk stride stop (position + stride) else []
termination_by (if 0 < stride then stop - position else position - stop).toNat
decreasing_by
  rename_i ahead
  rcases ahead with ⟨forward, before⟩ | ⟨backward, before⟩
  · rw [if_pos forward, if_pos forward]
    omega
  · rw [if_neg (by omega), if_neg (by omega)]
    omega

theorem walk_eq_map {stride stop : Int} (count : Nat) (position : Int)
    (ahead : ∀ number < count, Ahead stride stop (position + number * stride))
    (done : ¬ Ahead stride stop (position + count * stride)) :
    walk stride stop position =
      (List.range count).map fun number : Nat => position + number * stride := by
  induction count generalizing position with
  | zero =>
    rw [walk, if_neg (by simpa using done)]
    rfl
  | succ count ih =>
    have first : Ahead stride stop position := by simpa using ahead 0 (Nat.succ_pos count)
    have shift (number : Nat) :
        position + stride + number * stride = position + (number + 1 : Nat) * stride := by
      push_cast
      ring
    rw [walk, if_pos first, ih (position + stride), List.range_succ_eq_map]
    · simp [shift]
    · intro number inside
      rw [shift]
      exact ahead (number + 1) (by omega)
    · rwa [shift]

variable (slice : Slice) (length : Nat)

def stride : Int :=
  (slice.step.getD 1).toInt

def lowest : Int :=
  if slice.stride < 0 then -1 else 0

def highest : Int :=
  if slice.stride < 0 then length - 1 else length

def clamped (low high size : Int) (bound : Option Int64) (default : Int) : Int :=
  match bound with
  | none => default
  | some position =>
    if position.toInt < 0 then max (position.toInt + size) low else min position.toInt high

def first : Int :=
  clamped slice.lowest (slice.highest length) length slice.start
    (if slice.stride < 0 then slice.highest length else slice.lowest)

def limit : Int :=
  clamped slice.lowest (slice.highest length) length slice.stop
    (if slice.stride < 0 then slice.lowest else slice.highest length)

-- The least word as a step stands for the one above it.
def pace : Int :=
  max slice.stride (-(2 ^ 63 - 1))

-- What stands between the first position and the limit, both left out.
def gap : Nat :=
  (slice.limit length - slice.first length).natAbs - 1

def count : Nat :=
  if Ahead slice.stride (slice.limit length) (slice.first length) then
    slice.gap length / slice.pace.natAbs + 1
  else
    0

theorem stride_ne_zero : slice.stride ≠ 0 := by
  intro zero
  have word : slice.step.getD 1 = 0 := Int64.toInt_inj.mp zero
  cases step : slice.step with
  | none => simp [step] at word
  | some given =>
    rw [step, Option.getD_some] at word
    exact slice.step_ne_zero (word ▸ step)

theorem clamped_mem {low high size default : Int} (bound : Option Int64) (bottom : low ≤ 0)
    (top : size - 1 ≤ high) (inside : low ≤ default ∧ default ≤ high) :
    low ≤ clamped low high size bound default ∧ clamped low high size bound default ≤ high := by
  unfold clamped
  split
  · exact inside
  · split <;> omega

theorem ends_cases :
    0 < slice.stride ∧ slice.lowest = 0 ∧ slice.highest length = length ∨
      slice.stride < 0 ∧ slice.lowest = -1 ∧ slice.highest length = length - 1 := by
  have := slice.stride_ne_zero
  unfold lowest highest
  split <;> omega

theorem first_mem :
    slice.lowest ≤ slice.first length ∧ slice.first length ≤ slice.highest length := by
  have ends := slice.ends_cases length
  apply clamped_mem
  · omega
  · omega
  · split <;> omega

theorem limit_mem :
    slice.lowest ≤ slice.limit length ∧ slice.limit length ≤ slice.highest length := by
  have ends := slice.ends_cases length
  apply clamped_mem
  · omega
  · omega
  · split <;> omega

theorem pace_cases : -2 ^ 63 < slice.stride ∧ slice.pace = slice.stride ∨
    slice.stride = -2 ^ 63 ∧ slice.pace = -(2 ^ 63 - 1) := by
  have low : -2 ^ 63 ≤ slice.stride := Int64.le_toInt _
  unfold pace
  omega

theorem pace_natAbs_pos : 0 < slice.pace.natAbs := by
  have nonzero := slice.stride_ne_zero
  have pace := slice.pace_cases
  omega

variable {slice length}

theorem gap_lt (ahead : Ahead slice.stride (slice.limit length) (slice.first length)) :
    slice.gap length < length := by
  have ends := slice.ends_cases length
  have first := slice.first_mem length
  have limit := slice.limit_mem length
  unfold gap
  rcases ahead with ⟨forward, before⟩ | ⟨backward, before⟩ <;> omega

theorem count_le (slice : Slice) (length : Nat) : slice.count length ≤ length := by
  unfold count
  split
  · rename_i ahead
    have inside := gap_lt ahead
    have quotient := Nat.div_le_self (slice.gap length) slice.pace.natAbs
    omega
  · exact Nat.zero_le length

-- The two steps differ only where the second position is out of reach of both.
theorem mul_stride (fits : length < 2 ^ 63) {number : Nat} (inside : number < slice.count length) :
    number * slice.stride = number * slice.pace ∧
      number * slice.pace.natAbs ≤ slice.gap length := by
  unfold count at inside
  split at inside
  · rename_i ahead
    have short : number * slice.pace.natAbs ≤ slice.gap length :=
      (Nat.le_div_iff_mul_le slice.pace_natAbs_pos).mp (Nat.le_of_lt_succ inside)
    refine ⟨?_, short⟩
    rcases slice.pace_cases with ⟨_, same⟩ | ⟨least, next⟩
    · rw [same]
    · have reach := gap_lt ahead
      have none : slice.gap length / slice.pace.natAbs = 0 := Nat.div_eq_of_lt (by omega)
      have zero : number = 0 := by omega
      simp [zero]
  · omega

theorem mul_cases (number : Nat) (step : Int) :
    0 ≤ step ∧ number * step = (number * step.natAbs : Nat) ∨
      step < 0 ∧ number * step = -(number * step.natAbs : Nat) := by
  rw [Nat.cast_mul]
  by_cases backward : step < 0
  · rw [Int.ofNat_natAbs_of_nonpos (by omega), Int.mul_neg, Int.neg_neg]
    exact .inr ⟨backward, rfl⟩
  · rw [Int.natAbs_of_nonneg (by omega)]
    exact .inl ⟨by omega, rfl⟩

theorem passed (fits : length < 2 ^ 63) {number : Nat} (inside : number < slice.count length) :
    Ahead slice.stride (slice.limit length) (slice.first length + number * slice.stride) ∧
      0 ≤ slice.first length + number * slice.stride ∧
      slice.first length + number * slice.stride < length := by
  have ahead : Ahead slice.stride (slice.limit length) (slice.first length) := by
    by_contra behind
    simp [count, behind] at inside
  obtain ⟨same, short⟩ := mul_stride fits inside
  have ends := slice.ends_cases length
  have first := slice.first_mem length
  have limit := slice.limit_mem length
  have pace := slice.pace_cases
  have distance := mul_cases number slice.pace
  rw [same]
  unfold gap at short
  unfold Ahead at ahead ⊢
  omega

theorem not_ahead_count :
    ¬ Ahead slice.stride (slice.limit length)
      (slice.first length + slice.count length * slice.stride) := by
  by_cases ahead : Ahead slice.stride (slice.limit length) (slice.first length)
  · have pace := slice.pace_cases
    have reached : slice.gap length < slice.count length * slice.stride.natAbs := by
      have beyond := Nat.lt_mul_div_succ (slice.gap length) slice.pace_natAbs_pos
      rw [Nat.mul_comm] at beyond
      rw [count, if_pos ahead]
      exact beyond.trans_le (Nat.mul_le_mul_left _ (by omega))
    have distance := mul_cases (slice.count length) slice.stride
    unfold gap at reached
    unfold Ahead at ahead ⊢
    omega
  · simp [count, ahead]

theorem walk_eq (fits : length < 2 ^ 63) :
    walk slice.stride (slice.limit length) (slice.first length) =
      (List.range (slice.count length)).map fun number : Nat =>
        slice.first length + number * slice.stride :=
  walk_eq_map _ _ (fun _ inside => (passed fits inside).1) not_ahead_count

theorem clamp?_eq (size : Int64) (nonneg : 0 ≤ size.toInt) (lower upper : Int64)
    (bound : Option Int64) (default : Int64) :
    ∃ word, clamp? size lower upper bound default = some word ∧
      word.toInt = clamped lower.toInt upper.toInt size.toInt bound default.toInt := by
  cases bound with
  | none => exact ⟨default, rfl, rfl⟩
  | some position =>
    have low := Int64.le_toInt position
    have high := Int64.toInt_lt size
    by_cases negative : position.toInt < 0
    · obtain ⟨sum, added, exact⟩ :=
        Word.ofInt?_of_fits (position.toInt + size.toInt) (by omega) (by omega)
      refine ⟨max sum lower, ?_, ?_⟩
      · rw [clamp?, if_pos (Int64.lt_iff_toInt_lt.mpr negative), Word.add?, added]
        rfl
      · rw [Word.toInt_max, exact, clamped, if_pos negative]
    · refine ⟨min position upper, ?_, ?_⟩
      · rw [clamp?, if_neg (mt Int64.lt_iff_toInt_lt.mp negative)]
      · rw [Word.toInt_min, clamped, if_neg negative]

theorem countBetween?_eq {low high step : Int64} (apart : low.toInt < high.toInt)
    (near : high.toInt - low.toInt < 2 ^ 63) (positive : 0 < step.toInt) :
    ∃ word, countBetween? low high step = some word ∧
      word.toInt = (high.toInt - low.toInt - 1) / step.toInt + 1 := by
  obtain ⟨width, subtracted, widthExact⟩ :=
    Word.ofInt?_of_fits (high.toInt - low.toInt) (by omega) near
  obtain ⟨gap, lessened, gapExact⟩ :=
    Word.ofInt?_of_fits (width.toInt - 1) (by omega) (by omega)
  have nonneg : 0 ≤ gap.toInt := by omega
  have lower := Int.ediv_nonneg nonneg positive.le
  have upper := Int.ediv_le_self step.toInt nonneg
  obtain ⟨quotient, divided, quotientExact⟩ :=
    Word.ofInt?_of_fits (gap.toInt / step.toInt) (by omega) (by omega)
  obtain ⟨word, added, wordExact⟩ :=
    Word.ofInt?_of_fits (quotient.toInt + 1) (by omega) (by omega)
  have nonzero : step ≠ 0 := by
    rintro rfl
    exact absurd positive (by decide)
  refine ⟨word, ?_, ?_⟩
  · simp only [countBetween?, Word.sub?, Word.add?, Word.div?, subtracted, nonzero, if_false,
      Option.bind_eq_bind, Option.bind_some]
    rw [show (1 : Int64).toInt = 1 from rfl, lessened]
    simp only [Option.bind_some, Int.tdiv_eq_ediv_of_nonneg nonneg, divided, added]
  · rw [wordExact, quotientExact, gapExact, widthExact]

theorem counted {low high step : Int64} (apart : low.toInt < high.toInt)
    (ahead : Ahead slice.stride (slice.limit length) (slice.first length))
    (width : high.toInt - low.toInt - 1 = slice.gap length)
    (positive : step.toInt = slice.pace.natAbs) (fits : length < 2 ^ 63) :
    ∃ word, countBetween? low high step = some word ∧ word.toInt = slice.count length := by
  have inside := gap_lt ahead
  have pace := slice.pace_natAbs_pos
  obtain ⟨word, found, exact⟩ := countBetween?_eq apart (by omega) (by omega : 0 < step.toInt)
  refine ⟨word, found, ?_⟩
  rw [exact, width, positive, count, if_pos ahead]
  rfl

theorem counts {start stop step : Int64} (startExact : start.toInt = slice.first length)
    (stopExact : stop.toInt = slice.limit length) (stepExact : step.toInt = slice.pace)
    (fits : length < 2 ^ 63) :
    ∃ word, count? start stop step = some word ∧ word.toInt = slice.count length := by
  have pace := slice.pace_cases
  have nonzero := slice.stride_ne_zero
  have zero : (0 : Int64).toInt = 0 := rfl
  simp only [count?, Bool.and_eq_true, decide_eq_true_eq, Int64.lt_iff_toInt_lt, zero, startExact,
    stopExact, stepExact]
  split
  · rename_i forward
    have ahead : Ahead slice.stride (slice.limit length) (slice.first length) :=
      .inl ⟨by omega, forward.2⟩
    have width : stop.toInt - start.toInt - 1 = slice.gap length := by
      unfold gap
      omega
    exact counted (by omega) ahead width (by omega) fits
  · rename_i notForward
    split
    · rename_i backward
      have ahead : Ahead slice.stride (slice.limit length) (slice.first length) :=
        .inr ⟨by omega, backward.2⟩
      obtain ⟨opposite, negated, exact⟩ :=
        Word.ofInt?_of_fits (-step.toInt) (by omega) (by omega)
      rw [Word.neg?, negated]
      have width : start.toInt - stop.toInt - 1 = slice.gap length := by
        unfold gap
        omega
      exact counted (by omega) ahead width (by omega) fits
    · rename_i notBackward
      refine ⟨0, rfl, ?_⟩
      rw [count, if_neg (by unfold Ahead; omega)]
      rfl

theorem resolve?_eq (slice : Slice) (fits : length < 2 ^ 63) :
    ∃ bounds, slice.resolve? length = some bounds ∧
      bounds.start.toInt = slice.first length ∧ bounds.step.toInt = slice.pace ∧
      bounds.length = slice.count length := by
  have ends := slice.ends_cases length
  have pace := slice.pace_cases
  have sizeExact : (Int64.ofNat length).toInt = length := Int64.toInt_ofNat_of_lt fits
  let step := max (slice.step.getD 1) (-Int64.maxValue)
  have stepExact : step.toInt = slice.pace := Word.toInt_max _ _
  have backward : step < 0 ↔ slice.stride < 0 := by
    rw [Int64.lt_iff_toInt_lt, stepExact]
    change slice.pace < 0 ↔ _
    omega
  let lower : Int64 := if step < 0 then -1 else 0
  have lowerExact : lower.toInt = slice.lowest := by
    simp only [lower, backward, lowest]
    split <;> rfl
  have upperFits : ∃ upper, upperEnd? (Int64.ofNat length) step = some upper ∧
      upper.toInt = slice.highest length := by
    simp only [upperEnd?, backward, highest]
    split
    · obtain ⟨word, subtracted, exact⟩ :=
        Word.ofInt?_of_fits ((length : Int) - 1) (by omega) (by omega)
      exact ⟨word, by rw [Word.sub?, sizeExact]; exact subtracted, exact⟩
    · exact ⟨_, rfl, sizeExact⟩
  obtain ⟨upper, upperFound, upperExact⟩ := upperFits
  have clamps (bound : Option Int64) (default : Int64) :=
    clamp?_eq (Int64.ofNat length) (by omega) lower upper bound default
  obtain ⟨start, startFound, startExact⟩ :=
    clamps slice.start (if step < 0 then upper else lower)
  obtain ⟨stop, stopFound, stopExact⟩ := clamps slice.stop (if step < 0 then lower else upper)
  rw [lowerExact, upperExact, sizeExact] at startExact stopExact
  have first : start.toInt = slice.first length := by
    rw [startExact, Slice.first, apply_ite Int64.toInt, lowerExact, upperExact]
    simp only [backward]
  have limit : stop.toInt = slice.limit length := by
    rw [stopExact, Slice.limit, apply_ite Int64.toInt, lowerExact, upperExact]
    simp only [backward]
  obtain ⟨word, counted, exact⟩ := counts first limit stepExact fits
  refine ⟨⟨start, step, word.toUInt64.toNat⟩, ?_, first, stepExact, ?_⟩
  · change (upperEnd? (Int64.ofNat length) step).bind _ = _
    rw [upperFound]
    change (clamp? (Int64.ofNat length) lower upper slice.start _).bind _ = _
    rw [startFound]
    change (clamp? (Int64.ofNat length) lower upper slice.stop _).bind _ = _
    rw [stopFound]
    change (count? start stop step).bind _ = _
    rw [counted]
    rfl
  · have nonneg : 0 ≤ word := by
      rw [Int64.le_iff_toInt_le, exact]
      exact Int.natCast_nonneg _
    rw [Int64.toNat_toUInt64_of_le nonneg, ← Int64.toNat_toInt, exact, Int.toNat_natCast]

theorem position?_eq {bounds : Bounds} {number : Nat} (fits : length < 2 ^ 63)
    (inside : number < slice.count length) (start : bounds.start.toInt = slice.first length)
    (step : bounds.step.toInt = slice.pace) :
    bounds.position? number = some (slice.first length + number * slice.stride).toNat := by
  obtain ⟨_, low, high⟩ := passed fits inside
  have few := slice.count_le length
  have first := slice.first_mem length
  have ends := slice.ends_cases length
  have numberExact : (Int64.ofNat number).toInt = number :=
    Int64.toInt_ofNat_of_lt (by omega)
  rw [(mul_stride fits inside).1] at low high ⊢
  obtain ⟨distance, multiplied, distanceExact⟩ :=
    Word.ofInt?_of_fits (number * slice.pace) (by omega) (by omega)
  obtain ⟨word, added, exact⟩ :=
    Word.ofInt?_of_fits (slice.first length + number * slice.pace) (by omega) (by omega)
  have nonneg : 0 ≤ word := by
    rw [Int64.le_iff_toInt_le, exact]
    exact low
  simp only [Bounds.position?, Word.mul?, Word.add?, numberExact, step, multiplied, start,
    distanceExact, added, Option.bind_eq_bind, Option.bind_some, Option.pure_def,
    Int64.toNat_toUInt64_of_le nonneg]
  rw [← Int64.toNat_toInt, exact]

theorem mapM_eq_some {α β : Type} {items : List α} {partial? : α → Option β} {total : α → β}
    (found : ∀ item ∈ items, partial? item = some (total item)) :
    items.mapM partial? = some (items.map total) := by
  induction items with
  | nil => rfl
  | cons item items ih =>
    rw [List.mapM_cons, found item List.mem_cons_self,
      ih fun item member => found item (List.mem_cons_of_mem _ member)]
    rfl

def positions (slice : Slice) (length : Nat) : List Nat :=
  (List.range (slice.count length)).map fun number : Nat =>
    (slice.first length + number * slice.stride).toNat

theorem positions?_eq {bounds : Bounds} (fits : length < 2 ^ 63)
    (start : bounds.start.toInt = slice.first length) (step : bounds.step.toInt = slice.pace)
    (counted : bounds.length = slice.count length) :
    bounds.positions? = some (slice.positions length) := by
  rw [Bounds.positions?, Bounds.firstPositions?, Nat.min_self, counted]
  apply mapM_eq_some
  intro number member
  exact position?_eq fits (List.mem_range.mp member) start step

theorem positions_walk (fits : length < 2 ^ 63) :
    (slice.positions length).map Int.ofNat =
      walk slice.stride (slice.limit length) (slice.first length) := by
  rw [walk_eq fits, positions, List.map_map]
  apply List.map_congr_left
  intro number member
  exact Int.toNat_of_nonneg (passed fits (List.mem_range.mp member)).2.1

theorem positions_lt (fits : length < 2 ^ 63) {position : Nat}
    (member : position ∈ slice.positions length) : position < length := by
  obtain ⟨number, inside, rfl⟩ := List.mem_map.mp member
  have := passed fits (List.mem_range.mp inside)
  omega

theorem positions_ascending (fits : length < 2 ^ 63) (forward : 0 < slice.stride) :
    (slice.positions length).Pairwise (· < ·) := by
  rw [positions, List.pairwise_map]
  refine List.pairwise_lt_range.imp_of_mem fun {left right} member member' before => ?_
  have low := passed fits (List.mem_range.mp member)
  have high := passed fits (List.mem_range.mp member')
  have farther := Int.mul_lt_mul_of_pos_right (Int.ofNat_lt.mpr before) forward
  omega

theorem positions_descending (fits : length < 2 ^ 63) (backward : slice.stride < 0) :
    (slice.positions length).Pairwise (· > ·) := by
  rw [positions, List.pairwise_map]
  refine List.pairwise_lt_range.imp_of_mem fun {left right} member member' before => ?_
  have high := passed fits (List.mem_range.mp member)
  have low := passed fits (List.mem_range.mp member')
  have farther := Int.mul_lt_mul_of_neg_right (Int.ofNat_lt.mpr before) backward
  omega

structure Selects (slice : Slice) (length : Nat) (positions : List Nat) : Prop where
  -- No operation on words has left their range, and none has divided by zero.
  resolved : ∃ bounds, slice.resolve? length = some bounds ∧ bounds.positions? = some positions
  inside : ∀ position ∈ positions, position < length
  ascending : 0 < slice.stride → positions.Pairwise (· < ·)
  descending : slice.stride < 0 → positions.Pairwise (· > ·)
  walked : positions.map Int.ofNat =
    walk slice.stride (slice.limit length) (slice.first length)

theorem selects_positions (slice : Slice) (fits : length < 2 ^ 63) :
    slice.Selects length (slice.positions length) where
  resolved := by
    obtain ⟨bounds, resolved, start, step, counted⟩ := slice.resolve?_eq fits
    exact ⟨bounds, resolved, positions?_eq fits start step counted⟩
  inside _ := positions_lt fits
  ascending := positions_ascending fits
  descending := positions_descending fits
  walked := positions_walk fits

end Slice

theorem Slice.Selects.select?_eq {slice : Slice} {items : List Value} {positions : List Nat}
    (selects : slice.Selects items.length positions) :
    ∃ selected, Tuple.select? items slice = some selected ∧
      selected.map some = positions.map (items[·]?) := by
  obtain ⟨bounds, resolved, listed⟩ := selects.resolved
  refine ⟨positions.filterMap (items.toArray[·]?), ?_, ?_⟩
  · simp only [Tuple.select?, resolved, listed, Option.bind_eq_bind, Option.bind_some,
      Option.pure_def]
  · rw [List.map_filterMap_some_eq_filter_map_isSome, List.filter_eq_self.mpr]
    · simp
    · intro item member
      obtain ⟨position, among, rfl⟩ := List.mem_map.mp member
      simpa using selects.inside position among

theorem Eval.tuple_apply {σ : Type} (items : List Value) (held : Roots) (state : State σ) :
    ∃ result later, Eval.tuple items held state = .done (.ok result) later ∧
      result.items? = some items := by
  refine ⟨.object (state.world.newInstance Builtin.tuple.key (.tuple items)).1,
    ⟨(state.world.newInstance Builtin.tuple.key (.tuple items)).2, state.host⟩, rfl, ?_⟩
  rw [Value.items?, World.newInstance_payload]
  rfl

/-- For every length that is a word, a slice selects the positions of its walk, and a tuple of that
length gives the items at these positions in this order. -/
theorem slicing_is_walk {σ : Type} (slice : Slice) (length : Nat) (fits : length < 2 ^ 63) :
    ∃ positions, slice.Selects length positions ∧
      ∀ items : List Value, items.length = length → ∀ serial held (state : State σ),
        ∃ result later selected,
          Engine.tupleItem items (.slice serial slice) held state = .done (.ok result) later ∧
          result.items? = some selected ∧ selected.map some = positions.map (items[·]?) := by
  refine ⟨_, slice.selects_positions fits, ?_⟩
  rintro items rfl serial held state
  obtain ⟨selected, found, exact⟩ := (slice.selects_positions fits).select?_eq
  obtain ⟨result, later, made, holds⟩ := Eval.tuple_apply selected held state
  refine ⟨result, later, selected, ?_, holds, exact⟩
  simp only [Engine.tupleItem, Value.asIndex?, found]
  exact made

theorem slicing_is_walk_longest :
    ∃ positions, (⟨none, none, some Int64.minValue, by decide⟩ : Slice).Selects
      (2 ^ 63 - 1) positions ∧ positions = [2 ^ 63 - 2] := by
  obtain ⟨positions, selects, _⟩ := slicing_is_walk (σ := Unit)
    ⟨none, none, some Int64.minValue, by decide⟩ (2 ^ 63 - 1) (by decide)
  refine ⟨positions, selects, ?_⟩
  have once : Slice.walk (-2 ^ 63) (-1) (2 ^ 63 - 2) = [2 ^ 63 - 2] := by
    rw [Slice.walk, if_pos (by decide), Slice.walk, if_neg (by decide)]
  exact List.map_injective_iff.mpr (fun _ _ => Int.ofNat.inj) (selects.walked.trans once)

end ObjectModel
