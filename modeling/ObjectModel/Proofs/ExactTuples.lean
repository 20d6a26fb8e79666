import ObjectModel.Proofs.Construction
import ObjectModel.Proofs.Lexicographic
import ObjectModel.Sequence

set_option autoImplicit false

namespace ObjectModel

namespace World

structure MakesTuples (world : World) : Prop where
  number : world.idOf? Builtin.tuple.key = some (UInt32.ofNat Builtin.tuple.id)
  storeless : (world.flagsOf Builtin.tuple.key).hasStore = false

theorem Grown.makesTuples {world : World} {made : List (TypeKey × Storage)}
    (grown : Grown {} world made) : world.MakesTuples := by
  have native := grown.lineage.native .tuple
  refine ⟨?_, ?_⟩
  · rw [← builtinKey_first, native.number]
  · rw [← builtinKey_first, native.flags, Builtin.flags_hasStore]

theorem MakesTuples.of_types_eq {world later : World} (makes : world.MakesTuples)
    (same : later.types = world.types) : later.MakesTuples := by
  have types (key : TypeKey) : later.type? key = world.type? key := by simp only [type?, same]
  refine ⟨?_, ?_⟩
  · rw [idOf?, types]
    exact makes.number
  · rw [flagsOf, types]
    exact makes.storeless

theorem exactItems?_of_types_eq {world later : World} (same : later.types = world.types)
    (value : Value) : later.exactItems? value = world.exactItems? value := by
  simp only [exactItems?, type?, same]

def freshTuple (world : World) (items : List Value) : Value :=
  .object ⟨world.nextSerial, Builtin.tuple.key, none, .tuple items⟩

theorem MakesTuples.newTuple {world : World} (makes : world.MakesTuples) (items : List Value) :
    world.newTuple items = (world.freshTuple items, world.newSerial.2) := by
  have storeless : (world.newSerial.2.flagsOf Builtin.tuple.key).hasStore = false :=
    makes.storeless
  simp only [World.newTuple, newInstance, storeless, Bool.false_eq_true, if_false]
  rfl

theorem MakesTuples.exactItems?_freshTuple {world later : World} (makes : later.MakesTuples)
    (items : List Value) : later.exactItems? (world.freshTuple items) = some items := by
  obtain ⟨type, held, number⟩ := Option.map_eq_some_iff.mp makes.number
  exact (later.exactItems?_eq_some_iff _ _).mpr ⟨_, type, rfl, rfl, held, number⟩

theorem MakesTuples.typeOf_freshTuple {world later : World} (makes : later.MakesTuples)
    (items : List Value) : later.typeOf (world.freshTuple items) = Builtin.tuple.key := by
  obtain ⟨type, held, -⟩ := Option.map_eq_some_iff.mp makes.number
  simp [typeOf, freshTuple, held]

end World

theorem Eval.tuple_fresh {σ : Type} {state : State σ} (makes : state.world.MakesTuples)
    (items : List Value) (held : Roots) :
    Eval.tuple items held state =
      .done (.ok (state.world.freshTuple items))
        { state with world := state.world.newSerial.2 } := by
  simp only [Eval.tuple, Eval.create, makes.newTuple]

theorem length_flatten_replicate {α : Type} (items : List α) (times : Nat) :
    (List.replicate times items).flatten.length = items.length * times := by
  rw [List.length_flatten, List.map_replicate, List.sum_replicate_nat, Nat.mul_comm]

theorem getElem?_flatten_replicate {α : Type} (items : List α) (times position : Nat)
    (inside : position < items.length * times) :
    (List.replicate times items).flatten[position]? = items[position % items.length]? := by
  induction times generalizing position with
  | zero => simp at inside
  | succ times ih =>
    rw [List.replicate_succ, List.flatten_cons]
    by_cases here : position < items.length
    · rw [List.getElem?_append_left here, Nat.mod_eq_of_lt here]
    · rw [Nat.mul_succ] at inside
      rw [List.getElem?_append_right (by omega), ih _ (by omega), ← Nat.mod_eq_sub_mod (by omega)]

def Value.Counts (value : Value) (number : Nat) : Prop :=
  ∃ word, value.asIndex? = some word ∧ word.toInt = number

namespace Engine

variable {σ : Type}

-- The limit counts items, while an allocation is bounded in bytes.
structure MakesTuple (limit : Nat) (items : List Value) (operation : Eval σ Value) (held : Roots)
    (state : State σ) : Prop where
  made : items.length ≤ limit → items.length ≤ Tuple.capacity → ∃ value later,
    operation held state = .done (.ok value) later ∧ later.world.exactItems? value = some items ∧
      later.world.typeOf value = Builtin.tuple.key ∧ later.world.types = state.world.types
  abandons : items.length ≤ limit → Tuple.capacity < items.length → ∃ later,
    operation held state = .abandoned later
  overflows : limit < items.length →
    (∃ text later, operation held state = .done (.error (.overflow text)) later) ∨
      Tuple.capacity < limit ∧ ∃ later, operation held state = .abandoned later

namespace MakesTuple

variable {limit : Nat} {items others : List Value} {operation : Eval σ Value}
  {next : Value → Eval σ Value} {held : Roots} {state : State σ}

theorem of_check (text : String) (makes : state.world.MakesTuples)
    (checks : operation held state = (if limit < items.length then throw (.overflow text)
      else reserve items.length >>= fun _ => Eval.tuple items : Eval σ Value) held state) :
    MakesTuple limit items operation held state := by
  constructor
  case made =>
    intro short fits
    have after : state.world.newSerial.2.MakesTuples := makes.of_types_eq rfl
    rw [if_neg (Nat.not_lt.mpr short), reserve, if_neg (Nat.not_lt.mpr fits), pure_bind,
      Eval.tuple_fresh makes] at checks
    exact ⟨_, _, checks, after.exactItems?_freshTuple items, after.typeOf_freshTuple items, rfl⟩
  case abandons =>
    intro short large
    rw [if_neg (Nat.not_lt.mpr short), reserve, if_pos large] at checks
    exact ⟨state, checks⟩
  case overflows =>
    intro long
    rw [if_pos long] at checks
    exact .inl ⟨text, state, checks⟩

theorem bind (first : MakesTuple limit items operation held state)
    (shorter : items.length ≤ others.length)
    (second : ∀ value later, later.world.exactItems? value = some items →
      later.world.types = state.world.types → MakesTuple limit others (next value) held later) :
    MakesTuple limit others (operation >>= next) held state := by
  have proceeds (short : items.length ≤ limit) (fits : items.length ≤ Tuple.capacity) :
      ∃ value middle, (operation >>= next) held state = next value held middle ∧
        MakesTuple limit others (next value) held middle ∧
        middle.world.types = state.world.types := by
    obtain ⟨value, middle, done, exact, -, types⟩ := first.made short fits
    refine ⟨value, middle, ?_, second value middle exact types, types⟩
    rw [Eval.bind_apply, done]
  have stops {later : State σ} (abandoned : operation held state = .abandoned later) :
      (operation >>= next) held state = .abandoned later := by
    rw [Eval.bind_apply, abandoned]
  constructor
  case made =>
    intro short fits
    obtain ⟨value, middle, goesOn, rest, types⟩ := proceeds (by omega) (by omega)
    rw [goesOn, ← types]
    exact rest.made short fits
  case abandons =>
    intro short large
    by_cases fits : items.length ≤ Tuple.capacity
    · obtain ⟨value, middle, goesOn, rest, -⟩ := proceeds (by omega) fits
      rw [goesOn]
      exact rest.abandons short large
    · obtain ⟨later, abandoned⟩ := first.abandons (by omega) (Nat.lt_of_not_le fits)
      exact ⟨later, stops abandoned⟩
  case overflows =>
    intro long
    by_cases short : items.length ≤ limit
    · by_cases fits : items.length ≤ Tuple.capacity
      · obtain ⟨value, middle, goesOn, rest, -⟩ := proceeds short fits
        rw [goesOn]
        exact rest.overflows long
      · obtain ⟨later, abandoned⟩ := first.abandons short (Nat.lt_of_not_le fits)
        exact .inr ⟨by omega, later, stops abandoned⟩
    · -- The step that makes the part has failed already.
      rcases first.overflows (Nat.lt_of_not_le short) with ⟨text, later, failed⟩ | ⟨low, later, ended⟩
      · refine .inl ⟨text, later, ?_⟩
        rw [Eval.bind_apply, failed]
      · exact .inr ⟨low, later, stops ended⟩

end MakesTuple

variable {engine : Engine σ} {held : Roots} {state : State σ} {tuple : Value} {items : List Value}

theorem repetition_checks (carries : tuple.items? = some items) {count : Value} {times : Nat}
    (counts : count.Counts times) :
    engine.repetition tuple count =
      if engine.limits.maxSequenceLength < items.length * times then throw .repetitionTooLong
      else reserve (items.length * times) >>= fun _ =>
        Eval.tuple (List.replicate times items).flatten := by
  obtain ⟨word, index, exact⟩ := counts
  have sign : word ≤ 0 ↔ times = 0 := by
    rw [Int64.le_iff_toInt_le, exact]
    exact Int.natCast_nonpos_iff
  rw [repetition, carries]
  dsimp only
  rw [tupleRepeat, index]
  by_cases early : (decide (word ≤ 0) || items.isEmpty) = true
  · -- Nothing is compared with the limit, which the empty tuple is within anyway.
    have empty : items.length * times = 0 := by
      rw [Bool.or_eq_true, decide_eq_true_iff, sign, List.isEmpty_iff] at early
      obtain rfl | rfl := early <;> simp
    have nothing : (List.replicate times items).flatten = [] := by
      rw [← List.length_eq_zero_iff, length_flatten_replicate, empty]
    simp only [if_pos early, empty, nothing, Nat.not_lt_zero, if_false]
    rfl
  · simp only [if_neg early, exact, Int.toNat_natCast]
    split <;> rfl

theorem repetition_makesTuple (makes : state.world.MakesTuples)
    (carries : tuple.items? = some items) {count : Value} {times : Nat}
    (counts : count.Counts times) :
    MakesTuple engine.limits.maxSequenceLength (List.replicate times items).flatten
      (engine.repetition tuple count) held state := by
  refine .of_check "repeated tuple is too long" makes ?_
  rw [repetition_checks carries counts, length_flatten_replicate]
  rfl

theorem concat_checks (carries : tuple.items? = some items) {second : Value} {others : List Value}
    (exact : state.world.exactItems? second = some others) :
    engine.concat tuple second held state =
      (if engine.limits.maxSequenceLength < items.length + others.length then
        throw .concatenationTooLong
      else reserve (items.length + others.length) >>= fun _ => Eval.tuple (items ++ others)) held
        state := by
  have unfolded : engine.concat tuple second = engine.tupleConcat items second := by
    unfold concat
    split
    · cases carries
    · rw [carries]
  rw [unfolded, tupleConcat, Eval.world_bind_apply, exact]
  dsimp only
  split <;> rfl

theorem concat_makesTuple (makes : state.world.MakesTuples)
    (carries : tuple.items? = some items) {second : Value} {others : List Value}
    (exact : state.world.exactItems? second = some others) :
    MakesTuple engine.limits.maxSequenceLength (items ++ others) (engine.concat tuple second) held
      state := by
  refine .of_check "concatenated tuple is too long" makes ?_
  rw [concat_checks carries exact, List.length_append]
  rfl

structure JoinsWithinLimit (engine : Engine σ) (held : Roots) (state : State σ) (tuple : Value)
    (items : List Value) : Prop where
  repeated : ∀ {count : Value} {times : Nat}, count.Counts times →
    MakesTuple engine.limits.maxSequenceLength (List.replicate times items).flatten
      (engine.repetition tuple count) held state
  inParts : ∀ {first second : Value} {times more : Nat}, first.Counts times → second.Counts more →
    MakesTuple engine.limits.maxSequenceLength (List.replicate (times + more) items).flatten
      (do engine.concat (← engine.repetition tuple first) (← engine.repetition tuple second)) held
      state
  -- In one step the limit comes first, whatever fits in an allocation.
  tooOften : ∀ {count : Value} {times : Nat}, count.Counts times →
    engine.limits.maxSequenceLength < items.length * times →
      engine.repetition tuple count held state = .done (.error .repetitionTooLong) state
  length : ∀ times, (List.replicate times items).flatten.length = items.length * times
  element : ∀ times, ∀ position < items.length * times,
    (List.replicate times items).flatten[position]? = items[position % items.length]?
  joined : ∀ {second : Value} {others : List Value},
    state.world.exactItems? second = some others →
    MakesTuple engine.limits.maxSequenceLength (items ++ others) (engine.concat tuple second) held
      state
  tooLong : ∀ {second : Value} {others : List Value},
    state.world.exactItems? second = some others →
    engine.limits.maxSequenceLength < items.length + others.length →
      engine.concat tuple second held state = .done (.error .concatenationTooLong) state
  leftFirst : ∀ {second third : Value} {others last : List Value},
    state.world.exactItems? second = some others → state.world.exactItems? third = some last →
    MakesTuple engine.limits.maxSequenceLength (items ++ others ++ last)
      (do engine.concat (← engine.concat tuple second) third) held state
  rightFirst : ∀ {second third : Value} {others last : List Value},
    state.world.exactItems? second = some others → state.world.exactItems? third = some last →
    MakesTuple engine.limits.maxSequenceLength (items ++ others ++ last)
      (do engine.concat tuple (← engine.concat second third)) held state

/-- However a tuple is put together, it comes about exactly if it is within the limit and fits in an
allocation. Beyond the limit there is an overflow, unless a part is too large for an allocation. -/
theorem joins_within_limit (engine : Engine σ) (held : Roots) {state : State σ}
    {made : List (TypeKey × Storage)} (grown : World.Grown {} state.world made) {tuple : Value}
    {items : List Value} (carries : tuple.items? = some items) :
    engine.JoinsWithinLimit held state tuple items where
  repeated := repetition_makesTuple grown.makesTuples carries
  inParts {first second times more} counts counts' := by
    have parts : (List.replicate (times + more) items).flatten =
        (List.replicate times items).flatten ++ (List.replicate more items).flatten := by
      rw [List.replicate_add, List.flatten_append]
    rw [parts]
    refine (repetition_makesTuple grown.makesTuples carries counts).bind (by simp) ?_
    intro front middle exact types
    have makes := grown.makesTuples.of_types_eq types
    refine (repetition_makesTuple makes carries counts').bind (by simp) ?_
    intro back later exact' types'
    have kept := World.exactItems?_of_types_eq types' front
    exact concat_makesTuple (makes.of_types_eq types')
      (World.items?_of_exact (kept.trans exact)) exact'
  tooOften counts long := by
    rw [repetition_checks carries counts, if_pos long]
    rfl
  length := length_flatten_replicate items
  element times position inside := getElem?_flatten_replicate items times position inside
  joined := concat_makesTuple grown.makesTuples carries
  tooLong exact long := by
    rw [concat_checks carries exact, if_pos long]
    rfl
  leftFirst {second third others last} exact exact' := by
    refine (concat_makesTuple grown.makesTuples carries exact).bind (by simp) ?_
    intro front later exactFront types
    have kept := World.exactItems?_of_types_eq types third
    exact concat_makesTuple (grown.makesTuples.of_types_eq types)
      (World.items?_of_exact exactFront) (kept.trans exact')
  rightFirst {second third others last} exact exact' := by
    rw [List.append_assoc]
    refine (concat_makesTuple grown.makesTuples (World.items?_of_exact exact) exact').bind
      (by simp) ?_
    intro back later exactBack types
    exact concat_makesTuple (grown.makesTuples.of_types_eq types) carries exactBack

-- The second length is a multiple of the size of a word.
theorem joins_within_limit_wrapping :
    let engine := idleHost.engine { maxSequenceLength := 8 } 0 0
    let tuple : Value := .object ⟨0, Builtin.tuple.key, none, .tuple [.none, .none, .none, .none]⟩
    let once := engine.repetition tuple (.bool true)
    (∃ value later, (do engine.concat (← once) (← once)) {} ⟨World.initial, ()⟩ =
        .done (.ok value) later) ∧
      engine.repetition tuple (.int (Int64.ofNat (2 ^ 62))) {} ⟨World.initial, ()⟩ =
        .done (.error .repetitionTooLong) ⟨World.initial, ()⟩ := by
  intro engine tuple once
  have joins : engine.JoinsWithinLimit {} ⟨World.initial, ()⟩ tuple _ :=
    joins_within_limit engine {} .fresh rfl
  have one : (Value.bool true).Counts 1 := ⟨1, rfl, rfl⟩
  have many : (Value.int (Int64.ofNat (2 ^ 62))).Counts (2 ^ 62) := ⟨_, rfl, rfl⟩
  constructor
  · obtain ⟨value, later, done, -⟩ := (joins.inParts one one).made (by decide) (by decide)
    exact ⟨value, later, done⟩
  · exact joins.tooOften many (by decide)

-- The default limit counts as many items as a word can, each of which takes up several bytes.
theorem repetition_abandoned :
    let engine := idleHost.engine {} 0 0
    let tuple : Value := .object ⟨0, Builtin.tuple.key, none, .tuple [.none]⟩
    [Value.none].length * 2 ^ 60 ≤ engine.limits.maxSequenceLength ∧
      engine.repetition tuple (.int (Int64.ofNat (2 ^ 60))) {} ⟨World.initial, ()⟩ =
        .abandoned ⟨World.initial, ()⟩ := by
  intro engine tuple
  refine ⟨by decide, ?_⟩
  have many : (Value.int (Int64.ofNat (2 ^ 60))).Counts (2 ^ 60) := ⟨_, rfl, rfl⟩
  have short : ¬ engine.limits.maxSequenceLength < [Value.none].length * 2 ^ 60 := by decide
  have large : Tuple.capacity < [Value.none].length * 2 ^ 60 := by decide
  rw [repetition_checks rfl many, if_neg short, reserve, if_pos large]
  rfl

end Engine

end ObjectModel
