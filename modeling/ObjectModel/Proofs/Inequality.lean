import ObjectModel.Proofs.Searching

set_option autoImplicit false

namespace ObjectModel

namespace Eval

variable {σ α β : Type} {state : State σ}

/-- However often it is run, the operation gives this answer and changes nothing but where iterators
stand and which number is next. -/
def Gives (operation : Eval σ α) (state : State σ) (answer : α) : Prop :=
  ∀ held later, state.Beside later →
    ∃ last, state.Beside last ∧ operation held later = .done (.ok answer) last

namespace Gives

theorem pure (answer : α) : Gives (Pure.pure answer : Eval σ α) state answer :=
  fun _ later beside => ⟨later, beside, rfl⟩

theorem bind {operation : Eval σ α} {next : α → Eval σ β} {answer : α} {result : β}
    (gives : Gives operation state answer) (rest : Gives (next answer) state result) :
    Gives (operation >>= next) state result := by
  intro held later beside
  obtain ⟨middle, between, done⟩ := gives held later beside
  obtain ⟨last, beside', done'⟩ := rest held middle between
  exact ⟨last, beside', by rw [bind_apply, done]; exact done'⟩

theorem done {operation : Eval σ α} {answer : α} (gives : Gives operation state answer)
    (held : Roots) : ∃ last, operation held state = .done (.ok answer) last := by
  obtain ⟨last, _, done⟩ := gives held state ⟨_, _, rfl⟩
  exact ⟨last, done⟩

theorem unique {operation : Eval σ α} {answer other : α} (gives : Gives operation state answer)
    (gives' : Gives operation state other) : answer = other := by
  obtain ⟨_, done⟩ := gives.done {}
  obtain ⟨_, done'⟩ := gives'.done {}
  rw [done] at done'
  injection done' with same
  exact Except.ok.inj same

end Gives

end Eval

theorem Comparison.acceptsOrder?_ne (order? : Option Ordering) :
    ne.acceptsOrder? order? = !eq.acceptsOrder? order? := by
  cases order? with
  | none => rfl
  | some order => cases order <;> rfl

theorem Value.compareImmediate?_ne (left right : Value) :
    left.compareImmediate? right .ne = (left.compareImmediate? right .eq).map (!·) := by
  rw [compareImmediate?_eq, compareImmediate?_eq]
  cases left.scalar <;> cases right.scalar <;> try rfl
  case number.number => exact congrArg some (Comparison.acceptsOrder?_ne _)

namespace Engine

open Eval (Gives)

variable {σ : Type} {engine : Engine σ} {state : State σ} {left right : Value}
  {items others : List Value}

def nativeSlot (engine : Engine σ) (left right : Value) (op : Comparison) :
    Eval σ (Option Bool) :=
  match left.items? with
  | some items => engine.tupleCompare items right op
  | none => pure (left.compareImmediate? right op)

def nativeEqual (engine : Engine σ) (left right : Value) : Eval σ Bool := do
  match ← engine.nativeSlot left right .eq with
  | some answer => return answer
  | none =>
    match ← engine.nativeSlot right left .eq with
    | some answer => return answer
    | none => return left.is right

theorem slotCompare_native (left right : Value) (op : Comparison) :
    engine.slotCompare left right op =
      if left.isInstance then do
        match ← engine.callSpecial left op.method [right] with
        | some .notImplemented => return none
        | some answer => return some (← engine.truthy answer)
        | none => engine.nativeSlot left right op
      else
        engine.nativeSlot left right op := by
  rw [slotCompare]
  cases left with
  | object inst =>
    obtain ⟨serial, type, store, payload⟩ := inst
    cases payload <;> rfl
  | _ => rfl

structure Slots (engine : Engine σ) (state : State σ) (left right : Value)
    (answer? : Option Bool) : Prop where
  equal : Gives (engine.nativeSlot left right .eq) state answer?
  unequal : Gives (engine.nativeSlot left right .ne) state (answer?.map (!·))

theorem nativeSlot_flat (flat : left.items? = none) (op : Comparison) :
    engine.nativeSlot left right op = pure (left.compareImmediate? right op) := by
  rw [nativeSlot, flat]

theorem nativeSlot_tuple (carried : left.items? = some items) (op : Comparison) :
    engine.nativeSlot left right op =
      match right.items? with
      | some others => do return some (← engine.compareItems items others op)
      | none => pure (op.ofEquality? false) := by
  rw [nativeSlot, carried]
  exact tupleCompare_eq items right op

theorem compareItems_gives
    (equal : ∀ item ∈ items, ∀ other ∈ others,
      ∃ same, Gives (engine.equal item other) state same) :
    ∃ same, Gives (engine.compareItems items others .eq) state same ∧
      Gives (engine.compareItems items others .ne) state (!same) := by
  induction items generalizing others with
  | nil =>
    cases others with
    | nil =>
      refine ⟨true, ?_⟩
      rw [compareItems, compareItems]
      exact ⟨.pure _, .pure _⟩
    | cons other others =>
      refine ⟨false, ?_⟩
      rw [compareItems, compareItems]
      exact ⟨.pure _, .pure _⟩
  | cons item items ih =>
    cases others with
    | nil =>
      refine ⟨false, ?_⟩
      rw [compareItems, compareItems]
      exact ⟨.pure _, .pure _⟩
    | cons other others =>
      obtain ⟨alike, first⟩ := equal item List.mem_cons_self other List.mem_cons_self
      rw [compareItems, compareItems]
      cases alike with
      | true =>
        obtain ⟨same, rest, rest'⟩ := ih fun item member other member' =>
          equal item (List.mem_cons_of_mem _ member) other (List.mem_cons_of_mem _ member')
        exact ⟨same, first.bind rest, first.bind rest'⟩
      | false => exact ⟨false, first.bind (.pure _), first.bind (.pure _)⟩

theorem slots_of_items
    (equal : ∀ items others, left.items? = some items → right.items? = some others →
      ∀ item ∈ items, ∀ other ∈ others, ∃ same, Gives (engine.equal item other) state same) :
    ∃ answer?, engine.Slots state left right answer? := by
  cases carried : left.items? with
  | none =>
    refine ⟨left.compareImmediate? right .eq, ?_, ?_⟩
    · rw [nativeSlot_flat carried]
      exact .pure _
    · rw [nativeSlot_flat carried, ← Value.compareImmediate?_ne]
      exact .pure _
  | some items =>
    cases carried' : right.items? with
    | none =>
      refine ⟨some false, ?_, ?_⟩
      all_goals
        rw [nativeSlot_tuple carried, carried']
        exact .pure _
    | some others =>
      obtain ⟨same, equal, unequal⟩ := compareItems_gives (equal items others carried carried')
      refine ⟨some same, ?_, ?_⟩
      · rw [nativeSlot_tuple carried, carried']
        exact equal.bind (.pure _)
      · rw [nativeSlot_tuple carried, carried']
        exact unequal.bind (.pure _)

theorem richCompare_gives {op : Comparison} {slot slot' : Option Bool} {last : Bool}
    (first : Gives (engine.slotCompare left right op) state slot)
    (second : slot = none → Gives (engine.slotCompare right left op.swapped) state slot')
    (told : op.ofEquality? (left.is right) = some last) :
    Gives (engine.richCompare left right op) state ((slot.or slot').getD last) := by
  rw [richCompare]
  refine first.bind ?_
  cases slot with
  | some answer => exact .pure _
  | none =>
    refine (second rfl).bind ?_
    cases slot' with
    | some answer => exact .pure _
    | none =>
      rw [told]
      exact .pure _

theorem nativeEqual_gives {slot slot' : Option Bool} (first : engine.Slots state left right slot)
    (second : engine.Slots state right left slot') :
    Gives (engine.nativeEqual left right) state ((slot.or slot').getD (left.is right)) := by
  refine first.equal.bind ?_
  cases slot with
  | some answer => exact .pure _
  | none =>
    refine second.equal.bind ?_
    cases slot' <;> exact .pure _

inductive EqualityAnswer : Option Value → Prop where
  | absent : EqualityAnswer none
  | reserved : EqualityAnswer (some .notImplemented)
  | decided (same : Bool) : EqualityAnswer (some (.bool same))

def AnswersPurely (engine : Engine σ) (state : State σ) (value other : Value) : Prop :=
  value.isInstance = true → ∃ answer?, EqualityAnswer answer? ∧
    Gives (engine.callSpecial value Comparison.eq.method [other]) state answer?

structure ComparesPurely (engine : Engine σ) (state : State σ) (left right : Value) : Prop where
  forth : ∀ inner other, left.Nested inner → right.Nested other →
    engine.AnswersPurely state inner other
  back : ∀ inner other, left.Nested inner → right.Nested other →
    engine.AnswersPurely state other inner

def Reserved (engine : Engine σ) (state : State σ) (value other : Value) : Prop :=
  value.isInstance = true →
    Gives (engine.callSpecial value Comparison.eq.method [other]) state none ∨
    value.items? = none ∧
      Gives (engine.callSpecial value Comparison.eq.method [other]) state (some .notImplemented)

theorem ComparesPurely.item (pure : engine.ComparesPurely state left right) {item other : Value}
    (tuple : left.items? = some items) (member : item ∈ items)
    (tuple' : right.items? = some others) (member' : other ∈ others) :
    engine.ComparesPurely state item other where
  forth _ _ nested nested' :=
    pure.forth _ _ (.item tuple member nested) (.item tuple' member' nested')
  back _ _ nested nested' :=
    pure.back _ _ (.item tuple member nested) (.item tuple' member' nested')

theorem ComparesPurely.symm (pure : engine.ComparesPurely state left right) :
    engine.ComparesPurely state right left where
  forth _ _ nested nested' := pure.back _ _ nested' nested
  back _ _ nested nested' := pure.forth _ _ nested' nested

theorem slotCompare_decided (isInstance : left.isInstance = true) {same : Bool}
    (decided : Gives (engine.callSpecial left Comparison.eq.method [right]) state
      (some (.bool same))) :
    Gives (engine.slotCompare left right .eq) state (some same) := by
  rw [slotCompare_native, if_pos isInstance]
  refine decided.bind ?_
  have judged : engine.truthy (.bool same) = pure same := by
    rw [truthy]
    cases engine.patience <;> rfl
  dsimp only
  rw [judged]
  exact .pure _

theorem slotCompare_declined (isInstance : left.isInstance = true)
    (declined : Gives (engine.callSpecial left Comparison.eq.method [right]) state
      (some .notImplemented)) :
    Gives (engine.slotCompare left right .eq) state none := by
  rw [slotCompare_native, if_pos isInstance]
  exact declined.bind (.pure none)

theorem slotCompare_answers {slot : Option Bool} (slots : engine.Slots state left right slot)
    (answers : engine.AnswersPurely state left right) :
    ∃ answer?, Gives (engine.slotCompare left right .eq) state answer? := by
  cases isInstance : left.isInstance with
  | false =>
    rw [slotCompare_native, isInstance]
    exact ⟨slot, slots.equal⟩
  | true =>
    obtain ⟨answer?, wellBehaved, gives⟩ := answers isInstance
    cases wellBehaved with
    | decided same => exact ⟨_, slotCompare_decided isInstance gives⟩
    | absent =>
      rw [slotCompare_native, if_pos isInstance]
      exact ⟨slot, gives.bind slots.equal⟩
    | reserved => exact ⟨none, slotCompare_declined isInstance gives⟩

theorem richCompare_answers {slot slot' : Option Bool}
    (pure : engine.ComparesPurely state left right) (first : engine.Slots state left right slot)
    (second : engine.Slots state right left slot') :
    ∃ same, Gives (engine.richCompare left right .eq) state same := by
  obtain ⟨answer?, gives⟩ :=
    slotCompare_answers first (pure.forth _ _ (.self left) (.self right))
  obtain ⟨answer?', gives'⟩ :=
    slotCompare_answers second (pure.back _ _ (.self left) (.self right))
  exact ⟨_, richCompare_gives gives (fun _ => gives') rfl⟩

theorem equal_answers {same : Bool} (gives : Gives (engine.richCompare left right .eq) state same) :
    ∃ same, Gives (engine.equal left right) state same := by
  by_cases identical : left = right
  · refine ⟨true, ?_⟩
    rw [equal, containerCompare, identical]
    simp only [Value.is, decide_true, if_true, Comparison.ofEquality?]
    exact .pure true
  · refine ⟨same, ?_⟩
    rwa [equal, containerCompare_of_ne identical]

theorem slots_answer (pure : engine.ComparesPurely state left right) :
    ∃ slot slot', engine.Slots state left right slot ∧ engine.Slots state right left slot' := by
  induction left using Value.tuple_induct generalizing right with
  | flat left flat =>
    obtain ⟨slot, first⟩ : ∃ slot, engine.Slots state left right slot :=
      slots_of_items fun items others carried _ => by cases flat.symm.trans carried
    obtain ⟨slot', second⟩ : ∃ slot', engine.Slots state right left slot' :=
      slots_of_items fun items others _ carried => by cases flat.symm.trans carried
    exact ⟨slot, slot', first, second⟩
  | tuple left items carried ih =>
    -- The reflected operand compares the same pairs of items, each the other way round.
    have pairs {others : List Value} (carried' : right.items? = some others)
        {item other : Value} (member : item ∈ items) (member' : other ∈ others) :
        (∃ same, Gives (engine.equal item other) state same) ∧
          ∃ same, Gives (engine.equal other item) state same := by
      have inner := pure.item carried member carried' member'
      obtain ⟨slot, slot', first, second⟩ := ih item member inner
      obtain ⟨_, forth⟩ := richCompare_answers inner first second
      obtain ⟨_, back⟩ := richCompare_answers inner.symm second first
      exact ⟨equal_answers forth, equal_answers back⟩
    obtain ⟨slot, first⟩ : ∃ slot, engine.Slots state left right slot := by
      refine slots_of_items fun items' others carries carried' item member other member' => ?_
      cases carried.symm.trans carries
      exact (pairs carried' member member').1
    obtain ⟨slot', second⟩ : ∃ slot', engine.Slots state right left slot' := by
      refine slots_of_items fun others items' carried' carries other member' item member => ?_
      cases carried.symm.trans carries
      exact (pairs carried' member member').2
    exact ⟨slot, slot', first, second⟩

theorem slotCompare_undefined {op : Comparison} {answer? : Option Bool}
    (undefined : state.world.Undefined op left)
    (gives : Gives (engine.nativeSlot left right op) state answer?) :
    Gives (engine.slotCompare left right op) state answer? := by
  intro held later beside
  obtain ⟨last, beside', done⟩ := gives held later beside
  refine ⟨last, beside', ?_⟩
  have unmoved : later.world.Undefined op left := by
    obtain ⟨cursors, nextSerial, rfl⟩ := beside
    exact undefined
  rw [slotCompare_apply unmoved, ← done, nativeSlot]
  cases left.items? <;> rfl

theorem slotCompare_reserved {answer? : Option Bool} (slots : engine.Slots state left right answer?)
    (reserved : engine.Reserved state left right) :
    Gives (engine.slotCompare left right .eq) state answer? := by
  cases isInstance : left.isInstance with
  | false =>
    rw [slotCompare_native, isInstance]
    exact slots.equal
  | true =>
    rcases reserved isInstance with absent | ⟨flat, declined⟩
    · rw [slotCompare_native, if_pos isInstance]
      exact absent.bind slots.equal
    · -- Without items the instance has nothing built in to say either.
      have silent : answer? = none := by
        have plain : left.scalar = .other := by cases left <;> trivial
        refine slots.equal.unique ?_
        rw [nativeSlot_flat flat, Value.compareImmediate?_other (.inl plain)]
        exact .pure none
      rw [silent]
      exact slotCompare_declined isInstance declined

theorem richCompare_wrapped {tuple tuple' : Value} {same : Bool} (apart : left ≠ right)
    (carried : tuple.items? = some [left]) (carried' : tuple'.items? = some [right])
    (undefined : state.world.Undefined .ne tuple)
    (gives : Gives (engine.richCompare left right .eq) state same) :
    Gives (engine.richCompare tuple tuple' .ne) state (!same) := by
  have compared : Gives (engine.compareItems [left] [right] .ne) state (!same) := by
    rw [compareItems, containerCompare_of_ne apart]
    refine gives.bind ?_
    cases same with
    | true =>
      rw [if_pos rfl, compareItems]
      exact .pure false
    | false => exact .pure true
  have native : Gives (engine.nativeSlot tuple tuple' .ne) state (some !same) := by
    rw [nativeSlot_tuple carried, carried']
    exact compared.bind (.pure _)
  rw [richCompare]
  exact (slotCompare_undefined undefined native).bind (.pure _)

structure Opposes (engine : Engine σ) (state : State σ) (left right : Value)
    (same native : Bool) : Prop where
  equal : Gives (engine.richCompare left right .eq) state same
  -- The one negates what `==` would answer without the `__eq__` of the two operands.
  builtIn : Gives (engine.nativeEqual left right) state native
  unequal : Gives (engine.richCompare left right .ne) state (!native)
  negates_iff : Gives (engine.richCompare left right .ne) state (!same) ↔ same = native
  -- So the operators are opposed where both operands reserve their judgement,
  reserved : engine.Reserved state left right → engine.Reserved state right left → same = native
  -- and a judgement of the left operand reaches `==` alone.
  decided : ∀ answer, left.isInstance = true →
    Gives (engine.callSpecial left Comparison.eq.method [right]) state (some (.bool answer)) →
    same = answer
  -- So does one of the right operand if the left one declines to judge.
  reflected : ∀ answer, left.isInstance = true → right.isInstance = true →
    Gives (engine.callSpecial left Comparison.eq.method [right]) state (some .notImplemented) →
    Gives (engine.callSpecial right Comparison.eq.method [left]) state (some (.bool answer)) →
    same = answer
  -- Tuples negate the equality of their items, whoever decides it.
  wrapped : ∀ tuple tuple', left ≠ right → tuple.items? = some [left] →
    tuple'.items? = some [right] → state.world.Undefined .ne tuple →
    Gives (engine.richCompare tuple tuple' .ne) state (!same)

/-- Where no type defines `__ne__` and `__eq__` is pure, both operators are answered, and one is the
negation of the other exactly if `__eq__` agrees with what is built in. -/
theorem inequality_negates_native (engine : Engine σ)
    (undefined : state.world.Undefined .ne left) (undefined' : state.world.Undefined .ne right)
    (pure : engine.ComparesPurely state left right) :
    ∃ same native, engine.Opposes state left right same native := by
  obtain ⟨slot, slot', first, second⟩ := slots_answer pure
  obtain ⟨same, equal⟩ := richCompare_answers pure first second
  have unequal := richCompare_gives (slotCompare_undefined undefined first.unequal)
    (fun _ => slotCompare_undefined undefined' second.unequal)
    (show Comparison.ne.ofEquality? (left.is right) = _ from rfl)
  have negated : ((slot.map (!·)).or (slot'.map (!·))).getD (!left.is right) =
      !(slot.or slot').getD (left.is right) := by
    cases slot <;> cases slot' <;> rfl
  rw [negated] at unequal
  refine ⟨same, (slot.or slot').getD (left.is right), ?_⟩
  constructor
  case equal => exact equal
  case builtIn => exact nativeEqual_gives first second
  case unequal => exact unequal
  case negates_iff =>
    constructor
    · intro negates
      exact Bool.not_inj (negates.unique unequal)
    · rintro rfl
      exact unequal
  case reserved =>
    intro reserved reserved'
    exact equal.unique (richCompare_gives (slotCompare_reserved first reserved)
      (fun _ => slotCompare_reserved second reserved') rfl)
  case decided =>
    intro answer isInstance decided
    have answered : Gives (engine.richCompare left right .eq) state
        (((some answer).or none).getD (left.is right)) :=
      richCompare_gives (slotCompare_decided isInstance decided) nofun rfl
    exact equal.unique answered
  case reflected =>
    intro answer isInstance isInstance' declined decided
    have answered : Gives (engine.richCompare left right .eq) state
        ((none.or (some answer)).getD (left.is right)) :=
      richCompare_gives (slotCompare_declined isInstance declined)
        (fun _ => slotCompare_decided isInstance' decided) rfl
    exact equal.unique answered
  case wrapped =>
    intro tuple tuple' apart carried carried' quiet
    exact richCompare_wrapped apart carried carried' quiet equal

theorem inequality_negates_native_points :
    ((constantHost (.bool false)).engine {} 1 2).Opposes
      ⟨World.defining Comparison.eq.method, ()⟩ (.object ⟨300, ⟨18⟩, none, .empty⟩)
      (.object ⟨301, ⟨18⟩, none, .empty⟩) false false := by
  let engine := (constantHost (.bool false)).engine {} 1 2
  let state : State Unit := ⟨World.defining Comparison.eq.method, ()⟩
  let point (serial : Nat) : Value := .object ⟨serial, ⟨18⟩, none, .empty⟩
  have denies (serial : Nat) (other : Value) :
      Gives (engine.callSpecial (point serial) Comparison.eq.method [other]) state
        (some (.bool false)) := by
    rintro held later ⟨cursors, nextSerial, rfl⟩
    exact ⟨_, ⟨cursors, nextSerial + 1, rfl⟩, rfl⟩
  have pure : engine.ComparesPurely state (point 300) (point 301) := by
    constructor <;> intro inner other nested nested' _ <;>
      rw [nested.eq_of_flat rfl, nested'.eq_of_flat rfl]
    · exact ⟨_, .decided false, denies _ _⟩
    · exact ⟨_, .decided false, denies _ _⟩
  obtain ⟨same, native, opposes⟩ := inequality_negates_native engine
    (show state.world.Undefined .ne (point 300) from fun _ => rfl)
    (show state.world.Undefined .ne (point 301) from fun _ => rfl) pure
  have told : same = false := opposes.decided false rfl (denies _ _)
  have apart : native = false :=
    opposes.builtIn.unique fun held later beside => ⟨later, beside, rfl⟩
  subst told apart
  exact opposes

-- Two points that call each other equal are unequal as well, while their tuples are not.
theorem equal_and_unequal :
    let engine := (constantHost (.bool true)).engine {} 1 2
    let state : State Unit := ⟨World.defining Comparison.eq.method, ()⟩
    let point (serial : Nat) : Value := .object ⟨serial, ⟨18⟩, none, .empty⟩
    let single (serial : Nat) (item : Value) : Value :=
      .object ⟨serial, Builtin.tuple.key, none, .tuple [item]⟩
    state.world.Undefined .ne (point 300) ∧ state.world.Undefined .ne (point 301) ∧
    (∃ later, engine.richCompare (point 300) (point 301) .eq {} state =
      .done (.ok true) later) ∧
    (∃ later, engine.richCompare (point 300) (point 301) .ne {} state =
      .done (.ok true) later) ∧
    ∃ later, engine.richCompare (single 302 (point 300)) (single 303 (point 301)) .ne {} state =
      .done (.ok false) later := by
  intro engine state point single
  have affirms : Gives (engine.callSpecial (point 300) Comparison.eq.method [point 301]) state
      (some (.bool true)) := by
    rintro held later ⟨cursors, nextSerial, rfl⟩
    exact ⟨_, ⟨cursors, nextSerial + 1, rfl⟩, rfl⟩
  have equal : Gives (engine.richCompare (point 300) (point 301) .eq) state
      (((some true).or none).getD false) :=
    richCompare_gives (slotCompare_decided rfl affirms) nofun rfl
  have silent (serial : Nat) (other : Value) :
      Gives (engine.slotCompare (point serial) other .ne) state none :=
    slotCompare_undefined (fun _ => rfl) (.pure none)
  have unequal : Gives (engine.richCompare (point 300) (point 301) .ne) state
      ((none.or none).getD true) :=
    richCompare_gives (silent 300 _) (fun _ => silent 301 _) rfl
  have wrapped : Gives (engine.richCompare (single 302 (point 300)) (single 303 (point 301)) .ne)
      state (!true) :=
    richCompare_wrapped (by simp [point]) rfl rfl (fun _ => rfl) equal
  exact ⟨fun _ => rfl, fun _ => rfl, equal.done {}, unequal.done {}, wrapped.done {}⟩

end Engine

end ObjectModel
