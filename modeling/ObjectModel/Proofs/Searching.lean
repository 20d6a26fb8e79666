import ObjectModel.Proofs.Lexicographic
import ObjectModel.Proofs.PlainIteration
import ObjectModel.Proofs.Slicing

set_option autoImplicit false

namespace ObjectModel

def IsBound (bound : Option Value) : Prop :=
  ∀ value, bound = some value → value.asIndex?.isSome = true

theorem IsBound.absent : IsBound none :=
  fun _ present => nomatch present

theorem IsBound.int (number : Int64) : IsBound (some (.int number)) := by
  rintro value ⟨⟩
  rfl

namespace Slice

def between (start stop : Option Value) : Slice :=
  ⟨start.bind Value.asIndex?, stop.bind Value.asIndex?, none, nofun⟩

theorem boundOf_eq {bound : Option Value} (isBound : IsBound bound) :
    boundOf (bound.getD .none) = .ok (bound.bind Value.asIndex?) := by
  cases bound with
  | none => rfl
  | some value =>
    obtain ⟨position, index⟩ := Option.isSome_iff_exists.mp (isBound value rfl)
    cases value with
    | bool truth | int number => rfl
    | _ => cases index

theorem ofValues_eq {start stop : Option Value} (isStart : IsBound start) (isStop : IsBound stop) :
    ofValues (start.getD .none) (stop.getD .none) .none = .ok (between start stop) := by
  rw [ofValues, boundOf_eq isStart, boundOf_eq isStop]
  rfl

variable (start stop : Option Value) (length : Nat)

theorem limit_toNat_le : ((between start stop).limit length).toNat ≤ length := by
  have inside := (between start stop).limit_mem length
  have top : (between start stop).highest length = length := rfl
  omega

theorem positions_between :
    (between start stop).positions length =
      List.range' ((between start stop).first length).toNat
        (((between start stop).limit length).toNat -
          ((between start stop).first length).toNat) := by
  have first := (between start stop).first_mem length
  have limit := (between start stop).limit_mem length
  have bottom : (between start stop).lowest = 0 := rfl
  have stride : (between start stop).stride = 1 := rfl
  have pace : (between start stop).pace = 1 := rfl
  have counted : (between start stop).count length =
      ((between start stop).limit length).toNat - ((between start stop).first length).toNat := by
    by_cases before : (between start stop).first length < (between start stop).limit length
    · rw [count, if_pos (.inl ⟨by omega, before⟩), gap, pace, Int.natAbs_one, Nat.div_one]
      omega
    · rw [count, if_neg (by unfold Ahead; omega)]
      omega
  rw [positions, counted, stride, List.range'_eq_map_range]
  apply List.map_congr_left
  intro number member
  omega

end Slice

namespace Tuple

theorem clampBound_eq {size : Nat} (fits : size < 2 ^ 63) {bound : Option Value}
    (isBound : IsBound bound) (default : Nat) :
    clampBound size bound default =
      .ok (Slice.clamped 0 size size (bound.bind Value.asIndex?) default).toNat := by
  cases bound with
  | none => rfl
  | some value =>
    obtain ⟨position, index⟩ := Option.isSome_iff_exists.mp (isBound value rfl)
    have sizeExact : (Int64.ofNat size).toInt = size := Int64.toInt_ofNat_of_lt fits
    have zero : (0 : Int64).toInt = 0 := rfl
    have low := Int64.le_toInt position
    simp only [clampBound, index, Option.bind_some, Slice.clamped, Int64.lt_iff_toInt_lt, zero]
    congr 2
    split
    · have sum : (position + Int64.ofNat size).toInt = position.toInt + size := by
        rw [Int64.toInt_add, sizeExact]
        exact Int.bmod_eq_of_le (by omega) (by omega)
      rw [Word.toInt_max, sum, zero]
    · rw [Word.toInt_min, sizeExact]

end Tuple

/-- The later state differs in nothing but where iterators stand and which number is next. -/
def State.Beside {σ : Type} (state later : State σ) : Prop :=
  ∃ cursors nextSerial, later = ⟨{ state.world with cursors, nextSerial }, state.host⟩

theorem State.Beside.trans {σ : Type} {state middle later : State σ}
    (first : state.Beside middle) (second : middle.Beside later) : state.Beside later := by
  obtain ⟨_, _, rfl⟩ := first
  obtain ⟨cursors, nextSerial, rfl⟩ := second
  exact ⟨cursors, nextSerial, rfl⟩

theorem State.Beside.refl {σ : Type} (state : State σ) : state.Beside state :=
  ⟨_, _, rfl⟩

-- New iterators may have come.
def State.LeavesIterators {σ : Type} (state later : State σ) : Prop :=
  ∀ index cursor, state.world.cursors.get? index = some cursor →
    later.world.cursors.get? index = some cursor

def Eval.Yields {σ α : Type} (alike : State σ → Prop) (operation : Eval σ α) (held : Roots)
    (state : State σ) (result : Except Error α) : Prop :=
  ∃ later, alike later ∧ operation held state = .done result later

namespace Eval.Yields

variable {σ α β : Type} {alike : State σ → Prop} {operation : Eval σ α} {held : Roots}
  {state : State σ} {result other : Except Error α}

theorem bind {next : α → Eval σ β} {value : α} {last : Except Error β}
    (yields : Yields alike operation held state (.ok value))
    (rest : ∀ middle, alike middle → Yields alike (next value) held middle last) :
    Yields alike (operation >>= next) held state last := by
  obtain ⟨middle, calm, done⟩ := yields
  obtain ⟨later, calm', done'⟩ := rest middle calm
  refine ⟨later, calm', ?_⟩
  rw [bind_apply, done]
  exact done'

theorem iff_eq (yields : Yields alike operation held state result) :
    Yields alike operation held state other ↔ result = other := by
  obtain ⟨later, calm, done⟩ := yields
  constructor
  · rintro ⟨later', -, done'⟩
    injection done.symm.trans done'
  · rintro rfl
    exact ⟨later, calm, done⟩

end Eval.Yields

namespace Engine

open Eval (Yields)

variable {σ : Type} {engine : Engine σ} {alike : State σ → Prop} {state : State σ}
  {items : List Value} {item : Value} {equals : Value → Bool}

/-- In all of these states, asking an item whether it equals the searched one has this answer,
and leads to another one of them. They are alike to whoever moves an iterator or makes a value. -/
structure Judges (engine : Engine σ) (alike : State σ → Prop) (items : List Value) (item : Value)
    (equals : Value → Bool) : Prop where
  beside : ∀ {state later}, alike state → state.Beside later → alike later
  answers : ∀ element ∈ items, ∀ held state, alike state →
    ∃ later, alike later ∧ state.LeavesIterators later ∧
      engine.equal element item held state = .done (.ok (equals element)) later

namespace Judges

theorem of_subset {some : List Value} (judges : engine.Judges alike items item equals)
    (subset : some ⊆ items) : engine.Judges alike some item equals :=
  ⟨judges.beside, fun element member => judges.answers element (subset member)⟩

theorem yields {element : Value} {rest : List Value}
    (judges : engine.Judges alike (element :: rest) item equals) (calm : alike state)
    (held : Roots) : Yields alike (engine.equal element item) held state (.ok (equals element)) := by
  obtain ⟨later, calm', -, done⟩ := judges.answers element List.mem_cons_self held state calm
  exact ⟨later, calm', done⟩

theorem tail {element : Value} {rest : List Value}
    (judges : engine.Judges alike (element :: rest) item equals) :
    engine.Judges alike rest item equals :=
  judges.of_subset (List.subset_cons_self element rest)

theorem tupleContains (judges : engine.Judges alike items item equals) (calm : alike state)
    (held : Roots) :
    Yields alike (engine.tupleContains items item) held state (.ok (items.any equals)) := by
  induction items generalizing state with
  | nil => exact ⟨state, calm, rfl⟩
  | cons element rest ih =>
    rw [Engine.tupleContains, List.any_cons]
    refine (judges.yields calm held).bind fun middle calm' => ?_
    cases equals element with
    | true => exact ⟨middle, calm', rfl⟩
    | false => exact ih judges.tail calm'

theorem tupleCount (judges : engine.Judges alike items item equals) (calm : alike state)
    (held : Roots) :
    Yields alike (engine.tupleCount items item) held state (.ok (items.countP equals)) := by
  induction items generalizing state with
  | nil => exact ⟨state, calm, rfl⟩
  | cons element rest ih =>
    rw [Engine.tupleCount, List.countP_cons]
    refine (judges.yields calm held).bind fun middle calm' => ?_
    refine (ih judges.tail calm').bind fun later calm'' => ?_
    cases equals element <;> exact ⟨later, calm'', rfl⟩

theorem firstEqual? (judges : engine.Judges alike items item equals) (position : Nat)
    (calm : alike state) (held : Roots) :
    Yields alike (engine.firstEqual? items position item) held state
      (.ok ((items.findIdx? equals).map (position + ·))) := by
  induction items generalizing state position with
  | nil => exact ⟨state, calm, rfl⟩
  | cons element rest ih =>
    rw [Engine.firstEqual?, List.findIdx?_cons]
    refine (judges.yields calm held).bind fun middle calm' => ?_
    cases equals element with
    | true => exact ⟨middle, calm', rfl⟩
    | false =>
      have shifted : ((rest.findIdx? equals).map (· + 1)).map (position + ·) =
          (rest.findIdx? equals).map (position + 1 + ·) := by
        rw [Option.map_map]
        congr 1
        funext number
        simp only [Function.comp_def]
        omega
      simp only [Bool.false_eq_true, if_false, shifted]
      exact ih judges.tail (position + 1) calm'

theorem searchFor {cursor : CursorKey} {kind : IteratorKind} {steps : Nat} (rounds : Nat)
    (held : Roots) (judges : engine.Judges alike items item equals) (calm : alike state)
    (enough : items.length - steps < rounds)
    (stands : state.world.cursors.get? cursor.index = some (cursorAfter items steps)) :
    ∃ later, alike later ∧ engine.searchFor (.iterator cursor kind) item rounds held state =
        .done (.ok ((items.drop steps).any equals)) later ∧
      ∀ number, (items.drop steps).findIdx? equals = some number →
        later.world.cursors.get? cursor.index = some (cursorAfter items (steps + number + 1)) := by
  induction rounds generalizing steps state with
  | zero => omega
  | succ rounds ih =>
    have asked : engine.next (.iterator cursor kind) held state = _ :=
      advance_cursorAfter held stands
    let cursors := state.world.cursors.modify cursor.index fun _ => cursorAfter items (steps + 1)
    have moved := State.withCursors_modify stands (cursorAfter items (steps + 1))
    have calm' : alike (state.withCursors cursors) := judges.beside calm ⟨_, _, rfl⟩
    rw [Engine.searchFor, Eval.bind_apply, asked]
    cases next : items[steps]? with
    | none =>
      have ended : items.drop steps = [] := List.drop_eq_nil_of_le (by simpa using next)
      rw [ended]
      exact ⟨_, calm', rfl, nofun⟩
    | some value =>
      obtain ⟨inside, here⟩ := List.getElem?_eq_some_iff.mp next
      obtain ⟨middle, calm'', leaves, answer⟩ := judges.answers value
        (here ▸ List.getElem_mem inside) (held.addValues [value]) _ calm'
      have stands' := leaves _ _ moved
      rw [List.drop_eq_getElem_cons inside, here, List.any_cons, List.findIdx?_cons]
      dsimp only
      rw [Eval.bind_apply, Eval.holding, answer]
      cases equals value with
      | true =>
        refine ⟨middle, calm'', rfl, fun number found => ?_⟩
        cases found
        exact stands'
      | false =>
        obtain ⟨later, last, done, stopped⟩ := ih calm'' (by omega) stands'
        refine ⟨later, last, done, fun number found => ?_⟩
        obtain ⟨before, further, rfl⟩ := Option.map_eq_some_iff.mp found
        rw [stopped before further]
        congr 2
        omega

end Judges

end Engine

structure FirstEqual (items : List Value) (equals : Value → Bool) (positions : List Nat)
    (position : Nat) : Prop where
  among : position ∈ positions
  equal : items[position]?.any equals = true
  least : ∀ earlier ∈ positions, items[earlier]?.any equals = true → position ≤ earlier

theorem findIdx?_eq_some_iff_any {items : List Value} {equals : Value → Bool} {number : Nat} :
    items.findIdx? equals = some number ↔ items[number]?.any equals = true ∧
      ∀ earlier < number, items[earlier]?.any equals = false := by
  rw [List.findIdx?_eq_some_iff_getElem]
  constructor
  · rintro ⟨inside, here, before⟩
    refine ⟨by simpa [inside] using here, fun earlier below => ?_⟩
    have within : earlier < items.length := below.trans inside
    simpa [within] using before earlier below
  · rintro ⟨here, before⟩
    have inside : number < items.length := by
      by_contra outside
      simp [List.getElem?_eq_none (Nat.le_of_not_lt outside)] at here
    refine ⟨inside, by simpa [inside] using here, fun earlier below => ?_⟩
    have within : earlier < items.length := below.trans inside
    simpa [within] using before earlier below

theorem firstEqual_range'_iff {items : List Value} {equals : Value → Bool} {first count : Nat}
    (position : Nat) :
    FirstEqual items equals (List.range' first count) position ↔
      (((items.drop first).take count).findIdx? equals).map (first + ·) = some position := by
  have item (number : Nat) (below : number < count) :
      ((items.drop first).take count)[number]? = items[first + number]? := by
    rw [List.getElem?_take_of_lt below, List.getElem?_drop]
  simp only [Option.map_eq_some_iff, findIdx?_eq_some_iff_any]
  constructor
  · rintro ⟨among, equal, least⟩
    rw [List.mem_range'_1] at among
    obtain ⟨number, rfl⟩ := Nat.exists_eq_add_of_le among.1
    have below : number < count := by omega
    refine ⟨number, ⟨by rwa [item number below], fun earlier before => ?_⟩, rfl⟩
    rw [item earlier (by omega), ← Bool.not_eq_true]
    intro equal'
    have late := least (first + earlier) (List.mem_range'_1.mpr (by omega)) equal'
    omega
  · rintro ⟨number, ⟨equal, before⟩, rfl⟩
    have below : number < count := by
      by_contra outside
      have short : ((items.drop first).take count).length ≤ number :=
        (List.length_take_le count _).trans (Nat.le_of_not_lt outside)
      simp [List.getElem?_eq_none short] at equal
    rw [item number below] at equal
    refine ⟨List.mem_range'_1.mpr (by omega), equal, fun earlier among equal' => ?_⟩
    rw [List.mem_range'_1] at among
    obtain ⟨other, rfl⟩ := Nat.exists_eq_add_of_le among.1
    by_contra late
    have unequal := before other (by omega)
    rw [item other (by omega), equal'] at unequal
    cases unequal

theorem map_range'_getElem? (items : List Value) {first count : Nat}
    (inside : count = 0 ∨ first + count ≤ items.length) :
    (List.range' first count).map (items[·]?) = ((items.drop first).take count).map some := by
  apply List.ext_getElem?
  intro number
  rw [List.getElem?_map, List.getElem?_map]
  by_cases below : number < count
  · have within : first + number < items.length := by omega
    simp [List.getElem?_range' below, List.getElem?_take_of_lt below, within]
  · have outside : count ≤ number := Nat.le_of_not_lt below
    have short := (List.length_take_le count (items.drop first)).trans outside
    rw [List.getElem?_eq_none short, List.getElem?_eq_none (by simpa using outside)]
    rfl

namespace Slice

def window (slice : Slice) (items : List Value) : List Value :=
  (items.drop (slice.first items.length).toNat).take
    ((slice.limit items.length).toNat - (slice.first items.length).toNat)

theorem window_subset (slice : Slice) (items : List Value) : slice.window items ⊆ items :=
  List.Subset.trans (List.take_subset _ _) (List.drop_subset _ _)

theorem select?_between (start stop : Option Value) {items : List Value}
    (fits : items.length < 2 ^ 63) :
    Tuple.select? items (between start stop) = some ((between start stop).window items) := by
  obtain ⟨selected, found, exact⟩ := ((between start stop).selects_positions fits).select?_eq
  have limit := limit_toNat_le start stop items.length
  rw [positions_between, map_range'_getElem? items (by omega)] at exact
  rw [found, List.map_injective_iff.mpr (Option.some_injective Value) exact]
  rfl

end Slice

def equalPositions (items : List Value) (equals : Value → Bool) : List Nat :=
  (List.range items.length).filter fun position => items[position]?.any equals

theorem length_equalPositions (items : List Value) (equals : Value → Bool) :
    (equalPositions items equals).length = items.countP equals := by
  have listed : (List.range items.length).map (items[·]?) = items.map some := by
    apply List.ext_getElem
    · simp
    · simp
  have counted : (items.map some).countP (Option.any equals) = items.countP equals := by
    rw [List.countP_map]
    rfl
  rw [equalPositions, ← List.countP_eq_length_filter, ← counted, ← listed, List.countP_map]
  rfl

namespace Engine

open Eval (Yields)

variable {σ : Type} {engine : Engine σ} {alike : State σ → Prop} {held : Roots} {state : State σ}
  {items : List Value} {item : Value} {equals : Value → Bool} {start stop : Option Value}

theorem Judges.tupleIndex (judges : engine.Judges alike items item equals) (calm : alike state)
    (fits : items.length < 2 ^ 63) (isStart : IsBound start) (isStop : IsBound stop)
    (held : Roots) :
    Yields alike (engine.tupleIndex items item start stop) held state
      (match ((Slice.between start stop).window items).findIdx? equals with
        | some number => .ok (((Slice.between start stop).first items.length).toNat + number)
        | none => .error .itemNotInTuple) := by
  let slice := Slice.between start stop
  have searched := (judges.of_subset (slice.window_subset items)).firstEqual?
    (slice.first items.length).toNat calm held
  rw [Engine.tupleIndex, Tuple.clampBound_eq fits isStart, Tuple.clampBound_eq fits isStop]
  change Yields alike
    (engine.firstEqual? (slice.window items) (slice.first items.length).toNat item >>= _) held state _
  refine searched.bind fun later calm' => ⟨later, calm', ?_⟩
  cases (slice.window items).findIdx? equals <;> rfl

theorem Judges.tupleIndex_whole (judges : engine.Judges alike items item equals)
    (calm : alike state) (fits : items.length < 2 ^ 63) (held : Roots) :
    Yields alike (engine.tupleIndex items item none none) held state
      (match items.findIdx? equals with
        | some number => .ok number
        | none => .error .itemNotInTuple) := by
  have all : (Slice.between none none).window items = items := List.take_length
  have first : ((Slice.between none none).first items.length).toNat = 0 := rfl
  have searched := judges.tupleIndex calm fits .absent .absent held
  simp only [all, first, Nat.zero_add] at searched
  exact searched

theorem Judges.contains_fresh (judges : engine.Judges alike items item equals) (calm : alike state)
    (held : Roots) :
    ∃ cursor begun later,
      iterate .tuple items held state = .done (.ok (.iterator cursor .tuple)) begun ∧
      engine.contains (.iterator cursor .tuple) item held begun =
        .done (.ok (items.any equals)) later ∧
      ∀ position, items.findIdx? equals = some position →
        later.world.lengthHint cursor = items.length - position - 1 ∧ ∃ last,
          engine.collect (.iterator cursor .tuple) held later =
            .done (.ok (items.drop (position + 1))) last := by
  let begun : State σ := state.withCursors (state.world.cursors.push (.start items))
  let cursor : CursorKey := ⟨state.world.cursors.size⟩
  have stands : begun.world.cursors.get? cursor.index = some (cursorAfter items 0) := by
    simp [begun, State.withCursors, cursor, Cells.get?_push, cursorAfter, Cursor.start]
  have rounds := World.lengthHint_of_cursorAfter stands
  have fresh : alike begun := judges.beside calm ⟨_, _, rfl⟩
  obtain ⟨later, -, done, stopped⟩ :=
    judges.searchFor (begun.world.lengthHint cursor + 1) held fresh (by omega) stands
  refine ⟨cursor, begun, later, rfl, done, fun position found => ?_⟩
  have reached : later.world.cursors.get? cursor.index =
      some (cursorAfter items (position + 1)) := by
    rw [← Nat.zero_add position]
    exact stopped position found
  obtain ⟨_, collected⟩ := collect_cursorAfter engine .tuple held reached
  refine ⟨?_, _, collected⟩
  rw [World.lengthHint_of_cursorAfter reached]
  omega

structure SearchesSlice (engine : Engine σ) (alike : State σ → Prop) (held : Roots)
    (state : State σ) (items : List Value) (item : Value) (equals : Value → Bool)
    (start stop : Option Value) (slice : Slice) (positions : List Nat) : Prop where
  selects : slice.Selects items.length positions
  -- The positions are those that the search looks at, and there is an item at each.
  looked : ∃ first last, Tuple.clampBound items.length start 0 = .ok first ∧
    Tuple.clampBound items.length stop items.length = .ok last ∧ last ≤ items.length ∧
    positions = List.range' first (last - first)
  found : ∀ position,
    Yields alike (engine.tupleIndex items item start stop) held state (.ok position) ↔
      FirstEqual items equals positions position
  answered : (∃ position,
      Yields alike (engine.tupleIndex items item start stop) held state (.ok position)) ∨
    Yields alike (engine.tupleIndex items item start stop) held state (.error .itemNotInTuple)
  absent : ∀ serial, ∃ part later selected isIn,
    tupleItem items (.slice serial slice) held state = .done (.ok part) later ∧
    part.items? = some selected ∧
    Yields alike (engine.tupleContains selected item) held later (.ok isIn) ∧
    (Yields alike (engine.tupleIndex items item start stop) held state (.error .itemNotInTuple) ↔
      isIn = false)

theorem Judges.searchesSlice (judges : engine.Judges alike items item equals) (calm : alike state)
    (held : Roots) (fits : items.length < 2 ^ 63) (makes : state.world.MakesTuples)
    (isStart : IsBound start) (isStop : IsBound stop) :
    engine.SearchesSlice alike held state items item equals start stop (Slice.between start stop)
      ((Slice.between start stop).positions items.length) := by
  let slice := Slice.between start stop
  have searched := judges.tupleIndex calm fits isStart isStop held
  have listed := Slice.positions_between start stop items.length
  refine ⟨slice.selects_positions fits, ⟨_, _, Tuple.clampBound_eq fits isStart 0,
    Tuple.clampBound_eq fits isStop items.length, Slice.limit_toNat_le start stop items.length,
    listed⟩, fun position => ?_, ?_, fun serial => ?_⟩
  · rw [listed, firstEqual_range'_iff, searched.iff_eq]
    change _ ↔ ((slice.window items).findIdx? equals).map _ = _
    cases (slice.window items).findIdx? equals <;> simp
  · simp only [searched.iff_eq]
    cases (slice.window items).findIdx? equals <;> simp
  · let later : State σ := { state with world := state.world.newSerial.2 }
    have sliced : tupleItem items (.slice serial slice) held state =
        .done (.ok (state.world.freshTuple (slice.window items))) later := by
      have selected := Slice.select?_between start stop fits
      simp only [tupleItem, Value.asIndex?, slice, selected]
      exact Eval.tuple_fresh makes (slice.window items) held
    have part := judges.of_subset (slice.window_subset items)
    have calm' : alike later := judges.beside calm ⟨_, _, rfl⟩
    refine ⟨_, later, slice.window items, _, sliced, rfl, part.tupleContains calm' held, ?_⟩
    rw [searched.iff_eq, ← List.findIdx?_isSome]
    cases (slice.window items).findIdx? equals <;> simp

structure SearchesAgree (engine : Engine σ) (alike : State σ → Prop) (held : Roots)
    (state : State σ) (items : List Value) (item : Value) (equals : Value → Bool) : Prop where
  between : ∀ start stop, IsBound start → IsBound stop → ∃ slice positions,
    Slice.ofValues (start.getD .none) (stop.getD .none) .none = .ok slice ∧
    engine.SearchesSlice alike held state items item equals start stop slice positions
  count : Yields alike (engine.tupleCount items item) held state
    (.ok (equalPositions items equals).length)
  contains : Yields alike (engine.tupleContains items item) held state (.ok (items.any equals))
  counted : items.any equals = true ↔ 0 < (equalPositions items equals).length
  indexed : items.any equals = true ↔ ∃ position,
    Yields alike (engine.tupleIndex items item none none) held state (.ok position)
  iterator : ∃ cursor begun later,
    iterate .tuple items held state = .done (.ok (.iterator cursor .tuple)) begun ∧
    engine.contains (.iterator cursor .tuple) item held begun =
      .done (.ok (items.any equals)) later ∧
    ∀ position,
      Yields alike (engine.tupleIndex items item none none) held state (.ok position) →
      later.world.lengthHint cursor = items.length - position - 1 ∧ ∃ last,
        engine.collect (.iterator cursor .tuple) held later =
          .done (.ok (items.drop (position + 1))) last

/-- Where comparing is pure, all ways to search for an item agree. -/
theorem searches_agree (engine : Engine σ) (held : Roots) {state : State σ}
    {made : List (TypeKey × Storage)} (grown : World.Grown {} state.world made)
    {items : List Value} {item : Value} {equals : Value → Bool} (fits : items.length < 2 ^ 63)
    {alike : State σ → Prop} (calm : alike state)
    (judges : engine.Judges alike items item equals) :
    engine.SearchesAgree alike held state items item equals := by
  have whole := judges.tupleIndex_whole calm fits held
  obtain ⟨cursor, begun, later, made, done, stopped⟩ := judges.contains_fresh calm held
  refine ⟨fun start stop isStart isStop => ?_, ?_, judges.tupleContains calm held, ?_, ?_,
    cursor, begun, later, made, done, fun position found => stopped position ?_⟩
  · exact ⟨_, _, Slice.ofValues_eq isStart isStop,
      judges.searchesSlice calm held fits grown.makesTuples isStart isStop⟩
  · rw [length_equalPositions]
    exact judges.tupleCount calm held
  · rw [length_equalPositions, List.countP_pos_iff, List.any_eq_true]
  · simp only [whole.iff_eq, ← List.findIdx?_isSome]
    cases items.findIdx? equals <;> simp
  · rw [whole.iff_eq] at found
    cases first : items.findIdx? equals <;> simp_all

theorem equal_ints (left right : Int64) :
    engine.equal (.int left) (.int right) held state = .done (.ok (left == right)) state := by
  by_cases same : left = right
  · subst same
    have order : compare left.toInt left.toInt = .eq := Std.ReflCmp.compare_self
    rw [equal_of_equal, beq_self_eq_true]
    rw [richCompare_ints, order]
    rfl
  · have apart : Value.int left ≠ .int right := fun equal => same (Value.int.inj equal)
    rw [equal, containerCompare_of_ne apart, richCompare_ints, beq_eq_false_iff_ne.mpr same]
    cases order : compare left.toInt right.toInt with
    | eq => exact absurd order (compare_toInt_ne same)
    | lt | gt => rfl

theorem equal_custom {inst : Instance Value} {same : Bool} {later : State σ}
    (apart : Value.object inst ≠ item)
    (asked : engine.callSpecial (.object inst) Comparison.eq.method [item] held state =
      .done (.ok (some (.bool same))) later) :
    engine.equal (.object inst) item held state = .done (.ok same) later := by
  have judged : engine.truthy (.bool same) = pure same := by
    rw [truthy]
    cases engine.patience <;> rfl
  have isInstance : (Value.object inst).isInstance = true := rfl
  have slot : engine.slotCompare (.object inst) item .eq held state =
      .done (.ok (some same)) later := by
    rw [slotCompare, if_pos isInstance, Eval.bind_apply, asked]
    simp only [judged, pure_bind]
    rfl
  rw [equal, containerCompare_of_ne apart, richCompare, Eval.bind_apply, slot]
  rfl

-- The first item takes itself for equal to anything. The second search begins at a bound that
-- counts from the end, the third one beyond its end.
theorem searches_agree_point :
    let engine := (constantHost (.bool true)).engine {} 1 2
    let state : State Unit := ⟨World.defining Comparison.eq.method, ()⟩
    let items : List Value := [.object ⟨300, ⟨18⟩, none, .empty⟩, .int 2, .int 1]
    let finds start stop (result : Except Error Nat) :=
      Yields state.Beside (engine.tupleIndex items (.int 1) start stop) {} state result
    finds none none (.ok 0) ∧ finds (some (.int (-2))) none (.ok 2) ∧
      finds (some (.int 2)) (some (.int Int64.minValue)) (.error .itemNotInTuple) := by
  intro engine state items finds
  let equals (value : Value) : Bool := value.isInstance || value.asInt?.any (· == 1)
  have judges : engine.Judges state.Beside items (.int 1) equals := by
    refine ⟨State.Beside.trans, fun element member held later beside => ?_⟩
    simp only [items, List.mem_cons, List.not_mem_nil, or_false] at member
    rcases member with rfl | rfl | rfl
    · obtain ⟨cursors, nextSerial, rfl⟩ := beside
      exact ⟨_, ⟨cursors, nextSerial + 1, rfl⟩, fun _ _ stands => stands, equal_custom nofun rfl⟩
    · exact ⟨later, beside, fun _ _ stands => stands, equal_ints 2 1⟩
    · exact ⟨later, beside, fun _ _ stands => stands, equal_ints 1 1⟩
  have point : World.Grown {} _ [(⟨18⟩, .slots)] :=
    .created .fresh (.native .object) (show World.newSubtype _ _ "Point" _ _ = _ from rfl)
  have grown : World.Grown {} state.world [(⟨18⟩, .slots)] :=
    .otherwise point (.setMember Comparison.eq.method _)
  have agree : engine.SearchesAgree state.Beside {} state items (.int 1) equals :=
    searches_agree engine {} grown (by decide) (.refl state) judges
  refine ⟨?_, ?_, ?_⟩
  · obtain ⟨slice, positions, -, search⟩ := agree.between none none .absent .absent
    obtain ⟨first, last, started, stopped, -, rfl⟩ := search.looked
    obtain rfl : 0 = first := Except.ok.inj started
    obtain rfl : 3 = last := Except.ok.inj stopped
    exact (search.found 0).mpr ⟨by decide, rfl, fun _ _ _ => Nat.zero_le _⟩
  · obtain ⟨slice, positions, -, search⟩ := agree.between _ _ (.int (-2)) .absent
    obtain ⟨first, last, started, stopped, -, rfl⟩ := search.looked
    have fromEnd : Tuple.clampBound items.length (some (.int (-2))) 0 = .ok 1 := by
      rw [Tuple.clampBound_eq (by decide) (.int (-2))]
      rfl
    obtain rfl : 1 = first := Except.ok.inj (fromEnd.symm.trans started)
    obtain rfl : 3 = last := Except.ok.inj stopped
    refine (search.found 2).mpr ⟨by decide, rfl, fun earlier among equal => ?_⟩
    by_contra before
    obtain rfl : earlier = 1 := by
      rw [List.mem_range'_1] at among
      omega
    cases equal
  · obtain ⟨slice, positions, -, search⟩ := agree.between _ _ (.int 2) (.int Int64.minValue)
    obtain ⟨first, last, started, stopped, -, rfl⟩ := search.looked
    obtain rfl : 2 = first := Except.ok.inj started
    obtain rfl : 0 = last := Except.ok.inj stopped
    refine search.answered.resolve_left ?_
    rintro ⟨position, found⟩
    cases ((search.found position).mp found).among

end Engine

end ObjectModel
