import Mathlib.Data.List.Forall2
import Mathlib.Tactic.IntervalCases
import ObjectModel.Proofs.Coherence

set_option autoImplicit false

namespace ObjectModel

theorem compare_toInt_ne {left right : Int64} (apart : left ≠ right) :
    compare left.toInt right.toInt ≠ .eq :=
  fun same => apart (Int64.toInt_inj.mp (Std.LawfulEqOrd.compare_eq_iff_eq.mp same))

def lexicographic (numbers others : List Int64) : Ordering :=
  List.compareLex compare (numbers.map (·.toInt)) (others.map (·.toInt))

section Lexicographic

variable {numbers others last : List Int64}

theorem lexicographic_self : lexicographic numbers numbers = .eq := by
  rw [lexicographic]
  exact Std.ReflCmp.compare_self

theorem lexicographic_swap :
    lexicographic others numbers = (lexicographic numbers others).swap := by
  rw [lexicographic, lexicographic]
  exact Std.OrientedCmp.eq_swap

theorem lexicographic_trans (below : lexicographic numbers others = .lt)
    (below' : lexicographic others last = .lt) : lexicographic numbers last = .lt := by
  rw [lexicographic] at below below' ⊢
  exact Std.TransCmp.lt_trans below below'

end Lexicographic

inductive Difference where
  -- Two ints, or one tuple ends where the other goes on.
  | ordered (order : Ordering)
  -- An int against a tuple.
  | mixed

namespace World

inductive Nesting (world : World) : Value → Prop where
  | int (number : Int64) : Nesting world (.int number)
  | tuple {value : Value} {items : List Value} (exact : world.exactItems? value = some items)
    (nested : ∀ item ∈ items, Nesting world item) : Nesting world value

inductive Alike (world : World) : Value → Value → Prop where
  | int (number : Int64) : Alike world (.int number) (.int number)
  | tuple {left right : Value} {items others : List Value}
    (exact : world.exactItems? left = some items) (exact' : world.exactItems? right = some others)
    (size : items.length = others.length)
    (same : ∀ item other, (item, other) ∈ items.zip others → Alike world item other) :
    Alike world left right

/-- The first place where two values differ. What stands behind it is any value at all. -/
inductive FirstDifference (world : World) : Value → Value → Difference → Prop where
  | ints {left right : Int64} (apart : left ≠ right) :
    FirstDifference world (.int left) (.int right) (.ordered (compare left.toInt right.toInt))
  | intTuple {number : Int64} {right : Value} {others : List Value}
    (exact : world.exactItems? right = some others) :
    FirstDifference world (.int number) right .mixed
  | tupleInt {number : Int64} {left : Value} {items : List Value}
    (exact : world.exactItems? left = some items) :
    FirstDifference world left (.int number) .mixed
  | shorter {left right other : Value} {front front' rest : List Value}
    (exact : world.exactItems? left = some front)
    (exact' : world.exactItems? right = some (front' ++ other :: rest))
    (common : List.Forall₂ world.Alike front front') :
    FirstDifference world left right (.ordered .lt)
  | longer {left right item : Value} {front front' rest : List Value}
    (exact : world.exactItems? left = some (front ++ item :: rest))
    (exact' : world.exactItems? right = some front')
    (common : List.Forall₂ world.Alike front front') :
    FirstDifference world left right (.ordered .gt)
  | inner {left right item other : Value} {front front' rest rest' : List Value}
    {difference : Difference} (exact : world.exactItems? left = some (front ++ item :: rest))
    (exact' : world.exactItems? right = some (front' ++ other :: rest'))
    (common : List.Forall₂ world.Alike front front')
    (differ : FirstDifference world item other difference) :
    FirstDifference world left right difference

variable {world : World} {left right : Value} {items others : List Value}

theorem alike_or_differ_behind (exact : world.exactItems? left = some items)
    (exact' : world.exactItems? right = some others) (front front' rest rest' : List Value)
    (split : items = front ++ rest) (split' : others = front' ++ rest')
    (common : List.Forall₂ world.Alike front front')
    (parts : ∀ item ∈ rest, ∀ other, world.Nesting other →
      world.Alike item other ∨ ∃ difference, world.FirstDifference item other difference)
    (nested : ∀ other ∈ rest', world.Nesting other) :
    world.Alike left right ∨ ∃ difference, world.FirstDifference left right difference := by
  induction rest generalizing front front' rest' with
  | nil =>
    cases rest' with
    | nil =>
      left
      rw [List.append_nil] at split split'
      subst split split'
      obtain ⟨size, same⟩ := List.forall₂_iff_zip.mp common
      exact .tuple exact exact' size fun item other member => same member
    | cons other rest' =>
      right
      rw [List.append_nil] at split
      exact ⟨_, .shorter (split ▸ exact) (split' ▸ exact') common⟩
  | cons item rest ih =>
    cases rest' with
    | nil =>
      right
      rw [List.append_nil] at split'
      exact ⟨_, .longer (split ▸ exact) (split' ▸ exact') common⟩
    | cons other rest' =>
      rcases parts item List.mem_cons_self other (nested other List.mem_cons_self) with
        same | ⟨difference, differ⟩
      · refine ih (front ++ [item]) (front' ++ [other]) rest' ?_ ?_ ?_ ?_ ?_
        · rw [split, List.append_assoc, List.singleton_append]
        · rw [split', List.append_assoc, List.singleton_append]
        · exact List.rel_append common (.cons same .nil)
        · exact fun item member => parts item (List.mem_cons_of_mem _ member)
        · exact fun other member => nested other (List.mem_cons_of_mem _ member)
      · exact .inr ⟨difference, .inner (split ▸ exact) (split' ▸ exact') common differ⟩

theorem Nesting.alike_or_differ (nesting : world.Nesting left) (nesting' : world.Nesting right) :
    world.Alike left right ∨ ∃ difference, world.FirstDifference left right difference := by
  induction nesting generalizing right with
  | int number =>
    cases nesting' with
    | int other =>
      by_cases same : number = other
      · exact .inl (same ▸ .int number)
      · exact .inr ⟨_, .ints same⟩
    | tuple exact' nested' => exact .inr ⟨_, .intTuple exact'⟩
  | tuple exact nested ih =>
    cases nesting' with
    | int other => exact .inr ⟨_, .tupleInt exact⟩
    | tuple exact' nested' =>
      exact alike_or_differ_behind exact exact' [] [] _ _ rfl rfl .nil
        (fun item member other => ih item member) nested'

theorem items?_of_exact (exact : world.exactItems? left = some items) :
    left.items? = some items := by
  obtain ⟨inst, type, rfl, carries, _⟩ := (world.exactItems?_eq_some_iff left items).mp exact
  rw [Value.items?, carries]
  rfl

theorem FirstDifference.ne {difference : Difference}
    (differ : world.FirstDifference left right difference) : left ≠ right := by
  induction differ with
  | ints apart => exact fun same => apart (Value.int.inj same)
  | intTuple exact =>
    rintro rfl
    cases exact
  | tupleInt exact =>
    rintro rfl
    cases exact
  | shorter exact exact' common =>
    rintro rfl
    have same := congrArg List.length (Option.some.inj (exact.symm.trans exact'))
    simp [common.length_eq] at same
  | longer exact exact' common =>
    rintro rfl
    have same := congrArg List.length (Option.some.inj (exact.symm.trans exact'))
    simp [common.length_eq] at same
  | inner exact exact' common differ ih =>
    rintro rfl
    have same := Option.some.inj (exact.symm.trans exact')
    exact ih (List.cons.inj (List.append_inj same common.length_eq).2).1

theorem FirstDifference.ne_equal {difference : Difference}
    (differ : world.FirstDifference left right difference) : difference ≠ .ordered .eq := by
  induction differ with
  | ints apart =>
    intro same
    exact compare_toInt_ne apart (Difference.ordered.inj same)
  | inner exact exact' common differ ih => exact ih
  | _ => exact nofun

def ComparesNatively (world : World) : Prop :=
  ∀ value items, world.exactItems? value = some items → ∀ asked : Comparison,
    world.lookup (world.typeOf value) asked.method = none

theorem ComparesNatively.undefined (native : world.ComparesNatively)
    (exact : world.exactItems? left = some items) (op : Comparison) : world.Undefined op left :=
  fun _ => native left items exact op

def IntTuple (world : World) (value : Value) (numbers : List Int64) : Prop :=
  world.exactItems? value = some (numbers.map .int)

theorem Undefined.of_int {op : Comparison} (number : Int64) :
    world.Undefined op (.int number) :=
  fun isInstance => nomatch isInstance

end World

def Difference.answer? (op : Comparison) : Difference → Option Bool
  | ordered order => some (op.accepts order)
  | mixed => op.ofEquality? false

theorem Difference.answer?_of_ne {difference : Difference} (proper : difference ≠ .ordered .eq)
    {op : Comparison} {answer : Bool} (told : op.ofEquality? false = some answer) :
    difference.answer? op = some answer := by
  cases difference with
  | ordered order =>
    have apart : order ≠ .eq := fun same => proper (congrArg Difference.ordered same)
    cases op <;> cases told <;> simp [answer?, Comparison.accepts, apart]
  | mixed => exact told

namespace Engine

variable {σ : Type} {engine : Engine σ} {held : Roots} {state : State σ}

theorem richCompare_ints (left right : Int64) (op : Comparison) :
    engine.richCompare (.int left) (.int right) op held state =
      .done (.ok (op.accepts (compare left.toInt right.toInt))) state := by
  rw [richCompare, slotCompare]
  rfl

theorem richCompare_tuples (native : state.world.ComparesNatively) {left right : Value}
    {items others : List Value} (exact : state.world.exactItems? left = some items)
    (exact' : state.world.exactItems? right = some others) (op : Comparison) :
    engine.richCompare left right op held state =
      engine.compareItems items others op held state := by
  rw [richCompare, Eval.bind_apply, slotCompare_apply (native.undefined exact op),
    World.items?_of_exact exact]
  dsimp only
  rw [tupleCompare_eq, World.items?_of_exact exact']
  dsimp only
  rw [Eval.bind_apply]
  cases engine.compareItems items others op held state with
  | done result later => cases result <;> rfl
  | abandoned later => rfl
  | exhausted => rfl

theorem equal_of_equal {left right : Value}
    (equal : engine.richCompare left right .eq held state = .done (.ok true) state) :
    engine.equal left right held state = .done (.ok true) state := by
  by_cases same : left = right
  · subst same
    rw [Engine.equal, containerCompare]
    simp [Comparison.ofEquality?]
  · rw [Engine.equal, containerCompare_of_ne same, equal]

theorem compareItems_front {front front' : List Value}
    (common : List.Forall₂ (fun item other =>
      engine.equal item other held state = .done (.ok true) state) front front')
    (items others : List Value) (op : Comparison) :
    engine.compareItems (front ++ items) (front' ++ others) op held state =
      engine.compareItems items others op held state := by
  induction common with
  | nil => rfl
  | cons equal _ ih =>
    rw [List.cons_append, List.cons_append, compareItems, Eval.bind_apply, ← Engine.equal, equal]
    exact ih

theorem compareItems_differing {item other : Value} (apart : item ≠ other)
    (unequal : engine.richCompare item other .eq held state = .done (.ok false) state)
    (rest rest' : List Value) (op : Comparison) :
    engine.compareItems (item :: rest) (other :: rest') op held state =
      match op.ofEquality? false with
      | some answer => .done (.ok answer) state
      | none => engine.richCompare item other op held state := by
  rw [compareItems, Eval.bind_apply, containerCompare_of_ne apart, unequal]
  dsimp only
  rw [if_neg Bool.false_ne_true]
  cases op.ofEquality? false with
  | some answer => rfl
  | none => rw [containerCompare_of_ne apart]

theorem richCompare_alike (native : state.world.ComparesNatively) {left right : Value}
    (alike : state.world.Alike left right) (op : Comparison) :
    engine.richCompare left right op held state = .done (.ok (op.accepts .eq)) state := by
  induction alike generalizing op with
  | int number => simp [richCompare_ints]
  | tuple exact exact' size same ih =>
    rw [richCompare_tuples native exact exact']
    have equal := List.forall₂_iff_zip.mpr ⟨size, fun {item other} member =>
      equal_of_equal (ih item other member .eq)⟩
    have front := compareItems_front equal [] [] op
    rw [List.append_nil, List.append_nil] at front
    rw [front, compareItems]
    rfl

theorem compareItems_alike (native : state.world.ComparesNatively) {front front' : List Value}
    (common : List.Forall₂ state.world.Alike front front') (items others : List Value)
    (op : Comparison) :
    engine.compareItems (front ++ items) (front' ++ others) op held state =
      engine.compareItems items others op held state :=
  compareItems_front
    (common.imp fun _ _ alike => equal_of_equal (richCompare_alike native alike .eq))
    items others op

theorem richCompare_differing (native : state.world.ComparesNatively) {left right : Value}
    {difference : Difference} (differ : state.world.FirstDifference left right difference)
    (op : Comparison) :
    (engine.richCompare left right op).Settles held state (difference.answer? op) := by
  induction differ generalizing op with
  | ints apart => exact Eval.settles_some.mpr (richCompare_ints _ _ op)
  | @intTuple number right others exact =>
    have settled : (engine.richCompare (.int number) right op).Settles held state _ :=
      richCompare_flat (.of_int number) (native.undefined exact op.swapped) (.inl rfl) held
    rw [Value.flatStanding_swap right, Value.flatStanding_tuple (World.items?_of_exact exact) rfl]
      at settled
    exact settled
  | @tupleInt number left items exact =>
    have settled : (engine.richCompare left (.int number) op).Settles held state _ :=
      richCompare_flat (native.undefined exact op) (.of_int number) (.inr rfl) held
    rw [Value.flatStanding_tuple (World.items?_of_exact exact) rfl] at settled
    exact settled
  | @shorter _ _ other front front' rest exact exact' common =>
    have skipped : engine.compareItems front (front' ++ other :: rest) op held state =
        engine.compareItems [] (other :: rest) op held state := by
      simpa using compareItems_alike native common [] (other :: rest) op
    rw [Eval.Settles, richCompare_tuples native exact exact', skipped, compareItems]
    exact ⟨"", rfl⟩
  | @longer _ _ item front front' rest exact exact' common =>
    have skipped : engine.compareItems (front ++ item :: rest) front' op held state =
        engine.compareItems (item :: rest) [] op held state := by
      simpa using compareItems_alike native common (item :: rest) [] op
    rw [Eval.Settles, richCompare_tuples native exact exact', skipped, compareItems]
    exact ⟨"", rfl⟩
  | @inner _ _ item other _ _ rest rest' difference exact exact' common differ ih =>
    have unequal := ih .eq
    rw [Difference.answer?_of_ne differ.ne_equal rfl, Eval.settles_some] at unequal
    rw [Eval.Settles, richCompare_tuples native exact exact', compareItems_alike native common,
      compareItems_differing differ.ne unequal]
    cases told : op.ofEquality? false with
    | some answer =>
      rw [Difference.answer?_of_ne differ.ne_equal told]
      exact ⟨"", rfl⟩
    | none => exact ih op

theorem compareItems_int_cons {number other : Int64} (apart : number ≠ other)
    (rest rest' : List Value) (op : Comparison) :
    engine.compareItems (.int number :: rest) (.int other :: rest') op held state =
      .done (.ok (op.accepts (compare number.toInt other.toInt))) state := by
  have different := compare_toInt_ne apart
  have unequal : engine.richCompare (.int number) (.int other) .eq held state =
      .done (.ok false) state := by
    rw [richCompare_ints]
    simp [Comparison.accepts, different]
  rw [compareItems_differing (by simpa using apart) unequal]
  cases op <;> simp [Comparison.ofEquality?, richCompare_ints, Comparison.accepts, different]

theorem compareItems_ints (numbers others : List Int64) (op : Comparison) :
    engine.compareItems (numbers.map .int) (others.map .int) op held state =
      .done (.ok (op.accepts (lexicographic numbers others))) state := by
  induction numbers generalizing others with
  | nil => cases others <;> simp only [List.map_nil, List.map_cons] <;> rw [compareItems] <;> rfl
  | cons number numbers ih =>
    cases others with
    | nil =>
      rw [List.map_cons, List.map_nil, compareItems]
      rfl
    | cons other others =>
      simp only [lexicographic, List.map_cons, List.compareLex_cons_cons]
      by_cases same : number = other
      · subst same
        rw [compareItems, Eval.bind_apply, containerCompare]
        simpa [Comparison.ofEquality?, lexicographic] using ih others
      · rw [compareItems_int_cons same]
        cases order : compare number.toInt other.toInt with
        | eq => exact absurd order (compare_toInt_ne same)
        | lt => rfl
        | gt => rfl

theorem richCompare_intTuples (native : state.world.ComparesNatively) {left right : Value}
    {numbers others : List Int64} (flat : state.world.IntTuple left numbers)
    (flat' : state.world.IntTuple right others) (op : Comparison) :
    engine.richCompare left right op held state =
      .done (.ok (op.accepts (lexicographic numbers others))) state := by
  rw [richCompare_tuples native flat flat', compareItems_ints]

def Below (engine : Engine σ) (held : Roots) (state : State σ) (left right : Value) : Prop :=
  engine.richCompare left right .lt held state = .done (.ok true) state

/-- How the six operators stand to each other where one of three relations holds. -/
structure Consistent (engine : Engine σ) (held : Roots) (state : State σ) (left right : Value)
    (less same greater : Bool) : Prop where
  lt : engine.richCompare left right .lt held state = .done (.ok less) state
  eq : engine.richCompare left right .eq held state = .done (.ok same) state
  gt : engine.richCompare left right .gt held state = .done (.ok greater) state
  le : engine.richCompare left right .le held state = .done (.ok (less || same)) state
  ge : engine.richCompare left right .ge held state = .done (.ok (greater || same)) state
  ne : engine.richCompare left right .ne held state = .done (.ok !same) state
  exchanged : engine.richCompare right left .lt held state = .done (.ok greater) state
  one : [less, same, greater].count true = 1

theorem consistent_intTuples (native : state.world.ComparesNatively) {left right : Value}
    {numbers others : List Int64} (flat : state.world.IntTuple left numbers)
    (flat' : state.world.IntTuple right others) :
    ∃ less same greater, engine.Consistent held state left right less same greater := by
  have answers (op : Comparison) : engine.richCompare left right op held state = _ :=
    richCompare_intTuples native flat flat' op
  have exchanged : engine.richCompare right left .lt held state = _ :=
    richCompare_intTuples native flat' flat .lt
  rw [lexicographic_swap] at exchanged
  cases order : lexicographic numbers others <;>
    rw [order] at exchanged <;> simp only [order] at answers
  case lt => exact ⟨true, false, false, answers .lt, answers .eq, answers .gt, answers .le,
    answers .ge, answers .ne, exchanged, rfl⟩
  case eq => exact ⟨false, true, false, answers .lt, answers .eq, answers .gt, answers .le,
    answers .ge, answers .ne, exchanged, rfl⟩
  case gt => exact ⟨false, false, true, answers .lt, answers .eq, answers .gt, answers .le,
    answers .ge, answers .ne, exchanged, rfl⟩

structure Lexicographic (engine : Engine σ) (held : Roots) (state : State σ) : Prop where
  exhaustive : ∀ a b, state.world.Nesting a → state.world.Nesting b →
    state.world.Alike a b ∨ ∃ difference, state.world.FirstDifference a b difference
  alike : ∀ a b op, state.world.Alike a b →
    engine.richCompare a b op held state = .done (.ok (op.accepts .eq)) state
  ordered : ∀ a b order op, state.world.FirstDifference a b (.ordered order) →
    engine.richCompare a b op held state = .done (.ok (op.accepts order)) state
  mixed : ∀ a b, state.world.FirstDifference a b .mixed →
    engine.richCompare a b .eq held state = .done (.ok false) state ∧
    engine.richCompare a b .ne held state = .done (.ok true) state ∧
    ∀ op ∈ [.lt, .le, .gt, .ge], ∃ text,
      engine.richCompare a b op held state = .done (.error (.typeMismatch text)) state
  flat : ∀ a b numbers others op, state.world.IntTuple a numbers → state.world.IntTuple b others →
    engine.richCompare a b op held state =
      .done (.ok (op.accepts (lexicographic numbers others))) state
  irreflexive : ∀ a numbers, state.world.IntTuple a numbers → ¬ engine.Below held state a a
  transitive : ∀ a b c numbers others last, state.world.IntTuple a numbers →
    state.world.IntTuple b others → state.world.IntTuple c last →
    engine.Below held state a b → engine.Below held state b c → engine.Below held state a c
  consistent : ∀ a b numbers others, state.world.IntTuple a numbers →
    state.world.IntTuple b others → ∃ less same greater, engine.Consistent held state a b less same greater

theorem below_iff (native : state.world.ComparesNatively) {left right : Value}
    {numbers others : List Int64} (flat : state.world.IntTuple left numbers)
    (flat' : state.world.IntTuple right others) :
    engine.Below held state left right ↔
      lexicographic numbers others = .lt := by
  rw [Below, richCompare_intTuples native flat flat']
  simp [Comparison.accepts]

theorem comparison_lexicographic (engine : Engine σ) (held : Roots) (state : State σ)
    (native : state.world.ComparesNatively) : engine.Lexicographic held state where
  exhaustive _ _ nesting nesting' := nesting.alike_or_differ nesting'
  alike _ _ op alike := richCompare_alike native alike op
  ordered _ _ _ op differ := Eval.settles_some.mp (richCompare_differing native differ op)
  mixed a b differ := by
    have settled (op : Comparison) : (engine.richCompare a b op).Settles held state _ :=
      richCompare_differing native differ op
    refine ⟨Eval.settles_some.mp (settled .eq), Eval.settles_some.mp (settled .ne), ?_⟩
    simp only [List.forall_mem_cons]
    exact ⟨settled .lt, settled .le, settled .gt, settled .ge, nofun⟩
  flat _ _ _ _ op flat flat' := richCompare_intTuples native flat flat' op
  irreflexive a numbers flat := by
    rw [below_iff native flat flat, lexicographic_self]
    exact nofun
  transitive a b c numbers others last flat flat' flat'' := by
    rw [below_iff native flat flat', below_iff native flat' flat'', below_iff native flat flat'']
    exact lexicographic_trans
  consistent _ _ _ _ flat flat' := consistent_intTuples native flat flat'

theorem initial_comparesNatively : World.initial.ComparesNatively := by
  intro value items exact asked
  obtain ⟨⟨serial, ⟨index⟩, store, payload⟩, type, rfl, _, known, _⟩ :=
    (World.exactItems?_eq_some_iff ..).mp exact
  have old : index < 18 := Cells.get?_lt_size known
  -- No built-in type at all defines one.
  interval_cases index <;> cases asked <;> rfl

theorem comparison_lexicographic_behind :
    World.initial.ComparesNatively ∧
    (idleHost.engine {} 1 1).richCompare
      (.object ⟨300, Builtin.tuple.key, none, .tuple [.int 1,
        .object ⟨301, Builtin.tuple.key, none, .tuple [.int 2, .int 9]⟩, .none]⟩)
      (.object ⟨302, Builtin.tuple.key, none, .tuple [.int 1,
        .object ⟨303, Builtin.tuple.key, none, .tuple [.int 2, .int 10]⟩]⟩)
      .lt {} ⟨World.initial, ()⟩ = .done (.ok true) ⟨World.initial, ()⟩ := by
  refine ⟨initial_comparesNatively, ?_⟩
  refine (comparison_lexicographic (idleHost.engine {} 1 1) {} ⟨World.initial, ()⟩
    initial_comparesNatively).ordered _ _ .lt .lt ?_
  apply World.FirstDifference.inner (show _ = some ([.int 1] ++ _ :: [.none]) from rfl)
    (show _ = some ([.int 1] ++ _ :: []) from rfl) (.cons (.int 1) .nil)
  apply World.FirstDifference.inner (show _ = some ([.int 2] ++ _ :: []) from rfl)
    (show _ = some ([.int 2] ++ _ :: []) from rfl) (.cons (.int 2) .nil)
  exact .ints (by decide)

def overridden : State Unit where
  world := World.initial.setMember Builtin.tuple.key "__lt__"
    (.function ⟨299, "tuple", "__lt__", .method, none, .code ⟨0⟩⟩)
  host := ()

theorem comparison_overridden :
    overridden.world.FirstDifference
      (.object ⟨300, Builtin.tuple.key, none, .tuple [.int 1]⟩)
      (.object ⟨301, Builtin.tuple.key, none, .tuple [.int 2]⟩) (.ordered .lt) ∧
    (idleHost.engine {} 1 2).richCompare
      (.object ⟨300, Builtin.tuple.key, none, .tuple [.int 1]⟩)
      (.object ⟨301, Builtin.tuple.key, none, .tuple [.int 2]⟩) .lt {} overridden =
      .done (.ok false) { overridden with world := overridden.world.newSerial.2 } := by
  constructor
  · exact .inner (show _ = some ([] ++ _ :: []) from rfl) (show _ = some ([] ++ _ :: []) from rfl)
      .nil (.ints (by decide))
  · -- A comparison written into the type of tuples answers in its own way.
    rw [richCompare, slotCompare]
    rfl

end Engine

end ObjectModel
