import ObjectModel.Proofs.Calling
import ObjectModel.Proofs.CheckedIteration
import ObjectModel.Proofs.ExactTuples
import ObjectModel.Proofs.Suspension

set_option autoImplicit false

namespace ObjectModel

inductive Direction where
  | forward | backward
  deriving DecidableEq, Repr

inductive Place where
  | active (index : Nat)
  | exhausted
  deriving DecidableEq, Repr

namespace Direction

def kind : Direction → IteratorKind
  | forward => .tuple
  | backward => .reversed

def method : Direction → TupleMethod
  | forward => .iterate
  | backward => .reverse

def start (length : Nat) : Direction → Place
  | forward => .active 0
  | backward => .active length

def reads? (length : Nat) : Direction → Place → Option Nat
  | _, .exhausted => none
  | forward, .active index => if index < length then some index else none
  | backward, .active 0 => none
  | backward, .active (index + 1) => some index

def step (length : Nat) : Direction → Place → Place
  | _, .exhausted => .exhausted
  | forward, .active index => if index < length then .active (index + 1) else .exhausted
  | backward, .active 0 => .exhausted
  | backward, .active (index + 1) => .active index

def hint (length : Nat) : Direction → Place → Nat
  | _, .exhausted => 0
  | forward, .active index => forwardHint length index
  | backward, .active index => backwardHint index

def place (direction : Direction) (length : Nat) : Nat → Place
  | 0 => direction.start length
  | steps + 1 => direction.step length (direction.place length steps)

def index (length turn : Nat) : Direction → Nat
  | forward => turn
  | backward => length - 1 - turn

def order (items : List Value) : Direction → List Value
  | forward => items
  | backward => items.reverse

variable (direction : Direction) (items : List Value)

theorem place_eq (length steps : Nat) :
    direction.place length steps =
      if steps ≤ length then
        match direction with
        | forward => .active steps
        | backward => .active (length - steps)
      else .exhausted := by
  induction steps with
  | zero => cases direction <;> simp [place, start]
  | succ steps ih =>
    rw [place, ih]
    by_cases more : steps < length
    · rw [if_pos more.le, if_pos (Nat.succ_le_of_lt more)]
      cases direction with
      | forward => simp [step, more]
      | backward =>
        obtain ⟨left, rfl⟩ := Nat.exists_eq_add_of_lt more
        rw [show steps + left + 1 - steps = left + 1 by omega,
          show steps + left + 1 - (steps + 1) = left by omega]
        rfl
    · rw [if_neg (by omega : ¬ steps + 1 ≤ length)]
      by_cases last : steps = length
      · subst last
        cases direction <;> simp [step]
      · rw [if_neg (by omega)]
        cases direction <;> rfl

theorem reads?_place (length turn : Nat) :
    direction.reads? length (direction.place length turn) =
      if turn < length then some (direction.index length turn) else none := by
  rw [place_eq]
  by_cases more : turn < length
  · rw [if_pos more.le, if_pos more]
    cases direction with
    | forward => simp [reads?, more, index]
    | backward =>
      obtain ⟨left, rfl⟩ := Nat.exists_eq_add_of_lt more
      rw [index, show turn + left + 1 - turn = left + 1 by omega,
        show turn + left + 1 - 1 - turn = left by omega]
      rfl
  · rw [if_neg more]
    by_cases last : turn = length
    · subst last
      cases direction <;> simp [reads?]
    · rw [if_neg (by omega)]
      cases direction <;> rfl

theorem hint_place (length steps : Nat) :
    direction.hint length (direction.place length steps) = length - steps := by
  rw [place_eq]
  by_cases within : steps ≤ length
  · rw [if_pos within]
    cases direction <;> rfl
  · rw [if_neg within, Nat.sub_eq_zero_of_le (by omega)]
    cases direction <;> rfl

theorem index_lt {length turn : Nat} (inside : turn < length) :
    direction.index length turn < length := by
  cases direction with
  | forward => exact inside
  | backward =>
    rw [index]
    omega

@[simp]
theorem length_order : (direction.order items).length = items.length := by
  cases direction <;> simp [order]

theorem getElem?_order {turn : Nat} (inside : turn < items.length) :
    (direction.order items)[turn]? = items[direction.index items.length turn]? := by
  cases direction with
  | forward => rfl
  | backward => exact List.getElem?_reverse inside

end Direction

def cursorAfter (order : List Value) (steps : Nat) : Cursor :=
  if steps ≤ order.length then .walking order (order.drop steps) else .finished

theorem lengthHint_cursorAfter (order : List Value) (steps : Nat) :
    (cursorAfter order steps).lengthHint = order.length - steps := by
  rw [cursorAfter]
  split
  · exact List.length_drop
  · rw [Nat.sub_eq_zero_of_le (by omega)]
    rfl

namespace World

variable {world : World} {cursor : CursorKey} {order : List Value} {steps : Nat}

theorem lengthHint_of_cursorAfter
    (stands : world.cursors.get? cursor.index = some (cursorAfter order steps)) :
    world.lengthHint cursor = order.length - steps := by
  rw [lengthHint, stands]
  exact lengthHint_cursorAfter order steps

theorem stepCursor_cursorAfter :
    world.stepCursor (cursorAfter order steps) =
      (.ok order[steps]?, cursorAfter order (steps + 1)) := by
  by_cases more : steps < order.length
  · rw [cursorAfter, cursorAfter, if_pos more.le, if_pos (Nat.succ_le_of_lt more),
      List.drop_eq_getElem_cons more, List.getElem?_eq_getElem more]
    rfl
  · rw [cursorAfter, cursorAfter, if_neg (by omega : ¬ steps + 1 ≤ order.length),
      List.getElem?_eq_none (by omega)]
    split
    · rw [List.drop_eq_nil_of_le (by omega)]
      rfl
    · rfl

theorem watchesChange_cursorAfter
    (stands : world.cursors.get? cursor.index = some (cursorAfter order steps)) :
    world.watchesChange cursor = false := by
  unfold cursorAfter at stands
  split at stands <;> simp [watchesChange, stands]

end World

def State.withCursors {σ : Type} (state : State σ) (cursors : Cells Cursor) : State σ :=
  { state with world := { state.world with cursors } }

theorem State.withCursors_modify {σ : Type} {state : State σ} {cursor : CursorKey} {here : Cursor}
    (stands : state.world.cursors.get? cursor.index = some here) (there : Cursor) :
    (state.withCursors (state.world.cursors.modify cursor.index fun _ => there)).world.cursors.get?
      cursor.index = some there := by
  simp [withCursors, Cells.get?_modify, stands]

namespace Engine

variable {σ : Type} {engine : Engine σ} {state : State σ} {cursor : CursorKey}
  {kind : IteratorKind} {order : List Value} {steps : Nat}

theorem advance_cursorAfter (held : Roots)
    (stands : state.world.cursors.get? cursor.index = some (cursorAfter order steps)) :
    engine.advance cursor held state = .done (.ok order[steps]?)
      (state.withCursors
        (state.world.cursors.modify cursor.index fun _ => cursorAfter order (steps + 1))) := by
  have step : state.world.advance cursor = (.ok order[steps]?, { state.world with
      cursors := state.world.cursors.modify cursor.index
        fun _ => cursorAfter order (steps + 1) }) := by
    simp only [World.advance, stands, World.stepCursor_cursorAfter]
  rw [advance, Eval.world_bind_apply, World.watchesChange_cursorAfter stands]
  simp only [Bool.false_eq_true, if_false, Eval.bind_apply, Eval.create, step]
  rfl

theorem takeAll_cursorAfter (rounds : Nat) (held : Roots) (taken : List Value)
    (enough : order.length - steps < rounds)
    (stands : state.world.cursors.get? cursor.index = some (cursorAfter order steps)) :
    ∃ cursors, engine.takeAll (.iterator cursor kind) rounds taken held state =
      .done (.ok (taken.reverse ++ order.drop steps)) (state.withCursors cursors) := by
  induction rounds generalizing steps held taken state with
  | zero => omega
  | succ rounds ih =>
    have asked : engine.next (.iterator cursor kind) held state = _ :=
      advance_cursorAfter held stands
    rw [takeAll, Eval.bind_apply, asked]
    cases next : order[steps]? with
    | none =>
      have ended : order.drop steps = [] := List.drop_eq_nil_of_le (by simpa using next)
      rw [ended, List.append_nil]
      exact ⟨_, rfl⟩
    | some value =>
      obtain ⟨inside, here⟩ := List.getElem?_eq_some_iff.mp next
      have moved := State.withCursors_modify stands (cursorAfter order (steps + 1))
      obtain ⟨cursors, done⟩ := ih (held.addValues [value]) (value :: taken) (by omega) moved
      refine ⟨cursors, ?_⟩
      rw [List.drop_eq_getElem_cons inside, here]
      rwa [List.reverse_cons, List.append_assoc] at done

variable (engine kind) in
theorem collect_cursorAfter (held : Roots)
    (stands : state.world.cursors.get? cursor.index = some (cursorAfter order steps)) :
    ∃ cursors, engine.collect (.iterator cursor kind) held state =
      .done (.ok (order.drop steps)) (state.withCursors cursors) := by
  have rounds := World.lengthHint_of_cursorAfter stands
  have enough : order.length - steps < state.world.lengthHint cursor + 1 := by omega
  exact takeAll_cursorAfter _ (held.addValues [.iterator cursor kind]) [] enough stands

theorem callSpecial_method (receiver : Value) {name : String} {function : Function}
    (positional : List Value) (held : Roots)
    (found : state.world.lookup (state.world.typeOf receiver) name = some (.function function))
    (method : function.binding = .method) :
    engine.callSpecial receiver name positional held state =
      (some <$> engine.call (.boundMethod state.world.nextSerial function receiver)
        { positional }) held { state with world := state.world.newSerial.2 } := by
  rw [callSpecial, lookupSpecial, bind_assoc, Eval.world_bind_apply]
  simp only [found, descriptorGet, method, complete_ready, bind_assoc, pure_bind,
    map_eq_pure_bind]
  rfl

theorem typeCall_cursorAfter {made : List (TypeKey × Storage)} (held : Roots)
    (grown : World.Grown {} state.world made)
    (plain : state.world.lookup Builtin.tuple.key "__init__" = none)
    (stands : state.world.cursors.get? cursor.index = some (cursorAfter order steps)) :
    ∃ value later, engine.typeCall Builtin.tuple.key { positional := [.iterator cursor kind] } held
        state = .done (.ok value) later ∧
      later.world.exactItems? value = some (order.drop steps) := by
  have slot : state.world.newSlot? Builtin.tuple.key = some (.native .tuple) := by
    rw [← World.builtinKey_first, (grown.lineage.native .tuple).newSlot?_eq]
    rfl
  obtain ⟨cursors, collected⟩ := collect_cursorAfter engine kind held stands
  let reached := (state.withCursors cursors).world
  have makes : reached.MakesTuples := grown.makesTuples.of_types_eq rfl
  have after : reached.newSerial.2.MakesTuples := makes.of_types_eq rfl
  have constructed : engine.construct .tuple Builtin.tuple.key
      { positional := [.iterator cursor kind] } held state =
        .done (.ok (reached.freshTuple (order.drop steps))) ⟨reached.newSerial.2, state.host⟩ := by
    change (engine.collect (.iterator cursor kind) >>= Eval.tuple) held state = _
    rw [Eval.bind_apply, collected]
    exact Eval.tuple_fresh makes (order.drop steps) held
  have uninitialised : reached.newSerial.2.initialiser? Builtin.tuple.key
      (reached.freshTuple (order.drop steps)) = none := by
    rw [World.initialiser?, after.typeOf_freshTuple]
    split
    · exact plain
    · rfl
  refine ⟨reached.freshTuple (order.drop steps), ⟨reached.newSerial.2, state.host⟩, ?_,
    after.exactItems?_freshTuple (order.drop steps)⟩
  rw [typeCall_apply, slot]
  dsimp only
  rw [Eval.bind_apply, constructed]
  dsimp only
  rw [initialised, Eval.world_bind_apply, uninitialised]
  rfl

end Engine

namespace World

def Walks (world : World) (type : TypeKey) (direction : Direction) : Prop :=
  ∃ function, world.lookup type direction.method.name = some (.function function) ∧
    function.binding = .method ∧ function.body = .tuple direction.method

end World

def Direction.begin {σ : Type} (engine : Engine σ) (value : Value) : Direction → Eval σ Value
  | forward => engine.iter value
  | backward => engine.reversed value

theorem Host.engine_begin {σ : Type} (host : Host σ) (limits : Limits) (patience depth : Nat)
    (direction : Direction) {tuple : Value} {items : List Value} (held : Roots) {state : State σ}
    (carries : tuple.items? = some items)
    (walks : state.world.Walks (state.world.typeOf tuple) direction) :
    direction.begin (host.engine limits patience (depth + 1)) tuple held state =
      .done (.ok (.iterator ⟨state.world.cursors.size⟩ direction.kind))
        { state with world := { state.world with
            nextSerial := state.world.nextSerial + 1
            cursors := state.world.cursors.push (cursorAfter (direction.order items) 0) } } := by
  obtain ⟨function, found, method, body⟩ := walks
  have called : (host.engine limits patience (depth + 1)).callSpecial tuple direction.method.name []
      held state = (some <$> (Engine.iterate direction.kind (direction.order items) : Eval σ Value))
        held { state with world := state.world.newSerial.2 } := by
    rw [Engine.callSpecial_method tuple [] held found method]
    apply Eval.map_congr
    cases direction <;>
      simp only [engine, Eval.holding, Engine.callValue, Engine.invoke, body, Engine.tupleMethod,
        Arguments.prepend, carries, Direction.method, Direction.kind, Direction.order] <;>
      rfl
  cases tuple with
  | object inst =>
    cases direction with
    | forward =>
      change ((host.engine limits patience (depth + 1)).callSpecial _
        Direction.forward.method.name _ >>= _) held state = _
      rw [Eval.bind_apply, called]
      rfl
    | backward =>
      change ((host.engine limits patience (depth + 1)).callSpecial _
        Direction.backward.method.name _ >>= _) held state = _
      rw [Eval.bind_apply, called]
      rfl
  | _ => cases carries

inductive Turn where
  | began (cursor : CursorKey) (direction : Direction) (items : List Value)
  | answered (cursor : CursorKey) (answer : Except Error (Option Value))

def Turn.answer? (cursor : CursorKey) : Turn → Option (Except Error (Option Value))
  | answered other answer => if other = cursor then some answer else none
  | began .. => none

def Turn.begun? : Turn → Option CursorKey
  | began cursor .. => some cursor
  | answered .. => none

def answersOf (cursor : CursorKey) (log : List Turn) : List (Except Error (Option Value)) :=
  log.filterMap (Turn.answer? cursor)

/-- Where iterators over tuples can get to from `start`, and what was seen on the way. -/
inductive Traversal {σ : Type} (host : Host σ) (limits : Limits) (patience : Nat)
    (start : State σ) : State σ → List Turn → Prop where
  | start : Traversal host limits patience start start []
  | began {state later : State σ} {log : List Turn} {depth : Nat} {held : Roots} {tuple : Value}
    {items : List Value} {direction : Direction} {cursor : CursorKey} {kind : IteratorKind}
    (before : Traversal host limits patience start state log)
    (carries : tuple.items? = some items)
    (walks : state.world.Walks (state.world.typeOf tuple) direction)
    (made : direction.begin (host.engine limits patience (depth + 1)) tuple held state =
      .done (.ok (.iterator cursor kind)) later) :
    Traversal host limits patience start later (log ++ [.began cursor direction items])
  | asked {state later : State σ} {log : List Turn} {depth : Nat} {held : Roots}
    {items : List Value} {direction : Direction} {cursor : CursorKey} {kind : IteratorKind}
    {answer : Except Error (Option Value)}
    (before : Traversal host limits patience start state log)
    (known : .began cursor direction items ∈ log)
    (answered : (host.engine limits patience depth).next (.iterator cursor kind) held state =
      .done answer later) :
    Traversal host limits patience start later (log ++ [.answered cursor answer])
  | hinted {state later : State σ} {log : List Turn} {depth : Nat} {held : Roots}
    {cursor : CursorKey} {kind : IteratorKind} {answer : Except Error Value}
    (before : Traversal host limits patience start state log)
    (given : (host.engine limits patience depth).iteratorMethod .lengthHint
      { positional := [.iterator cursor kind] } held state = .done answer later) :
    Traversal host limits patience start later log
  -- What this gives is the same iterator, so that the handles have one cursor.
  | shared {state later : State σ} {log : List Turn} {depth : Nat} {held : Roots}
    {cursor : CursorKey} {kind : IteratorKind} {answer : Except Error Value}
    (before : Traversal host limits patience start state log)
    (given : (host.engine limits patience depth).iter (.iterator cursor kind) held state =
      .done answer later) :
    Traversal host limits patience start later log
  | elsewhere {state later : State σ} {log : List Turn}
    (before : Traversal host limits patience start state log)
    (size : state.world.cursors.size ≤ later.world.cursors.size)
    (iterators : ∀ cursor direction items, .began cursor direction items ∈ log →
      later.world.cursors.get? cursor.index = state.world.cursors.get? cursor.index) :
    Traversal host limits patience start later log

theorem answersOf_append_began (cursor other : CursorKey) (direction : Direction)
    (items : List Value) (log : List Turn) :
    answersOf cursor (log ++ [.began other direction items]) = answersOf cursor log := by
  simp [answersOf, Turn.answer?]

theorem answersOf_append_answered (cursor other : CursorKey)
    (answer : Except Error (Option Value)) (log : List Turn) :
    answersOf cursor (log ++ [.answered other answer]) =
      if other = cursor then answersOf cursor log ++ [answer] else answersOf cursor log := by
  by_cases same : other = cursor <;> simp [answersOf, Turn.answer?, same]

theorem index_ne {cursor other : CursorKey} (apart : other ≠ cursor) :
    other.index ≠ cursor.index :=
  fun same => apart (congrArg CursorKey.mk same)

structure World.Traversed (world : World) (log : List Turn) : Prop where
  stands : ∀ cursor direction items, .began cursor direction items ∈ log →
    world.cursors.get? cursor.index =
      some (cursorAfter (direction.order items) (answersOf cursor log).length)
  given : ∀ cursor direction items, .began cursor direction items ∈ log →
    ∀ (turn : Nat) (answer : Except Error (Option Value)),
      (answersOf cursor log)[turn]? = some answer → answer = .ok (direction.order items)[turn]?
  fresh : ∀ cursor, world.cursors.size ≤ cursor.index → answersOf cursor log = []
  distinct : (log.filterMap Turn.begun?).Nodup

namespace World.Traversed

variable {σ : Type} {world later : World} {log : List Turn}

theorem carry (traversed : world.Traversed log)
    (size : world.cursors.size ≤ later.cursors.size)
    (iterators : ∀ cursor direction items, .began cursor direction items ∈ log →
      later.cursors.get? cursor.index = world.cursors.get? cursor.index) :
    later.Traversed log where
  stands cursor direction items began := by
    rw [iterators cursor direction items began, traversed.stands cursor direction items began]
  given := traversed.given
  fresh cursor outside := traversed.fresh cursor (size.trans outside)
  distinct := traversed.distinct

theorem began (traversed : world.Traversed log) (direction : Direction) (items : List Value)
    (pushed : later.cursors = world.cursors.push (cursorAfter (direction.order items) 0)) :
    later.Traversed (log ++ [.began ⟨world.cursors.size⟩ direction items]) where
  stands cursor direction' items' member := by
    rw [answersOf_append_began, pushed, Cells.get?_push]
    obtain old | new := List.mem_append.mp member
    · have cell := traversed.stands cursor direction' items' old
      rw [if_neg (Cells.get?_lt_size cell).ne, cell]
    · obtain ⟨rfl, rfl, rfl⟩ :
          cursor = ⟨world.cursors.size⟩ ∧ direction' = direction ∧ items' = items := by
        simpa using new
      rw [if_pos rfl, traversed.fresh ⟨world.cursors.size⟩ (Nat.le_refl world.cursors.size),
        List.length_nil]
  given cursor direction' items' member turn answer answered := by
    rw [answersOf_append_began] at answered
    obtain old | new := List.mem_append.mp member
    · exact traversed.given cursor direction' items' old turn answer answered
    · obtain ⟨rfl, -, -⟩ :
          cursor = ⟨world.cursors.size⟩ ∧ direction' = direction ∧ items' = items := by
        simpa using new
      rw [traversed.fresh ⟨world.cursors.size⟩ (Nat.le_refl world.cursors.size)] at answered
      cases answered
  fresh cursor outside := by
    rw [pushed, Cells.size_push] at outside
    rw [answersOf_append_began, traversed.fresh cursor (by omega)]
  distinct := by
    rw [List.filterMap_append]
    refine List.Nodup.append traversed.distinct (List.nodup_singleton _) ?_
    intro cursor old new
    obtain ⟨turn, member, begun⟩ := List.mem_filterMap.mp old
    cases turn with
    | answered => cases begun
    | began cursor' direction' items' =>
      cases begun
      have inside := Cells.get?_lt_size (traversed.stands _ _ _ member)
      cases List.mem_singleton.mp new
      exact absurd inside (Nat.lt_irrefl _)

theorem asked {engine : Engine σ} {state later : State σ} {held : Roots} {cursor : CursorKey}
    {kind : IteratorKind} {direction : Direction} {items : List Value}
    {answer : Except Error (Option Value)} (traversed : state.world.Traversed log)
    (known : .began cursor direction items ∈ log)
    (answered : engine.next (.iterator cursor kind) held state = .done answer later) :
    later.world.Traversed (log ++ [.answered cursor answer]) := by
  have asked (direction : Direction) (items : List Value)
      (known : .began cursor direction items ∈ log) :
      answer = .ok (direction.order items)[(answersOf cursor log).length]? ∧
        later.world.cursors = state.world.cursors.modify cursor.index
          fun _ => cursorAfter (direction.order items) ((answersOf cursor log).length + 1) := by
    have step : engine.next (.iterator cursor kind) held state = _ :=
      Engine.advance_cursorAfter held (traversed.stands cursor direction items known)
    rw [answered] at step
    obtain ⟨rfl, rfl⟩ := Outcome.done.inj step
    exact ⟨rfl, rfl⟩
  have size : later.world.cursors.size = state.world.cursors.size := by
    rw [(asked direction items known).2, Cells.size_modify]
  refine ⟨fun other direction' items' member => ?_, fun other direction' items' member => ?_,
    fun other outside => ?_, ?_⟩
  · have old : .began other direction' items' ∈ log := by simpa using member
    rw [answersOf_append_answered]
    by_cases same : cursor = other
    · subst same
      rw [if_pos rfl, (asked direction' items' old).2, Cells.get?_modify, if_pos rfl,
        traversed.stands cursor direction' items' old, List.length_append]
      rfl
    · rw [if_neg same, (asked direction items known).2, Cells.get?_modify, if_neg (index_ne same)]
      exact traversed.stands other direction' items' old
  · have old : .began other direction' items' ∈ log := by simpa using member
    intro turn later there
    rw [answersOf_append_answered] at there
    by_cases same : cursor = other
    · subst same
      rw [if_pos rfl] at there
      by_cases before : turn < (answersOf cursor log).length
      · rw [List.getElem?_append_left before] at there
        exact traversed.given cursor direction' items' old turn later there
      · rw [List.getElem?_append_right (Nat.le_of_not_lt before),
          List.getElem?_singleton] at there
        split at there
        · have last : turn = (answersOf cursor log).length := by omega
          cases there
          rw [last]
          exact (asked direction' items' old).1
        · cases there
    · rw [if_neg same] at there
      exact traversed.given other direction' items' old turn later there
  · rw [size] at outside
    have inside := Cells.get?_lt_size (traversed.stands cursor direction items known)
    have apart : cursor ≠ other := by
      rintro rfl
      omega
    rw [answersOf_append_answered, if_neg apart]
    exact traversed.fresh other outside
  · rw [List.filterMap_append]
    simpa [List.filterMap_cons, Turn.begun?] using traversed.distinct

end World.Traversed

section

variable {σ : Type} {host : Host σ} {limits : Limits} {patience : Nat} {start state : State σ}
  {log : List Turn}

theorem Traversal.traversed (traversal : Traversal host limits patience start state log) :
    state.world.Traversed log := by
  induction traversal with
  | start => exact ⟨by simp, by simp, by simp [answersOf], List.nodup_nil⟩
  | began before carries walks made ih =>
    rw [Host.engine_begin host _ _ _ _ _ carries walks] at made
    obtain ⟨result, rfl⟩ := Outcome.done.inj made
    cases result
    exact ih.began _ _ rfl
  | asked before known answered ih => exact ih.asked known answered
  | hinted before given ih | shared before given ih =>
    obtain ⟨-, rfl⟩ := Outcome.done.inj given
    exact ih
  | elsewhere before size iterators ih => exact ih.carry size iterators

structure YieldsOnce (state : State σ) (log : List Turn) (cursor : CursorKey)
    (direction : Direction) (items : List Value) : Prop where
  read : ∀ (turn : Nat) (answer : Except Error (Option Value)),
    (answersOf cursor log)[turn]? = some answer →
    answer = .ok ((direction.reads? items.length (direction.place items.length turn)).bind
      (items[·]?))
  values : ∀ (turn : Nat) (answer : Except Error (Option Value)),
    (answersOf cursor log)[turn]? = some answer → turn < items.length →
    ∃ value, items[direction.index items.length turn]? = some value ∧ answer = .ok (some value)
  ended : ∀ (turn : Nat) (answer : Except Error (Option Value)),
    (answersOf cursor log)[turn]? = some answer → items.length ≤ turn → answer = .ok none
  indices : ∀ steps index,
    direction.reads? items.length (direction.place items.length steps) = some index →
    index < items.length
  hint : state.world.lengthHint cursor = items.length - (answersOf cursor log).length ∧
    state.world.lengthHint cursor = direction.hint items.length
      (direction.place items.length (answersOf cursor log).length)
  -- Asking again gives an answer, and no other iterator is elsewhere then.
  next : ∀ (engine : Engine σ) kind held, ∃ later,
    engine.next (.iterator cursor kind) held state =
      .done (.ok (direction.order items)[(answersOf cursor log).length]?) later ∧
    World.MovesOnly cursor state.world later.world
  lengthHint : ∀ (engine : Engine σ) kind held,
    engine.iteratorMethod .lengthHint { positional := [.iterator cursor kind] } held state =
      .done (.ok (Engine.sizeValue (items.length - (answersOf cursor log).length))) state
  iter : ∀ (engine : Engine σ) kind held,
    engine.iter (.iterator cursor kind) held state = .done (.ok (.iterator cursor kind)) state
  collect : ∀ (engine : Engine σ) kind held, ∃ later,
    engine.collect (.iterator cursor kind) held state =
      .done (.ok ((direction.order items).drop (answersOf cursor log).length)) later
  tuple : ∀ (engine : Engine σ) kind held made, World.Grown {} state.world made →
    state.world.lookup Builtin.tuple.key "__init__" = none → ∃ value later,
    engine.typeCall Builtin.tuple.key { positional := [.iterator cursor kind] } held state =
      .done (.ok value) later ∧
    later.world.exactItems? value =
      some ((direction.order items).drop (answersOf cursor log).length)

theorem World.Traversed.yieldsOnce (traversed : state.world.Traversed log) {cursor : CursorKey}
    {direction : Direction} {items : List Value} (began : .began cursor direction items ∈ log) :
    YieldsOnce state log cursor direction items := by
  have stands := traversed.stands cursor direction items began
  have given := traversed.given cursor direction items began
  have hint : state.world.lengthHint cursor = items.length - (answersOf cursor log).length := by
    rw [World.lengthHint_of_cursorAfter stands, direction.length_order]
  have values (turn : Nat) (answer : Except Error (Option Value))
      (answered : (answersOf cursor log)[turn]? = some answer) (inside : turn < items.length) :
      ∃ value, items[direction.index items.length turn]? = some value ∧
        answer = .ok (some value) := by
    have within := direction.index_lt inside
    refine ⟨items[direction.index items.length turn], List.getElem?_eq_getElem within, ?_⟩
    rw [given turn answer answered, direction.getElem?_order items inside,
      List.getElem?_eq_getElem within]
  have ended (turn : Nat) (answer : Except Error (Option Value))
      (answered : (answersOf cursor log)[turn]? = some answer) (outside : items.length ≤ turn) :
      answer = .ok none := by
    rw [given turn answer answered, List.getElem?_eq_none (by simpa using outside)]
  refine ⟨fun turn answer answered => ?_, values, ended, fun steps index reads => ?_,
    ⟨hint, by rw [hint, direction.hint_place]⟩, fun engine kind held => ?_,
    fun engine kind held => ?_, fun engine kind held => rfl, fun engine kind held => ?_,
    fun engine kind held made grown plain => Engine.typeCall_cursorAfter held grown plain stands⟩
  · rw [direction.reads?_place]
    by_cases inside : turn < items.length
    · rw [if_pos inside, given turn answer answered, direction.getElem?_order items inside]
      rfl
    · rw [if_neg inside]
      exact ended turn answer answered (Nat.le_of_not_lt inside)
  · rw [direction.reads?_place] at reads
    split at reads
    · next inside =>
      cases reads
      exact direction.index_lt inside
    · cases reads
  · exact ⟨_, Engine.advance_cursorAfter held stands, .of_modify rfl rfl⟩
  · rw [← hint]
    rfl
  · obtain ⟨cursors, collected⟩ := Engine.collect_cursorAfter engine kind held stands
    exact ⟨_, collected⟩

theorem Host.engine_collect_begin (host : Host σ) (limits : Limits) (patience depth : Nat)
    (direction : Direction) {tuple : Value} {items : List Value} (held : Roots)
    (carries : tuple.items? = some items)
    (walks : state.world.Walks (state.world.typeOf tuple) direction) :
    ∃ later, (direction.begin (host.engine limits patience (depth + 1)) tuple >>=
        (host.engine limits patience (depth + 1)).collect) held state =
      .done (.ok (direction.order items)) later := by
  let begun : State σ := ⟨{ state.world with
    nextSerial := state.world.nextSerial + 1
    cursors := state.world.cursors.push (cursorAfter (direction.order items) 0) }, state.host⟩
  let cursor : CursorKey := ⟨state.world.cursors.size⟩
  have stands : begun.world.cursors.get? cursor.index =
      some (cursorAfter (direction.order items) 0) := by
    simp [begun, cursor, Cells.get?_push]
  obtain ⟨cursors, collected⟩ := Engine.collect_cursorAfter
    (host.engine limits patience (depth + 1)) direction.kind held stands
  rw [Eval.bind_apply, host.engine_begin limits patience depth direction held carries walks]
  exact ⟨_, collected⟩

structure TraversesOnce (host : Host σ) (limits : Limits) (patience : Nat) (state : State σ)
    (log : List Turn) : Prop where
  each : ∀ cursor direction items, .began cursor direction items ∈ log →
    YieldsOnce state log cursor direction items
  distinct : (log.filterMap Turn.begun?).Nodup
  whole : ∀ depth direction tuple items held, tuple.items? = some items →
    state.world.Walks (state.world.typeOf tuple) direction →
    ∃ later, (direction.begin (host.engine limits patience (depth + 1)) tuple >>=
        (host.engine limits patience (depth + 1)).collect) held state =
      .done (.ok (direction.order items)) later
  exact : ∀ (engine : Engine σ) tuple items held, state.world.exactItems? tuple = some items →
    engine.collect tuple held state = .done (.ok items) state

/-- However iterators over tuples are made and asked in turn, each gives every item once. -/
theorem traverses_once (traversal : Traversal host limits patience start state log) :
    TraversesOnce host limits patience state log where
  each _ _ _ began := traversal.traversed.yieldsOnce began
  distinct := traversal.traversed.distinct
  whole depth direction _ _ held carries walks :=
    host.engine_collect_begin limits patience depth direction held carries walks
  exact engine tuple items held exact := by
    rw [Engine.collect, Eval.world_bind_apply, exact]
    rfl

end

theorem World.initial_walks (direction : Direction) :
    World.initial.Walks Builtin.tuple.key direction := by
  cases direction <;> exact ⟨_, rfl, rfl, rfl⟩

-- Of two iterators over the same pair, the one that walks backwards is asked once.
theorem traverses_once_pair : ∃ (state : State Unit) (log : List Turn),
    Traversal Engine.idleHost {} 0 ⟨World.initial, ()⟩ state log ∧
    log.filterMap Turn.begun? = [⟨0⟩, ⟨1⟩] ∧ state.world.lengthHint ⟨0⟩ = 2 ∧
    answersOf ⟨1⟩ log = [.ok (some (.bool false))] ∧ ∃ value later,
      (Engine.idleHost.engine {} 0 1).typeCall Builtin.tuple.key
        { positional := [.iterator ⟨1⟩ .reversed] } {} state = .done (.ok value) later ∧
      later.world.exactItems? value = some [.bool true] := by
  let items : List Value := [.bool true, .bool false]
  let pair : Value := .object ⟨0, Builtin.tuple.key, none, .tuple items⟩
  let one : World := { World.initial with
    nextSerial := World.initial.nextSerial + 1
    cursors := World.initial.cursors.push (cursorAfter items 0) }
  let two : World := { one with
    nextSerial := one.nextSerial + 1
    cursors := one.cursors.push (cursorAfter items.reverse 0) }
  have carries : pair.items? = some items := rfl
  have forth : World.initial.Walks (World.initial.typeOf pair) .forward :=
    World.initial_walks .forward
  have back : one.Walks (one.typeOf pair) .backward := World.initial_walks .backward
  have first : Traversal Engine.idleHost {} 0 ⟨World.initial, ()⟩ ⟨one, ()⟩
      [.began ⟨0⟩ .forward items] :=
    .began .start carries forth (Engine.idleHost.engine_begin {} 0 0 .forward {} carries forth)
  have second : Traversal Engine.idleHost {} 0 ⟨World.initial, ()⟩ ⟨two, ()⟩
      [.began ⟨0⟩ .forward items, .began ⟨1⟩ .backward items] :=
    .began first carries back (Engine.idleHost.engine_begin {} 0 0 .backward {} carries back)
  have asked : (Engine.idleHost.engine {} 0 0).next (.iterator ⟨1⟩ .reversed) {} ⟨two, ()⟩ = _ :=
    Engine.advance_cursorAfter {} (rfl : two.cursors.get? 1 = some (cursorAfter items.reverse 0))
  have course := second.asked (List.mem_cons_of_mem _ List.mem_cons_self) asked
  have once := (traverses_once course).each
  have forward := once ⟨0⟩ .forward items List.mem_cons_self
  have backward := once ⟨1⟩ .backward items (List.mem_cons_of_mem _ List.mem_cons_self)
  have grown : World.Grown {} World.initial [] := .fresh
  have tuple := backward.tuple (Engine.idleHost.engine {} 0 1) .reversed {} []
    (.otherwise grown ⟨Nat.le_refl _, fun _ => .of_types_eq rfl⟩) rfl
  exact ⟨_, _, course, rfl, forward.hint.1, rfl, tuple⟩

end ObjectModel
