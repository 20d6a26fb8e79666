import Mathlib.Data.List.Infix
import Mathlib.Data.List.Nodup
import ObjectModel.Call
import ObjectModel.Proofs.Construction
import ObjectModel.Proofs.Extension
import ObjectModel.Proofs.Resolution

/-!
# Iterating over a store that changes

An iterator over the names in a store walks through the names that were there when it was made. Each
step compares their number with the present size of the store, as long as the store is alive, and
fails if the two differ. `Course` follows a store and the iterators over it through any number of
steps in any order; what an iterator has given is at all times the beginning of its names.
-/

set_option autoImplicit false

namespace ObjectModel

namespace World

variable {world later : World} {roots : Roots} {key : StoreKey} {cursor other : CursorKey}

def Alive (world : World) (roots : Roots) (key : StoreKey) : Prop :=
  (world.store? key).isSome = true ∧ (world.liveReferences roots).count (.store key) ≠ 0

def Changed (world : World) (roots : Roots) (key : StoreKey) (size : Nat) : Prop :=
  world.Alive roots key ∧ world.liveSize? (.store key) ≠ some size

def beforeStep (world : World) (roots : Roots) (cursor : CursorKey) : World :=
  -- A store of another size is watched no longer if it is not alive.
  if world.watchesChange cursor then world.releaseDead roots cursor else world

-- As far as stores and iterators go, nothing but one iterator is elsewhere.
structure MovesOnly (cursor : CursorKey) (world later : World) : Prop where
  stores : later.stores = world.stores
  size : later.cursors.size = world.cursors.size
  others : ∀ other, other ≠ cursor →
    later.cursors.get? other.index = world.cursors.get? other.index

namespace MovesOnly

theorem refl (cursor : CursorKey) (world : World) : MovesOnly cursor world world :=
  ⟨rfl, rfl, fun _ _ => rfl⟩

theorem trans {middle : World} (first : MovesOnly cursor world middle)
    (second : MovesOnly cursor middle later) : MovesOnly cursor world later :=
  ⟨second.stores.trans first.stores, second.size.trans first.size,
    fun other apart => (second.others other apart).trans (first.others other apart)⟩

theorem of_modify {change : Cursor → Cursor} (stores : later.stores = world.stores)
    (moved : later.cursors = world.cursors.modify cursor.index change) :
    MovesOnly cursor world later := by
  refine ⟨stores, by rw [moved, Cells.size_modify], fun other apart => ?_⟩
  have indices : cursor.index ≠ other.index := fun same => apart (congrArg CursorKey.mk same.symm)
  rw [moved, Cells.get?_modify, if_neg indices]

end MovesOnly

theorem releaseDead_of_watched (watched : world.watchedStore? cursor = some key) :
    world.releaseDead roots cursor =
      let counts := world.liveReferences roots
      if counts.count (.store key) = 0 then
        { world.remember counts with cursors := world.cursors.modify cursor.index Cursor.release }
      else
        world.remember counts := by
  rw [releaseDead, watched]
  rfl

theorem movesOnly_releaseDead : MovesOnly cursor world (world.releaseDead roots cursor) := by
  cases watched : world.watchedStore? cursor with
  | none =>
    rw [releaseDead, watched]
    exact .refl cursor world
  | some key =>
    rw [releaseDead_of_watched watched]
    dsimp only
    split
    · exact .of_modify rfl rfl
    · exact ⟨rfl, rfl, fun _ _ => rfl⟩

theorem movesOnly_beforeStep : MovesOnly cursor world (world.beforeStep roots cursor) := by
  rw [beforeStep]
  split
  · exact movesOnly_releaseDead
  · exact .refl cursor world

theorem movesOnly_advance : MovesOnly cursor world (world.advance cursor).2 := by
  rw [advance]
  split
  · exact .refl cursor world
  · exact .of_modify rfl rfl

structure Stands (world : World) (key : StoreKey) (cursor : CursorKey) (names : List String)
    (given : List Value) (lost : Prop) : Prop where
  distinct : names.Nodup
  begins : given <+: names.map .str
  cell : ∃ origin, (origin = .store key ∨ origin = .gone ∧ lost) ∧
    world.cursors.get? cursor.index = some (.checked names.length (names.map .str)
      ((names.map .str).drop given.length) origin "dict")

theorem advance_checked {size : Nat} {items : List Value} {position : Nat} {origin : Origin}
    {container : String} (stands : world.cursors.get? cursor.index =
      some (.checked size items (items.drop position) origin container)) :
    ((world.liveSize? origin).all (· = size) = true →
      (world.advance cursor).1 = .ok items[position]? ∧
      (world.advance cursor).2.cursors.get? cursor.index =
        some (.checked size items (items.drop (position + items[position]?.toList.length)) origin
          container)) ∧
    ((world.liveSize? origin).all (· = size) = false →
      (world.advance cursor).1 = .error (.changedSize container) ∧
      (world.advance cursor).2.cursors.get? cursor.index = world.cursors.get? cursor.index) := by
  have moved : (world.advance cursor).2.cursors.get? cursor.index =
      some (world.stepCursor (.checked size items (items.drop position) origin container)).2 := by
    simp [advance, stands, Cells.get?_modify]
  have answer : (world.advance cursor).1 =
      (world.stepCursor (.checked size items (items.drop position) origin container)).1 := by
    simp [advance, stands]
  rw [moved, answer, stands]
  refine ⟨fun same => ?_, fun changed => by simp [stepCursor, changed]⟩
  cases next : items[position]? with
  | none =>
    have ended : items.drop position = [] := by simpa using next
    simp [stepCursor, same, ended]
  | some value =>
    obtain ⟨inside, at_position⟩ := List.getElem?_eq_some_iff.mp next
    rw [List.drop_eq_getElem_cons inside, at_position]
    simp [stepCursor, same]

section Watching

variable {size : Nat} {items rest : List Value} {container : String}

theorem watchesChange_of_checked (stands : world.cursors.get? cursor.index =
      some (.checked size items rest (.store key) container)) :
    world.watchesChange cursor = !(world.liveSize? (.store key)).all (· = size) := by
  simp only [watchesChange, stands]
  cases world.liveSize? (.store key) <;> simp

theorem beforeStep_of_same {origin : Origin} (stands : world.cursors.get? cursor.index =
      some (.checked size items rest origin container))
    (same : (world.liveSize? origin).all (· = size) = true) :
    world.beforeStep roots cursor = world := by
  have quiet : world.watchesChange cursor = false := by
    cases origin with
    | store key => rw [watchesChange_of_checked stands, same, Bool.not_true]
    | gauge key => rw [watchesChange, stands]
    | gone => rw [watchesChange, stands]
  simp [beforeStep, quiet]

theorem beforeStep_of_other (stands : world.cursors.get? cursor.index =
      some (.checked size items rest (.store key) container))
    (other : (world.liveSize? (.store key)).all (· = size) = false) :
    world.beforeStep roots cursor = world.releaseDead roots cursor := by
  have watches : world.watchesChange cursor = true := by
    rw [watchesChange_of_checked stands, other, Bool.not_false]
  simp [beforeStep, watches]

theorem watchedStore?_of_checked (stands : world.cursors.get? cursor.index =
      some (.checked size items rest (.store key) container)) :
    world.watchedStore? cursor = some key := by
  rw [watchedStore?, stands]

theorem releaseDead_of_alive (stands : world.cursors.get? cursor.index =
      some (.checked size items rest (.store key) container)) (alive : world.Alive roots key) :
    world.releaseDead roots cursor = world.remember (world.liveReferences roots) := by
  rw [releaseDead_of_watched (watchedStore?_of_checked stands)]
  exact if_neg alive.2

theorem releaseDead_of_dead (stands : world.cursors.get? cursor.index =
      some (.checked size items rest (.store key) container))
    (present : (world.store? key).isSome = true) (dead : ¬ world.Alive roots key) :
    (world.releaseDead roots cursor).cursors.get? cursor.index =
      some (.checked size items rest .gone container) := by
  have unreferenced : (world.liveReferences roots).count (.store key) = 0 := by
    by_contra referenced
    exact dead ⟨present, referenced⟩
  rw [releaseDead_of_watched (watchedStore?_of_checked stands)]
  simp [unreferenced, Cells.get?_modify, stands, Cursor.release]

end Watching

namespace Stands

variable {names : List String} {given : List Value} {lost : Prop}

theorem carry {other : Prop} (stands : world.Stands key cursor names given lost)
    (same : later.cursors.get? cursor.index = world.cursors.get? cursor.index)
    (weaker : lost → other) : later.Stands key cursor names given other := by
  obtain ⟨distinct, first, origin, watched, cell⟩ := stands
  exact ⟨distinct, first, origin, watched.imp_right fun gone => ⟨gone.1, weaker gone.2⟩,
    same.trans cell⟩

theorem step_of_changed (stands : world.Stands key cursor names given lost)
    (forgotten : lost → ¬ world.Alive roots key) (changed : world.Changed roots key names.length) :
    ((world.beforeStep roots cursor).advance cursor).1 = .error (.changedSize "dict") ∧
    ((world.beforeStep roots cursor).advance cursor).2.cursors.get? cursor.index =
      world.cursors.get? cursor.index := by
  obtain ⟨alive, size⟩ := changed
  obtain ⟨origin, rfl | ⟨-, gone⟩, cell⟩ := stands.cell
  · have other : (world.liveSize? (.store key)).all (· = names.length) = false := by
      obtain ⟨store, present⟩ := Option.isSome_iff_exists.mp alive.1
      simpa [liveSize?, present] using size
    have same : (world.beforeStep roots cursor).cursors = world.cursors := by
      rw [beforeStep_of_other cell other, releaseDead_of_alive cell alive]
      rfl
    have stores : (world.beforeStep roots cursor).liveSize? (.store key) =
        world.liveSize? (.store key) := by
      simp only [liveSize?, store?, movesOnly_beforeStep.stores]
    rw [← stores] at other
    rw [← same] at cell ⊢
    exact (advance_checked cell).2 other
  · exact absurd alive (forgotten gone)

theorem step_of_unchanged (stands : world.Stands key cursor names given lost)
    (forgotten : lost → ¬ world.Alive roots key)
    (unchanged : ¬ world.Changed roots key names.length) :
    ((world.beforeStep roots cursor).advance cursor).1 =
      .ok (names.map Value.str)[given.length]? ∧
    ((world.beforeStep roots cursor).advance cursor).2.Stands key cursor names
      (given ++ (names.map Value.str)[given.length]?.toList) (¬ world.Alive roots key) := by
  have extended : given ++ (names.map Value.str)[given.length]?.toList <+: names.map .str := by
    conv_lhs => rw [List.prefix_iff_eq_take.mp stands.begins]
    rw [List.length_take_of_le stands.begins.length_le, ← List.take_add_one]
    exact List.take_prefix _ _
  suffices reached : ∃ origin, (origin = .store key ∨ origin = .gone ∧ ¬ world.Alive roots key) ∧
      (world.beforeStep roots cursor).cursors.get? cursor.index = some (.checked names.length
        (names.map .str) ((names.map .str).drop given.length) origin "dict") ∧
      ((world.beforeStep roots cursor).liveSize? origin).all (· = names.length) = true by
    obtain ⟨origin, watched, cell, same⟩ := reached
    obtain ⟨answer, moved⟩ := (advance_checked cell).1 same
    refine ⟨answer, stands.distinct, extended, origin, watched, ?_⟩
    rw [moved, List.length_append]
  obtain ⟨origin, watched, cell⟩ := stands.cell
  by_cases same : (world.liveSize? origin).all (· = names.length) = true
  · rw [beforeStep_of_same cell same]
    exact ⟨origin, watched.imp_right fun gone => ⟨gone.1, forgotten gone.2⟩, cell, same⟩
  · -- The store has another size, so that it cannot be alive.
    obtain rfl | ⟨rfl, gone⟩ := watched
    · rw [Bool.not_eq_true] at same
      cases present : world.store? key with
      | none => simp [liveSize?, present] at same
      | some store =>
        have dead : ¬ world.Alive roots key := by
          intro alive
          refine unchanged ⟨alive, fun equal => ?_⟩
          simp [equal] at same
        have released := releaseDead_of_dead cell (by simp [present]) dead
        rw [beforeStep_of_other cell same]
        exact ⟨.gone, .inr ⟨rfl, dead⟩, released, rfl⟩
    · simp [liveSize?] at same

end Stands

end World

theorem Host.engine_release {σ : Type} (host : Host σ) (limits : Limits) (patience depth : Nat) :
    (host.engine limits patience depth).release = host.release := by
  cases depth <;> rfl

theorem Host.engine_advance {σ : Type} (host : Host σ) (limits : Limits) (patience depth : Nat)
    (cursor : CursorKey) (held : Roots) (state : State σ) :
    (host.engine limits patience depth).advance cursor held state =
      let step := (state.world.beforeStep (host.roots state.host ++ held) cursor).advance cursor
      .done step.1 { state with world := step.2 } := by
  rw [Engine.advance, Eval.world_bind_apply, World.beforeStep]
  cases state.world.watchesChange cursor with
  | false => rfl
  | true =>
    rw [Host.engine_release]
    rfl

inductive Sight where
  | began (cursor : CursorKey) (names : List String)
  | answered (cursor : CursorKey) (answer : Except Error (Option Value))

def Sight.value? (cursor : CursorKey) : Sight → Option Value
  | answered other (.ok value?) => if other = cursor then value? else none
  | _ => none

def valuesGiven (cursor : CursorKey) (log : List Sight) : List Value :=
  log.filterMap (Sight.value? cursor)

inductive Edit where
  -- A name that is there already gets another value.
  | insert (name : String) (value : Value)
  | remove (name : String)
  | drop

def Edit.apply (key : StoreKey) (world : World) : Edit → World
  | insert name value => world.modifyStore key (·.insert name value)
  | remove name => world.modifyStore key (·.erase name)
  | drop => world.dropStore key

/-- Where a store and the iterators over it can get to from `start`, and what was seen on the way.
`lost` says that the store was seen to be alive no longer; it does not come back then. -/
inductive Course {σ : Type} (host : Host σ) (limits : Limits) (patience depth : Nat)
    (key : StoreKey) (start : State σ) : State σ → Prop → List Sight → Prop where
  | start : Course host limits patience depth key start start False []
  | began {state : State σ} {lost : Prop} {log : List Sight} {store : AttributeStore}
    (before : Course host limits patience depth key start state lost log)
    (present : state.world.store? key = some store) :
    Course host limits patience depth key start
      { state with
        world := (state.world.newIterator .keys (state.world.keysCursor key)).2 }
      lost (log ++ [.began ⟨state.world.cursors.size⟩ store.keys])
  -- Any iterator may be asked, with any operations around that hold on to something.
  | asked {state later : State σ} {lost : Prop} {log : List Sight} {held : Roots}
    {cursor : CursorKey} {answer : Except Error (Option Value)}
    (before : Course host limits patience depth key start state lost log)
    (forgotten : lost → ¬ state.world.Alive (host.roots state.host ++ held) key)
    (answered : (host.engine limits patience depth).advance cursor held state =
      .done answer later) :
    Course host limits patience depth key start later
      (¬ state.world.Alive (host.roots state.host ++ held) key)
      (log ++ [.answered cursor answer])
  | edited {state : State σ} {lost : Prop} {log : List Sight} (edit : Edit)
    (before : Course host limits patience depth key start state lost log) :
    Course host limits patience depth key start
      { state with world := edit.apply key state.world } lost log
  -- Whatever else happens may also change what keeps the store alive.
  | elsewhere {state later : State σ} {lost : Prop} {log : List Sight}
    (before : Course host limits patience depth key start state lost log)
    (store : later.world.store? key = state.world.store? key)
    (size : state.world.cursors.size ≤ later.world.cursors.size)
    (iterators : ∀ cursor names, .began cursor names ∈ log →
      later.world.cursors.get? cursor.index = state.world.cursors.get? cursor.index) :
    Course host limits patience depth key start later lost log

theorem Sight.value?_of_ne {cursor other : CursorKey} (apart : other ≠ cursor)
    (answer : Except Error (Option Value)) : (answered cursor answer).value? other = none := by
  cases answer <;> simp [value?, apart.symm]

theorem valuesGiven_append (cursor : CursorKey) (log : List Sight) (sight : Sight) :
    valuesGiven cursor (log ++ [sight]) =
      valuesGiven cursor log ++ (sight.value? cursor).toList := by
  cases value : sight.value? cursor <;> simp [valuesGiven, value]

theorem Edit.apply_cursors (edit : Edit) (key : StoreKey) (world : World) :
    (edit.apply key world).cursors = world.cursors := by
  cases edit <;> rfl

structure Followed (key : StoreKey) (world : World) (lost : Prop) (log : List Sight) : Prop where
  stands : ∀ cursor names, .began cursor names ∈ log →
    world.Stands key cursor names (valuesGiven cursor log) lost
  fresh : ∀ cursor : CursorKey, world.cursors.size ≤ cursor.index → valuesGiven cursor log = []

namespace Followed

variable {world later : World} {key : StoreKey} {lost : Prop} {log : List Sight}
  {cursor : CursorKey}

theorem carry (followed : Followed key world lost log)
    (size : world.cursors.size ≤ later.cursors.size)
    (iterators : ∀ cursor names, .began cursor names ∈ log →
      later.cursors.get? cursor.index = world.cursors.get? cursor.index) :
    Followed key later lost log := by
  refine ⟨fun cursor names began => ?_, fun cursor outside =>
    followed.fresh cursor (size.trans outside)⟩
  exact (followed.stands cursor names began).carry (iterators cursor names began) id

theorem began (followed : Followed key world lost log) {store : AttributeStore}
    (present : world.store? key = some store) :
    Followed key (world.newIterator .keys (world.keysCursor key)).2 lost
      (log ++ [.began ⟨world.cursors.size⟩ store.keys]) := by
  have silent (cursor : CursorKey) :
      valuesGiven cursor (log ++ [.began ⟨world.cursors.size⟩ store.keys]) =
        valuesGiven cursor log := by
    simp [valuesGiven_append, Sight.value?]
  refine ⟨fun cursor names began => ?_, fun cursor outside => ?_⟩
  · rw [silent]
    obtain old | new := List.mem_append.mp began
    · have stands := followed.stands cursor names old
      obtain ⟨origin, -, cell⟩ := stands.cell
      refine stands.carry ?_ id
      rw [World.newIterator, Cells.get?_push, if_neg (Cells.get?_lt_size cell).ne]
    · obtain ⟨rfl, rfl⟩ : cursor = ⟨world.cursors.size⟩ ∧ names = store.keys := by simpa using new
      rw [followed.fresh ⟨world.cursors.size⟩ (le_refl _)]
      refine ⟨store.distinct, List.nil_prefix, .store key, .inl rfl, ?_⟩
      simp [World.newIterator, Cells.get?_push, World.keysCursor, World.checkedCursor,
        World.containerName, present]
  · rw [silent]
    rw [World.newIterator, Cells.size_push] at outside
    exact followed.fresh cursor (by omega)

theorem asked (followed : Followed key world lost log) {roots : Roots}
    (forgotten : lost → ¬ world.Alive roots key) :
    Followed key ((world.beforeStep roots cursor).advance cursor).2 (¬ world.Alive roots key)
      (log ++ [.answered cursor ((world.beforeStep roots cursor).advance cursor).1]) := by
  have moves : World.MovesOnly cursor world ((world.beforeStep roots cursor).advance cursor).2 :=
    World.movesOnly_beforeStep.trans World.movesOnly_advance
  refine ⟨fun other names began => ?_, fun other outside => ?_⟩
  · have stands := followed.stands other names (by simpa using began)
    rw [valuesGiven_append]
    by_cases apart : other = cursor
    · subst apart
      by_cases changed : world.Changed roots key names.length
      · obtain ⟨answer, same⟩ := stands.step_of_changed forgotten changed
        rw [answer]
        simpa [Sight.value?] using stands.carry same forgotten
      · obtain ⟨answer, moved⟩ := stands.step_of_unchanged forgotten changed
        rw [answer]
        simpa [Sight.value?] using moved
    · rw [Sight.value?_of_ne apart, Option.toList_none, List.append_nil]
      exact stands.carry (moves.others other apart) forgotten
  · rw [moves.size] at outside
    rw [valuesGiven_append, followed.fresh other outside, List.nil_append]
    by_cases apart : other = cursor
    · subst apart
      have none := (world.beforeStep roots other).cursors.get?_eq_none_of_size_le
        (World.movesOnly_beforeStep.size.trans_le outside)
      simp [World.advance, none, Sight.value?]
    · rw [Sight.value?_of_ne apart, Option.toList_none]

end Followed

section

variable {σ : Type} {host : Host σ} {limits : Limits} {patience depth : Nat} {key : StoreKey}
  {start state : State σ} {lost : Prop} {log : List Sight}

theorem Course.followed (course : Course host limits patience depth key start state lost log) :
    Followed key state.world lost log := by
  induction course with
  | start => exact ⟨by simp, by simp [valuesGiven]⟩
  | began before present ih => exact ih.began present
  | asked before forgotten answered ih =>
    rw [Host.engine_advance] at answered
    obtain ⟨rfl, rfl⟩ := Outcome.done.inj answered
    exact ih.asked forgotten
  | edited edit before ih =>
    have same := edit.apply_cursors key
    exact ih.carry (by rw [same]) fun _ _ _ => by rw [same]
  | elsewhere before store size iterators ih => exact ih.carry size iterators

/-- However a store and its iterators have fared, an iterator has given the beginning of the names
that were there when it was made, and it fails exactly as long as the store is alive with another
size, without losing its place. -/
theorem iteration_keeps_to_names
    (course : Course host limits patience depth key start state lost log) {cursor : CursorKey}
    {names : List String} (began : .began cursor names ∈ log) :
    valuesGiven cursor log <+: names.map .str ∧ (valuesGiven cursor log).Nodup ∧
    state.world.lengthHint cursor = names.length - (valuesGiven cursor log).length ∧
    ∀ held : Roots, (lost → ¬ state.world.Alive (host.roots state.host ++ held) key) →
      ∃ answer later,
        (host.engine limits patience depth).advance cursor held state = .done answer later ∧
        ((∃ error, answer = .error error) ↔
          state.world.Changed (host.roots state.host ++ held) key names.length) ∧
        (∀ error, answer = .error error → error = .changedSize "dict" ∧
          later.world.cursors.get? cursor.index = state.world.cursors.get? cursor.index) ∧
        ∀ value?, answer = .ok value? →
          value? = (names.map Value.str)[(valuesGiven cursor log).length]? := by
  have stands := course.followed.stands cursor names began
  have distinct : (names.map Value.str).Nodup :=
    stands.distinct.map fun _ _ same => Value.str.inj same
  refine ⟨stands.begins, distinct.sublist stands.begins.sublist, ?_,
    fun held forgotten => ?_⟩
  · obtain ⟨origin, -, cell⟩ := stands.cell
    simp [World.lengthHint, cell, Cursor.lengthHint]
  · rw [Host.engine_advance]
    refine ⟨_, _, rfl, ?_⟩
    by_cases changed : state.world.Changed (host.roots state.host ++ held) key names.length
    · obtain ⟨answer, same⟩ := stands.step_of_changed forgotten changed
      rw [answer]
      simp [changed, same]
    · obtain ⟨answer, -⟩ := stands.step_of_unchanged forgotten changed
      rw [answer]
      simp [changed]

end

def World.watched (store : AttributeStore) (rest : List Value) : World where
  stores := ⟨#[some store]⟩
  cursors := ⟨#[some (.checked 2 [.str "first", .str "second"] rest (.store ⟨0⟩) "dict")]⟩

theorem World.watched_alive (store : AttributeStore) (rest : List Value)
    (plain : referencesOf (store.entries.map Prod.snd) = []) :
    (watched store rest).Alive { stores := [⟨0⟩] } ⟨0⟩ := by
  refine ⟨rfl, ?_⟩
  -- Nothing that is held refers to anything, so that only the store in use is counted.
  have stored : referencesOf ((watched store rest).heldBy (.store ⟨0⟩)) = [] := plain
  have walked : referencesOf ((watched store rest).heldBy (.cursor ⟨0⟩)) = [] := by
    simp [heldBy, watched, Cells.get?, Cursor.items, referencesOf, Findings.searchAll,
      Findings.search]
  have members : referencesOf (watched store rest).memberValues = [] := by
    simp [memberValues, watched, Cells.toList, referencesOf, Findings.searchAll]
  have all : (watched store rest).holders = [.store ⟨0⟩, .cursor ⟨0⟩] := rfl
  simp [liveReferences, allReferences, all, stored, walked, members, ReferenceCounts.retain,
    ReferenceCounts.release, ReferenceCounts.count, giveUp]

theorem World.beforeStep_watched (store : AttributeStore) (rest : List Value)
    (plain : referencesOf (store.entries.map Prod.snd) = []) (size : store.size ≠ 2) :
    ∃ survey, (watched store rest).beforeStep { stores := [⟨0⟩] } ⟨0⟩ =
      { watched store rest with survey } := by
  have cell : (watched store rest).cursors.get? 0 =
      some (.checked 2 [.str "first", .str "second"] rest (.store ⟨0⟩) "dict") := rfl
  have other : ((watched store rest).liveSize? (.store ⟨0⟩)).all (· = 2) = false :=
    decide_eq_false size
  rw [beforeStep_of_other cell other, releaseDead_of_alive cell (watched_alive store rest plain)]
  exact ⟨_, rfl⟩

-- A third name comes while the iterator is between the two it was made for, and goes again.
theorem iteration_keeps_to_names_restored : ∃ state later : State Unit, ∃ lost log,
    let two : AttributeStore := Table.ofList [("first", .none), ("second", .none)]
    Course Engine.idleHost {} 0 0 ⟨0⟩ ⟨{ stores := ⟨#[some two]⟩ }, ()⟩ state lost log ∧
    log = [.began ⟨0⟩ ["first", "second"], .answered ⟨0⟩ (.ok (some (.str "first"))),
      .answered ⟨0⟩ (.error (.changedSize "dict"))] ∧
    state.world.lengthHint ⟨0⟩ = 1 ∧
    (Engine.idleHost.engine {} 0 0).advance ⟨0⟩ { stores := [⟨0⟩] } state =
      .done (.ok (some (.str "second"))) later := by
  let two : AttributeStore := Table.ofList [("first", .none), ("second", .none)]
  let three : AttributeStore := two.insert "third" .none
  let fresh : State Unit := ⟨World.watched two [.str "first", .str "second"], ()⟩
  let grown : State Unit := ⟨World.watched three [.str "second"], ()⟩
  have plain : referencesOf (two.entries.map Prod.snd) = [] := by
    simp [two, Table.ofList, Table.empty, Table.insert, Table.replaced, referencesOf,
      Findings.searchAll, Findings.search]
  have plain' : referencesOf (three.entries.map Prod.snd) = [] := by
    simp [three, two, Table.ofList, Table.empty, Table.insert, Table.replaced, referencesOf,
      Findings.searchAll, Findings.search]
  have began : Course Engine.idleHost {} 0 0 ⟨0⟩ ⟨{ stores := ⟨#[some two]⟩ }, ()⟩ fresh False
      [.began ⟨0⟩ ["first", "second"]] :=
    .began .start (show World.store? _ _ = some two from rfl)
  have first : (Engine.idleHost.engine {} 0 0).advance ⟨0⟩ { stores := [⟨0⟩] } fresh =
      .done (.ok (some (.str "first"))) ⟨World.watched two [.str "second"], ()⟩ := by
    rw [Host.engine_advance, World.beforeStep_of_same rfl rfl]
    rfl
  obtain ⟨survey, counted⟩ := World.beforeStep_watched three [.str "second"] plain' (by decide)
  have failing : (Engine.idleHost.engine {} 0 0).advance ⟨0⟩ { stores := [⟨0⟩] } grown =
      .done (.error (.changedSize "dict")) ⟨{ grown.world with survey }, ()⟩ := by
    have surveyed : grown.world.beforeStep
        (Engine.idleHost.roots grown.host ++ { stores := [⟨0⟩] }) ⟨0⟩ = _ := counted
    rw [Host.engine_advance, surveyed]
    rfl
  have alive := World.watched_alive two [.str "first", .str "second"] plain
  have course := ((began.asked False.elim first).edited (.insert "third" .none)).asked
    (fun lost => absurd alive lost) failing
  have restored := course.edited (.remove "third")
  have listed : Sight.began ⟨0⟩ ["first", "second"] ∈ [.began ⟨0⟩ ["first", "second"],
      .answered ⟨0⟩ (.ok (some (.str "first"))),
      .answered ⟨0⟩ (.error (.changedSize "dict"))] := List.mem_cons_self
  obtain ⟨_, _, hint, answers⟩ := iteration_keeps_to_names restored listed
  obtain ⟨answer, later, answered, fails, _, gives⟩ := answers { stores := [⟨0⟩] } fun lost =>
    absurd (World.watched_alive three [.str "second"] plain') lost
  cases answer with
  | error error =>
    obtain ⟨_, other⟩ := fails.mp ⟨error, rfl⟩
    exact absurd rfl other
  | ok value? =>
    obtain rfl := gives value? rfl
    exact ⟨_, later, _, _, restored, rfl, hint, answered⟩

end ObjectModel
