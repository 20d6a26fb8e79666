import ObjectModel.Proofs.HashAgreement
import ObjectModel.Proofs.Operations

/-!
# The hash of a tuple is stable

A tuple hashes its items before it remembers its own hash, and hashing them may run code that hashes
the tuple again, or that hashes an item otherwise than before. Whatever that code does, the first
hash that is remembered is the hash of the tuple from then on.
-/

set_option autoImplicit false

namespace ObjectModel

section

variable {σ α : Type} {tuple : Value} {items : List Value}

namespace Engine

variable {engine : Engine σ} {held : Roots} {state reached later : State σ}

theorem hashItems_ne_mark {count : Nat} {accumulator : Hash.Accumulator} {hash : Int64}
    (done : engine.hashItems count items accumulator held state = .done (.ok hash) later) :
    hash ≠ -1 := by
  induction items generalizing accumulator state with
  | nil =>
    rw [hashItems] at done
    injection done with finished
    injection finished with finished
    exact finished ▸ Hash.avoidMark_ne _
  | cons item items ih =>
    obtain ⟨itemHash, middle, _, rest⟩ := Eval.bind_eq_ok done
    exact ih rest

theorem hashTuple_unknown {computed result : Except Error Int64}
    (unknown : state.world.hashes[tuple]? = none)
    (hashes : engine.hashItems items.length items {} held state = .done computed reached)
    (done : engine.hashTuple tuple items held state = .done result later) :
    (∃ error, computed = .error error ∧ result = .error error ∧ later = reached) ∨
      ∃ hash, result = .ok hash ∧ later.world.hashes[tuple]? = some hash ∧
        (reached.world.hashes[tuple]? = some hash ∨
          reached.world.hashes[tuple]? = none ∧ computed = .ok hash) := by
  rw [hashTuple, rememberedHash_unknown unknown, Eval.bind_apply, hashes] at done
  cases computed with
  | error error =>
    cases done
    exact .inl ⟨error, rfl, rfl, rfl⟩
  | ok hash =>
    dsimp only [Eval.create, World.rememberHash] at done
    cases known : reached.world.hashes[tuple]? with
    | some first =>
      rw [known] at done
      cases done
      exact .inr ⟨first, rfl, known, .inl rfl⟩
    | none =>
      rw [known] at done
      cases done
      exact .inr ⟨hash, rfl, Std.HashMap.getElem?_insert_self, .inr ⟨rfl, rfl⟩⟩

end Engine

/-- How the hash remembered for a tuple comes about, with what the calls that hash the tuple give,
in the order in which they end. -/
inductive HashCourse (tuple : Value) (items : List Value) :
    State σ → List (Except Error Int64) → State σ → Prop where
  | start (state : State σ) : HashCourse tuple items state [] state
  -- Whatever does not touch the hash of this tuple.
  | other {state middle later : State σ} {calls : List (Except Error Int64)}
    (course : HashCourse tuple items state calls middle)
    (same : later.world.hashes[tuple]? = middle.world.hashes[tuple]?) :
    HashCourse tuple items state calls later
  | recalled {state middle later : State σ} {calls : List (Except Error Int64)}
    {engine : Engine σ} {held : Roots} {hash : Int64} {result : Except Error Int64}
    (course : HashCourse tuple items state calls middle)
    (known : middle.world.hashes[tuple]? = some hash)
    (done : engine.hashTuple tuple items held middle = .done result later) :
    HashCourse tuple items state (calls ++ [result]) later
  -- What happens while the items are hashed is a course of its own.
  | computed {state middle reached later : State σ} {calls inner : List (Except Error Int64)}
    {engine : Engine σ} {held : Roots} {computed result : Except Error Int64}
    (course : HashCourse tuple items state calls middle)
    (unknown : middle.world.hashes[tuple]? = none)
    (hashes : engine.hashItems items.length items {} held middle = .done computed reached)
    (nested : HashCourse tuple items middle inner reached)
    (done : engine.hashTuple tuple items held middle = .done result later) :
    HashCourse tuple items state (calls ++ inner ++ [result]) later

namespace HashCourse

variable {state middle later : State σ} {calls others : List (Except Error Int64)}

theorem trans (first : HashCourse tuple items state calls middle)
    (second : HashCourse tuple items middle others later) :
    HashCourse tuple items state (calls ++ others) later := by
  induction second with
  | start => rwa [List.append_nil]
  | other _ same ih => exact (ih first).other same
  | recalled _ known done ih =>
    rw [← List.append_assoc]
    exact (ih first).recalled known done
  | computed _ unknown hashes nested done ih _ =>
    rw [← List.append_assoc, ← List.append_assoc]
    exact (ih first).computed unknown hashes nested done

theorem remembered_iff (course : HashCourse tuple items state calls later) (hash : Int64) :
    later.world.hashes[tuple]? = some hash ↔
      state.world.hashes[tuple]? = some hash ∨ .ok hash ∈ calls := by
  induction course with
  | start => simp
  | other _ same ih => rw [same, ih]
  | recalled _ known done ih =>
    rw [Engine.hashTuple, Engine.rememberedHash_known known] at done
    cases done
    rw [List.mem_append, ← or_assoc, ← ih, known]
    simp [eq_comm]
  | @computed _ _ _ _ _ inner _ _ _ _ _ unknown hashes _ done ih within =>
    -- Nothing was remembered when the call began, so no call before it was successful.
    have before := ih.not.mp (by simp [unknown])
    rw [not_or] at before
    simp only [unknown, reduceCtorEq, false_or] at within
    rcases Engine.hashTuple_unknown unknown hashes done with
      ⟨error, _, rfl, rfl⟩ | ⟨given, rfl, remembered, found⟩
    · simp [within, before]
    · have same : .ok hash ∈ inner → given = hash := fun member => by
        have reached := within.mpr member
        rcases found with known | ⟨unknown', -⟩
        · exact Option.some.inj (known.symm.trans reached)
        · cases unknown'.symm.trans reached
      rw [remembered, Option.some.injEq]
      simp only [List.mem_append, List.mem_singleton, Except.ok.injEq, before, false_or]
      exact ⟨fun eq => .inr eq.symm, fun either => either.elim same Eq.symm⟩

theorem unmarked (course : HashCourse tuple items state calls later) {hash : Int64}
    (found : later.world.hashes[tuple]? = some hash) :
    state.world.hashes[tuple]? = some hash ∨ hash ≠ -1 := by
  induction course with
  | start => exact .inl found
  | other _ same ih => exact ih (same.symm.trans found)
  | recalled _ known done ih =>
    rw [Engine.hashTuple, Engine.rememberedHash_known known] at done
    cases done
    exact ih found
  | computed _ unknown hashes _ done _ within =>
    rw [unknown] at within
    rcases Engine.hashTuple_unknown unknown hashes done with
      ⟨_, _, _, rfl⟩ | ⟨given, _, remembered, nested | ⟨-, rfl⟩⟩
    · exact .inr ((within found).resolve_left (by simp))
    · cases remembered.symm.trans found
      exact .inr ((within nested).resolve_left (by simp))
    · cases remembered.symm.trans found
      exact .inr (Engine.hashItems_ne_mark hashes)

end HashCourse

def Eval.HashTraced (tuple : Value) (items : List Value) (operation : Eval σ α) : Prop :=
  ∀ held state, (operation held state).EndsIn fun later =>
    ∃ calls, HashCourse tuple items state calls later

namespace Eval.HashTraced

variable {β : Type}

theorem pure (value : α) : HashTraced tuple items (Pure.pure value : Eval σ α) :=
  fun _ state => ⟨[], .start state⟩

theorem world : HashTraced tuple items (Eval.world : Eval σ World) :=
  fun _ state => ⟨[], .start state⟩

theorem create {make : World → α × World}
    (same : ∀ world, (make world).2.hashes[tuple]? = world.hashes[tuple]?) :
    HashTraced tuple items (Eval.create make : Eval σ α) :=
  fun _ state => ⟨[], (HashCourse.start state).other (same state.world)⟩

theorem trans {state middle later : State σ}
    (first : ∃ calls, HashCourse tuple items state calls middle)
    (second : ∃ calls, HashCourse tuple items middle calls later) :
    ∃ calls, HashCourse tuple items state calls later := by
  obtain ⟨calls, course⟩ := first
  obtain ⟨others, after⟩ := second
  exact ⟨calls ++ others, course.trans after⟩

theorem bind {first : Eval σ α} {next : α → Eval σ β} (traced : HashTraced tuple items first)
    (rest : ∀ value, HashTraced tuple items (next value)) :
    HashTraced tuple items (first >>= next) := by
  refine Eval.Moves.bind ?_ traced rest
  exact trans

theorem tryCatch {body : Eval σ α} {handler : Error → Eval σ α}
    (traced : HashTraced tuple items body)
    (handles : ∀ error, HashTraced tuple items (handler error)) :
    HashTraced tuple items (MonadExcept.tryCatch body handler) := by
  refine Eval.Moves.tryCatch ?_ traced handles
  exact trans

theorem hashTuple_self (engine : Engine σ)
    (computes : HashTraced tuple items (engine.hashItems items.length items {})) :
    HashTraced tuple items (engine.hashTuple tuple items) := by
  intro held state
  cases known : state.world.hashes[tuple]? with
  | some hash =>
    have done := Engine.rememberedHash_known known (engine.hashItems items.length items {}) held
    rw [Engine.hashTuple, done]
    exact ⟨_, (HashCourse.start state).recalled known done⟩
  | none =>
    have unfolded : engine.hashTuple tuple items held state = _ :=
      Engine.rememberedHash_unknown known _ held
    rw [Eval.bind_apply] at unfolded
    have nested := computes held state
    cases hashes : engine.hashItems items.length items {} held state with
    | exhausted =>
      rw [unfolded, hashes]
      trivial
    | abandoned reached =>
      rw [hashes] at nested
      rw [unfolded, hashes]
      exact nested
    | done computed reached =>
      rw [hashes] at nested unfolded
      obtain ⟨inner, nested⟩ := nested
      obtain ⟨result, later, done⟩ : ∃ result later,
          engine.hashTuple tuple items held state = .done result later := by
        rw [unfolded]
        cases computed <;> exact ⟨_, _, rfl⟩
      rw [done]
      exact ⟨_, (HashCourse.start state).computed known hashes nested done⟩

theorem hashTuple_other (engine : Engine σ) {other : Value} {parts : List Value}
    (apart : other ≠ tuple)
    (computes : HashTraced tuple items (engine.hashItems parts.length parts {})) :
    HashTraced tuple items (engine.hashTuple other parts) := by
  refine world.bind fun world => ?_
  split
  · exact pure _
  · refine computes.bind fun hash => create fun world => ?_
    rw [World.rememberHash]
    split
    · rfl
    · rw [Std.HashMap.getElem?_insert, if_neg (by simpa using apart)]

theorem compositional (carries : tuple.items? = some items) :
    Eval.Compositional fun α => (HashTraced tuple items : Eval σ α → Prop) where
  pure := pure
  throw _ _ state := ⟨[], .start state⟩
  abandon _ state := ⟨[], .start state⟩
  exhausted _ _ := trivial
  bind := bind
  tryCatch := tryCatch
  holding traced values held := traced (held.addValues values)
  world := world
  newSerial := create fun _ => rfl
  newInstance type payload := create fun world => by
    rw [World.newInstance]
    dsimp only
    split <;> rfl
  newIterator kind cursor := create fun _ => rfl
  step cursor := create fun world => by
    rw [World.advance]
    split <;> rfl
  hashTuple engine other parts carries' computes := by
    by_cases same : other = tuple
    · subst same
      cases carries.symm.trans carries'
      exact hashTuple_self engine computes
    · exact hashTuple_other engine same computes

end Eval.HashTraced

theorem Host.release_hashTraced (host : Host σ) (cursor : CursorKey) :
    Eval.HashTraced tuple items (host.release cursor) := by
  intro held state
  refine ⟨[], (HashCourse.start state).other ?_⟩
  simp only [World.releaseDead]
  split
  · rfl
  · split <;> rfl

structure HashSettled (tuple : Value) (items : List Value) (calls : List (Except Error Int64))
    (later : State σ) : Prop where
  agree : ∀ hash other, .ok hash ∈ calls → .ok other ∈ calls → hash = other
  unmarked : ∀ hash, .ok hash ∈ calls → hash ≠ -1
  -- After a successful call, nothing is computed, whatever hashing the items would give.
  recalled : ∀ hash, .ok hash ∈ calls → ∀ compute held,
    Engine.rememberedHash tuple compute held later = .done (.ok hash) later
  -- A call that fails has done nothing but to hash the items, and leaves what calls inside it have
  -- found, if there were any.
  failed : ∀ (engine : Engine σ) held error after,
    engine.hashTuple tuple items held later = .done (.error error) after →
      later.world.hashes[tuple]? = none ∧
      engine.hashItems items.length items {} held later = .done (.error error) after ∧
      (engine.Offers (fun _ => Eval.HashTraced tuple items) →
        ∃ inner, HashCourse tuple items later inner after ∧
          ∀ hash, after.world.hashes[tuple]? = some hash ↔ .ok hash ∈ inner)

theorem HashCourse.settled (carries : tuple.items? = some items) {state later : State σ}
    {calls : List (Except Error Int64)} (course : HashCourse tuple items state calls later)
    (unhashed : state.world.hashes[tuple]? = none) : HashSettled tuple items calls later := by
  have remembered (hash : Int64) : later.world.hashes[tuple]? = some hash ↔ .ok hash ∈ calls := by
    rw [course.remembered_iff, unhashed]
    simp
  refine
    { agree := fun hash other found found' => ?_
      unmarked := fun hash found => ?_
      recalled := fun hash found compute held =>
        Engine.rememberedHash_known ((remembered hash).mpr found) compute held
      failed := fun engine held error after fails => ?_ }
  · exact Option.some.inj (((remembered hash).mpr found).symm.trans ((remembered other).mpr found'))
  · exact (course.unmarked ((remembered hash).mpr found)).resolve_left (by simp [unhashed])
  · cases known : later.world.hashes[tuple]? with
    | some hash =>
      rw [Engine.hashTuple, Engine.rememberedHash_known known] at fails
      cases fails
    | none =>
      have hashes : engine.hashItems items.length items {} held later =
          .done (.error error) after := by
        rw [Engine.hashTuple, Engine.rememberedHash_unknown known, Eval.bind_apply] at fails
        split at fails
        · simp only [Eval.create] at fails
          cases fails
        · next ran =>
          cases fails
          exact ran
        all_goals cases fails
      refine ⟨rfl, hashes, fun offers => ?_⟩
      have traced := (Engine.Composes.hashes.2 items.length items {}).inherits
        (Eval.HashTraced.compositional carries) offers held later
      rw [hashes] at traced
      obtain ⟨inner, nested⟩ := traced
      refine ⟨inner, nested, fun hash => ?_⟩
      rw [nested.remembered_iff, known]
      simp

/-- The hash of a tuple is stable in every run of a host that finds hashes only by hashing, however
often, and however deeply nested in itself, the tuple is hashed. -/
theorem tuple_hash_stable {host : Host σ} (carries : tuple.items? = some items)
    (respects : host.Respects fun _ => Eval.HashTraced tuple items) (limits : Limits)
    (patience depth : Nat) :
    (∀ {α : Type} (operation : Eval σ α), (host.engine limits patience depth).Composes operation →
      Eval.HashTraced tuple items operation) ∧
    ∀ {state later : State σ} {calls}, state.world.hashes[tuple]? = none →
      HashCourse tuple items state calls later → HashSettled tuple items calls later := by
  have compositional := Eval.HashTraced.compositional (σ := σ) carries
  refine ⟨fun operation composes => composes.inherits compositional
    (respects.engine compositional host.release_hashTraced limits patience depth), ?_⟩
  exact fun unhashed course => course.settled carries unhashed

end

namespace Reentry

open Removal (point before hashOf)

def tuple : Value :=
  Removal.tuple 301

def host : Host Nat where
  run engine _ _ := do
    let asked ← Eval.host
    Eval.modifyHost (· + 1)
    if asked = 0 then
      let _ ← engine.hashTuple tuple [point]
    return .int (Int64.ofNat asked)
  proceed _ _ := pure (.finished .none)
  roots _ := {}

def engine : Engine Nat :=
  host.engine {} 1 4

def start : State Nat :=
  ⟨before.world, 0⟩

theorem respects : host.Respects fun _ => Eval.HashTraced tuple [point] := by
  refine ⟨fun engine offers code arguments => ?_, fun _ _ _ => Eval.HashTraced.pure _⟩
  have hashes : Eval.HashTraced tuple [point] (engine.hashTuple tuple [point]) :=
    (Engine.Composes.hashTuple rfl (Engine.Composes.hashes.2 _ _ _)).inherits
      (Eval.HashTraced.compositional rfl) offers
  refine .bind (fun _ state => ⟨[], .start state⟩) fun asked => ?_
  refine .bind (fun _ state => ⟨[], (HashCourse.start state).other rfl⟩) fun _ => ?_
  dsimp only
  split
  · exact hashes.bind fun _ => .pure _
  · exact .pure _

def state (hashes : Std.HashMap Value Int64) (serials asked : Nat) : State Nat where
  world := { before.world with hashes, nextSerial := before.world.nextSerial + serials }
  host := asked

def found : Std.HashMap Value Int64 :=
  ({} : Std.HashMap Value Int64).insert tuple (hashOf 1)

theorem hashTuple_inner (held : Roots) :
    (host.engine {} 1 2).hashTuple tuple [point] held (state {} 1 1) =
      .done (.ok (hashOf 1)) (state found 2 2) := by
  have hashes : (host.engine {} 1 2).hashItems 1 [point] {} held (state {} 1 1) =
      .done (.ok (hashOf 1)) (state {} 2 2) := rfl
  exact Engine.rememberedHash_new (Removal.unknown 301) hashes (Removal.unknown 301)

theorem hashItems_outer :
    engine.hashItems 1 [point] {} {} start = .done (.ok (hashOf 0)) (state found 2 2) := by
  let method : Function := ⟨299, "Point", "__hash__", .method, none, .code ⟨0⟩⟩
  let bound := Value.boundMethod before.world.nextSerial method point
  have ran : engine.call bound {} {} (state {} 1 0) = ((host.engine {} 1 2).hashTuple tuple [point]
      >>= fun _ => pure (Value.int 0)) { values := [point, bound] } (state {} 1 1) := rfl
  have called : engine.call bound {} {} (state {} 1 0) =
      .done (.ok (.int 0)) (state found 2 2) := by
    rw [ran, Eval.bind_apply, hashTuple_inner]
    rfl
  have custom : engine.hash point {} start =
      engine.customHash point ⟨18⟩ (.function method) {} start := rfl
  have fetched : engine.descriptorGet (.function method) (some point) ⟨18⟩ false {} start =
      .done (.ok (.ready bound)) (state {} 1 0) := rfl
  have completed : engine.complete (.ready bound) = pure bound := rfl
  rw [Engine.hashItems, Eval.bind_apply, custom, Engine.customHash, Eval.bind_apply, fetched]
  dsimp only
  rw [completed, pure_bind, Eval.bind_apply, called]
  rfl

theorem hash_outer :
    engine.hash tuple {} start = .done (.ok (hashOf 1)) (state found 2 2) := by
  have builtin : start.world.BuiltinHash (start.world.typeOf tuple) := .of_found rfl nofun rfl
  have known : (state found 2 2).world.hashes[tuple]? = some (hashOf 1) :=
    Std.HashMap.getElem?_insert_self
  rw [Engine.hash_tuple rfl builtin, Engine.hashTuple,
    Engine.rememberedHash_unknown (Removal.unknown 301), Eval.bind_apply, List.length_singleton,
    hashItems_outer]
  dsimp only
  rw [Eval.create, World.rememberHash, known]

end Reentry

theorem tuple_hash_stable_reentry :
    ∃ calls later, Reentry.engine.hash Reentry.tuple {} Reentry.start =
        .done (.ok (Removal.hashOf 1)) later ∧
      HashCourse Reentry.tuple [Removal.point] Reentry.start calls later ∧
      .ok (Removal.hashOf 1) ∈ calls ∧
      HashSettled Reentry.tuple [Removal.point] calls later := by
  have unhashed : Reentry.start.world.hashes[Reentry.tuple]? = none := Removal.unknown 301
  have stable := tuple_hash_stable rfl Reentry.respects {} 1 4
  have traced : (Reentry.engine.hash Reentry.tuple {} Reentry.start).EndsIn _ :=
    stable.1 _ (Engine.Composes.hashes.1 Reentry.tuple) {} Reentry.start
  rw [Reentry.hash_outer] at traced
  obtain ⟨calls, course⟩ := traced
  refine ⟨calls, _, Reentry.hash_outer, course, ?_, stable.2 unhashed course⟩
  have found := (course.remembered_iff (Removal.hashOf 1)).mp Std.HashMap.getElem?_insert_self
  exact found.resolve_left (by simp [unhashed])

end ObjectModel
