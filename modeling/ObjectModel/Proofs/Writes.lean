import ObjectModel.Proofs.Construction
import ObjectModel.Proofs.Suspension

set_option autoImplicit false

namespace ObjectModel

def Descriptor.setter? : Descriptor → Option Code
  | .property _ _ _ setter => setter
  | .accessor _ _ _ _ setter => some setter

def World.setter? (world : World) (receiver : Value) (name : String) : Option Code :=
  -- A type that is immutable refuses before any descriptor is asked.
  if receiver.asType?.any fun type => (world.flagsOf type).immutable then
    none
  else
    match (world.entry? receiver name).filter (·.category.isData) with
    | some (.descriptor descriptor) => descriptor.setter?
    | _ => none

theorem Value.eq_descriptor_of_data {value : Value} (data : value.category.isData = true) :
    ∃ descriptor : Descriptor, value = .descriptor descriptor ∧ descriptor.isData = true := by
  cases value with
  | descriptor descriptor =>
    refine ⟨descriptor, rfl, ?_⟩
    by_contra other
    simp [category, other, Category.isData] at data
  | function function =>
    cases binding : function.binding <;> simp [category, binding, Category.isData] at data
  | _ => cases data

theorem World.writable_iff (world : World) (receiver : Value) :
    world.Writable receiver ↔
      receiver.asType?.any (fun type => (world.flagsOf type).immutable) = false := by
  cases receiver <;> simp [Writable, Value.asType?]

namespace Engine

variable {σ : Type} {engine : Engine σ} {held : Roots} {state : State σ}

structure WritesAtomically (engine : Engine σ) (receiver : Value) (name : String)
    (value? : Option Value) (allowSuspend : Bool) (held : Roots) (state : State σ) : Prop where
  -- A setter is run first of all, and what it comes to is all that is left to do.
  asked : ∀ setter, state.world.setter? receiver name = some setter → ∃ request,
    engine.setAttribute receiver name value? allowSuspend held state =
      engine.ask setter request (fun _ => ()) allowSuspend held state
  -- Without one no engine has a say, and a failure leaves the state as it was.
  alone : state.world.setter? receiver name = none → ∃ result later,
    (∀ engine : Engine σ, engine.setAttribute receiver name value? allowSuspend held state =
      .done result later) ∧ ∀ error, result = .error error → later = state

theorem writesAtomically_immutable (type : TypeKey) (name : String) (value? : Option Value)
    (allowSuspend : Bool) (immutable : (state.world.flagsOf type).immutable = true) :
    engine.WritesAtomically (.type type) name value? allowSuspend held state where
  asked setter found := by simp [World.setter?, Value.asType?, immutable] at found
  alone _ := ⟨_, _, fun engine => setAttribute_immutable type name value? allowSuspend held state
    immutable, fun _ _ => rfl⟩

theorem writesAtomically_descriptor (descriptor : Descriptor) (receiver : Value) (name : String)
    (value? : Option Value) (allowSuspend : Bool)
    (same : ∀ engine : Engine σ,
      engine.setAttribute receiver name value? allowSuspend held state =
        engine.assign descriptor receiver value? allowSuspend held state)
    (taken : state.world.setter? receiver name = descriptor.setter?) :
    engine.WritesAtomically receiver name value? allowSuspend held state := by
  refine ⟨fun code found => ?_, fun absent => ?_⟩
  · rw [taken] at found
    rw [same]
    cases descriptor with
    | accessor serial name data getter setter =>
      obtain rfl : setter = code := Option.some.inj found
      refine ⟨fun allowSuspend =>
        [receiver, value?.getD .none, .bool value?.isSome, .bool allowSuspend], ?_⟩
      simp [assign, writeDescriptor, ask]
    | property serial name getter setter =>
      obtain rfl : setter = some code := found
      refine ⟨fun _ => [receiver, value?.getD .none, .bool value?.isSome], ?_⟩
      simp [assign, writeDescriptor, ask]
  · rw [taken] at absent
    cases descriptor with
    | accessor serial name data getter setter => cases absent
    | property serial name getter setter =>
      obtain rfl : setter = none := absent
      exact ⟨_, _, fun engine => (same engine).trans rfl, fun _ _ => rfl⟩

theorem writesAtomically_own (receiver : Value) (name : String) (value? : Option Value)
    (allowSuspend : Bool)
    (same : ∀ engine : Engine σ,
      engine.setAttribute receiver name value? allowSuspend held state =
        (Completion.ready <$> goOver (·.writeOwn receiver name value?)) held state)
    (absent : state.world.setter? receiver name = none) :
    engine.WritesAtomically receiver name value? allowSuspend held state := by
  refine ⟨fun code found => ?_, fun _ => ?_⟩
  · rw [absent] at found
    cases found
  · simp only [same, goOver_apply]
    cases state.world.writeOwn receiver name value? with
    | ok world => exact ⟨_, _, fun _ => rfl, nofun⟩
    | error error => exact ⟨_, _, fun _ => rfl, fun _ _ => rfl⟩

theorem writesAtomically (receiver : Value) (name : String) (value? : Option Value)
    (allowSuspend : Bool) :
    engine.WritesAtomically receiver name value? allowSuspend held state := by
  by_cases writable : state.world.Writable receiver
  · have changeable := (state.world.writable_iff receiver).mp writable
    have written (engine : Engine σ) := engine.setAttribute_apply receiver name value? allowSuspend
      held state writable
    cases entry : (state.world.entry? receiver name).filter (·.category.isData) with
    | none =>
      simp only [entry] at written
      exact writesAtomically_own receiver name value? allowSuspend written
        (by simp [World.setter?, changeable, entry])
    | some found =>
      obtain ⟨descriptor, rfl, data⟩ :=
        Value.eq_descriptor_of_data (Option.filter_eq_some_iff.mp entry).2
      simp only [entry, descriptorSet_data data] at written
      exact writesAtomically_descriptor descriptor receiver name value? allowSuspend written
        (by simp [World.setter?, changeable, entry])
  · cases receiver with
    | type type =>
      have immutable : (state.world.flagsOf type).immutable = true := by
        simpa [World.Writable] using writable
      exact writesAtomically_immutable type name value? allowSuspend immutable
    | _ => exact absurd trivial writable

end Engine

theorem Outcome.Leaves.mono {σ α : Type} {narrow wide : World → Prop} {outcome : Outcome σ α}
    (leaves : outcome.Leaves narrow) (weaker : ∀ world, narrow world → wide world) :
    outcome.Leaves wide := by
  rw [Outcome.leaves_iff] at leaves ⊢
  exact leaves.mono fun later => weaker later.world

def World.Unaltered (world later : World) : Prop :=
  ∀ key type, world.type? key = some type → type.flags.immutable = true →
    later.type? key = some type

namespace World.Unaltered

variable {world middle later : World} {key : TypeKey}

theorem of_types_eq (same : later.types = world.types) : world.Unaltered later :=
  fun key type held _ => by rwa [type?, same]

theorem trans (first : world.Unaltered middle) (second : middle.Unaltered later) :
    world.Unaltered later :=
  fun key type held immutable => second key type (first key type held immutable) immutable

instance lasting : World.Lasting World.Unaltered :=
  .of_types of_types_eq trans

theorem modifyType (changeable : (world.flagsOf key).immutable = false)
    (change : TypeObject → TypeObject) : world.Unaltered (world.modifyType key change) := by
  intro other type held immutable
  have apart : key.index ≠ other.index := by
    intro same
    obtain rfl : key = other := congrArg TypeKey.mk same
    simp [flagsOf, held, immutable] at changeable
  rw [type?, World.modifyType, Cells.get?_modify, if_neg apart]
  exact held

theorem writeOwn {receiver : Value} {name : String} {value? : Option Value}
    (writable : world.Writable receiver)
    (written : world.writeOwn receiver name value? = .ok later) : world.Unaltered later := by
  cases receiver with
  | type type =>
    cases value? with
    | some value =>
      cases written
      exact modifyType writable _
    | none =>
      simp only [World.writeOwn, writeMember] at written
      split at written
      · cases written
      · cases written
        exact modifyType writable _
  | _ =>
    simp only [World.writeOwn, writeStore] at written
    split at written
    · cases written
    · cases written
      exact of_types_eq rfl
    · split at written
      · cases written
      · cases written
        exact of_types_eq rfl

end World.Unaltered

namespace Engine

variable {σ : Type} {engine : Engine σ}

section Keeps

variable {kept : World → World → Prop} [World.Lasting kept]

theorem Keeps.assign (keeps : engine.Keeps kept) (descriptor : Descriptor) (receiver : Value)
    (value? : Option Value) (allowSuspend : Bool) :
    Eval.Keeps kept (engine.assign descriptor receiver value? allowSuspend) := by
  refine Eval.Keeps.bind ?_ fun _ => keeps.composed (.settle _ _)
  cases descriptor with
  | accessor serial name data getter setter =>
    exact (keeps.composed (.start setter _)).bind fun _ => .pure _
  | property serial name getter setter =>
    cases setter with
    | none => exact .failFor _ _
    | some setter => exact (keeps.composed (.start setter _)).bind fun _ => .pure _

end Keeps

theorem Keeps.setAttribute (keeps : engine.Keeps World.Unaltered) (receiver : Value)
    (name : String) (value? : Option Value) (allowSuspend : Bool) :
    Eval.Keeps World.Unaltered (engine.setAttribute receiver name value? allowSuspend) := by
  intro held state
  by_cases writable : state.world.Writable receiver
  · rw [setAttribute_apply _ _ _ _ _ _ writable]
    cases entry : (state.world.entry? receiver name).filter (·.category.isData) with
    | some found =>
      obtain ⟨descriptor, rfl, data⟩ :=
        Value.eq_descriptor_of_data (Option.filter_eq_some_iff.mp entry).2
      simp only [descriptorSet_data data]
      exact keeps.assign _ _ _ _ held state
    | none =>
      simp only [goOver_apply]
      cases written : state.world.writeOwn receiver name value? with
      | ok later => exact World.Unaltered.writeOwn writable written
      | error error => exact World.Unaltered.of_types_eq rfl
  · cases receiver with
    | type type =>
      have immutable : (state.world.flagsOf type).immutable = true := by
        simpa [World.Writable] using writable
      rw [setAttribute_immutable _ _ _ _ _ _ immutable]
      exact World.Unaltered.of_types_eq rfl
    | _ => exact absurd trivial writable

def accessOnly (engine : Engine σ) : Engine σ :=
  { engine with
    call := fun _ _ => .exhausted
    run := fun _ _ => .exhausted
    release := fun _ => .exhausted }

theorem drain_accessOnly {α : Type} (limit remaining : Nat) (completion : Completion α) :
    engine.accessOnly.drain limit remaining completion =
      engine.drain limit remaining completion := by
  induction remaining generalizing completion with
  | zero =>
    cases completion with
    | ready value => rfl
    | suspended suspension =>
      obtain ⟨label, kind, rest, wrap⟩ := suspension
      cases kind <;> rfl
  | succ remaining ih =>
    cases completion with
    | ready value => rfl
    | suspended suspension =>
      obtain ⟨label, kind, rest, wrap⟩ := suspension
      cases kind with
      | blocking => rfl
      | optional =>
        rw [drain_succ _ _ _ rfl, drain_succ _ _ _ rfl, funext ih]
        rfl

theorem access_accessOnly {α : Type} {found : State σ → Descriptor → Prop}
    {access : Engine σ → Bool → Eval σ (Completion α)}
    (route : ∀ held state, Route (found state) access held state) (allowSuspend : Bool) :
    access engine.accessOnly allowSuspend = access engine allowSuspend := by
  funext held state
  cases route held state with
  | own operation equal => rw [equal, equal]
  | asking descriptor member code arguments wrap alike equal =>
    rw [equal, equal]
    cases allowSuspend with
    | true => rfl
    | false =>
      simp only [ask_false, complete, finish, drain_accessOnly]
      rfl

/-- Programs that change the world by reading, assigning and deleting attributes alone. -/
inductive Confined (engine : Engine σ) : {α : Type} → Eval σ α → Prop where
  -- Whatever leaves the world as it is, be it to compute, to fail or to change the host.
  | silent {α : Type} {operation : Eval σ α}
    (same : ∀ held state, (operation held state).Leaves (· = state.world)) :
    Confined engine operation
  | read (receiver : Value) (name : String) (allowSuspend : Bool) :
    Confined engine (engine.getAttribute receiver name allowSuspend)
  | write (receiver : Value) (name : String) (value? : Option Value) (allowSuspend : Bool) :
    Confined engine (engine.setAttribute receiver name value? allowSuspend)
  | resume {α : Type} (suspension : Suspension α) : Confined engine (engine.resume suspension)
  | bind {α β : Type} {first : Eval σ α} {next : α → Eval σ β} (confined : Confined engine first)
    (rest : ∀ value, Confined engine (next value)) : Confined engine (first >>= next)
  | recover {α : Type} {body : Eval σ α} {handler : Error → Eval σ α}
    (confined : Confined engine body) (handles : ∀ error, Confined engine (handler error)) :
    Confined engine (tryCatch body handler)
  | holding {α : Type} {operation : Eval σ α} (values : List Value)
    (confined : Confined engine operation) : Confined engine (Eval.holding values operation)

theorem Confined.keeps {α : Type} {operation : Eval σ α} (confined : engine.Confined operation)
    (proceeds : ∀ resumption, Eval.Keeps World.Unaltered (engine.proceed resumption)) :
    Eval.Keeps World.Unaltered operation := by
  have accesses : engine.accessOnly.Keeps World.Unaltered :=
    ⟨fun _ _ => .exhausted, fun _ _ => .exhausted, proceeds, fun _ => .exhausted⟩
  induction confined with
  | silent same =>
    intro held state
    exact (same held state).mono fun _ left => .of_types_eq (congrArg World.types left)
  | read receiver name allowSuspend =>
    have kept := accesses.composed (.getAttribute receiver name allowSuspend)
    rwa [access_accessOnly (getAttribute_route receiver name)] at kept
  | write receiver name value? allowSuspend =>
    have kept := accesses.setAttribute receiver name value? allowSuspend
    rwa [access_accessOnly (setAttribute_route receiver name value?)] at kept
  | resume suspension => exact (proceeds suspension.rest).bind fun _ => .pure _
  | bind _ _ ih rest => exact ih.bind rest
  | recover _ _ ih handles => exact ih.tryCatch handles
  | holding values _ ih => exact ih.holding values

end Engine

theorem Host.proceed_keeps {σ : Type} {host : Host σ}
    (confined : ∀ (engine : Engine σ) resumption, engine.Confined (host.proceed engine resumption))
    (limits : Limits) (patience depth : Nat) (resumption : Resumption) :
    Eval.Keeps World.Unaltered ((host.engine limits patience depth).proceed resumption) := by
  -- Accesses of the code go through the engine with a level less.
  induction depth generalizing resumption with
  | zero => exact .exhausted
  | succ depth ih => exact ((confined _ resumption).keeps ih).holding _

/-- An assignment or a deletion that fails without a setter leaves the state as it was, and no
course of accesses changes an immutable type, whatever accesses getters and setters make in turn. -/
theorem writes_atomic_types_fixed {σ : Type} (host : Host σ) (limits : Limits)
    (patience depth : Nat) :
    (∀ (engine : Engine σ) receiver name value? allowSuspend held state,
      engine.WritesAtomically receiver name value? allowSuspend held state) ∧
    ((∀ (engine : Engine σ) resumption, engine.Confined (host.proceed engine resumption)) →
      ∀ {α : Type} (program : Eval σ α), (host.engine limits patience depth).Confined program →
        ∀ held state, (program held state).Leaves fun later =>
          ∀ key type, state.world.type? key = some type → type.flags.immutable = true →
            later.type? key = some type) := by
  refine ⟨fun engine receiver name value? allowSuspend held state =>
    Engine.writesAtomically receiver name value? allowSuspend,
    fun confined _ program accesses => ?_⟩
  exact accesses.keeps (host.proceed_keeps confined limits patience depth)

def Host.intruder : Host Unit where
  run _ _ _ := pure .none
  proceed engine _ := do
    let _ ← engine.setAttribute (.type Builtin.tuple.key) "size" (some .none) false
    return .finished .none
  roots _ := {}

def World.sized : World :=
  match initial.newSubtype sharedRegistry "Sized" Builtin.object.key .slots with
  | .ok (key, world) =>
    world.setMember key "size" (.descriptor (.property 0 "size" .typeOf (some ⟨0⟩)))
  | .error _ => initial

theorem writes_atomic_types_fixed_intruder : ∃ receiver later error,
    World.sized.setter? receiver "size" = some ⟨0⟩ ∧
    (Host.intruder.engine {} 1 2).setAttribute receiver "size" none false {} ⟨World.sized, ()⟩ =
      .done (.error error) later ∧
    later.world.type? Builtin.tuple.key = World.sized.type? Builtin.tuple.key := by
  have confined : ∀ (engine : Engine Unit) resumption,
      engine.Confined (Host.intruder.proceed engine resumption) := fun engine _ =>
    .bind (.write _ _ _ _) fun _ => .silent fun _ _ => rfl
  -- The assignment leads to a setter that is after the type of tuples, and fails there.
  have failed : (Host.intruder.engine {} 1 2).setAttribute (.object ⟨0, ⟨18⟩, none, .empty⟩) "size"
      none false {} ⟨World.sized, ()⟩ =
        .done (.error (.immutableType "size" "tuple")) ⟨World.sized, ()⟩ := rfl
  have kept := (writes_atomic_types_fixed Host.intruder {} 1 2).2 confined _
    (.write (.object ⟨0, ⟨18⟩, none, .empty⟩) "size" none false) {} ⟨World.sized, ()⟩
  rw [failed] at kept
  exact ⟨_, _, _, rfl, failed, kept Builtin.tuple.key _ rfl rfl⟩

end ObjectModel
