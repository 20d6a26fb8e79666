import ObjectModel.Proofs.Construction

set_option autoImplicit false

namespace ObjectModel

theorem Table.get?_foldl_insert {κ α : Type} [DecidableEq κ] {key : κ} {entries : List (κ × α)}
    (absent : key ∉ entries.map Prod.fst) (table : Table κ α) :
    (entries.foldl (fun table entry => table.insert entry.1 entry.2) table).get? key =
      table.get? key := by
  induction entries generalizing table with
  | nil => rfl
  | cons entry rest ih =>
    simp only [List.map_cons, List.mem_cons, not_or] at absent
    rw [List.foldl_cons, ih absent.2, get?_insert, if_neg (Ne.symm absent.1)]

namespace Builtin

theorem new_not_mem_ownMembers (builtin : Builtin) :
    "__new__" ∉ builtin.ownMembers.map Prod.fst := by
  cases builtin <;> decide

def IsConstructor (declaring : TypeKey) (new : Value) : Prop :=
  ∃ function : Function, new = .function function ∧ function.body = .construct declaring

theorem typeObject_new (first serial : Nat) (builtin : Builtin) :
    ∃ new, (builtin.typeObject first serial).members.get? "__new__" = some new ∧
      IsConstructor ⟨first + builtin.id⟩ new := by
  let own := (builtin.constructor ⟨first + builtin.id⟩).2 (serial + serialsPerType * builtin.id)
  refine ⟨own, ?_, _, rfl, rfl⟩
  have absent : "__new__" ∉ ((builtin.ownMembers.zipIdx 1).map fun entry =>
      (entry.1.1, entry.1.2 (serial + serialsPerType * builtin.id + entry.2))).map Prod.fst := by
    have names := builtin.new_not_mem_ownMembers
    simpa [List.mem_map, List.mem_zipIdx_iff_getElem?, List.mem_iff_getElem?] using names
  exact (Table.get?_foldl_insert absent _).trans (Table.get?_insert _ _ _ _)

end Builtin

namespace World

/-- The worlds that the registry made in `before` reaches while members are written into the types
created in it and removed from them, and none into its built-in types. -/
inductive Furnished (before : World) : World → List (TypeKey × Storage) → Prop where
  | fresh : Furnished before before.newRegistry.2 []
  | created {world later : World} {made : List (TypeKey × Storage)} {name : String}
    {base key : TypeKey} {storage : Storage} (furnished : Furnished before world made)
    (known : HandedOut before made base)
    (extended : world.newSubtype before.newRegistry.1 name base storage = .ok (key, later)) :
    Furnished before later ((key, storage) :: made)
  | written {world : World} {made : List (TypeKey × Storage)} {key : TypeKey} {storage : Storage}
    (name : String) (value : Value) (furnished : Furnished before world made)
    (member : (key, storage) ∈ made) : Furnished before (world.setMember key name value) made
  | removed {world : World} {made : List (TypeKey × Storage)} {key : TypeKey} {storage : Storage}
    (name : String) (furnished : Furnished before world made) (member : (key, storage) ∈ made) :
    Furnished before (world.removeMember key name) made
  | otherwise {world later : World} {made : List (TypeKey × Storage)}
    (furnished : Furnished before world made) (extended : world.Extends later)
    (natives : ∀ builtin, later.type? (before.builtinKey builtin) =
      world.type? (before.builtinKey builtin)) : Furnished before later made

variable {before world later : World} {made : List (TypeKey × Storage)} {key base : TypeKey}
  {storage : Storage}

theorem Lineage.modifyType_native (lineage : Lineage before world made)
    (member : (key, storage) ∈ made) (change : TypeObject → TypeObject) (builtin : Builtin) :
    (world.modifyType key change).type? (before.builtinKey builtin) =
      world.type? (before.builtinKey builtin) := by
  obtain ⟨base, _, child⟩ := lineage.child key storage member
  have inside := before.builtinKey_index_lt builtin
  have beyond := child.beyond
  rw [type?, modifyType, Cells.get?_modify, if_neg (by omega)]
  rfl

theorem Lineage.newSubtype_native {registry : RegistryKey} {name : String}
    (lineage : Lineage before world made)
    (extended : world.newSubtype registry name base storage = .ok (key, later))
    (builtin : Builtin) :
    later.type? (before.builtinKey builtin) = world.type? (before.builtinKey builtin) := by
  obtain ⟨_, _, _, _, rfl⟩ := newSubtype_ok extended
  have inside := before.builtinKey_index_lt builtin
  have room := lineage.room
  rw [type?, Cells.get?_push, if_neg (by omega)]
  rfl

namespace Furnished

theorem grown (furnished : Furnished before world made) : Grown before world made := by
  induction furnished with
  | fresh => exact .fresh
  | created _ known extended ih => exact .created ih known extended
  | written name value _ _ ih => exact .otherwise ih (.setMember name value)
  | removed name _ _ ih => exact .otherwise ih (.modifyType fun _ => ⟨_, rfl⟩)
  | otherwise _ extended _ ih => exact .otherwise ih extended

theorem native_new (furnished : Furnished before world made) (builtin : Builtin) :
    ∃ new, world.member? (before.builtinKey builtin) "__new__" = some new ∧
      Builtin.IsConstructor (before.builtinKey builtin) new := by
  have kept {world later : World} (same : later.type? (before.builtinKey builtin) =
      world.type? (before.builtinKey builtin)) :
      later.member? (before.builtinKey builtin) "__new__" =
        world.member? (before.builtinKey builtin) "__new__" := by
    rw [member?, same]
    rfl
  induction furnished with
  | fresh =>
    obtain ⟨new, found, constructor⟩ :=
      Builtin.typeObject_new before.types.size before.nextSerial builtin
    refine ⟨new, ?_, constructor⟩
    simpa [newRegistry, member?, type?, builtinKey, Cells.get?_foldl_push, Builtin.byId_id]
      using found
  | created furnished _ extended ih =>
    rwa [kept (furnished.grown.lineage.newSubtype_native extended builtin)]
  | written name value furnished member ih =>
    rwa [setMember, kept (furnished.grown.lineage.modifyType_native member _ builtin)]
  | removed name furnished member ih =>
    rwa [removeMember, kept (furnished.grown.lineage.modifyType_native member _ builtin)]
  | otherwise _ _ natives ih => rwa [kept (natives builtin)]

end Furnished

def RedefinesNew (world : World) (key : TypeKey) : Prop :=
  ∃ owner ∈ world.chain key, (world.flagsOf owner).heap = true ∧
    (world.member? owner "__new__").isSome = true

inductive Constructor (before world : World) (key : TypeKey) : Prop where
  -- One and the same value, written into a type of the chain.
  | user (new : Value) (redefined : world.RedefinesNew key)
    (slot : world.newSlot? key = some (.user new)) (found : world.lookup key "__new__" = some new)
  -- The layout of the nearest built-in type, and the guarded constructor of that type.
  | native (builtin : Builtin) (new : Value) (inherited : ¬ world.RedefinesNew key)
    (above : world.isSubtype key (before.builtinKey builtin) = true)
    (layout : world.layoutOf? key = some builtin.layout)
    (slot : world.newSlot? key = some (.native builtin.layout))
    (found : world.lookup key "__new__" = some new)
    (constructor : Builtin.IsConstructor (before.builtinKey builtin) new)

theorem lookup_own {name : String} {value : Value}
    (member : world.member? key name = some value) : world.lookup key name = some value := by
  simp [lookup, lookupWithOwner, chain, member]

theorem newSlot?_own {slot : NewSlot} (own : world.newSlotAt? key = some slot) :
    world.newSlot? key = some slot := by
  simp [newSlot?, chain, own]

section Inheriting

variable (inherits : world.chain key = key :: world.chain base)

include inherits

theorem lookup_inherited {name : String} (absent : world.member? key name = none) :
    world.lookup key name = world.lookup base name := by
  rw [lookup, lookup, lookupWithOwner, lookupWithOwner, inherits, List.findSome?_cons, absent]
  rfl

theorem newSlot?_inherited (absent : world.newSlotAt? key = none) :
    world.newSlot? key = world.newSlot? base := by
  rw [newSlot?, newSlot?, inherits, List.findSome?_cons, absent]

theorem redefinesNew_inherited (absent : world.member? key "__new__" = none) :
    world.RedefinesNew key ↔ world.RedefinesNew base := by
  simp [RedefinesNew, inherits, absent]

end Inheriting

theorem Native.not_redefinesNew (native : ∀ builtin, Native before world builtin)
    (builtin : Builtin) : ¬ world.RedefinesNew (before.builtinKey builtin) := by
  rintro ⟨owner, above, heap, _⟩
  rw [(native builtin).chain] at above
  obtain ⟨ancestor, _, rfl⟩ := List.mem_map.mp above
  rw [(native ancestor).flags, ancestor.flags_heap] at heap
  cases heap

theorem Native.newSlot?_eq {builtin : Builtin} (native : Native before world builtin) :
    world.newSlot? (before.builtinKey builtin) = some (.native builtin.layout) := by
  apply newSlot?_own
  simp [newSlotAt?, hasUserNew, native.flags, builtin.flags_heap, native.layout]

theorem Constructor.of_native (furnished : Furnished before world made) (builtin : Builtin) :
    Constructor before world (before.builtinKey builtin) := by
  have lineage := furnished.grown.lineage
  have native := lineage.native builtin
  obtain ⟨new, member, constructor⟩ := furnished.native_new builtin
  refine .native builtin new (Native.not_redefinesNew lineage.native builtin) ?_
    (lineage.layoutOf?_native builtin) native.newSlot?_eq (lookup_own member) constructor
  exact (world.isSubtype_iff _ _).mpr (world.mem_chain_self _)

theorem Constructor.of_child (child : Child before world base key storage)
    (inherited : Constructor before world base) : Constructor before world key := by
  have heap : (world.flagsOf key).heap = true := by
    rw [child.flags]
    rfl
  cases member : world.member? key "__new__" with
  | some new =>
    refine .user new ⟨key, world.mem_chain_self key, heap, by rw [member]; rfl⟩
      (newSlot?_own ?_) (lookup_own member)
    simp [newSlotAt?, hasUserNew, heap, member]
  | none =>
    -- The type contributes nothing itself, neither a member nor a layout.
    have absent : world.newSlotAt? key = none := by
      simp [newSlotAt?, hasUserNew, member, child.layout]
    cases inherited with
    | user new redefined slot found =>
      exact .user new ((redefinesNew_inherited child.chain member).mpr redefined)
        ((newSlot?_inherited child.chain absent).trans slot)
        ((lookup_inherited child.chain member).trans found)
    | native builtin new inherited above layout slot found constructor =>
      refine .native builtin new ((redefinesNew_inherited child.chain member).not.mpr inherited) ?_
        ((Lineage.layoutOf?_child child).trans layout)
        ((newSlot?_inherited child.chain absent).trans slot)
        ((lookup_inherited child.chain member).trans found) constructor
      rw [isSubtype_iff] at above ⊢
      rw [child.chain]
      exact List.mem_cons_of_mem _ above

theorem Furnished.constructor (furnished : Furnished before world made)
    (given : HandedOut before made key) : Constructor before world key :=
  furnished.grown.lineage.induct (Constructor.of_native furnished)
    (fun _ _ _ _ _ child inherited => .of_child child inherited) given

def initialiser? (world : World) (type : TypeKey) (value : Value) : Option Value :=
  -- A constructor may give something else than an instance of the type.
  if world.isSubtype (world.typeOf value) type then
    world.lookup (world.typeOf value) "__init__"
  else
    none

end World

/-- Calling a value with so many nesting levels to spend: on this level, or on the next one while
what is called and its arguments are held. -/
inductive Host.Calls {σ : Type} (host : Host σ) (limits : Limits) (patience : Nat) (callee : Value)
    (arguments : Arguments) : Nat → Eval σ Value → Prop where
  | here (depth : Nat) : Calls host limits patience callee arguments depth
      ((host.engine limits patience depth).callValue callee arguments)
  | below (depth : Nat) : Calls host limits patience callee arguments (depth + 1)
      (Eval.holding (callee :: arguments.values)
        ((host.engine limits patience depth).callValue callee arguments))
  | spent : Calls host limits patience callee arguments 0 .exhausted

theorem Host.engine_calls {σ : Type} (host : Host σ) (limits : Limits) (patience depth : Nat)
    (callee : Value) (arguments : Arguments) :
    host.Calls limits patience callee arguments depth
      ((host.engine limits patience depth).call callee arguments) := by
  cases depth with
  | zero => exact .spent
  | succ depth => exact .below depth

namespace Engine

variable {σ : Type} {engine : Engine σ} {held : Roots} {state : State σ} {type : TypeKey}

def initialised (engine : Engine σ) (type : TypeKey) (arguments : Arguments) (value : Value) :
    Eval σ Value := do
  let world ← Eval.world
  match world.initialiser? type value with
  | none => return value
  | some init =>
    Eval.holding [value] do
      let found ← engine.descriptorGet init (some value) (world.typeOf value) false
      let answer ← engine.call (← engine.complete found) arguments
      if answer.isNone then return value else .failFor answer .initReturnedValue

theorem initialised_apply (arguments : Arguments) (value : Value) :
    engine.initialised type arguments value held state =
      (if state.world.isSubtype (state.world.typeOf value) type then do
        Eval.holding [value] (engine.initialise value arguments)
        return value
      else
        return value) held state := by
  rw [initialised, Eval.world_bind_apply]
  by_cases below : state.world.isSubtype (state.world.typeOf value) type = true
  · have same : Eval.holding [value] (Eval.world : Eval σ World) = Eval.world := rfl
    simp only [World.initialiser?, below, if_true, initialise, Eval.holding_bind, bind_assoc, same,
      Eval.world_bind_apply]
    cases state.world.lookup (state.world.typeOf value) "__init__" with
    | none => simp
    | some init =>
      have required (answer : Value) :
          Eval.holding [value] (if answer.isNone = true then (pure value : Eval σ Value)
            else Eval.failFor answer .initReturnedValue) =
          Eval.holding [value] (if (!answer.isNone) = true then
            (Eval.failFor answer .initReturnedValue : Eval σ Unit) else pure ()) >>=
              fun _ => pure value := by
        cases answer.isNone <;> rfl
      simp only [Eval.holding_bind, bind_assoc, required]
  · simp [World.initialiser?, below]

theorem typeCall_apply (arguments : Arguments) :
    engine.typeCall type arguments held state =
      ((match state.world.newSlot? type with
        | none => throw (.noConstructor (state.world.nameOf type))
        | some (.user new) => engine.call new (arguments.prepend (.type type))
        | some (.native layout) => engine.construct layout type arguments) >>=
          engine.initialised type arguments) held state := by
  rw [typeCall, Eval.world_bind_apply]
  have rest (value : Value) : (do
      let world ← Eval.world
      if world.isSubtype (world.typeOf value) type then
        Eval.holding [value] (engine.initialise value arguments)
      return value) = engine.initialised type arguments value := by
    funext held state
    rw [Eval.world_bind_apply, initialised_apply]
  simp only [rest]
  cases state.world.newSlot? type with
  | none => rfl
  | some slot => cases slot <;> rfl

theorem callValue_constructor {new : Value} {declaring : TypeKey}
    (constructor : Builtin.IsConstructor declaring new)
    (known : (state.world.type? declaring).isSome = true) (arguments : Arguments) :
    engine.callValue new arguments held state =
      engine.constructSafely declaring arguments held state := by
  obtain ⟨function, rfl, body⟩ := constructor
  have present : (state.world.type? declaring).isNone = false := by simp [known]
  simp only [callValue, invoke, body]
  rw [Eval.world_bind_apply, present]
  rfl

variable {before : World} {made : List (TypeKey × Storage)}

theorem construct_eq_callValue {builtin : Builtin} {new : Value}
    (native : World.Native before state.world builtin)
    (above : state.world.isSubtype type (before.builtinKey builtin) = true)
    (layout : state.world.layoutOf? type = some builtin.layout)
    (constructor : Builtin.IsConstructor (before.builtinKey builtin) new)
    (arguments : Arguments) :
    engine.construct builtin.layout type arguments held state =
      engine.callValue new (arguments.prepend (.type type)) held state := by
  have declared : state.world.layoutOf? (before.builtinKey builtin) = some builtin.layout := by
    simp [World.layoutOf?, World.layoutOwner?, World.chain, native.layout]
  have safe : state.world.safeLayout (before.builtinKey builtin) type = .ok builtin.layout :=
    (World.safeLayout_ok_iff builtin.layout).mpr ⟨above, layout, declared⟩
  rw [callValue_constructor constructor (Option.isSome_iff_exists.mpr native.known),
    constructSafely_apply, safe]

/-- Whatever is written into the types created in a registry, calling one of its types comes to
calling what the type finds under `__new__`, with the type in front of the arguments, and to
initialising what that gives. -/
theorem type_call_through_new (host : Host σ) (limits : Limits) (patience depth : Nat)
    (furnished : World.Furnished before state.world made)
    (given : World.HandedOut before made type) (arguments : Arguments) (held : Roots) :
    (∃ slot, state.world.newSlot? type = some slot) ∧
    (∀ new, state.world.newSlot? type = some (.user new) ↔
      state.world.RedefinesNew type ∧ state.world.lookup type "__new__" = some new) ∧
    (¬ state.world.RedefinesNew type →
      state.world.newSlot? type = (state.world.layoutOf? type).map .native) ∧
    ∃ new call, state.world.lookup type "__new__" = some new ∧
      host.Calls limits patience new (arguments.prepend (.type type)) depth call ∧
      (host.engine limits patience depth).typeCall type arguments held state =
        (call >>= (host.engine limits patience depth).initialised type arguments) held state ∧
      ∀ declaring, Builtin.IsConstructor declaring new →
        (state.world.type? declaring).isSome = true → ∀ (engine : Engine σ) (held : Roots),
          engine.callValue new (arguments.prepend (.type type)) held state =
            engine.constructSafely declaring (arguments.prepend (.type type)) held state := by
  cases furnished.constructor given with
  | user new redefined slot found =>
    refine ⟨⟨_, slot⟩, by simp [slot, redefined, found],
      fun inherited => absurd redefined inherited,
      new, _, found, host.engine_calls limits patience depth _ _, ?_,
      fun _ constructor known _ _ => callValue_constructor constructor known _⟩
    rw [typeCall_apply, slot]
  | native builtin new inherited above layout slot found constructor =>
    refine ⟨⟨_, slot⟩, by simp [slot, inherited], fun _ => by rw [slot, layout]; rfl,
      new, _, found, .here depth, ?_,
      fun _ constructor known _ _ => callValue_constructor constructor known _⟩
    have native := furnished.grown.lineage.native builtin
    rw [typeCall_apply, slot]
    exact Eval.bind_congr (construct_eq_callValue native above layout constructor arguments) _

theorem type_call_through_new_unsafe : ∃ world new call,
    World.Furnished {} world [(⟨18⟩, .slots)] ∧ world.newSlot? ⟨18⟩ = some (.user new) ∧
    idleHost.Calls {} 1 new { positional := [.type ⟨18⟩] } 1 call ∧
    (call >>= (idleHost.engine {} 1 1).initialised ⟨18⟩ {}) {} ⟨world, ()⟩ =
      .done (.error (.newUnsafe "object" "Pair" "tuple")) ⟨world, ()⟩ := by
  -- A tuple subtype into which the constructor of plain objects is written cannot be called.
  have pair : World.Furnished {} _ [(⟨18⟩, .slots)] :=
    .created .fresh (.native .tuple) (show World.newSubtype _ _ "Pair" _ _ = _ from rfl)
  have furnished : World.Furnished {} (State.world ⟨World.setMember _ ⟨18⟩ "__new__" _, ()⟩) _ :=
    pair.written "__new__" ((Builtin.object.constructor Builtin.object.key).2 0) List.mem_cons_self
  obtain ⟨_, user, _, new, call, found, calls, same, _⟩ :=
    type_call_through_new idleHost {} 1 1 furnished (.created List.mem_cons_self) {} {}
  have slot := (user new).mpr ⟨⟨⟨18⟩, World.mem_chain_self _ _, rfl, rfl⟩, found⟩
  exact ⟨_, new, call, furnished, slot, calls, same.symm⟩

end Engine

end ObjectModel
