import Mathlib.Logic.Function.Basic
import ObjectModel.Proofs.Preservation
import ObjectModel.Proofs.Registration

set_option autoImplicit false

namespace ObjectModel

namespace World

/-- The worlds reached while no registry hands out a number twice, with how many numbers each
registry has handed out. -/
inductive NumbersLast : World → (RegistryKey → Nat) → Prop where
  | initial : NumbersLast initial fun _ => 0
  | registered {world : World} {used : RegistryKey → Nat} (lasting : NumbersLast world used) :
    NumbersLast world.newRegistry.2 (Function.update used world.newRegistry.1 0)
  | allocated {world : World} {used : RegistryKey → Nat} {registry : RegistryKey}
    (lasting : NumbersLast world used) (room : used registry < distinctNumbers) :
    NumbersLast (world.allocateId registry).2
      (Function.update used registry (used registry + 1))
  | created {world later : World} {used : RegistryKey → Nat} {registry : RegistryKey}
    {name : String} {base key : TypeKey} {storage : Storage} (lasting : NumbersLast world used)
    (room : used registry < distinctNumbers)
    (extended : world.newSubtype registry name base storage = .ok (key, later)) :
    NumbersLast later (Function.update used registry (used registry + 1))
  | dropped {world : World} {used : RegistryKey → Nat} (lasting : NumbersLast world used)
    (registry : RegistryKey) : NumbersLast (world.dropRegistry registry) used
  -- Members are written, and what is no type comes and goes.
  | otherwise {world later : World} {used : RegistryKey → Nat} (lasting : NumbersLast world used)
    (types : ∀ type, later.bare? type = world.bare? type)
    (size : later.types.size = world.types.size)
    (registries : later.registries = world.registries) : NumbersLast later used

structure TuplesApart (world : World) (used : RegistryKey → Nat) : Prop where
  counters : ∀ registry entry, world.registry? registry = some entry →
    entry.nextId = numberAt (used registry)
  apart : ∀ type, world.idOf? type = some (UInt32.ofNat Builtin.tuple.id) →
    Builtin.tuple.key ∉ world.ancestors type
  -- No type to come gets the key of the shared tuples.
  room : Builtin.tuple.key.index < world.types.size

variable {world later : World} {used : RegistryKey → Nat} {registry other : RegistryKey}
  {entry : Registry} {name : String} {base key type : TypeKey} {storage : Storage}

theorem ancestors_of_type? (same : later.type? type = world.type? type) :
    later.ancestors type = world.ancestors type := by
  rw [ancestors, ancestors, same]

theorem idOf?_of_type? (same : later.type? type = world.type? type) :
    later.idOf? type = world.idOf? type := by
  rw [idOf?, idOf?, same]

theorem id_of_byId {position : Nat} {builtin : Builtin}
    (listed : Builtin.byId[position]? = some builtin) : builtin.id = position := by
  have each : ∀ place : Fin Builtin.byId.length, Builtin.byId[place].id = place := by decide
  obtain ⟨inside, rfl⟩ := List.getElem?_eq_some_iff.mp listed
  exact each ⟨position, inside⟩

theorem newRegistry_type? (known : (world.newRegistry.2.type? type).isSome = true) :
    world.newRegistry.2.type? type = world.type? type ∨
      ∃ builtin, type = world.builtinKey builtin := by
  rcases Nat.lt_or_ge type.index world.types.size with old | new
  · exact .inl (Cells.get?_foldl_push_of_lt _ _ _ old)
  · obtain ⟨position, index⟩ := Nat.exists_eq_add_of_le new
    rw [type?, index, newRegistry, Cells.get?_foldl_push, Option.isSome_map] at known
    obtain ⟨builtin, listed⟩ := Option.isSome_iff_exists.mp known
    refine .inr ⟨builtin, ?_⟩
    rw [builtinKey, id_of_byId listed, ← index]

theorem Native.ancestors {before : World} {builtin : Builtin}
    (native : Native before world builtin) :
    world.ancestors (before.builtinKey builtin) = builtin.ancestors.map before.builtinKey :=
  (List.cons.inj native.chain).2

theorem builtin_eq_tuple {builtin : Builtin}
    (number : UInt32.ofNat builtin.id = UInt32.ofNat Builtin.tuple.id) : builtin = .tuple := by
  revert number
  cases builtin <;> decide

theorem newRegistry_apart (elsewhere : Builtin.tuple.key.index ≠ world.types.size)
    (apart : ∀ type, world.idOf? type = some (UInt32.ofNat Builtin.tuple.id) →
      Builtin.tuple.key ∉ world.ancestors type)
    (number : world.newRegistry.2.idOf? type = some (UInt32.ofNat Builtin.tuple.id)) :
    Builtin.tuple.key ∉ world.newRegistry.2.ancestors type := by
  obtain ⟨object, held, _⟩ := Option.map_eq_some_iff.mp number
  rcases newRegistry_type? (Option.isSome_of_eq_some held) with same | ⟨builtin, rfl⟩
  · rw [idOf?_of_type? same] at number
    rw [ancestors_of_type? same]
    exact apart type number
  · have native := (Lineage.fresh world).native builtin
    rw [native.number, Option.some.injEq] at number
    obtain rfl := builtin_eq_tuple number
    rw [native.ancestors]
    rintro member
    have root := List.mem_singleton.mp member
    exact elsewhere (congrArg TypeKey.index root)

theorem registry?_newRegistry_ne (different : other ≠ world.newRegistry.1) :
    World.registry? world.newRegistry.2 other = world.registry? other := by
  have indices : other.index ≠ world.registries.size := fun same =>
    different (congrArg RegistryKey.mk same)
  simp [newRegistry, registry?, Cells.get?_push, indices]

theorem registry?_modifyRegistry_ne (change : Registry → Registry) (different : other ≠ registry) :
    World.registry? (world.modifyRegistry registry change) other = world.registry? other := by
  have indices : registry.index ≠ other.index := fun same =>
    different (congrArg RegistryKey.mk same.symm)
  simp [modifyRegistry, registry?, Cells.get?_modify, indices]

theorem dropped_type (world : World) (registry : RegistryKey) (type : TypeKey) :
    (world.dropRegistry registry).type? type = none ∨
      (world.dropRegistry registry).type? type = world.type? type := by
  rw [dropRegistry]
  split
  · exact .inr rfl
  · exact Cells.get?_foldl_free (fun entry : UInt32 × TypeKey => entry.2.index) _ _ _

theorem dropped_entry (world : World) (registry other : RegistryKey) :
    World.registry? (world.dropRegistry registry) other = none ∨
      World.registry? (world.dropRegistry registry) other = world.registry? other := by
  rw [dropRegistry]
  split
  · exact .inr rfl
  · rw [World.registry?, Cells.get?_free]
    split
    · exact .inl rfl
    · exact .inr rfl

theorem dropRegistry_size (world : World) (registry : RegistryKey) :
    (world.dropRegistry registry).types.size = world.types.size := by
  rw [dropRegistry]
  split
  · rfl
  · exact Cells.size_foldl_free _ _ _

namespace TuplesApart

theorem register (counters : ∀ registry entry, world.registry? registry = some entry →
      entry.nextId = numberAt (used registry))
    (apart : ∀ type, world.idOf? type = some (UInt32.ofNat Builtin.tuple.id) →
      Builtin.tuple.key ∉ world.ancestors type)
    (elsewhere : Builtin.tuple.key.index ≠ world.types.size) :
    TuplesApart world.newRegistry.2 (Function.update used world.newRegistry.1 0) where
  counters registry entry held := by
    by_cases new : registry = world.newRegistry.1
    · subst new
      rw [(Enrolled.fresh world).entry, Option.some.injEq] at held
      rw [Function.update_self, ← held]
    · rw [registry?_newRegistry_ne new] at held
      rw [Function.update_of_ne new, counters registry entry held]
  apart type number := newRegistry_apart elsewhere apart number
  room := by
    have size := (Lineage.fresh world).room
    have inside : Builtin.tuple.key.index < Builtin.count := by decide
    omega

theorem initial : TuplesApart initial fun _ => 0 := by
  have counters : ∀ registry entry, World.registry? {} registry = some entry →
      entry.nextId = numberAt 0 := nofun
  have apart : ∀ type, World.idOf? {} type = some (UInt32.ofNat Builtin.tuple.id) →
      Builtin.tuple.key ∉ World.ancestors {} type := nofun
  have made := register counters apart (by decide)
  rwa [Function.update_eq_self] at made

theorem allocate (held : TuplesApart world used) (registry : RegistryKey) :
    TuplesApart (world.allocateId registry).2
      (Function.update used registry (used registry + 1)) where
  counters other entry there := by
    by_cases same : other = registry
    · subst same
      rw [allocateId, registry?_modifyRegistry] at there
      obtain ⟨earlier, known, rfl⟩ := Option.map_eq_some_iff.mp there
      rw [Function.update_self, held.counters other earlier known, numberAt_succ]
    · rw [allocateId, registry?_modifyRegistry_ne _ same] at there
      rw [Function.update_of_ne same, held.counters other entry there]
  apart type number := held.apart type number
  room := held.room

theorem allocateId_ne (held : TuplesApart world used) (room : used registry < distinctNumbers) :
    (world.allocateId registry).1 ≠ UInt32.ofNat Builtin.tuple.id := by
  cases known : world.registry? registry with
  | none =>
    simp only [allocateId, known]
    decide
  | some entry =>
    simp only [allocateId, known, Option.map_some, Option.getD_some, held.counters registry entry]
    exact numberAt_ne_builtin_id room .tuple

theorem create (held : TuplesApart world used) (room : used registry < distinctNumbers)
    (extended : world.newSubtype registry name base storage = .ok (key, later)) :
    TuplesApart later (Function.update used registry (used registry + 1)) := by
  have allocated := held.allocate registry
  have fresh := held.allocateId_ne room
  have larger := extends_newSubtype extended
  obtain ⟨_, rfl, rfl⟩ := newSubtype_exact extended
  refine ⟨fun other entry there => ?_, fun type number => ?_, ?_⟩
  · by_cases same : other = registry
    · subst same
      rw [registry?_modifyRegistry] at there
      obtain ⟨earlier, known, rfl⟩ := Option.map_eq_some_iff.mp there
      exact allocated.counters other earlier known
    · rw [registry?_modifyRegistry_ne _ same] at there
      exact allocated.counters other entry there
  · simp only [idOf?, ancestors, type?, modifyRegistry, Cells.get?_push] at number ⊢
    split at number
    · exact absurd (Option.some.inj number) fresh
    · next old =>
      rw [if_neg old]
      exact held.apart type number
  · exact Nat.lt_of_lt_of_le held.room larger.size

theorem drop (held : TuplesApart world used) (registry : RegistryKey) :
    TuplesApart (world.dropRegistry registry) used where
  counters other entry there := by
    rcases world.dropped_entry registry other with gone | kept
    · rw [gone] at there
      cases there
    · exact held.counters other entry (kept ▸ there)
  apart type number := by
    rcases world.dropped_type registry type with gone | kept
    · rw [idOf?, gone] at number
      cases number
    · rw [idOf?_of_type? kept] at number
      rw [ancestors_of_type? kept]
      exact held.apart type number
  room := by rw [dropRegistry_size]; exact held.room

theorem rest (held : TuplesApart world used) (types : ∀ type, later.bare? type = world.bare? type)
    (size : later.types.size = world.types.size) (registries : later.registries = world.registries) :
    TuplesApart later used where
  counters registry entry there := by
    rw [World.registry?, registries] at there
    exact held.counters registry entry there
  apart type number := by
    rw [idOf?_eq (types type)] at number
    rw [(List.cons.inj (chain_eq (types type))).2]
    exact held.apart type number
  room := by rw [size]; exact held.room

end TuplesApart

theorem NumbersLast.tuplesApart (lasting : NumbersLast world used) : TuplesApart world used := by
  induction lasting with
  | initial => exact .initial
  | registered _ ih => exact .register ih.counters ih.apart ih.room.ne
  | allocated _ _ ih => exact ih.allocate _
  | created _ room extended ih => exact ih.create room extended
  | dropped _ registry ih => exact ih.drop registry
  | otherwise _ types size registries ih => exact ih.rest types size registries

/-- If numbers last in the first world, they do in the second. -/
def LeavesNumbers (world later : World) : Prop :=
  (∃ used, NumbersLast world used) → ∃ used, NumbersLast later used

theorem LeavesNumbers.of_same (types : later.types = world.types)
    (registries : later.registries = world.registries) : LeavesNumbers world later := by
  rintro ⟨used, lasting⟩
  have bare (type : TypeKey) : later.bare? type = world.bare? type := by
    simp only [bare?, type?, types]
  exact ⟨used, lasting.otherwise bare (by rw [types]) registries⟩

-- No operation takes numbers by itself, so that they last as long as code of the host leaves some.
instance LeavesNumbers.lasting : Lasting LeavesNumbers :=
  .of_registries .of_same fun first second lasting => second (first lasting)

end World

end ObjectModel
