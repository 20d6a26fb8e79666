import Mathlib.Data.List.Nodup
import ObjectModel.Proofs.Lineage

/-!
# Registration

A registry hands out the numbers of its types from a counter of 32 bits. `World.Numbering` follows
one registry while it does so, and at every point its table is made from the roll of all types
registered so far. Until the counter comes back to the numbers of the built-in types, every type is
found under its own number and the registry has as many types as were made. From then on, the next
type takes the place of another.
-/

set_option autoImplicit false

namespace ObjectModel

namespace World

def numberAt (position : Nat) : UInt32 :=
  TypeObject.firstHeapId + UInt32.ofNat position

def distinctNumbers : Nat :=
  UInt32.size - TypeObject.firstHeapId.toNat

/-- The worlds that the registry made in `before` reaches, with how many numbers it has handed out
and the types that it has created, each with the position of its number. -/
inductive Numbering (before : World) : World → Nat → List (TypeKey × Nat) → Prop where
  | fresh : Numbering before before.newRegistry.2 0 []
  | allocated {world : World} {used : Nat} {made : List (TypeKey × Nat)}
    (numbering : Numbering before world used made) :
    Numbering before (world.allocateId before.newRegistry.1).2 (used + 1) made
  | created {world later : World} {used : Nat} {made : List (TypeKey × Nat)} {name : String}
    {base key : TypeKey} {storage : Storage} (numbering : Numbering before world used made)
    (extended : world.newSubtype before.newRegistry.1 name base storage = .ok (key, later)) :
    Numbering before later (used + 1) (made ++ [(key, used)])
  -- What happens elsewhere leaves the types and this registry as they are.
  | otherwise {world later : World} {used : Nat} {made : List (TypeKey × Nat)}
    (numbering : Numbering before world used made) (extended : world.Extends later)
    (same : later.registry? before.newRegistry.1 = world.registry? before.newRegistry.1) :
    Numbering before later used made

variable {before world later : World} {registry : RegistryKey} {entry : Registry}
  {name : String} {key base : TypeKey} {storage : Storage} {position used : Nat}
  {made : List (TypeKey × Nat)}

theorem numberAt_succ (position : Nat) : numberAt (position + 1) = numberAt position + 1 := by
  simp [numberAt, UInt32.add_assoc, UInt32.ofNat_add]

theorem toNat_numberAt (inside : position < distinctNumbers) :
    (numberAt position).toNat = TypeObject.firstHeapId.toNat + position := by
  have bound : TypeObject.firstHeapId.toNat + position < UInt32.size := by
    simp only [distinctNumbers] at inside
    omega
  rw [numberAt, UInt32.toNat_add, UInt32.toNat_ofNat', Nat.add_mod_mod, Nat.mod_eq_of_lt bound]

theorem numberAt_injective {other : Nat} (inside : position < distinctNumbers)
    (within : other < distinctNumbers) (same : numberAt position = numberAt other) :
    position = other := by
  have numbers := congrArg UInt32.toNat same
  rw [toNat_numberAt inside, toNat_numberAt within] at numbers
  omega

theorem firstHeapId_le_numberAt (inside : position < distinctNumbers) :
    TypeObject.firstHeapId ≤ numberAt position := by
  rw [UInt32.le_iff_toNat_le, toNat_numberAt inside]
  omega

theorem numberAt_ne_builtin_id (inside : position < distinctNumbers) (builtin : Builtin) :
    numberAt position ≠ UInt32.ofNat builtin.id := by
  intro same
  have reserved : (UInt32.ofNat builtin.id).toNat < TypeObject.firstHeapId.toNat := by
    cases builtin <;> decide
  rw [← same, toNat_numberAt inside] at reserved
  omega

def nativeRoll (before : World) : List (UInt32 × TypeKey) :=
  Builtin.all.map fun builtin => (UInt32.ofNat builtin.id, before.builtinKey builtin)

def roll (before : World) (made : List (TypeKey × Nat)) : List (UInt32 × TypeKey) :=
  before.nativeRoll ++ made.map fun entry => (numberAt entry.2, entry.1)

theorem mem_nativeRoll (before : World) (builtin : Builtin) :
    (UInt32.ofNat builtin.id, before.builtinKey builtin) ∈ before.nativeRoll := by
  have listed : builtin ∈ Builtin.all := by cases builtin <;> decide
  exact List.mem_map_of_mem listed

theorem nodup_nativeRoll (before : World) : (before.nativeRoll.map Prod.fst).Nodup := by
  have numbers : before.nativeRoll.map Prod.fst =
      Builtin.all.map fun builtin => UInt32.ofNat builtin.id := List.map_map
  rw [numbers]
  decide

theorem length_roll (before : World) (made : List (TypeKey × Nat)) :
    (roll before made).length = Builtin.count + made.length := by
  rw [roll, List.length_append, List.length_map]
  rfl

def Dated (made : List (TypeKey × Nat)) (used : Nat) : Prop :=
  (made.map Prod.snd ++ [used]).Pairwise (· < ·)

theorem Dated.lt (dated : Dated made used) {entry : TypeKey × Nat} (member : entry ∈ made) :
    entry.2 < used :=
  (List.pairwise_append.mp dated).2.2 _ (List.mem_map_of_mem member) _ List.mem_cons_self

theorem Dated.succ (dated : Dated made used) : Dated made (used + 1) := by
  obtain ⟨sorted, single, below⟩ := List.pairwise_append.mp dated
  refine List.pairwise_append.mpr ⟨sorted, List.pairwise_singleton _ _, ?_⟩
  intro position member next last
  have earlier := below position member used List.mem_cons_self
  have same := List.mem_singleton.mp last
  omega

theorem Dated.concat (dated : Dated made used) (key : TypeKey) :
    Dated (made ++ [(key, used)]) (used + 1) := by
  refine List.pairwise_append.mpr ⟨by simpa [Dated] using dated, List.pairwise_singleton _ _, ?_⟩
  intro position member next last
  have same := List.mem_singleton.mp last
  obtain ⟨entry, listed, rfl⟩ := List.mem_map.mp member
  rcases List.mem_append.mp listed with old | new
  · have earlier := dated.lt old
    omega
  · rw [List.mem_singleton.mp new]
    omega

theorem Dated.nodup_numbers (dated : Dated made used) (room : used ≤ distinctNumbers) :
    (made.map fun entry => numberAt entry.2).Nodup := by
  have sorted := List.pairwise_map.mp (List.pairwise_append.mp dated).1
  refine List.pairwise_map.mpr (sorted.imp_of_mem fun first second earlier same => ?_)
  have positions := numberAt_injective (Nat.lt_of_lt_of_le (dated.lt first) room)
    (Nat.lt_of_lt_of_le (dated.lt second) room) same
  omega

theorem nodup_roll (dated : Dated made used) (room : used ≤ distinctNumbers) :
    ((roll before made).map Prod.fst).Nodup := by
  have numbers : (made.map fun entry => (numberAt entry.2, entry.1)).map Prod.fst =
      made.map fun entry => numberAt entry.2 := List.map_map
  rw [roll, List.map_append, numbers]
  refine (nodup_nativeRoll before).append (dated.nodup_numbers room) fun number native created => ?_
  obtain ⟨⟨_, _⟩, listed, rfl⟩ := List.mem_map.mp native
  obtain ⟨builtin, _, same⟩ := List.mem_map.mp listed
  obtain ⟨entry, member, number⟩ := List.mem_map.mp created
  cases same
  exact numberAt_ne_builtin_id (Nat.lt_of_lt_of_le (dated.lt member) room) builtin number

theorem registry?_modifyRegistry (world : World) (registry : RegistryKey)
    (change : Registry → Registry) :
    World.registry? (world.modifyRegistry registry change) registry =
      (world.registry? registry).map change := by
  simp [modifyRegistry, World.registry?, Cells.get?_modify]

theorem registry?_allocateId (held : world.registry? registry = some entry) :
    World.registry? (world.allocateId registry).2 registry =
      some { entry with nextId := entry.nextId + 1 } := by
  rw [allocateId, registry?_modifyRegistry, held]
  rfl

theorem newSubtype_registers (held : world.registry? registry = some entry)
    (extended : world.newSubtype registry name base storage = .ok (key, later)) :
    later.registry? registry = some
        { entry with types := entry.types.insert entry.nextId key, nextId := entry.nextId + 1 } ∧
      later.idOf? key = some entry.nextId := by
  have number : (world.allocateId registry).1 = entry.nextId := by simp [allocateId, held]
  obtain ⟨_, rfl, rfl⟩ := newSubtype_exact extended
  constructor
  · rw [registry?_modifyRegistry, number]
    exact congrArg (Option.map _) (registry?_allocateId held)
  · rw [← number]
    simp [idOf?, type?, modifyRegistry, Cells.get?_push]

theorem Extends.trans {middle : World} (first : world.Extends middle)
    (second : middle.Extends later) : world.Extends later :=
  ⟨first.size.trans second.size, fun key => (first.types key).trans (second.types key)⟩

theorem Extends.idOf? (extended : world.Extends later) {id : UInt32}
    (numbered : world.idOf? key = some id) : later.idOf? key = some id := by
  obtain ⟨type, held, _⟩ := Option.map_eq_some_iff.mp numbered
  rw [idOf?_eq ((extended.types key).bare?_eq held), numbered]

theorem extends_allocateId (world : World) (registry : RegistryKey) :
    world.Extends (world.allocateId registry).2 :=
  ⟨Nat.le_refl _, fun _ => .of_types_eq rfl⟩

structure Enrolled (before world : World) (used : Nat) (made : List (TypeKey × Nat)) : Prop where
  entry : world.registry? before.newRegistry.1 = some
    { first := before.types.size
      types := Table.ofList (roll before made)
      nextId := numberAt used }
  kept : before.newRegistry.2.Extends world
  numbered : ∀ entry ∈ made, world.idOf? entry.1 = some (numberAt entry.2)
  dated : Dated made used

theorem Enrolled.fresh (before : World) : Enrolled before before.newRegistry.2 0 [] where
  entry := by
    simp [newRegistry, registry?, Cells.get?_push, roll, nativeRoll, numberAt, builtinKey]
  kept := ⟨Nat.le_refl _, fun _ => .of_types_eq rfl⟩
  numbered := by simp
  dated := List.pairwise_singleton _ _

theorem Enrolled.allocate (enrolled : Enrolled before world used made) :
    Enrolled before (world.allocateId before.newRegistry.1).2 (used + 1) made where
  entry := by rw [registry?_allocateId enrolled.entry, numberAt_succ]
  kept := enrolled.kept.trans (world.extends_allocateId _)
  numbered entry member := (world.extends_allocateId _).idOf? (enrolled.numbered entry member)
  dated := enrolled.dated.succ

theorem Enrolled.create (enrolled : Enrolled before world used made)
    (extended : world.newSubtype before.newRegistry.1 name base storage = .ok (key, later)) :
    Enrolled before later (used + 1) (made ++ [(key, used)]) := by
  obtain ⟨entry, number⟩ := newSubtype_registers enrolled.entry extended
  have grown := extends_newSubtype extended
  have appended : roll before (made ++ [(key, used)]) =
      roll before made ++ [(numberAt used, key)] := by
    simp [roll]
  refine
    { entry := by rw [entry, appended, Table.ofList_concat, numberAt_succ]
      kept := enrolled.kept.trans grown
      numbered := fun other member => ?_
      dated := enrolled.dated.concat key }
  rcases List.mem_append.mp member with old | new
  · exact grown.idOf? (enrolled.numbered other old)
  · rw [List.mem_singleton.mp new, number]

theorem Enrolled.extend (enrolled : Enrolled before world used made)
    (extended : world.Extends later)
    (same : later.registry? before.newRegistry.1 = world.registry? before.newRegistry.1) :
    Enrolled before later used made where
  entry := same.trans enrolled.entry
  kept := enrolled.kept.trans extended
  numbered entry member := extended.idOf? (enrolled.numbered entry member)
  dated := enrolled.dated

theorem Numbering.enrolled (numbering : Numbering before world used made) :
    Enrolled before world used made := by
  induction numbering with
  | fresh => exact .fresh before
  | allocated _ ih => exact ih.allocate
  | created _ extended ih => exact ih.create extended
  | otherwise _ extended same ih => exact ih.extend extended same

namespace Enrolled

theorem registered?_eq (enrolled : Enrolled before world used made) (id : UInt32) :
    world.registered? before.newRegistry.1 id = (Table.ofList (roll before made)).get? id := by
  rw [registered?, enrolled.entry]
  rfl

theorem registrySize_eq (enrolled : Enrolled before world used made) :
    world.registrySize before.newRegistry.1 = (Table.ofList (roll before made)).size := by
  rw [registrySize, enrolled.entry]
  rfl

theorem native (enrolled : Enrolled before world used made) (builtin : Builtin) :
    Native before world builtin :=
  ((Lineage.fresh before).native builtin).extend enrolled.kept

theorem registered?_of_mem (enrolled : Enrolled before world used made)
    (room : used ≤ distinctNumbers) {id : UInt32} (numbered : world.idOf? key = some id)
    (member : (id, key) ∈ roll before made) :
    (world.idOf? key).bind (world.registered? before.newRegistry.1) = some key := by
  rw [numbered, Option.bind_some, enrolled.registered?_eq]
  exact Table.get?_ofList_of_mem (nodup_roll enrolled.dated room) member

theorem idOf?_of_roll (enrolled : Enrolled before world used made) {id : UInt32}
    (member : (id, key) ∈ roll before made) : world.idOf? key = some id := by
  rcases List.mem_append.mp member with native | created
  · obtain ⟨builtin, _, same⟩ := List.mem_map.mp native
    cases same
    exact (enrolled.native builtin).number
  · obtain ⟨entry, listed, same⟩ := List.mem_map.mp created
    cases same
    exact enrolled.numbered entry listed

theorem nodup_ids (enrolled : Enrolled before world used made) (room : used ≤ distinctNumbers) :
    (made.map fun entry => world.idOf? entry.1).Nodup := by
  have ids : (made.map fun entry => world.idOf? entry.1) =
      (made.map fun entry => numberAt entry.2).map some := by
    rw [List.map_map]
    exact List.map_congr_left enrolled.numbered
  rw [ids]
  exact (enrolled.dated.nodup_numbers room).map (fun _ _ => Option.some.inj)

theorem creates (enrolled : Enrolled before world used made) (builtin : Builtin)
    (allowed : builtin.flags.baseType = true) (name : String) (storage : Storage) :
    ∃ later, world.newSubtype before.newRegistry.1 name (before.builtinKey builtin) storage =
      .ok (⟨world.types.size⟩, later) := by
  cases extended :
      world.newSubtype before.newRegistry.1 name (before.builtinKey builtin) storage with
  | error error =>
    have refused := ((newSubtype_error_iff ..).mp extended).1
    rw [(enrolled.native builtin).flags, allowed] at refused
    cases refused
  | ok made =>
    obtain ⟨key, later⟩ := made
    obtain ⟨_, rfl, _⟩ := newSubtype_ok extended
    exact ⟨later, rfl⟩

theorem displaces (enrolled : Enrolled before world used made) {old : TypeKey}
    (taken : world.registered? before.newRegistry.1 (numberAt used) = some old)
    (extended : world.newSubtype before.newRegistry.1 name base storage = .ok (key, later)) :
    later.idOf? key = some (numberAt used) ∧
      later.registered? before.newRegistry.1 (numberAt used) = some key ∧
      later.registrySize before.newRegistry.1 = world.registrySize before.newRegistry.1 := by
  obtain ⟨entry, number⟩ := newSubtype_registers enrolled.entry extended
  rw [enrolled.registered?_eq] at taken
  refine ⟨number, ?_, ?_⟩
  · simp [registered?, entry]
  · simp [registrySize, entry, enrolled.entry, Table.size_insert, taken]

end Enrolled

def spend (world : World) (registry : RegistryKey) (count : Nat) : World :=
  world.modifyRegistry registry fun entry =>
    { entry with nextId := entry.nextId + UInt32.ofNat count }

theorem spend_zero (world : World) (registry : RegistryKey) : world.spend registry 0 = world := by
  rw [spend, modifyRegistry, Cells.modify_of_fixed fun entry _ => by simp]

theorem spend_succ (world : World) (registry : RegistryKey) (count : Nat) :
    (World.allocateId (world.spend registry count) registry).2 =
      world.spend registry (count + 1) := by
  simp only [spend, allocateId, modifyRegistry, Cells.modify_modify, UInt32.ofNat_add,
    ← UInt32.add_assoc]
  rfl

theorem numbering_spend (before : World) (count : Nat) :
    Numbering before (before.newRegistry.2.spend before.newRegistry.1 count) count [] := by
  induction count with
  | zero =>
    rw [spend_zero]
    exact .fresh
  | succ count ih =>
    rw [← spend_succ]
    exact ih.allocated

theorem exists_created (before : World) (count : Nat) (name : String) (storage : Storage) :
    ∃ world later : World, Numbering before world count [] ∧
      world.newSubtype before.newRegistry.1 name (before.builtinKey .object) storage =
        .ok (⟨before.newRegistry.2.types.size⟩, later) := by
  have numbering := numbering_spend before count
  obtain ⟨later, extended⟩ := numbering.enrolled.creates .object rfl name storage
  exact ⟨_, later, numbering, extended⟩

/-- While a registry has numbers that it did not hand out before, every type it has handed out is
found under its number, the created ones under distinct numbers beyond those of the built-in types,
and the registry has as many types as were made. -/
theorem registration_lasting (numbering : Numbering before world used made)
    (room : used ≤ distinctNumbers) :
    (∀ builtin, (world.idOf? (before.builtinKey builtin)).bind
      (world.registered? before.newRegistry.1) = some (before.builtinKey builtin)) ∧
    (∀ entry ∈ made, (world.idOf? entry.1).bind (world.registered? before.newRegistry.1) =
      some entry.1) ∧
    (∀ entry ∈ made, ∃ id, world.idOf? entry.1 = some id ∧ TypeObject.firstHeapId ≤ id) ∧
    (made.map fun entry => world.idOf? entry.1).Nodup ∧
    world.registrySize before.newRegistry.1 = Builtin.count + made.length := by
  have enrolled := numbering.enrolled
  refine ⟨fun builtin => ?_, fun entry member => ?_, fun entry member => ?_,
    enrolled.nodup_ids room, ?_⟩
  · exact enrolled.registered?_of_mem room (enrolled.native builtin).number
      (List.mem_append_left _ (before.mem_nativeRoll builtin))
  · exact enrolled.registered?_of_mem room (enrolled.numbered entry member)
      (List.mem_append_right _ (List.mem_map_of_mem member))
  · exact ⟨_, enrolled.numbered entry member,
      firstHeapId_le_numberAt (Nat.lt_of_lt_of_le (enrolled.dated.lt member) room)⟩
  · rw [enrolled.registrySize_eq, Table.size_ofList (nodup_roll enrolled.dated room), length_roll]

theorem registration_lasting_last_number :
    ∃ world, Numbering {} world distinctNumbers [(⟨18⟩, distinctNumbers - 1)] ∧
      world.idOf? ⟨18⟩ = some 4294967295 ∧
      world.registered? ⟨0⟩ 4294967295 = some ⟨18⟩ ∧ world.registered? ⟨0⟩ 0 = some ⟨0⟩ ∧
      world.registrySize ⟨0⟩ = 19 := by
  obtain ⟨_, world, earlier, extended⟩ := exists_created {} (distinctNumbers - 1) "Last" .store
  have numbering := earlier.created extended
  obtain ⟨native, created, _, _, size⟩ := registration_lasting numbering (by decide)
  have object := native .object
  have last := created _ List.mem_cons_self
  rw [(numbering.enrolled.native .object).number] at object
  rw [numbering.enrolled.numbered _ List.mem_cons_self] at last
  exact ⟨world, numbering, numbering.enrolled.numbered _ List.mem_cons_self, last, object, size⟩

theorem registration_displaced :
    ∃ world later, Numbering {} world distinctNumbers [] ∧
      world.registered? ⟨0⟩ 0 = some ⟨0⟩ ∧
      world.newSubtype ⟨0⟩ "Late" ⟨0⟩ .store = .ok (⟨18⟩, later) ∧
      later.idOf? ⟨0⟩ = some 0 ∧ later.idOf? ⟨18⟩ = some 0 ∧
      later.registered? ⟨0⟩ 0 = some ⟨18⟩ ∧ later.registrySize ⟨0⟩ = 18 := by
  -- The counter is back at the number of the root of all types.
  obtain ⟨world, later, numbering, extended⟩ := exists_created {} distinctNumbers "Late" .store
  have enrolled := numbering.enrolled
  have taken : world.registered? ⟨0⟩ (numberAt distinctNumbers) = some ⟨0⟩ :=
    (enrolled.registered?_eq _).trans
      (Table.get?_ofList_of_mem (nodup_nativeRoll {}) (mem_nativeRoll {} .object))
  have full : world.registrySize ⟨0⟩ = 18 :=
    enrolled.registrySize_eq.trans (Table.size_ofList (nodup_nativeRoll {}))
  obtain ⟨number, displaced, size⟩ := enrolled.displaces taken extended
  have object := ((enrolled.create extended).native .object).number
  exact ⟨world, later, numbering, taken, extended, object, number, displaced, size.trans full⟩

end World

end ObjectModel
