import Mathlib.Data.List.Nodup
import ObjectModel.Eval
import ObjectModel.Proofs.Extension

/-!
# The hierarchy of types

`World.Grown` follows one registry from the moment it is made, through the types that are created in
it one after the other and through anything else that leaves its types as they are. In every such
world the chains of its types are those of their bases, types order each other by extension, and the
capabilities and the native layout of a type follow from how it and its bases came about.
-/

set_option autoImplicit false

namespace ObjectModel

namespace Builtin

theorem byId_id (builtin : Builtin) : byId[builtin.id]? = some builtin := by
  cases builtin <;> rfl

theorem id_injective {left right : Builtin} (same : left.id = right.id) : left = right := by
  have found := byId_id left
  rw [same, byId_id right] at found
  exact (Option.some.inj found).symm

theorem id_lt_count (builtin : Builtin) : builtin.id < count := by
  cases builtin <;> decide

def lineage (builtin : Builtin) : List Builtin :=
  builtin :: builtin.ancestors

theorem lineage_nodup (builtin : Builtin) : builtin.lineage.Nodup := by
  cases builtin <;> decide

theorem lineage_getLast? (builtin : Builtin) : builtin.lineage.getLast? = some object := by
  cases builtin <;> rfl

theorem lineage_base? (builtin : Builtin) :
    builtin.ancestors = (builtin.base?.map lineage).getD [] := by
  cases builtin <;> rfl

theorem lineage_suffix {builtin other : Builtin} (above : other ∈ builtin.lineage) :
    other.lineage <:+ builtin.lineage := by
  cases builtin <;> simp [lineage, ancestors] at above <;> rcases above with rfl | rfl | rfl <;>
    decide

theorem layout_eq_tuple_iff (builtin : Builtin) :
    builtin.layout = .tuple ↔ tuple ∈ builtin.lineage := by
  cases builtin <;> decide

theorem layout_ne_sealed {builtin : Builtin} (allowed : builtin.flags.baseType) :
    builtin.layout ≠ .sealed := by
  cases builtin <;> simp_all [flags, layout]

theorem flags_hasStore (builtin : Builtin) : builtin.flags.hasStore = false := by
  cases builtin <;> rfl

theorem flags_heap (builtin : Builtin) : builtin.flags.heap = false := by
  cases builtin <;> rfl

end Builtin

namespace World

def builtinKey (before : World) (builtin : Builtin) : TypeKey :=
  -- A registry pushes its built-in types in the order of their numbers.
  ⟨before.types.size + builtin.id⟩

inductive HandedOut (before : World) (made : List (TypeKey × Storage)) : TypeKey → Prop where
  | native (builtin : Builtin) : HandedOut before made (before.builtinKey builtin)
  | created {key : TypeKey} {storage : Storage} (member : (key, storage) ∈ made) :
    HandedOut before made key

/-- The worlds that the registry made in `before` reaches, with the types created in it so far,
latest first, and the storage that each was created with. -/
inductive Grown (before : World) : World → List (TypeKey × Storage) → Prop where
  | fresh : Grown before before.newRegistry.2 []
  | created {world later : World} {made : List (TypeKey × Storage)} {name : String}
    {base key : TypeKey} {storage : Storage} (grown : Grown before world made)
    (known : HandedOut before made base)
    (extended : world.newSubtype before.newRegistry.1 name base storage = .ok (key, later)) :
    Grown before later ((key, storage) :: made)
  -- Writing members, making instances and other registries leave the types as they are.
  | otherwise {world later : World} {made : List (TypeKey × Storage)}
    (grown : Grown before world made) (extended : world.Extends later) : Grown before later made

inductive BaseChain (world : World) : TypeKey → List TypeKey → Prop where
  | root {key : TypeKey} (none : world.base? key = none) : BaseChain world key [key]
  | step {key base : TypeKey} {rest : List TypeKey} (some : world.base? key = some base)
    (above : BaseChain world base rest) : BaseChain world key (key :: rest)

def inheritedFlags (inherited : TypeFlags) (storage : Storage) : TypeFlags :=
  { baseType := true, heap := true, hasStore := storage = .store || inherited.hasStore }

theorem newSubtype_error_iff (world : World) (registry : RegistryKey) (name : String)
    (base : TypeKey) (storage : Storage) (error : Error) :
    world.newSubtype registry name base storage = .error error ↔
      (world.flagsOf base).baseType = false ∧ error = .sealedBase (world.nameOf base) := by
  unfold newSubtype registerSubtype
  cases allowed : (world.flagsOf base).baseType with
  | false => simpa [allowed] using eq_comm
  | true => simp [allowed]

theorem registerSubtype_refused {world later : World} {registry : RegistryKey} {name : String}
    {base : TypeKey} {storage : Storage} {error : Error}
    (refused : world.registerSubtype registry name base storage = (.error error, later)) :
    later = world ∧ (world.flagsOf base).baseType = false ∧
      error = .sealedBase (world.nameOf base) := by
  unfold registerSubtype at refused
  cases allowed : (world.flagsOf base).baseType with
  | false =>
    simp only [allowed, Bool.not_false, if_true, Prod.mk.injEq, Except.error.injEq] at refused
    exact ⟨refused.2.symm, rfl, refused.1.symm⟩
  | true => simp [allowed] at refused

theorem newSubtype_exact {world later : World} {registry : RegistryKey} {name : String}
    {base key : TypeKey} {storage : Storage}
    (extended : world.newSubtype registry name base storage = .ok (key, later)) :
    (world.flagsOf base).baseType = true ∧ key = ⟨world.types.size⟩ ∧
      later = modifyRegistry
        { (world.allocateId registry).2 with
          types := world.types.push
            { id := (world.allocateId registry).1, name, base := some base
              ancestors := world.chain base, members := {}
              flags := inheritedFlags (world.flagsOf base) storage, layout := none } }
        registry fun entry =>
          { entry with types := entry.types.insert (world.allocateId registry).1 key } := by
  unfold newSubtype registerSubtype at extended
  cases allowed : (world.flagsOf base).baseType with
  | false => simp [allowed] at extended
  | true =>
    simp only [allowed, Bool.not_true, Bool.false_eq_true, if_false, Except.ok.injEq,
      Prod.mk.injEq] at extended
    obtain ⟨rfl, rfl⟩ := extended
    exact ⟨rfl, rfl, rfl⟩

theorem newSubtype_ok {world later : World} {registry : RegistryKey} {name : String}
    {base key : TypeKey} {storage : Storage}
    (extended : world.newSubtype registry name base storage = .ok (key, later)) :
    (world.flagsOf base).baseType = true ∧ key = ⟨world.types.size⟩ ∧ ∃ id registries,
      later = { world with
        types := world.types.push
          { id, name, base := some base, ancestors := world.chain base, members := {}
            flags := inheritedFlags (world.flagsOf base) storage, layout := none }
        registries } := by
  obtain ⟨allowed, named, rfl⟩ := newSubtype_exact extended
  exact ⟨allowed, named, _, _, rfl⟩

theorem extends_newSubtype {world later : World} {registry : RegistryKey} {name : String}
    {base key : TypeKey} {storage : Storage}
    (extended : world.newSubtype registry name base storage = .ok (key, later)) :
    world.Extends later := by
  obtain ⟨_, _, _, registries, rfl⟩ := newSubtype_ok extended
  exact world.extends_push registries _

structure Native (before world : World) (builtin : Builtin) : Prop where
  known : ∃ type, world.type? (before.builtinKey builtin) = some type
  direct : world.base? (before.builtinKey builtin) = builtin.base?.map before.builtinKey
  chain : world.chain (before.builtinKey builtin) = builtin.lineage.map before.builtinKey
  flags : world.flagsOf (before.builtinKey builtin) = builtin.flags
  layout : world.declaredLayout (before.builtinKey builtin) = some builtin.layout
  number : world.idOf? (before.builtinKey builtin) = some (UInt32.ofNat builtin.id)

structure Child (before world : World) (base key : TypeKey) (storage : Storage) : Prop where
  known : ∃ type, world.type? key = some type
  direct : world.base? key = some base
  chain : world.chain key = key :: world.chain base
  allowed : (world.flagsOf base).baseType = true
  flags : world.flagsOf key = inheritedFlags (world.flagsOf base) storage
  layout : world.declaredLayout key = none
  -- Keys grow, so following bases ends, and no created key is one of a built-in type.
  later : base.index < key.index
  beyond : before.types.size + Builtin.count ≤ key.index

structure Lineage (before world : World) (made : List (TypeKey × Storage)) : Prop where
  native : ∀ builtin, Native before world builtin
  child : ∀ key storage, (key, storage) ∈ made →
    ∃ base, HandedOut before made base ∧ Child before world base key storage
  room : before.types.size + Builtin.count ≤ world.types.size
  distinct : (made.map Prod.fst).Nodup

variable {before world later : World} {made : List (TypeKey × Storage)}
  {key base other : TypeKey} {storage : Storage}

theorem HandedOut.cons (entry : TypeKey × Storage) (known : HandedOut before made key) :
    HandedOut before (entry :: made) key := by
  cases known with
  | native builtin => exact .native builtin
  | created member => exact .created (List.mem_cons_of_mem _ member)

theorem Lineage.known (lineage : Lineage before world made) (given : HandedOut before made key) :
    ∃ type, world.type? key = some type := by
  cases given with
  | native builtin => exact (lineage.native builtin).known
  | created member =>
    obtain ⟨_, _, child⟩ := lineage.child _ _ member
    exact child.known

theorem Lineage.index_lt (lineage : Lineage before world made)
    (given : HandedOut before made key) : key.index < world.types.size := by
  obtain ⟨type, held⟩ := lineage.known given
  exact Cells.get?_lt_size held

theorem Native.extend {builtin : Builtin} (native : Native before world builtin)
    (extended : world.Extends later) : Native before later builtin := by
  obtain ⟨type, held⟩ := native.known
  obtain ⟨members, after⟩ := extended.types _ type held
  have same := (extended.types _).bare?_eq held
  refine ⟨⟨_, after⟩, ?_, ?_, ?_, ?_, ?_⟩
  · rw [base?_eq same, native.direct]
  · rw [chain_eq same, native.chain]
  · rw [flagsOf_eq same, native.flags]
  · rw [declaredLayout_eq same, native.layout]
  · rw [idOf?_eq same, native.number]

theorem Child.extend (child : Child before world base key storage)
    (extended : world.Extends later) (baseKnown : ∃ type, world.type? base = some type) :
    Child before later base key storage := by
  obtain ⟨baseType, baseHeld⟩ := baseKnown
  obtain ⟨type, held⟩ := child.known
  obtain ⟨members, after⟩ := extended.types key type held
  have same := (extended.types key).bare?_eq held
  have sameBase := (extended.types base).bare?_eq baseHeld
  refine ⟨⟨_, after⟩, ?_, ?_, ?_, ?_, ?_, child.later, child.beyond⟩
  · rw [base?_eq same, child.direct]
  · rw [chain_eq same, chain_eq sameBase, child.chain]
  · rw [flagsOf_eq sameBase, child.allowed]
  · rw [flagsOf_eq same, flagsOf_eq sameBase, child.flags]
  · rw [declaredLayout_eq same, child.layout]

theorem Lineage.fresh (before : World) : Lineage before before.newRegistry.2 [] where
  native builtin := by
    have held : before.newRegistry.2.type? (before.builtinKey builtin) =
        some (builtin.typeObject before.types.size before.nextSerial) := by
      simp [newRegistry, type?, builtinKey, Cells.get?_foldl_push, Builtin.byId_id]
    refine ⟨⟨_, held⟩, ?_, ?_, ?_, ?_, ?_⟩
    · rw [base?, held]
      rfl
    · rw [chain, ancestors, held]
      rfl
    · rw [flagsOf, held]
      rfl
    · rw [declaredLayout, held]
      rfl
    · rw [idOf?, held]
      rfl
  child := by simp
  room := by simp [newRegistry, Builtin.byId, Builtin.count]
  distinct := List.nodup_nil

theorem Lineage.extend (lineage : Lineage before world made) (extended : world.Extends later) :
    Lineage before later made where
  native builtin := (lineage.native builtin).extend extended
  child key storage member := by
    obtain ⟨base, given, child⟩ := lineage.child key storage member
    exact ⟨base, given, child.extend extended (lineage.known given)⟩
  room := lineage.room.trans extended.size
  distinct := lineage.distinct

theorem Lineage.create {name : String} {registry : RegistryKey}
    (lineage : Lineage before world made) (given : HandedOut before made base)
    (extended : world.newSubtype registry name base storage = .ok (key, later)) :
    Lineage before later ((key, storage) :: made) := by
  obtain ⟨allowed, rfl, id, registries, rfl⟩ := newSubtype_ok extended
  obtain ⟨type, held⟩ := lineage.known given
  have older := lineage.index_lt given
  have grown := world.extends_push registries
    { id, name, base := some base, ancestors := world.chain base, members := {}
      flags := inheritedFlags (world.flagsOf base) storage, layout := none }
  -- The older types keep all facts; what is left is the new type and that its key is new.
  have kept := lineage.extend grown
  refine
    { native := kept.native
      child := fun key' storage' member => ?_
      room := kept.room
      distinct := List.nodup_cons.mpr ⟨fun again => ?_, lineage.distinct⟩ }
  · rcases List.mem_cons.mp member with new | old
    · obtain ⟨rfl, rfl⟩ := Prod.mk.inj new
      refine ⟨base, given.cons _, ?_⟩
      constructor
      · simp [type?, Cells.get?_push]
      · simp [base?, type?, Cells.get?_push]
      · rw [chain_eq ((grown.types _).bare?_eq held)]
        simp [chain, ancestors, type?, Cells.get?_push]
      · rw [flagsOf_eq ((grown.types _).bare?_eq held), allowed]
      · rw [flagsOf_eq ((grown.types _).bare?_eq held)]
        simp [flagsOf, type?, Cells.get?_push]
      · simp [declaredLayout, type?, Cells.get?_push]
      · exact older
      · exact lineage.room
    · obtain ⟨base', given', child⟩ := kept.child key' storage' old
      exact ⟨base', given'.cons _, child⟩
  · -- A number that was handed out before is smaller than the new one.
    obtain ⟨⟨key', storage'⟩, member, same⟩ := List.mem_map.mp again
    have smaller := lineage.index_lt (.created member)
    simp only at same
    rw [same] at smaller
    exact Nat.lt_irrefl _ smaller

theorem Grown.lineage (grown : Grown before world made) : Lineage before world made := by
  induction grown with
  | fresh => exact .fresh before
  | created _ known extended ih => exact ih.create known extended
  | otherwise _ extended ih => exact ih.extend extended

@[elab_as_elim]
theorem Lineage.induct {motive : TypeKey → Prop} (lineage : Lineage before world made)
    (native : ∀ builtin, motive (before.builtinKey builtin))
    (child : ∀ base key storage, (key, storage) ∈ made → HandedOut before made base →
      Child before world base key storage → motive base → motive key)
    (given : HandedOut before made key) : motive key := by
  induction position : key.index using Nat.strong_induction_on generalizing key with
  | _ position ih =>
    cases given with
    | native builtin => exact native builtin
    | created member =>
      obtain ⟨base, above, made⟩ := lineage.child _ _ member
      exact child base key _ member above made (ih _ (position ▸ made.later) above rfl)

theorem builtinKey_injective {left right : Builtin}
    (same : before.builtinKey left = before.builtinKey right) : left = right := by
  apply Builtin.id_injective
  simpa [builtinKey] using same

theorem builtinKey_index_lt (before : World) (builtin : Builtin) :
    (before.builtinKey builtin).index < before.types.size + Builtin.count :=
  Nat.add_lt_add_left builtin.id_lt_count _

theorem mem_chain_self (world : World) (key : TypeKey) : key ∈ world.chain key :=
  List.mem_cons_self

theorem isSubtype_iff (world : World) (key other : TypeKey) :
    world.isSubtype key other = true ↔ other ∈ world.chain key := by
  simp [isSubtype]

namespace Lineage

theorem chain_suffix (lineage : Lineage before world made) (given : HandedOut before made key)
    (above : other ∈ world.chain key) :
    HandedOut before made other ∧ world.chain other <:+ world.chain key := by
  revert above
  refine lineage.induct (fun builtin => ?_)
    (fun base key storage member _ child ih => ?_) given
  · rw [(lineage.native builtin).chain]
    intro above
    obtain ⟨ancestor, member, rfl⟩ := List.mem_map.mp above
    refine ⟨.native ancestor, ?_⟩
    rw [(lineage.native ancestor).chain]
    exact (Builtin.lineage_suffix member).map _
  · rw [child.chain]
    intro above
    rcases List.mem_cons.mp above with rfl | higher
    · exact ⟨.created member, by rw [child.chain]⟩
    · obtain ⟨known, suffix⟩ := ih higher
      exact ⟨known, suffix.trans (List.suffix_cons _ _)⟩

theorem index_of_mem_chain (lineage : Lineage before world made)
    (given : HandedOut before made key) (above : other ∈ world.chain key) :
    other.index ≤ key.index ∨ other.index < before.types.size + Builtin.count := by
  revert above
  refine lineage.induct (fun builtin => ?_)
    (fun base key storage member _ child ih => ?_) given
  · rw [(lineage.native builtin).chain]
    intro above
    -- `bool` comes before its base `int`, so for built-in types only the bound is left.
    obtain ⟨ancestor, _, rfl⟩ := List.mem_map.mp above
    exact .inr (before.builtinKey_index_lt ancestor)
  · rw [child.chain]
    intro above
    rcases List.mem_cons.mp above with rfl | higher
    · exact .inl le_rfl
    · have earlier := child.later
      rcases ih higher with below | builtin
      · exact .inl (by omega)
      · exact .inr builtin

theorem chain_nodup (lineage : Lineage before world made) (given : HandedOut before made key) :
    (world.chain key).Nodup := by
  refine lineage.induct (fun builtin => ?_)
    (fun base key storage member above child ih => ?_) given
  · rw [(lineage.native builtin).chain]
    exact builtin.lineage_nodup.map fun _ _ same => builtinKey_injective same
  · rw [child.chain]
    refine List.nodup_cons.mpr ⟨fun again => ?_, ih⟩
    have earlier := child.later
    have beyond := child.beyond
    rcases lineage.index_of_mem_chain above again with below | builtin <;> omega

theorem chain_getLast? (lineage : Lineage before world made)
    (given : HandedOut before made key) :
    (world.chain key).getLast? = some (before.builtinKey .object) := by
  refine lineage.induct (fun builtin => ?_)
    (fun base key storage member _ child ih => ?_) given
  · rw [(lineage.native builtin).chain, List.getLast?_map, builtin.lineage_getLast?]
    rfl
  · rw [child.chain, List.getLast?_cons, ih]
    rfl

theorem chain_eq_cons (lineage : Lineage before world made) (given : HandedOut before made key) :
    world.chain key = key :: ((world.base? key).map world.chain).getD [] := by
  cases given with
  | native builtin =>
    rw [(lineage.native builtin).chain, (lineage.native builtin).direct, Builtin.lineage,
      builtin.lineage_base?]
    cases builtin.base? with
    | none => rfl
    | some base => simp [(lineage.native base).chain]
  | created member =>
    obtain ⟨base, _, child⟩ := lineage.child _ _ member
    rw [child.direct, child.chain]
    rfl

theorem baseChain_native (lineage : Lineage before world made) (builtin : Builtin) :
    world.BaseChain (before.builtinKey builtin) (world.chain (before.builtinKey builtin)) := by
  have root : world.BaseChain (before.builtinKey .object) [before.builtinKey .object] :=
    .root (lineage.native .object).direct
  rw [(lineage.native builtin).chain]
  have direct := (lineage.native builtin).direct
  cases builtin with
  | object => exact root
  | bool => exact .step direct (.step (lineage.native .int).direct root)
  | _ => exact .step direct root

theorem baseChain (lineage : Lineage before world made) (given : HandedOut before made key) :
    world.BaseChain key (world.chain key) := by
  refine lineage.induct lineage.baseChain_native
    (fun base key storage member _ child ih => ?_) given
  rw [child.chain]
  exact .step child.direct ih

theorem chain_sorted (lineage : Lineage before world made) (given : HandedOut before made key) :
    ∃ heaps natives, world.chain key = heaps ++ natives ∧
      (∀ heap ∈ heaps, heap ∈ made.map Prod.fst ∧ (world.flagsOf heap).heap = true) ∧
      ∀ native ∈ natives, (∃ builtin, native = before.builtinKey builtin) ∧
        (world.flagsOf native).heap = false := by
  refine lineage.induct (fun builtin => ?_)
    (fun base key storage member _ child ih => ?_) given
  · refine ⟨[], world.chain (before.builtinKey builtin), rfl, by simp, fun native above => ?_⟩
    rw [(lineage.native builtin).chain] at above
    obtain ⟨ancestor, _, rfl⟩ := List.mem_map.mp above
    exact ⟨⟨ancestor, rfl⟩, by rw [(lineage.native ancestor).flags, ancestor.flags_heap]⟩
  · obtain ⟨heaps, natives, split, created, builtins⟩ := ih
    refine ⟨key :: heaps, natives, by rw [child.chain, split]; rfl, ?_, builtins⟩
    rintro heap (_ | ⟨_, below⟩)
    · exact ⟨List.mem_map_of_mem member, by rw [child.flags]; rfl⟩
    · exact created heap below

theorem isSubtype_trans (lineage : Lineage before world made) (given : HandedOut before made key)
    {middle : TypeKey} (lower : world.isSubtype key middle) (upper : world.isSubtype middle other) :
    world.isSubtype key other := by
  rw [isSubtype_iff] at *
  exact (lineage.chain_suffix given lower).2.subset upper

theorem isSubtype_antisymm (lineage : Lineage before world made)
    (given : HandedOut before made key) (known : HandedOut before made other)
    (lower : world.isSubtype key other) (upper : world.isSubtype other key) : key = other := by
  rw [isSubtype_iff] at *
  have down := (lineage.chain_suffix given lower).2
  have up := (lineage.chain_suffix known upper).2
  have same := up.eq_of_length (Nat.le_antisymm up.length_le down.length_le)
  exact (List.cons.inj same).1

theorem isSubtype_total (lineage : Lineage before world made) (given : HandedOut before made key)
    {left right : TypeKey} (first : world.isSubtype key left) (second : world.isSubtype key right) :
    world.isSubtype left right ∨ world.isSubtype right left := by
  simp only [isSubtype_iff] at *
  have one := (lineage.chain_suffix given first).2
  have two := (lineage.chain_suffix given second).2
  rcases List.suffix_or_suffix_of_suffix one two with inner | inner
  · exact .inr (inner.subset (world.mem_chain_self left))
  · exact .inl (inner.subset (world.mem_chain_self right))

theorem builtinKey_not_made (lineage : Lineage before world made) (builtin : Builtin) :
    (before.builtinKey builtin, storage) ∉ made := by
  intro member
  obtain ⟨_, _, child⟩ := lineage.child _ _ member
  have inside := before.builtinKey_index_lt builtin
  have beyond := child.beyond
  omega

theorem storage_unique (lineage : Lineage before world made) {left right : Storage}
    (first : (key, left) ∈ made) (second : (key, right) ∈ made) : left = right := by
  have same := List.inj_on_of_nodup_map lineage.distinct first second rfl
  exact (Prod.mk.inj same).2

theorem hasStore_iff (lineage : Lineage before world made) (given : HandedOut before made key) :
    (world.flagsOf key).hasStore = true ↔ ∃ above ∈ world.chain key, (above, .store) ∈ made := by
  refine lineage.induct (fun builtin => ?_)
    (fun base key storage member _ child ih => ?_) given
  · rw [(lineage.native builtin).flags, builtin.flags_hasStore, (lineage.native builtin).chain]
    refine iff_of_false Bool.false_ne_true ?_
    rintro ⟨_, above, created⟩
    obtain ⟨ancestor, _, rfl⟩ := List.mem_map.mp above
    exact lineage.builtinKey_not_made ancestor created
  · -- The type was created once, so only that one storage counts for it.
    have own : (key, Storage.store) ∈ made ↔ storage = .store :=
      ⟨fun created => lineage.storage_unique member created, fun same => same ▸ member⟩
    simp only [child.chain, List.mem_cons, or_and_right, exists_or, exists_eq_left, own, ← ih]
    simp [child.flags, inheritedFlags]

theorem layoutOwner?_native (lineage : Lineage before world made) (builtin : Builtin) :
    world.layoutOwner? (before.builtinKey builtin) = some (before.builtinKey builtin) := by
  simp [layoutOwner?, chain, (lineage.native builtin).layout]

theorem layoutOwner?_child (child : Child before world base key storage) :
    world.layoutOwner? key = world.layoutOwner? base := by
  rw [layoutOwner?, child.chain, List.find?_cons, child.layout]
  rfl

theorem layoutOf?_native (lineage : Lineage before world made) (builtin : Builtin) :
    world.layoutOf? (before.builtinKey builtin) = some builtin.layout := by
  rw [layoutOf?, lineage.layoutOwner?_native, Option.bind_some, (lineage.native builtin).layout]

theorem layoutOf?_child (child : Child before world base key storage) :
    world.layoutOf? key = world.layoutOf? base := by
  rw [layoutOf?, layoutOf?, layoutOwner?_child child]

theorem layoutOwner?_eq_some (lineage : Lineage before world made)
    (given : HandedOut before made key) :
    ∃ builtin, world.layoutOwner? key = some (before.builtinKey builtin) ∧
      world.isSubtype key (before.builtinKey builtin) ∧
      world.layoutOf? key = some builtin.layout := by
  refine lineage.induct (fun builtin => ?_)
    (fun base key storage _ _ child ih => ?_) given
  · refine ⟨builtin, lineage.layoutOwner?_native builtin, ?_, lineage.layoutOf?_native builtin⟩
    rw [isSubtype_iff]
    exact world.mem_chain_self _
  · obtain ⟨builtin, owner, above, layout⟩ := ih
    refine ⟨builtin, by rw [layoutOwner?_child child, owner], ?_,
      by rw [layoutOf?_child child, layout]⟩
    rw [isSubtype_iff] at above ⊢
    rw [child.chain]
    exact List.mem_cons_of_mem _ above

theorem layoutOf?_eq_tuple_iff (lineage : Lineage before world made)
    (given : HandedOut before made key) :
    world.layoutOf? key = some .tuple ↔ world.isSubtype key (before.builtinKey .tuple) := by
  rw [isSubtype_iff]
  refine lineage.induct (fun builtin => ?_)
    (fun base key storage member _ child ih => ?_) given
  · rw [lineage.layoutOf?_native, (lineage.native builtin).chain, Option.some.injEq,
      builtin.layout_eq_tuple_iff]
    exact (List.mem_map_of_injective fun _ _ same => builtinKey_injective same).symm
  · have other : before.builtinKey .tuple ≠ key := fun same =>
      lineage.builtinKey_not_made .tuple (same ▸ member)
    rw [layoutOf?_child child, child.chain, List.mem_cons, ih]
    simp [other]

theorem layoutOf?_ne_sealed (lineage : Lineage before world made)
    (given : HandedOut before made key) (allowed : (world.flagsOf key).baseType = true) :
    world.layoutOf? key ≠ some .sealed := by
  revert allowed
  refine lineage.induct (fun builtin => ?_)
    (fun base key storage _ _ child ih => ?_) given
  · rw [(lineage.native builtin).flags, lineage.layoutOf?_native]
    exact fun allowed same => Builtin.layout_ne_sealed allowed (Option.some.inj same)
  · intro _
    rw [layoutOf?_child child]
    exact ih child.allowed

end Lineage

structure WellChained (before world : World) (made : List (TypeKey × Storage)) (key : TypeKey) :
    Prop where
  -- The chain is stored with the type; these two say that it is the one that the bases give.
  unfolds : world.chain key = key :: ((world.base? key).map world.chain).getD []
  follows : world.BaseChain key (world.chain key)
  distinct : (world.chain key).Nodup
  rooted : (world.chain key).getLast? = some (before.builtinKey .object)
  sorted : ∃ heaps natives, world.chain key = heaps ++ natives ∧
    (∀ heap ∈ heaps, heap ∈ made.map Prod.fst ∧ (world.flagsOf heap).heap = true) ∧
    ∀ native ∈ natives, (∃ builtin, native = before.builtinKey builtin) ∧
      (world.flagsOf native).heap = false

structure Ordered (before world : World) (made : List (TypeKey × Storage)) : Prop where
  refl : ∀ key, world.isSubtype key key
  trans : ∀ low middle high, HandedOut before made low →
    world.isSubtype low middle → world.isSubtype middle high → world.isSubtype low high
  antisymm : ∀ left right, HandedOut before made left → HandedOut before made right →
    world.isSubtype left right → world.isSubtype right left → left = right
  total : ∀ low left right, HandedOut before made low →
    world.isSubtype low left → world.isSubtype low right →
    world.isSubtype left right ∨ world.isSubtype right left

structure WellMade (before world : World) (made : List (TypeKey × Storage)) (key : TypeKey) :
    Prop where
  baseType : (world.flagsOf key).baseType = true
  heap : (world.flagsOf key).heap = true
  changeable : (world.flagsOf key).immutable = false
  hasStore : (world.flagsOf key).hasStore = true ↔
    ∃ above ∈ world.chain key, (above, .store) ∈ made
  layout : world.layoutOf? key = some .plain ∨ world.layoutOf? key = some .tuple
  tuple : world.layoutOf? key = some .tuple ↔ world.isSubtype key (before.builtinKey .tuple)

theorem Lineage.wellMade (lineage : Lineage before world made) (member : (key, storage) ∈ made) :
    WellMade before world made key := by
  have given : HandedOut before made key := .created member
  obtain ⟨base, above, child⟩ := lineage.child key storage member
  have allowed : (world.flagsOf key).baseType = true := by rw [child.flags]; rfl
  refine
    { baseType := allowed
      heap := by rw [child.flags]; rfl
      changeable := by rw [child.flags]; rfl
      hasStore := lineage.hasStore_iff given
      layout := ?_
      tuple := lineage.layoutOf?_eq_tuple_iff given }
  obtain ⟨builtin, _, _, layout⟩ := lineage.layoutOwner?_eq_some given
  have usable := lineage.layoutOf?_ne_sealed given allowed
  rw [layout] at usable ⊢
  cases kind : builtin.layout with
  | plain => exact .inl rfl
  | tuple => exact .inr rfl
  | «sealed» => exact absurd (congrArg some kind) usable

/-- Whatever types are created in a registry, one after the other, its types form a hierarchy: each
chain is the one of the base with the type in front, extension is an order, and the capabilities and
layouts of created types are as they were asked for and inherited. A type that cannot be created
leaves the world as it was. -/
theorem hierarchy_of_grown {σ : Type} (grown : Grown before world made) :
    (∀ key, HandedOut before made key → WellChained before world made key) ∧
    Ordered before world made ∧
    (∀ key, key ∈ made.map Prod.fst → WellMade before world made key) ∧
    (∀ key, HandedOut before made key → ∃ owner, world.layoutOwner? key = some owner) ∧
    ∀ name base storage error held (host : σ) state,
      Eval.attempt (fun world => world.registerSubtype before.newRegistry.1 name base storage) held
        ⟨world, host⟩ = .done (.error error) state →
      state = ⟨world, host⟩ ∧ (world.flagsOf base).baseType = false ∧
        error = .sealedBase (world.nameOf base) := by
  have lineage := grown.lineage
  refine ⟨fun key given => ?_, ?_, fun key created => ?_, fun key given => ?_, ?_⟩
  · exact
      { unfolds := lineage.chain_eq_cons given
        follows := lineage.baseChain given
        distinct := lineage.chain_nodup given
        rooted := lineage.chain_getLast? given
        sorted := lineage.chain_sorted given }
  · exact
      { refl := fun key => (world.isSubtype_iff key key).mpr (world.mem_chain_self key)
        trans := fun _ _ _ given => lineage.isSubtype_trans given
        antisymm := fun _ _ => lineage.isSubtype_antisymm
        total := fun _ _ _ given => lineage.isSubtype_total given }
  · obtain ⟨⟨_, storage⟩, member, rfl⟩ := List.mem_map.mp created
    exact lineage.wellMade member
  · obtain ⟨builtin, owner, _⟩ := lineage.layoutOwner?_eq_some given
    exact ⟨_, owner⟩
  · intro name base storage error held host state failed
    obtain ⟨refused, rfl⟩ := Outcome.done.inj failed
    obtain ⟨same, refusal⟩ := registerSubtype_refused (Prod.ext refused rfl)
    exact ⟨congrArg (State.mk · host) same, refusal⟩

theorem hierarchy_of_pair_and_point :
    ∃ world, Grown {} world [(⟨19⟩, .store), (⟨18⟩, .slots)] ∧
      world.chain ⟨19⟩ = [⟨19⟩, ⟨18⟩, ⟨8⟩, ⟨0⟩] ∧
      (world.flagsOf ⟨18⟩).hasStore = false ∧
      WellChained {} world [(⟨19⟩, .store), (⟨18⟩, .slots)] ⟨19⟩ ∧
      WellMade {} world [(⟨19⟩, .store), (⟨18⟩, .slots)] ⟨19⟩ := by
  -- A tuple subtype without stores, a subtype of it with stores, and a member of that one.
  have pair : Grown {} _ [(⟨18⟩, .slots)] :=
    .created .fresh (.native .tuple) (show newSubtype _ _ "Pair" _ _ = _ from rfl)
  have point : Grown {} _ [(⟨19⟩, .store), (⟨18⟩, .slots)] :=
    .created pair (.created List.mem_cons_self) (show newSubtype _ _ "Point" _ _ = _ from rfl)
  have named : Grown {} (setMember _ ⟨19⟩ "label" .none) [(⟨19⟩, .store), (⟨18⟩, .slots)] :=
    .otherwise point (.setMember "label" .none)
  have facts := hierarchy_of_grown (σ := Unit) named
  exact ⟨_, named, rfl, rfl, facts.1 _ (.created List.mem_cons_self), facts.2.2.1 _ (by decide)⟩

end World

end ObjectModel
