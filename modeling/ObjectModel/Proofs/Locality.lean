import Mathlib.Data.List.TakeWhile
import ObjectModel.Proofs.Construction
import ObjectModel.Proofs.Precedence

set_option autoImplicit false

namespace ObjectModel

namespace World

variable {before world later : World} {made : List (TypeKey × Storage)} {key type : TypeKey}
  {name : String}

def below (world : World) (key type : TypeKey) : List TypeKey :=
  (world.chain key).takeWhile (· ≠ type)

structure Exposes (world : World) (key type : TypeKey) (name : String) : Prop where
  subtype : world.isSubtype key type = true
  unshadowed : ∀ nearer ∈ world.below key type, world.member? nearer name = none

structure FeltAt (type : TypeKey) (name : String) (result : Option (Value × TypeKey))
    (world later : World) (key : TypeKey) : Prop where
  exposed : world.Exposes key type name → later.lookupWithOwner key name = result
  elsewhere : ∀ other, ¬(other = name ∧ world.Exposes key type name) →
    later.lookupWithOwner key other = world.lookupWithOwner key other

def nearest? (world : World) (owners : List TypeKey) (name : String) : Option (Value × TypeKey) :=
  owners.findSome? fun owner => (world.member? owner name).map (·, owner)

theorem lookupWithOwner_eq (world : World) (key : TypeKey) (name : String) :
    world.lookupWithOwner key name = world.nearest? (world.chain key) name := rfl

theorem nearest?_congr {owners : List TypeKey}
    (same : ∀ owner ∈ owners, later.member? owner name = world.member? owner name) :
    later.nearest? owners name = world.nearest? owners name := by
  induction owners with
  | nil => rfl
  | cons owner rest ih =>
    have further := ih fun other member => same other (List.mem_cons_of_mem _ member)
    simp only [nearest?, List.findSome?_cons, same owner List.mem_cons_self] at further ⊢
    rw [further]

theorem nearest?_eq_none_iff (owners : List TypeKey) :
    world.nearest? owners name = none ↔ ∀ owner ∈ owners, world.member? owner name = none := by
  simp [nearest?]

theorem nearest?_append_cons (world : World) (nearer further : List TypeKey) (type : TypeKey)
    (name : String) :
    world.nearest? (nearer ++ type :: further) name =
      (world.nearest? nearer name).or
        (((world.member? type name).map (·, type)).or (world.nearest? further name)) := by
  simp only [nearest?, List.findSome?_append, List.findSome?_cons]
  cases world.member? type name <;> rfl

theorem exposes_of_lookup {value : Value}
    (found : world.lookupWithOwner key name = some (value, type)) :
    world.Exposes key type name := by
  obtain ⟨nearer, owner, further, split, held, absent⟩ := List.findSome?_eq_some_iff.mp found
  obtain ⟨_, _, same⟩ := Option.map_eq_some_iff.mp held
  obtain ⟨rfl, rfl⟩ := Prod.mk.inj same
  have above : owner ∈ world.chain key := by simp [split]
  refine ⟨(world.isSubtype_iff key owner).mpr above, fun other member => ?_⟩
  have before : other ∈ nearer := by
    rw [below, split, List.takeWhile_append] at member
    split at member
    · simpa using member
    · exact List.takeWhile_subset _ member
  simpa using absent other before

namespace Lineage

theorem chain_split (lineage : Lineage before world made) (given : HandedOut before made key)
    (above : type ∈ world.chain key) :
    world.chain key =
      world.below key type ++ type :: ((world.base? type).map world.chain).getD [] := by
  obtain ⟨known, nearer, split⟩ := lineage.chain_suffix given above
  have unfolds := lineage.chain_eq_cons known
  have distinct := lineage.chain_nodup given
  rw [← split, unfolds] at distinct
  have apart : ∀ other ∈ nearer, other ≠ type := fun other member same =>
    List.disjoint_of_nodup_append distinct member (same ▸ List.mem_cons_self)
  -- No type stands twice in a chain, so cutting it at `type` gives just what is in front.
  have cut : world.below key type = nearer := by
    rw [below, ← split, unfolds, List.takeWhile_append_of_pos (by simpa using apart)]
    simp
  rw [cut, ← unfolds, split]

theorem not_mem_chain_base (lineage : Lineage before world made)
    (given : HandedOut before made type) {base : TypeKey} (direct : world.base? type = some base) :
    type ∉ world.chain base := by
  have distinct := lineage.chain_nodup given
  rw [lineage.chain_eq_cons given, direct] at distinct
  exact (List.nodup_cons.mp distinct).1

end Lineage

structure ChangedAt (type : TypeKey) (name : String) (world later : World) : Prop where
  bare : ∀ key, later.bare? key = world.bare? key
  members : ∀ owner other, ¬(owner = type ∧ other = name) →
    later.member? owner other = world.member? owner other

theorem bare?_modifyType {change : TypeObject → TypeObject}
    (keeps : ∀ object, ∃ members, change object = { object with members }) (key : TypeKey) :
    (world.modifyType type change).bare? key = world.bare? key := by
  simp only [bare?, type?, modifyType, Cells.get?_modify]
  split
  · cases world.types.get? key.index with
    | none => rfl
    | some object =>
      obtain ⟨members, changed⟩ := keeps object
      simp [changed]
  · rfl

theorem member?_modifyType (world : World) (type owner : TypeKey) (name : String)
    (change : Table String Value → Table String Value) :
    (world.modifyType type fun object =>
        { object with members := change object.members }).member? owner name =
      if owner = type then (world.type? type).bind fun object => (change object.members).get? name
      else world.member? owner name := by
  by_cases here : owner = type
  · subst here
    simp only [member?, type?, modifyType, Cells.get?_modify, if_true, Option.bind_map]
    rfl
  · have apart : type.index ≠ owner.index := fun same =>
      here (congrArg TypeKey.mk same).symm
    simp [member?, type?, modifyType, Cells.get?_modify, here, apart]

theorem member?_setMember (known : ∃ object, world.type? type = some object) (value : Value) :
    (world.setMember type name value).member? type name = some value := by
  obtain ⟨object, held⟩ := known
  refine (member?_modifyType world type type name (·.insert name value)).trans ?_
  simp [held]

theorem member?_removeMember (world : World) (type : TypeKey) (name : String) :
    (world.removeMember type name).member? type name = none := by
  refine (member?_modifyType world type type name (·.erase name)).trans ?_
  simp

namespace ChangedAt

theorem refl (type : TypeKey) (name : String) (world : World) : ChangedAt type name world world :=
  ⟨fun _ => rfl, fun _ _ _ => rfl⟩

theorem modifyType (world : World) (type : TypeKey)
    (change : Table String Value → Table String Value)
    (keeps : ∀ table other, other ≠ name → (change table).get? other = table.get? other) :
    ChangedAt type name world (world.modifyType type fun object =>
      { object with members := change object.members }) where
  bare := bare?_modifyType fun _ => ⟨_, rfl⟩
  members owner other apart := by
    rw [member?_modifyType]
    split
    · next here =>
      subst here
      have different : other ≠ name := fun same => apart ⟨rfl, same⟩
      simp only [member?, keeps _ _ different]
    · rfl

theorem setMember (world : World) (type : TypeKey) (name : String) (value : Value) :
    ChangedAt type name world (world.setMember type name value) := by
  refine modifyType world type (·.insert name value) fun table other different => ?_
  rw [Table.get?_insert, if_neg different.symm]

theorem removeMember (world : World) (type : TypeKey) (name : String) :
    ChangedAt type name world (world.removeMember type name) := by
  refine modifyType world type (·.erase name) fun table other different => ?_
  rw [Table.get?_erase, if_neg different.symm]

theorem chain_eq (changed : ChangedAt type name world later) (key : TypeKey) :
    later.chain key = world.chain key :=
  World.chain_eq (changed.bare key)

theorem lookup_elsewhere (changed : ChangedAt type name world later) {other : String}
    (apart : other ≠ name ∨ type ∉ world.chain key) :
    later.lookupWithOwner key other = world.lookupWithOwner key other := by
  rw [lookupWithOwner_eq, lookupWithOwner_eq, changed.chain_eq]
  refine nearest?_congr fun owner member => changed.members owner other ?_
  rintro ⟨rfl, rfl⟩
  rcases apart with different | outside
  · exact different rfl
  · exact outside member

theorem lookup_split (changed : ChangedAt type name world later)
    (lineage : Lineage before world made) (given : HandedOut before made key)
    (above : type ∈ world.chain key) :
    later.lookupWithOwner key name =
      (world.nearest? (world.below key type) name).or
        (((later.member? type name).map (·, type)).or
          ((world.base? type).bind (world.lookupWithOwner · name))) := by
  have nearer : later.nearest? (world.below key type) name =
      world.nearest? (world.below key type) name :=
    nearest?_congr fun owner member => changed.members owner name fun same => by
      simpa [same.1] using List.mem_takeWhile_imp member
  have further : later.nearest? (((world.base? type).map world.chain).getD []) name =
      (world.base? type).bind (world.lookupWithOwner · name) := by
    cases direct : world.base? type with
    | none => rfl
    | some base =>
      -- The chain of the base does not lead back to `type`.
      have outside := lineage.not_mem_chain_base (lineage.chain_suffix given above).1 direct
      exact nearest?_congr fun owner member => changed.members owner name fun same =>
        outside (same.1 ▸ member)
  rw [lookupWithOwner_eq, changed.chain_eq, lineage.chain_split given above,
    nearest?_append_cons, nearer, further]

theorem feltAt (changed : ChangedAt type name world later) (lineage : Lineage before world made)
    (given : HandedOut before made key) :
    FeltAt type name (((later.member? type name).map (·, type)).or
      ((world.base? type).bind (world.lookupWithOwner · name))) world later key where
  exposed exposes := by
    have above := (world.isSubtype_iff key type).mp exposes.subtype
    rw [changed.lookup_split lineage given above,
      (nearest?_eq_none_iff _).mpr exposes.unshadowed, Option.none_or]
  elsewhere other apart := by
    by_cases same : other = name
    · subst same
      by_cases above : type ∈ world.chain key
      · -- The name is defined in front of `type`, so no lookup comes as far as that.
        have shadowed : world.nearest? (world.below key type) other ≠ none := fun none =>
          apart ⟨rfl, (world.isSubtype_iff key type).mpr above, (nearest?_eq_none_iff _).mp none⟩
        obtain ⟨found, nearest⟩ := Option.ne_none_iff_exists'.mp shadowed
        rw [changed.lookup_split lineage given above,
          (refl type other world).lookup_split lineage given above, nearest]
        rfl
      · exact changed.lookup_elsewhere (.inr above)
    · exact changed.lookup_elsewhere (.inl same)

end ChangedAt

theorem FeltAt.setMember (lineage : Lineage before world made) (given : HandedOut before made key)
    (type : TypeKey) (name : String) (value : Value) :
    FeltAt type name (some (value, type)) world (world.setMember type name value) key := by
  have felt := (ChangedAt.setMember world type name value).feltAt lineage given
  refine ⟨fun exposes => ?_, felt.elsewhere⟩
  have above := (world.isSubtype_iff key type).mp exposes.subtype
  have known := lineage.known (lineage.chain_suffix given above).1
  rw [felt.exposed exposes, member?_setMember known]
  rfl

theorem FeltAt.removeMember (lineage : Lineage before world made)
    (given : HandedOut before made key) (type : TypeKey) (name : String) :
    FeltAt type name ((world.base? type).bind (world.lookupWithOwner · name)) world
      (world.removeMember type name) key := by
  have felt := (ChangedAt.removeMember world type name).feltAt lineage given
  rwa [member?_removeMember] at felt

theorem FeltAt.lookup_iff {value : Value} (felt : FeltAt type name (some (value, type)) world
    later key) :
    later.lookupWithOwner key name = some (value, type) ↔ world.Exposes key type name := by
  refine ⟨fun found => ?_, felt.exposed⟩
  -- A lookup that the change does not reach ended at `type` before, which is exposed just the same.
  by_contra hidden
  rw [felt.elsewhere name fun both => hidden both.2] at found
  exact hidden (exposes_of_lookup found)

/-- Whatever hierarchy has grown, a change to the members of one type is felt under the changed name
alone, and only by the types that it is exposed to. Assignments and deletions on the type object make
just these changes. -/
theorem member_change_local {σ : Type} (engine : Engine σ) (state : State σ)
    (grown : Grown before state.world made) (type : TypeKey) (name : String) (value : Value) :
    (∀ key, HandedOut before made key →
      FeltAt type name (some (value, type)) state.world (state.world.setMember type name value)
        key ∧
      ((state.world.setMember type name value).lookupWithOwner key name = some (value, type) ↔
        state.world.Exposes key type name) ∧
      FeltAt type name ((state.world.base? type).bind (state.world.lookupWithOwner · name))
        state.world (state.world.removeMember type name) key) ∧
    (state.world.Writable (.type type) →
      (∀ found, state.world.entry? (.type type) name = some found → found.category ≠ .data) →
      ∀ held allowSuspend,
        engine.setAttribute (.type type) name (some value) allowSuspend held state =
          .done (.ok (.ready ())) { state with world := state.world.setMember type name value } ∧
        engine.setAttribute (.type type) name none allowSuspend held state =
          if state.world.member? type name = none then
            .done (.error (.typeAttributeMissing (state.world.nameOf type) name)) state
          else
            .done (.ok (.ready ())) { state with world := state.world.removeMember type name }) := by
  have lineage := grown.lineage
  refine ⟨fun key given => ?_, fun writable notData held allowSuspend => ⟨?_, ?_⟩⟩
  · have written := FeltAt.setMember lineage given type name value
    exact ⟨written, written.lookup_iff, .removeMember lineage given type name⟩
  · rw [Engine.setAttribute_own writable notData]
    rfl
  · rw [Engine.setAttribute_own writable notData]
    by_cases absent : state.world.member? type name = none <;>
      simp [writeOwn, writeMember, absent]

theorem member_change_local_point :
    ∃ world, Grown {} world [(⟨19⟩, .store), (⟨18⟩, .slots)] ∧
      world.Exposes ⟨19⟩ ⟨18⟩ "size" ∧
      (world.setMember ⟨18⟩ "size" (.int 2)).lookupWithOwner ⟨19⟩ "size" =
        some (.int 2, ⟨18⟩) ∧
      (world.removeMember ⟨18⟩ "size").lookupWithOwner ⟨19⟩ "size" = none := by
  have pair : Grown {} _ [(⟨18⟩, .slots)] :=
    .created .fresh (.native .tuple) (show newSubtype _ _ "Pair" _ _ = _ from rfl)
  have point : Grown {} _ [(⟨19⟩, .store), (⟨18⟩, .slots)] :=
    .created pair (.created List.mem_cons_self) (show newSubtype _ _ "Point" _ _ = _ from rfl)
  have sized : Grown {} (setMember _ ⟨18⟩ "size" (.int 1)) [(⟨19⟩, .store), (⟨18⟩, .slots)] :=
    .otherwise point (.setMember "size" (.int 1))
  have felt := (member_change_local (Engine.idleHost.engine {} 1 1) ⟨_, ()⟩ sized ⟨18⟩ "size"
    (.int 2)).1 ⟨19⟩ (.created List.mem_cons_self)
  have exposes : World.Exposes _ ⟨19⟩ ⟨18⟩ "size" := felt.2.1.mp rfl
  exact ⟨_, sized, exposes, felt.1.exposed exposes, felt.2.2.exposed exposes⟩

end World

end ObjectModel
