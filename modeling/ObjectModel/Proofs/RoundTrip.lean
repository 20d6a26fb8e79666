import ObjectModel.Proofs.Locality
import ObjectModel.Proofs.Suspension

set_option autoImplicit false

namespace ObjectModel

namespace Table

variable {κ α : Type} [DecidableEq κ]

theorem without_replaced (key : κ) (value : α) (entries : List (κ × α)) :
    without key (replaced key value entries) = without key entries := by
  induction entries with
  | nil => simp [replaced, without]
  | cons entry rest ih =>
    obtain ⟨other, old⟩ := entry
    by_cases same : other = key <;> simp [replaced, without, same, ih]

theorem without_of_find {key : κ} {entries : List (κ × α)} (absent : find key entries = none) :
    without key entries = entries := by
  induction entries with
  | nil => rfl
  | cons entry rest ih =>
    obtain ⟨other, old⟩ := entry
    by_cases same : other = key
    · simp [find, same] at absent
    · simp only [find, same, if_false] at absent
      simp [without, same, ih absent]

theorem erase_insert (table : Table κ α) (key : κ) (value : α) :
    (table.insert key value).erase key = table.erase key := by
  simp [erase, insert, without_replaced]

theorem erase_of_get? {table : Table κ α} {key : κ} (absent : table.get? key = none) :
    table.erase key = table := by
  obtain ⟨entries, distinct⟩ := table
  simp only [erase, without_of_find absent]

end Table

namespace World

variable {world later : World} {instances : List (Instance Value)} {inst : Instance Value}
  {key : StoreKey} {name : String}

/-- The worlds that come about while instances are made, with the instances made so far. -/
inductive Populated : World → List (Instance Value) → Prop where
  | empty (world : World) : Populated world []
  | made {world : World} {instances : List (Instance Value)} (populated : Populated world instances)
    (type : TypeKey) (payload : Payload Value) :
    Populated (world.newInstance type payload).2 ((world.newInstance type payload).1 :: instances)
  -- Anything else may happen, but the store of an instance lasts as long as the instance.
  | otherwise {world later : World} {instances : List (Instance Value)}
    (populated : Populated world instances) (size : world.stores.size ≤ later.stores.size)
    (kept : ∀ inst ∈ instances, ∀ key, inst.store = some key →
      (world.store? key).isSome = true → (later.store? key).isSome = true) :
    Populated later instances

theorem newInstance_cases (world : World) (type : TypeKey) (payload : Payload Value) :
    (world.newInstance type payload).1.store = none ∧
        (world.newInstance type payload).2.stores = world.stores ∨
      (world.newInstance type payload).1.store = some ⟨world.stores.size⟩ ∧
        (world.newInstance type payload).2.stores = world.stores.push {} := by
  simp only [newInstance]
  split
  · exact .inr ⟨rfl, rfl⟩
  · exact .inl ⟨rfl, rfl⟩

theorem Populated.store_live (populated : Populated world instances) (member : inst ∈ instances)
    (owns : inst.store = some key) : (world.store? key).isSome = true := by
  induction populated with
  | empty world => cases member
  | @made world instances populated type payload ih =>
    rcases newInstance_cases world type payload with ⟨without, stores⟩ | ⟨fresh, stores⟩
    · rcases List.mem_cons.mp member with rfl | old
      · cases without.symm.trans owns
      · rw [store?, stores]
        exact ih old
    · rw [store?, stores, Cells.get?_push]
      split
      · rfl
      · rcases List.mem_cons.mp member with rfl | old
        · next different =>
          cases fresh.symm.trans owns
          exact absurd rfl different
        · exact ih old
  | otherwise populated size kept ih => exact kept inst member key owns (ih member)

theorem Populated.index_lt (populated : Populated world instances) (member : inst ∈ instances)
    (owns : inst.store = some key) : key.index < world.stores.size := by
  obtain ⟨store, held⟩ := Option.isSome_iff_exists.mp (populated.store_live member owns)
  exact Cells.get?_lt_size held

theorem Populated.store_unique (populated : Populated world instances) {other : Instance Value}
    (member : inst ∈ instances) (present : other ∈ instances) (owns : inst.store = some key)
    (shares : other.store = some key) : inst = other := by
  induction populated with
  | empty world => cases member
  | @made world instances populated type payload ih =>
    -- The store of the new instance is numbered by the stores before, all others are smaller.
    have newer (old : Instance Value) (among : old ∈ instances) (holds : old.store = some key)
        (same : (world.newInstance type payload).1.store = some key) : False := by
      have smaller := populated.index_lt among holds
      rcases newInstance_cases world type payload with ⟨without, _⟩ | ⟨fresh, _⟩
      · cases without.symm.trans same
      · cases fresh.symm.trans same
        exact Nat.lt_irrefl _ smaller
    rcases List.mem_cons.mp member with rfl | old
    · rcases List.mem_cons.mp present with rfl | old
      · rfl
      · exact (newer _ old shares owns).elim
    · rcases List.mem_cons.mp present with rfl | fresh
      · exact (newer _ old owns shares).elim
      · exact ih old fresh
  | otherwise populated size kept ih => exact ih member present

theorem Grown.newInstance {before : World} {made : List (TypeKey × Storage)}
    (grown : Grown before world made) (type : TypeKey) (payload : Payload Value) :
    Grown before (world.newInstance type payload).2 made := by
  have types := world.newInstance_types type payload
  exact .otherwise grown ⟨by rw [types], fun _ => .of_types_eq types⟩

theorem modifyStore_modifyStore (world : World) (key : StoreKey)
    (first second : AttributeStore → AttributeStore) :
    (world.modifyStore key first).modifyStore key second =
      world.modifyStore key fun store => second (first store) := by
  simp only [modifyStore, Cells.modify_modify]

theorem modifyStore_of_fixed {change : AttributeStore → AttributeStore}
    (fixed : ∀ store, world.store? key = some store → change store = store) :
    world.modifyStore key change = world := by
  simp only [modifyStore, Cells.modify_of_fixed fixed]

theorem storedAttribute?_modifyStore (world : World) (key other : StoreKey) (name : String)
    (change : AttributeStore → AttributeStore) :
    (world.modifyStore key change).storedAttribute? other name =
      if other = key then (world.store? key).bind fun store => (change store).get? name
      else world.storedAttribute? other name := by
  by_cases here : other = key
  · subst here
    simp only [storedAttribute?, store?, modifyStore, Cells.get?_modify, if_true, Option.bind_map]
    rfl
  · have apart : key.index ≠ other.index := fun same => here (congrArg StoreKey.mk same).symm
    simp [storedAttribute?, store?, modifyStore, Cells.get?_modify, here, apart]

theorem entry?_of_types (same : later.types = world.types) (receiver : Value) (name : String) :
    later.entry? receiver name = world.entry? receiver name := by
  have bare (type : TypeKey) : later.bare? type = world.bare? type := by
    simp only [bare?, type?, same]
  simp only [World.entry?, typeOf_eq bare, lookup, lookupWithOwner, World.chain_eq (bare _), member?,
    type?, same]

theorem entry?_modifyStore (world : World) (key : StoreKey)
    (change : AttributeStore → AttributeStore) (receiver : Value) (name : String) :
    World.entry? (world.modifyStore key change) receiver name = world.entry? receiver name := by
  cases receiver <;> rfl

structure SameBut (instances : List (Instance Value)) (inst : Instance Value) (name : String)
    (world later : World) : Prop where
  entries : ∀ receiver other, later.entry? receiver other = world.entry? receiver other
  own : ∀ receiver other, (∀ one, receiver = .object one → one ∈ instances) →
    ¬(receiver = .object inst ∧ other = name) →
    later.own? receiver other = world.own? receiver other

theorem SameBut.modifyStore (populated : Populated world instances) (member : inst ∈ instances)
    (owns : inst.store = some key) (change : AttributeStore → AttributeStore)
    (keeps : ∀ store other, other ≠ name → (change store).get? other = store.get? other) :
    SameBut instances inst name world (world.modifyStore key change) where
  entries := world.entry?_modifyStore key change
  own receiver other existing apart := by
    cases receiver with
    | object one =>
      simp only [own?, ownAttribute?, Value.store?]
      cases shares : one.store with
      | none => rfl
      | some held =>
        simp only [Option.bind_some, storedAttribute?_modifyStore]
        by_cases here : held = key
        · subst here
          -- The store is written, so the instance is the one that owns it.
          have same := populated.store_unique (existing one rfl) member shares owns
          have different : other ≠ name := fun named => apart ⟨congrArg _ same, named⟩
          simp [storedAttribute?, keeps _ _ different]
        · simp [here]
    | _ => rfl

theorem exposes_self (world : World) (type : TypeKey) (name : String) :
    world.Exposes type type name := by
  constructor
  · rw [isSubtype_iff]
    exact world.mem_chain_self type
  · simp [below, chain]

end World

def State.modifyStore {σ : Type} (state : State σ) (key : StoreKey)
    (change : AttributeStore → AttributeStore) : State σ :=
  { state with world := state.world.modifyStore key change }

def State.setMember {σ : Type} (state : State σ) (type : TypeKey) (name : String)
    (value : Value) : State σ :=
  { state with world := state.world.setMember type name value }

namespace Engine

variable {σ : Type} {engine : Engine σ}

theorem setAttr_of_ready {receiver value : Value} {name : String} {held : Roots}
    {state later : State σ}
    (written : engine.setAttribute receiver name (some value) false held state =
      .done (.ok (.ready ())) later) :
    engine.setAttr receiver name value held state = .done (.ok ()) later := by
  rw [setAttr, Eval.bind_apply, written]
  simp [complete_ready]

theorem delAttr_of_ready {receiver : Value} {name : String} {held : Roots} {state later : State σ}
    (deleted : engine.setAttribute receiver name none false held state =
      .done (.ok (.ready ())) later) :
    engine.delAttr receiver name held state = .done (.ok ()) later := by
  rw [delAttr, Eval.bind_apply, deleted]
  simp [complete_ready]

theorem getAttr_of_ready {receiver value : Value} {name : String} {held : Roots}
    {state later : State σ}
    (read : engine.getAttribute receiver name false held state =
      .done (.ok (.ready (some value))) later) :
    engine.getAttr receiver name held state = .done (.ok value) later := by
  have looked : engine.lookupAttr receiver name held state = .done (.ok (some value)) later := by
    rw [lookupAttr, Eval.bind_apply, read]
    simp [complete_ready]
  rw [getAttr, Eval.bind_apply, looked]
  rfl

structure StoreRoundTrip (engine : Engine σ) (instances : List (Instance Value))
    (inst : Instance Value) (name : String) (value : Value) (state written deleted : State σ) :
    Prop where
  sets : ∀ held, engine.setAttr (.object inst) name value held state = .done (.ok ()) written
  gets : ∀ held, engine.getAttr (.object inst) name held written = .done (.ok value) written
  setFrame : state.world.SameBut instances inst name written.world
  deletes : ∀ held, engine.delAttr (.object inst) name held written = .done (.ok ()) deleted
  deleteFrame : state.world.SameBut instances inst name deleted.world
  absent : deleted.world.types = state.world.types ∧
    deleted.world.own? (.object inst) name = none
  -- The type decides then, just as in any other state where the store does not hold the name.
  reverts : ∀ other : State σ, other.world.types = state.world.types →
    other.world.own? (.object inst) name = none → ∀ held allowSuspend,
      engine.getAttribute (.object inst) name allowSuspend held other =
        engine.fetch (state.world.entry? (.object inst) name) (.object inst)
          (state.world.typeOf (.object inst)) allowSuspend held other
  -- Nothing at all is left of an attribute that was not there before.
  undone : state.world.own? (.object inst) name = none → deleted = state
  gone : ∀ held, engine.delAttr (.object inst) name held deleted =
    .done (.error (.attributeMissing (state.world.typeName (.object inst)) name)) deleted

structure MemberRoundTrip (engine : Engine σ) (type : TypeKey) (name : String) (value : Value)
    (state written : State σ) : Prop where
  sets : ∀ held, engine.setAttr (.type type) name value held state = .done (.ok ()) written
  gets : ∀ held allowSuspend, engine.getAttribute (.type type) name allowSuspend held written =
    (Completion.map some <$> engine.descriptorGet value none type allowSuspend) held written

section

variable {instances : List (Instance Value)} {inst : Instance Value} {key : StoreKey}
  {name : String} {state : State σ}
  (notData : ∀ found, state.world.entry? (.object inst) name = some found → found.category ≠ .data)

include notData

theorem getAttribute_unstored {other : State σ} (types : other.world.types = state.world.types)
    (absent : other.world.own? (.object inst) name = none) (held : Roots) (allowSuspend : Bool) :
    engine.getAttribute (.object inst) name allowSuspend held other =
      engine.fetch (state.world.entry? (.object inst) name) (.object inst)
        (state.world.typeOf (.object inst)) allowSuspend held other := by
  have sameType : other.world.typeOf (.object inst) = state.world.typeOf (.object inst) :=
    World.typeOf_eq (fun type => by simp only [World.bare?, World.type?, types]) _
  have sameEntry := World.entry?_of_types types (.object inst) name
  rw [getAttribute_notData (by simpa only [sameEntry] using notData), absent, sameEntry, sameType]

theorem getAttr_stored {value : Value} (holds : state.world.own? (.object inst) name = some value)
    (held : Roots) :
    engine.getAttr (.object inst) name held state = .done (.ok value) state := by
  apply getAttr_of_ready
  rw [getAttribute_notData notData, holds]
  rfl

theorem setAttr_store (owns : inst.store = some key) (value : Value) (held : Roots) :
    engine.setAttr (.object inst) name value held state =
      .done (.ok ()) (state.modifyStore key (·.insert name value)) := by
  apply setAttr_of_ready
  rw [setAttribute_own (by trivial) notData]
  simp [World.writeOwn, World.writeStore, Value.store?, owns, State.modifyStore]

theorem delAttr_store (owns : inst.store = some key)
    (holds : state.world.own? (.object inst) name ≠ none) (held : Roots) :
    engine.delAttr (.object inst) name held state =
      .done (.ok ()) (state.modifyStore key (·.erase name)) := by
  apply delAttr_of_ready
  rw [setAttribute_own (by trivial) notData]
  simp only [World.own?, World.ownAttribute?, Value.store?, owns, Option.bind_some] at holds
  simp [World.writeOwn, World.writeStore, Value.store?, owns, holds, State.modifyStore]

theorem delAttr_missing (lacks : state.world.own? (.object inst) name = none) (held : Roots) :
    engine.delAttr (.object inst) name held state =
      .done (.error (.attributeMissing (state.world.typeName (.object inst)) name)) state := by
  have refused : engine.setAttribute (.object inst) name none false held state =
      .done (.error (.attributeMissing (state.world.typeName (.object inst)) name)) state := by
    rw [setAttribute_own (by trivial) notData]
    simp only [World.own?, World.ownAttribute?, Value.store?] at lacks
    cases owns : inst.store with
    | none => simp [World.writeOwn, World.writeStore, Value.store?, owns]
    | some key =>
      rw [owns, Option.bind_some] at lacks
      simp [World.writeOwn, World.writeStore, Value.store?, owns, lacks]
  rw [delAttr, Eval.bind_apply, refused]

theorem storeRoundTrip (populated : state.world.Populated instances) (member : inst ∈ instances)
    (owns : inst.store = some key) (value : Value) :
    engine.StoreRoundTrip instances inst name value state
      (state.modifyStore key (·.insert name value)) (state.modifyStore key (·.erase name)) := by
  obtain ⟨store, live⟩ := Option.isSome_iff_exists.mp (populated.store_live member owns)
  have own (world : World) : world.own? (.object inst) name = world.storedAttribute? key name := by
    simp [World.own?, World.ownAttribute?, Value.store?, owns]
  have kept (change : AttributeStore → AttributeStore) (found : Value)
      (entry : (state.modifyStore key change).world.entry? (.object inst) name = some found) :
      found.category ≠ .data :=
    notData found ((World.entry?_modifyStore ..).symm.trans entry)
  have holds : (state.modifyStore key (·.insert name value)).world.own? (.object inst) name =
      some value := by
    simp [own, State.modifyStore, World.storedAttribute?_modifyStore, live]
  have lacks : (state.modifyStore key (·.erase name)).world.own? (.object inst) name = none := by
    simp [own, State.modifyStore, World.storedAttribute?_modifyStore, live]
  constructor
  case sets => exact setAttr_store notData owns value
  case gets => exact getAttr_stored (kept _) holds
  case setFrame =>
    apply World.SameBut.modifyStore populated member owns
    intro table other different
    rw [Table.get?_insert, if_neg different.symm]
  case deletes =>
    intro held
    have stored := Option.ne_none_iff_exists'.mpr ⟨value, holds⟩
    rw [delAttr_store (kept _) owns stored]
    simp only [State.modifyStore, World.modifyStore_modifyStore, Table.erase_insert]
  case deleteFrame =>
    apply World.SameBut.modifyStore populated member owns
    intro table other different
    rw [Table.get?_erase, if_neg different.symm]
  case absent => exact ⟨rfl, lacks⟩
  case reverts => exact fun other types absent => getAttribute_unstored notData types absent
  case undone =>
    intro absent
    rw [own, World.storedAttribute?, live] at absent
    have fixed : state.world.modifyStore key (·.erase name) = state.world := by
      apply World.modifyStore_of_fixed
      intro present held
      cases live.symm.trans held
      exact Table.erase_of_get? absent
    rw [State.modifyStore, fixed]
  case gone => exact delAttr_missing (kept _) lacks

end

section

variable {before : World} {known made : List (TypeKey × Storage)} {type : TypeKey} {name : String}
  {storage : Storage} {state : State σ}

theorem getAttribute_member
    (notData : ∀ found, state.world.entry? (.type type) name = some found →
      found.category ≠ .data) {value : Value}
    (holds : state.world.own? (.type type) name = some value) (held : Roots)
    (allowSuspend : Bool) :
    engine.getAttribute (.type type) name allowSuspend held state =
      (Completion.map some <$> engine.descriptorGet value none type allowSuspend) held state := by
  rw [getAttribute_notData notData, holds]
  simp only [giveOwn_type]

theorem not_mem_chain_metatype (shared : World.Grown {} state.world known)
    (grown : World.Grown before state.world made) (created : (type, storage) ∈ made) :
    type ∉ state.world.chain Builtin.type.key := by
  obtain ⟨base, _, child⟩ := grown.lineage.child type storage created
  have beyond := child.beyond
  have chain := (shared.lineage.native .type).chain
  rw [World.builtinKey_first] at chain
  rw [chain]
  intro above
  -- The metatype and its base are the first types of all, whatever registry made this one.
  obtain ⟨builtin, _, rfl⟩ := List.mem_map.mp above
  have smaller := builtin.id_lt_count
  simp only [World.builtinKey_first, Builtin.key] at beyond
  omega

theorem memberRoundTrip (shared : World.Grown {} state.world known)
    (grown : World.Grown before state.world made) (created : (type, storage) ∈ made)
    (notData : ∀ found, state.world.entry? (.type type) name = some found →
      found.category ≠ .data) (value : Value) :
    engine.MemberRoundTrip type name value state (state.setMember type name value) := by
  have lineage := grown.lineage
  have writable : state.world.Writable (.type type) := (lineage.wellMade created).changeable
  have found := (World.FeltAt.setMember lineage (.created created) type name value).exposed
    (state.world.exposes_self type name)
  have entry : (state.setMember type name value).world.entry? (.type type) name =
      state.world.entry? (.type type) name := by
    have changed := World.ChangedAt.setMember state.world type name value
    have outside := not_mem_chain_metatype shared grown created
    exact congrArg (Option.map Prod.fst) (changed.lookup_elsewhere (.inr outside))
  constructor
  case sets =>
    intro held
    apply setAttr_of_ready
    rw [setAttribute_own writable notData]
    rfl
  case gets =>
    apply getAttribute_member
    · rwa [entry]
    · exact congrArg (Option.map Prod.fst) found

end

/-- An attribute that is assigned comes back unchanged from an instance and as a member from a type,
and once it is deleted from an instance nothing is left of it. -/
theorem attribute_round_trip (engine : Engine σ) (state : State σ) (name : String)
    (value : Value) :
    (∀ instances inst, state.world.Populated instances → inst ∈ instances →
      inst.store.isSome = true →
      (∀ found, state.world.entry? (.object inst) name = some found → found.category ≠ .data) →
      ∃ written deleted,
        engine.StoreRoundTrip instances inst name value state written deleted) ∧
    (∀ before known made type, World.Grown {} state.world known →
      World.Grown before state.world made → type ∈ made.map Prod.fst →
      (∀ found, state.world.entry? (.type type) name = some found → found.category ≠ .data) →
      ∃ written, engine.MemberRoundTrip type name value state written) := by
  constructor
  · intro instances inst populated member carries notData
    obtain ⟨key, owns⟩ := Option.isSome_iff_exists.mp carries
    exact ⟨_, _, storeRoundTrip notData populated member owns value⟩
  · intro before known made type shared grown created notData
    obtain ⟨⟨_, storage⟩, member, rfl⟩ := List.mem_map.mp created
    exact ⟨_, memberRoundTrip shared grown member notData value⟩

theorem attribute_round_trip_point :
    ∃ (state : State Unit) (inst : Instance Value), state.world.Populated [inst] ∧
      inst.store = some ⟨0⟩ ∧ state.world.entry? (.object inst) "size" = some (.int 2) ∧
      (∃ written deleted, (idleHost.engine {} 1 1).StoreRoundTrip [inst] inst "size"
        (.function ⟨0, "Point", "size", .method, none, .code ⟨0⟩⟩) state written deleted) ∧
      ∃ written, (idleHost.engine {} 1 1).MemberRoundTrip ⟨18⟩ "size"
        (.function ⟨0, "Point", "size", .method, none, .code ⟨0⟩⟩) state written := by
  have point : World.Grown {} _ [(⟨18⟩, .store)] :=
    .created .fresh (.native .object) (show World.newSubtype _ _ "Point" _ _ = _ from rfl)
  have sized : World.Grown {} (World.setMember _ ⟨18⟩ "size" (.int 2)) [(⟨18⟩, .store)] :=
    .otherwise point (.setMember "size" (.int 2))
  have grown := sized.newInstance ⟨18⟩ .empty
  have trips (state : State Unit) := attribute_round_trip (idleHost.engine {} 1 1) state "size"
    (.function ⟨0, "Point", "size", .method, none, .code ⟨0⟩⟩)
  have member := (trips ⟨_, ()⟩).2 {} _ _ ⟨18⟩ grown grown List.mem_cons_self fun found entry => by
    cases entry
  refine ⟨⟨_, ()⟩, _, .made (.empty _) ⟨18⟩ .empty, ?_, ?_, ?_, member⟩
  · rfl
  · rfl
  · apply (trips _).1 _ _ (.made (.empty _) ⟨18⟩ .empty) List.mem_cons_self rfl
    intro found entry
    cases entry
    decide

end Engine

end ObjectModel
