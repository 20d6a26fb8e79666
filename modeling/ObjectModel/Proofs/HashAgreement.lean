import ObjectModel.Proofs.Coherence

set_option autoImplicit false

namespace ObjectModel

namespace Content

def hashOfItself : Value → Int64
  | .none => Hash.ofNone
  | .notImplemented => Hash.ofNotImplemented
  | .str text => Hash.ofString text
  | value => Hash.ofIdentity value

mutual

def hash? : Content → Option Int64
  -- Of the numbers only integers count here.
  | .number units => some (Hash.avoidMark (Int64.ofInt (units / Binary64.unitsPerOne)))
  | .slice _ => none
  | .items all => hashOfItems? all.length all {}
  | .itself value => some (hashOfItself value)

def hashOfItems? (count : Nat) : List Content → Hash.Accumulator → Option Int64
  | [], accumulator => some accumulator.finish
  | item :: rest, accumulator =>
    match item.hash? with
    | some hash => hashOfItems? count rest (accumulator.add count hash)
    | none => none

end

theorem hash?_number (number : Int64) :
    (Content.number (number.toInt * Binary64.unitsPerOne)).hash? =
      some (Hash.avoidMark number) := by
  have positive : (0 : Int) < Binary64.unitsPerOne := by
    exact_mod_cast Binary64.unitsPerOne_pos
  rw [hash?, Int.mul_ediv_cancel _ positive.ne', Int64.ofInt_toInt]

end Content

theorem Value.length_contents (items : List Value) : (contents items).length = items.length := by
  induction items with
  | nil => rfl
  | cons item items ih => rw [contents, List.length_cons, List.length_cons, ih]

namespace World

def BuiltinHash (world : World) (type : TypeKey) : Prop :=
  ∀ method owner, world.lookupWithOwner type "__hash__" = some (method, owner) →
    method ≠ .none ∧ (world.flagsOf owner).heap = false

def HashesNatively (world : World) (value : Value) : Prop :=
  ∀ inner, value.Nested inner →
    (∀ number, inner ≠ .float number) ∧
      (inner.isInstance = true → world.BuiltinHash (world.typeOf inner))

def Faithful (world : World) (value : Value) : Prop :=
  ∀ inner hash, value.Nested inner → world.hashes[inner]? = some hash →
    inner.content.hash? = some hash

structure Learns (world later : World) : Prop where
  rest : later = { world with hashes := later.hashes }
  sound : ∀ (value : Value) (hash : Int64), later.hashes[value]? = some hash →
    world.hashes[value]? = some hash ∨ value.content.hash? = some hash

def hashResult (world : World) : Option Int64 → Except Error Int64
  | some hash => .ok hash
  | none => .error (.unhashable (world.nameOf Builtin.slice.key))

variable {world middle later : World} {value item : Value} {items : List Value}

theorem BuiltinHash.of_found {type owner : TypeKey} {method : Value}
    (found : world.lookupWithOwner type "__hash__" = some (method, owner))
    (defined : method ≠ .none) (notHeap : (world.flagsOf owner).heap = false) :
    world.BuiltinHash type := by
  intro other owner' found'
  cases found.symm.trans found'
  exact ⟨defined, notHeap⟩

theorem HashesNatively.of_item (native : world.HashesNatively value)
    (tuple : value.items? = some items) (member : item ∈ items) : world.HashesNatively item :=
  fun inner nested => native inner (.item tuple member nested)

theorem Faithful.of_item (faithful : world.Faithful value) (tuple : value.items? = some items)
    (member : item ∈ items) : world.Faithful item :=
  fun inner hash nested => faithful inner hash (.item tuple member nested)

namespace Learns

theorem refl (world : World) : world.Learns world :=
  ⟨rfl, fun _ _ => .inl⟩

theorem trans (first : world.Learns middle) (second : middle.Learns later) :
    world.Learns later where
  rest := by
    rw [second.rest, first.rest]
  sound value hash known := by
    rcases second.sound value hash known with older | computed
    · exact first.sound value hash older
    · exact .inr computed

theorem remember {hash : Int64} (computed : value.content.hash? = some hash) :
    world.Learns { world with hashes := world.hashes.insert value hash } where
  rest := rfl
  sound other known found := by
    rw [Std.HashMap.getElem?_insert] at found
    split at found
    · next same =>
      cases eq_of_beq same
      exact .inr (computed.trans found)
    · exact .inl found

theorem native (learns : world.Learns later) (native : world.HashesNatively value) :
    later.HashesNatively value := by
  rw [learns.rest]
  exact native

theorem faithful (learns : world.Learns later) (faithful : world.Faithful value) :
    later.Faithful value := by
  intro inner hash nested known
  rcases learns.sound inner hash known with older | computed
  · exact faithful inner hash nested older
  · exact computed

theorem hashResult_eq (learns : world.Learns later) (hash? : Option Int64) :
    later.hashResult hash? = world.hashResult hash? := by
  rw [learns.rest]
  rfl

end Learns

end World

def Eval.HashesTo {σ : Type} (operation : Eval σ Int64) (held : Roots) (state : State σ)
    (hash? : Option Int64) : Prop :=
  ∃ later, operation held state = .done (state.world.hashResult hash?) later ∧
    state.world.Learns later.world

namespace Engine

variable {σ : Type} {engine : Engine σ}

theorem instanceHash_builtin {value : Value} {state : State σ}
    (builtin : state.world.BuiltinHash (state.world.typeOf value)) (native : Eval σ Int64)
    (held : Roots) : engine.instanceHash value native held state = native held state := by
  rw [instanceHash, Eval.world_bind_apply]
  cases found : state.world.lookupWithOwner (state.world.typeOf value) "__hash__" with
  | none => rfl
  | some entry =>
    obtain ⟨method, owner⟩ := entry
    obtain ⟨defined, notHeap⟩ := builtin method owner found
    cases method with
    | none => exact absurd rfl defined
    | _ => simp only [notHeap, Bool.false_eq_true, if_false]

theorem rememberedHash_known {value : Value} {state : State σ} {hash : Int64}
    (known : state.world.hashes[value]? = some hash) (compute : Eval σ Int64) (held : Roots) :
    rememberedHash value compute held state = .done (.ok hash) state := by
  rw [rememberedHash, Eval.world_bind_apply, known]
  rfl

theorem rememberedHash_unknown {value : Value} {state : State σ}
    (unknown : state.world.hashes[value]? = none) (compute : Eval σ Int64) (held : Roots) :
    rememberedHash value compute held state =
      (compute >>= fun hash => Eval.create (·.rememberHash value hash)) held state := by
  rw [rememberedHash, Eval.world_bind_apply, unknown]

theorem rememberedHash_new {value : Value} {compute : Eval σ Int64} {held : Roots}
    {state later : State σ} {hash : Int64} (unknown : state.world.hashes[value]? = none)
    (computed : compute held state = .done (.ok hash) later)
    (unknown' : later.world.hashes[value]? = none) :
    rememberedHash value compute held state = .done (.ok hash) { later with
      world := { later.world with hashes := later.world.hashes.insert value hash } } := by
  rw [rememberedHash_unknown unknown, Eval.bind_apply, computed]
  dsimp only
  rw [Eval.create, World.rememberHash, unknown']

theorem rememberedHash_hashesTo {value : Value} {compute : Eval σ Int64} {held : Roots}
    {state : State σ}
    (trusted : ∀ hash, state.world.hashes[value]? = some hash → value.content.hash? = some hash)
    (computed : compute.HashesTo held state value.content.hash?) :
    (rememberedHash value compute).HashesTo held state value.content.hash? := by
  cases known : state.world.hashes[value]? with
  | some hash =>
    rw [trusted hash known]
    exact ⟨state, rememberedHash_known known compute held, .refl _⟩
  | none =>
    obtain ⟨later, done, learns⟩ := computed
    cases found : value.content.hash? with
    | none =>
      refine ⟨later, ?_, learns⟩
      rw [rememberedHash_unknown known, Eval.bind_apply, done, found]
      rfl
    | some hash =>
      rw [found] at done
      cases known' : later.world.hashes[value]? with
      | none => exact ⟨_, rememberedHash_new known done known', learns.trans (.remember found)⟩
      | some other =>
        -- The computation has met the value itself; the hash that it left is the same.
        have same : some hash = some other := by
          rcases learns.sound value other known' with older | computed
          · cases known.symm.trans older
          · exact found.symm.trans computed
        refine ⟨later, ?_, learns⟩
        rw [rememberedHash_unknown known, Eval.bind_apply, done]
        dsimp only [World.hashResult]
        rw [Eval.create, World.rememberHash, known', ← same]

theorem hashTuple_hashesTo {tuple : Value} {items : List Value} {held : Roots} {state : State σ}
    (carries : tuple.items? = some items) (faithful : state.world.Faithful tuple)
    (computed : (engine.hashItems items.length items {}).HashesTo held state
      (Content.hashOfItems? items.length (Value.contents items) {})) :
    (engine.hashTuple tuple items).HashesTo held state tuple.content.hash? := by
  apply rememberedHash_hashesTo (fun hash => faithful _ hash (.self _))
  rw [Value.content_eq, carries]
  dsimp only
  rwa [Content.hash?, Value.length_contents]

theorem hash_tuple {tuple : Value} {items : List Value} {state : State σ}
    (carries : tuple.items? = some items)
    (builtin : state.world.BuiltinHash (state.world.typeOf tuple)) (held : Roots) :
    engine.hash tuple held state = engine.hashTuple tuple items held state := by
  match tuple with
  | .object ⟨_, _, _, .tuple inner⟩ =>
    cases carries
    rw [hash, instanceHash_builtin builtin, hashTuple]

theorem hashItems_hashesTo {items : List Value} {held : Roots}
    (hashes : ∀ item ∈ items, ∀ state : State σ, state.world.HashesNatively item →
      state.world.Faithful item → (engine.hash item).HashesTo held state item.content.hash?)
    {state : State σ} (native : ∀ item ∈ items, state.world.HashesNatively item)
    (faithful : ∀ item ∈ items, state.world.Faithful item) (count : Nat)
    (accumulator : Hash.Accumulator) :
    (engine.hashItems count items accumulator).HashesTo held state
      (Content.hashOfItems? count (Value.contents items) accumulator) := by
  induction items generalizing state accumulator with
  | nil => exact ⟨state, rfl, .refl _⟩
  | cons item items ih =>
    obtain ⟨middle, done, learns⟩ := hashes item List.mem_cons_self state
      (native item List.mem_cons_self) (faithful item List.mem_cons_self)
    rw [Eval.HashesTo, hashItems, Eval.bind_apply, done, Value.contents, Content.hashOfItems?]
    cases item.content.hash? with
    | none => exact ⟨middle, rfl, learns⟩
    | some hash =>
      -- What hashing the first item has learnt spoils nothing for the others.
      obtain ⟨later, done', learns'⟩ := ih
        (fun other member => hashes other (List.mem_cons_of_mem _ member))
        (fun other member => learns.native (native other (List.mem_cons_of_mem _ member)))
        (fun other member => learns.faithful (faithful other (List.mem_cons_of_mem _ member)))
        (accumulator.add count hash)
      rw [learns.hashResult_eq] at done'
      exact ⟨later, done', learns.trans learns'⟩

theorem hash_flat {value : Value} {state : State σ} (flat : value.items? = none)
    (native : state.world.HashesNatively value) (held : Roots) :
    (engine.hash value).HashesTo held state value.content.hash? := by
  obtain ⟨notFloat, builtin⟩ := native value (.self value)
  cases value with
  | object inst =>
    obtain ⟨serial, type, store, payload⟩ := inst
    cases payload with
    | empty =>
      rw [hash, Eval.HashesTo, instanceHash_builtin (builtin rfl)]
      exact ⟨state, rfl, .refl _⟩
    | tuple items => cases flat
  | float number => exact absurd rfl (notFloat number)
  | int number =>
    change (engine.hash (.int number)).HashesTo held state
      (Content.number (number.toInt * Binary64.unitsPerOne)).hash?
    rw [Content.hash?_number]
    exact ⟨state, rfl, .refl _⟩
  | bool truth =>
    change (engine.hash (.bool truth)).HashesTo held state
      (Content.number ((if truth then 1 else 0 : Int64).toInt * Binary64.unitsPerOne)).hash?
    rw [Content.hash?_number]
    cases truth <;> exact ⟨state, rfl, .refl _⟩
  | _ => exact ⟨state, rfl, .refl _⟩

theorem hash_hashesTo (engine : Engine σ) (value : Value) (held : Roots) (state : State σ)
    (native : state.world.HashesNatively value) (faithful : state.world.Faithful value) :
    (engine.hash value).HashesTo held state value.content.hash? := by
  induction value using Value.tuple_induct generalizing state with
  | flat value flat => exact hash_flat flat native held
  | tuple value items carries ih =>
    have isInstance : value.isInstance = true := by
      cases value with
      | object inst => rfl
      | _ => cases carries
    rw [Eval.HashesTo, hash_tuple carries ((native value (.self value)).2 isInstance)]
    apply hashTuple_hashesTo carries faithful
    exact hashItems_hashesTo ih (fun _ => native.of_item carries)
      (fun _ => faithful.of_item carries) items.length {}

end Engine

/-- A hash that was remembered for a tuple by hashing it, at a time when the values in it had no
hashes of their own making and the hashes remembered for them had come about in this way too. -/
inductive Earned : Value → Int64 → Prop where
  | computed {σ : Type} {engine : Engine σ} {held : Roots} {past later : State σ} {tuple : Value}
    {items : List Value} {hash : Int64} (carries : tuple.items? = some items)
    (native : ∀ item ∈ items, past.world.HashesNatively item)
    (earned : ∀ inner known, tuple.Nested inner → past.world.hashes[inner]? = some known →
      Earned inner known)
    (done : engine.hashTuple tuple items held past = .done (.ok hash) later) : Earned tuple hash

theorem World.hashResult_eq_ok {world : World} {hash? : Option Int64} {hash : Int64}
    (done : world.hashResult hash? = .ok hash) : hash? = some hash := by
  cases hash? with
  | none => cases done
  | some other =>
    cases done
    rfl

theorem Earned.content_hash? {tuple : Value} {hash : Int64} (earned : Earned tuple hash) :
    tuple.content.hash? = some hash := by
  induction earned with
  | @computed σ engine held past later tuple items hash carries native _ done ih =>
    have faithful : past.world.Faithful tuple := ih
    have computed : (engine.hashItems items.length items {}).HashesTo held past _ :=
      Engine.hashItems_hashesTo (fun item _ state => engine.hash_hashesTo item held state) native
        (fun _ => faithful.of_item carries) items.length {}
    obtain ⟨last, result, -⟩ := Engine.hashTuple_hashesTo carries faithful computed
    rw [done] at result
    injection result with result
    exact World.hashResult_eq_ok result.symm

namespace Removal

def engine : Engine Unit :=
  Host.engine { Engine.idleHost with run := fun _ _ _ => pure (.int 7) } {} 1 2

def point : Value :=
  .object ⟨300, ⟨18⟩, none, .empty⟩

def tuple (serial : Nat) : Value :=
  .object ⟨serial, Builtin.tuple.key, none, .tuple [point]⟩

def unhashed : World :=
  match World.initial.newSubtype World.sharedRegistry "Point" Builtin.object.key .slots with
  | .ok (_, world) => world
  | .error _ => {}

def before : State Unit where
  world := unhashed.setMember ⟨18⟩ "__hash__"
    (.function ⟨299, "Point", "__hash__", .method, none, .code ⟨0⟩⟩)
  host := ()

theorem grown : World.Grown {} before.world [(⟨18⟩, .slots)] :=
  .otherwise (.created .fresh (.native .object)
    (show World.newSubtype _ _ "Point" _ _ = _ from rfl)) (.setMember "__hash__" _)

def hashed (hashes : Std.HashMap Value Int64) : State Unit where
  world := { before.world.newSerial.2 with hashes }
  host := ()

def after (hashes : Std.HashMap Value Int64) : State Unit where
  world := (hashed hashes).world.removeMember ⟨18⟩ "__hash__"
  host := ()

def hashOf (point : Int64) : Int64 :=
  (Hash.Accumulator.add {} 1 point).finish

def freshHash : Int64 :=
  hashOf (Hash.ofIdentity point)

theorem unknown (serial : Nat) : ({} : Std.HashMap Value Int64)[tuple serial]? = none :=
  Std.HashMap.getElem?_empty

theorem hash_before (serial : Nat) :
    engine.hash (tuple serial) {} before = .done (.ok (hashOf 7))
      (hashed (({} : Std.HashMap Value Int64).insert (tuple serial) (hashOf 7))) := by
  have builtin : before.world.BuiltinHash (before.world.typeOf (tuple serial)) :=
    .of_found rfl nofun rfl
  have computed : engine.hashItems 1 [point] {} {} before = .done (.ok (hashOf 7)) (hashed {}) :=
    rfl
  rw [Engine.hash_tuple rfl builtin, Engine.hashTuple]
  exact Engine.rememberedHash_new (unknown serial) computed (unknown serial)

theorem nested {serial : Nat} {inner : Value} (nested : (tuple serial).Nested inner) :
    inner = tuple serial ∨ inner = point := by
  cases nested with
  | self => exact .inl rfl
  | item carries member nested =>
    cases carries
    cases List.mem_singleton.mp member
    exact .inr (nested.eq_of_flat rfl)

variable (hashes : Std.HashMap Value Int64) (serial : Nat)

theorem silent : (after hashes).world.Silent .eq (tuple serial) := by
  intro inner inside _ asked _
  rcases nested inside with rfl | rfl <;> cases asked <;> rfl

theorem native : (after hashes).world.HashesNatively (tuple serial) := by
  intro inner inside
  rcases nested inside with rfl | rfl
  · exact ⟨nofun, fun _ => .of_found rfl nofun rfl⟩
  · refine ⟨nofun, fun _ method owner found => ?_⟩
    have absent : (after hashes).world.lookupWithOwner ⟨18⟩ "__hash__" = none := rfl
    cases absent.symm.trans found

theorem equal (other : Nat) :
    engine.equal (tuple serial) (tuple other) {} (after hashes) =
      .done (.ok true) (after hashes) :=
  (Engine.equal_true_iff (silent hashes serial) (silent hashes other) {}).mpr rfl

theorem hash_after :
    engine.hash (tuple serial) {} (after hashes) =
      engine.hashTuple (tuple serial) [point] {} (after hashes) :=
  Engine.hash_tuple rfl ((native hashes serial _ (.self _)).2 rfl) {}

variable {hashes serial}

theorem hash_new (unknown : hashes[tuple serial]? = none) :
    engine.hashTuple (tuple serial) [point] {} (after hashes) =
      .done (.ok freshHash) (after (hashes.insert (tuple serial) freshHash)) := by
  have computed : engine.hashItems 1 [point] {} {} (after hashes) =
      .done (.ok freshHash) (after hashes) := rfl
  exact Engine.rememberedHash_new unknown computed unknown

end Removal

namespace Engine

variable {σ : Type}

-- Asked in either order, both values have one hash or both are unhashable for one reason.
def HashAlike (engine : Engine σ) (held : Roots) (state : State σ) (a b : Value) : Prop :=
  ∃ result,
    (∃ middle last, engine.hash a held state = .done result middle ∧
      engine.hash b held middle = .done result last) ∧
    (∃ middle last, engine.hash b held state = .done result middle ∧
      engine.hash a held middle = .done result last) ∧
    ((∃ hash, result = .ok hash) ∨ ∃ typeName, result = .error (.unhashable typeName))

theorem hash_twice (engine : Engine σ) (held : Roots) {state : State σ} {a b : Value}
    (nativeA : state.world.HashesNatively a) (nativeB : state.world.HashesNatively b)
    (faithfulA : state.world.Faithful a) (faithfulB : state.world.Faithful b)
    (same : a.content = b.content) :
    ∃ middle last,
      engine.hash a held state = .done (state.world.hashResult a.content.hash?) middle ∧
      engine.hash b held middle = .done (state.world.hashResult a.content.hash?) last := by
  obtain ⟨middle, done, learns⟩ := engine.hash_hashesTo a held state nativeA faithfulA
  obtain ⟨last, done', -⟩ := engine.hash_hashesTo b held middle (learns.native nativeB)
    (learns.faithful faithfulB)
  rw [learns.hashResult_eq, ← same] at done'
  exact ⟨middle, last, done, done'⟩

/-- Equal values hash alike, if no type compares or hashes its instances itself, and none did when
the remembered hashes were computed. -/
theorem equal_hash_alike (engine : Engine σ) (held : Roots) (state after : State σ) (a b : Value)
    (silentA : state.world.Silent .eq a) (silentB : state.world.Silent .eq b)
    (nativeA : state.world.HashesNatively a) (nativeB : state.world.HashesNatively b)
    (earned : ∀ inner hash, a.Nested inner ∨ b.Nested inner →
      state.world.hashes[inner]? = some hash → Earned inner hash)
    (equal : engine.equal a b held state = .done (.ok true) after) :
    engine.HashAlike held after a b := by
  have unchanged : after = state := by
    rw [equal_apply silentA silentB] at equal
    injection equal with _ same
    exact same.symm
  subst unchanged
  have same := (equal_true_iff silentA silentB held).mp equal
  have faithfulA : after.world.Faithful a := fun inner hash nested known =>
    (earned inner hash (.inl nested) known).content_hash?
  have faithfulB : after.world.Faithful b := fun inner hash nested known =>
    (earned inner hash (.inr nested) known).content_hash?
  refine ⟨after.world.hashResult a.content.hash?,
    engine.hash_twice held nativeA nativeB faithfulA faithfulB same, ?_, ?_⟩
  · rw [same]
    exact engine.hash_twice held nativeB nativeA faithfulB faithfulA same.symm
  · cases a.content.hash? with
    | some hash => exact .inl ⟨hash, rfl⟩
    | none => exact .inr ⟨_, rfl⟩

theorem equal_hash_alike_point :
    ∃ state, Removal.engine.hash (Removal.tuple 301) {} (Removal.after {}) =
        .done (.ok Removal.freshHash) state ∧
      Removal.engine.equal (Removal.tuple 301) (Removal.tuple 302) {} state =
        .done (.ok true) state ∧
      Removal.engine.HashAlike {} state (Removal.tuple 301) (Removal.tuple 302) := by
  have done := Removal.hash_new (Removal.unknown 301)
  refine ⟨_, (Removal.hash_after {} 301).trans done, Removal.equal _ 301 302, ?_⟩
  apply equal_hash_alike _ _ _ _ _ _ (Removal.silent _ 301) (Removal.silent _ 302)
    (Removal.native _ 301) (Removal.native _ 302) _ (Removal.equal _ 301 302)
  intro inner hash _ known
  change (Std.HashMap.insert {} (Removal.tuple 301) Removal.freshHash)[inner]? = some hash at known
  rw [Std.HashMap.getElem?_insert] at known
  split at known
  · next same =>
    cases eq_of_beq same
    cases known
    refine .computed rfl (fun _ => (Removal.native {} 301).of_item rfl) ?_ done
    intro inner hash _ known
    change ({} : Std.HashMap Value Int64)[inner]? = some hash at known
    simp at known
  · simp at known

theorem stale_hash_disagrees :
    ∃ remembered after known fresh,
      World.Grown {} Removal.before.world [(⟨18⟩, .slots)] ∧
      Removal.engine.hash (Removal.tuple 301) {} Removal.before = .done (.ok known) remembered ∧
      Removal.engine.delAttr (.type ⟨18⟩) "__hash__" {} remembered = .done (.ok ()) after ∧
      (∀ serial, after.world.Silent .eq (Removal.tuple serial) ∧
        after.world.HashesNatively (Removal.tuple serial)) ∧
      Removal.engine.equal (Removal.tuple 301) (Removal.tuple 302) {} after =
        .done (.ok true) after ∧
      (∃ later, Removal.engine.hash (Removal.tuple 301) {} after = .done (.ok known) later) ∧
      (∃ later, Removal.engine.hash (Removal.tuple 302) {} after = .done (.ok fresh) later) ∧
      known ≠ fresh := by
  let hashes := ({} : Std.HashMap Value Int64).insert (Removal.tuple 301) (Removal.hashOf 7)
  have known : hashes[Removal.tuple 301]? = some (Removal.hashOf 7) :=
    Std.HashMap.getElem?_insert_self
  have unknown : hashes[Removal.tuple 302]? = none := by
    simp [hashes, Removal.tuple]
  have removed : Removal.engine.delAttr (.type ⟨18⟩) "__hash__" {} (Removal.hashed hashes) =
      .done (.ok ()) (Removal.after hashes) := rfl
  have stale := (Removal.hash_after hashes 301).trans (rememberedHash_known known _ _)
  have fresh := (Removal.hash_after hashes 302).trans (Removal.hash_new unknown)
  exact ⟨_, _, _, _, Removal.grown, Removal.hash_before 301, removed,
    fun serial => ⟨Removal.silent hashes serial, Removal.native hashes serial⟩,
    Removal.equal hashes 301 302, ⟨_, stale⟩, ⟨_, fresh⟩, by decide⟩

end Engine

end ObjectModel
