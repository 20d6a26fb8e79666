import ObjectModel.Proofs.Extension
import ObjectModel.Proofs.Resolution

set_option autoImplicit false

namespace ObjectModel

section Blindness

variable {σ α β : Type} {related : World → World → Prop}

def Outcome.Alike (related : World → World → Prop) : Outcome σ α → Outcome σ α → Prop
  | .done result state, .done other later =>
    result = other ∧ related state.world later.world ∧ state.host = later.host
  | .abandoned state, .abandoned later => related state.world later.world ∧ state.host = later.host
  | .exhausted, .exhausted => True
  | _, _ => False

def Eval.Blind (related : World → World → Prop) (operation : Eval σ α) : Prop :=
  ∀ held state other, related state.world other.world → state.host = other.host →
    (operation held state).Alike related (operation held other)

namespace Eval.Blind

theorem pure (value : α) : Blind related (Pure.pure value : Eval σ α) :=
  fun _ _ _ apart same => ⟨rfl, apart, same⟩

theorem throw (error : Error) : Blind related (MonadExcept.throw error : Eval σ α) :=
  fun _ _ _ apart same => ⟨rfl, apart, same⟩

theorem bind {first : Eval σ α} {next : α → Eval σ β} (blind : Blind related first)
    (rest : ∀ value, Blind related (next value)) : Blind related (first >>= next) := by
  intro held state other apart same
  have alike := blind held state other apart same
  rw [Eval.bind_apply, Eval.bind_apply]
  generalize first held state = left at alike ⊢
  generalize first held other = right at alike ⊢
  cases left with
  | exhausted =>
    cases right with
    | exhausted => trivial
    | _ => exact alike.elim
  | abandoned middle =>
    cases right with
    | abandoned later => exact alike
    | _ => exact alike.elim
  | done result middle =>
    cases right with
    | done result' later =>
      obtain ⟨rfl, stillApart, sameHost⟩ := alike
      cases result with
      | ok value => exact rest value held middle later stillApart sameHost
      | error error => exact ⟨rfl, stillApart, sameHost⟩
    | _ => exact alike.elim

theorem map {operation : Eval σ α} (blind : Blind related operation) (change : α → β) :
    Blind related (change <$> operation) := by
  rw [map_eq_pure_bind]
  exact blind.bind fun value => pure (change value)

theorem view {next : World → Eval σ α}
    (same : ∀ world other, related world other → next world = next other)
    (rest : ∀ world, Blind related (next world)) :
    Blind related (Eval.world >>= next) := by
  intro held state other apart sameHost
  -- The two runs go on differently only if they make something of the difference.
  change (next state.world held state).Alike related (next other.world held other)
  rw [same _ _ apart]
  exact rest _ held state other apart sameHost

theorem create {make : World → α × World}
    (same : ∀ world other, related world other →
      (make world).1 = (make other).1 ∧ related (make world).2 (make other).2) :
    Blind related (Eval.create make : Eval σ α) := by
  intro held state other apart sameHost
  obtain ⟨value, still⟩ := same _ _ apart
  exact ⟨congrArg _ value, still, sameHost⟩

end Eval.Blind

end Blindness

namespace World

structure Hidden (related : World → World → Prop) : Prop where
  bare : ∀ world other, related world other → ∀ key, other.bare? key = world.bare? key
  -- Getters also bind functions and build tuples, which takes serial numbers and stores.
  newSerial : ∀ world other, related world other →
    world.newSerial.1 = other.newSerial.1 ∧ related world.newSerial.2 other.newSerial.2
  newStore : ∀ world other, related world other →
    world.newStore.1 = other.newStore.1 ∧ related world.newStore.2 other.newStore.2

section

variable {world other : World} (bare : ∀ key, other.bare? key = world.bare? key)

include bare

theorem typeOf_eq (value : Value) : other.typeOf value = world.typeOf value := by
  cases value with
  | object inst =>
    have same := congrArg Option.isSome (view_eq (bare inst.type) (fun _ => ()) fun _ => rfl)
    simp only [Option.isSome_map] at same
    simp only [typeOf, same]
  | _ => rfl

theorem typeName_eq (value : Value) : other.typeName value = world.typeName value := by
  rw [typeName, typeName, typeOf_eq bare, nameOf_eq (bare _)]

end

theorem Writable.of_bare {world other : World} (bare : ∀ key, other.bare? key = world.bare? key)
    {receiver : Value} (writable : world.Writable receiver) : other.Writable receiver := by
  cases receiver with
  | type type => exact (congrArg TypeFlags.immutable (flagsOf_eq (bare type))).trans writable
  | _ => trivial

theorem Hidden.newTuple {related : World → World → Prop} (hidden : Hidden related)
    (items : List Value) (world other : World) (apart : related world other) :
    (world.newTuple items).1 = (other.newTuple items).1 ∧
      related (world.newTuple items).2 (other.newTuple items).2 := by
  obtain ⟨serial, numbered⟩ := hidden.newSerial world other apart
  obtain ⟨store, stored⟩ := hidden.newStore _ _ numbered
  have flags := flagsOf_eq (hidden.bare _ _ numbered Builtin.tuple.key)
  simp only [World.newTuple, newInstance, flags]
  split
  · exact ⟨by simp only [serial, store], stored⟩
  · exact ⟨by simp only [serial], numbered⟩

structure ApartInStore (store? : Option StoreKey) (world other : World) : Prop where
  rest : other = { world with stores := other.stores }
  size : other.stores.size = world.stores.size
  stores : ∀ index, store? ≠ some ⟨index⟩ → other.stores.get? index = world.stores.get? index

-- The contents are fixed on both sides, so that a run that ends related has written neither.
structure HoldingInStore (key : StoreKey) (left right : AttributeStore) (world other : World) :
    Prop extends ApartInStore (some key) world other where
  holdsLeft : world.store? key = some left
  holdsRight : other.store? key = some right

namespace ApartInStore

variable {store? : Option StoreKey} {world other : World}

theorem type?_eq (apart : ApartInStore store? world other) (key : TypeKey) :
    other.type? key = world.type? key := by
  rw [apart.rest]
  rfl

theorem bare?_eq (apart : ApartInStore store? world other) (key : TypeKey) :
    other.bare? key = world.bare? key := by
  rw [bare?, bare?, apart.type?_eq]

theorem lookup_eq (apart : ApartInStore store? world other) (key : TypeKey) (name : String) :
    other.lookup key name = world.lookup key name := by
  rw [apart.rest]
  rfl

end ApartInStore

theorem HoldingInStore.hidden (key : StoreKey) (left right : AttributeStore) :
    Hidden (HoldingInStore key left right) where
  bare world other apart := apart.bare?_eq
  newSerial world other apart := by
    have serial : world.nextSerial = other.nextSerial := by rw [apart.rest]
    refine ⟨serial, ⟨?_, apart.size, apart.stores⟩, apart.holdsLeft, apart.holdsRight⟩
    simp only [newSerial]
    rw [apart.rest]
  newStore world other apart := by
    have pushed (world : World) (store : AttributeStore) (holds : world.store? key = some store) :
        world.newStore.2.store? key = some store := by
      -- The new store comes after all others, so it is not the one that differs.
      have present := Cells.get?_lt_size holds
      simp only [newStore, store?, Cells.get?_push]
      rw [if_neg (by omega)]
      exact holds
    refine ⟨by simp only [newStore, apart.size], ⟨?_, ?_, fun index distinct => ?_⟩,
      pushed world left apart.holdsLeft, pushed other right apart.holdsRight⟩
    · simp only [newStore]
      rw [apart.rest]
    · simp only [newStore, Cells.size_push, apart.size]
    · simp only [newStore, Cells.get?_push, apart.size, apart.stores index distinct]

structure ApartInMembers (world other : World) : Prop where
  rest : other = { world with types := other.types }
  bare : ∀ key, other.bare? key = world.bare? key

structure HoldingInMembers (left right : TypeKey → String → Option Value) (world other : World) :
    Prop extends ApartInMembers world other where
  holdsLeft : world.member? = left
  holdsRight : other.member? = right

theorem ApartInMembers.ownAttribute?_eq {world other : World} (apart : ApartInMembers world other)
    (receiver : Value) (name : String) :
    other.ownAttribute? receiver name = world.ownAttribute? receiver name := by
  rw [apart.rest]
  rfl

theorem HoldingInMembers.hidden (left right : TypeKey → String → Option Value) :
    Hidden (HoldingInMembers left right) where
  bare world other apart := apart.bare
  newSerial world other apart := by
    have serial : world.nextSerial = other.nextSerial := by rw [apart.rest]
    refine ⟨serial, ⟨?_, apart.bare⟩, apart.holdsLeft, apart.holdsRight⟩
    simp only [newSerial]
    rw [apart.rest]
  newStore world other apart := by
    have stores : world.stores = other.stores := by rw [apart.rest]
    refine ⟨by simp only [newStore, stores], ⟨?_, apart.bare⟩, apart.holdsLeft, apart.holdsRight⟩
    simp only [newStore]
    rw [apart.rest]

end World

namespace Engine

variable {σ α : Type} {engine : Engine σ} {related : World → World → Prop}

section

variable (hidden : World.Hidden related)

include hidden

theorem failFor_blind (value : Value) (error : String → Error) :
    Eval.Blind related (Eval.failFor value error : Eval σ α) := by
  simp only [Eval.failFor, Eval.typeName, bind_assoc, pure_bind]
  refine .view (fun _ _ apart => ?_) fun world => .throw _
  rw [World.typeName_eq (hidden.bare _ _ apart)]

theorem typeReceiver_blind (receiver : Value) :
    Eval.Blind related (typeReceiver receiver : Eval σ TypeKey) := by
  cases receiver with
  | type key => exact .pure key
  | _ => exact failFor_blind hidden _ _

theorem tuple_blind (items : List Value) :
    Eval.Blind related (Eval.tuple items : Eval σ Value) :=
  .create (hidden.newTuple items)

variable (blind : ∀ resumption, Eval.Blind related (engine.proceed resumption))

include blind

omit hidden in
theorem start_blind (code : Code) (arguments : List Value) :
    Eval.Blind related (engine.start code arguments) :=
  (blind _).bind fun _ => .pure _

omit hidden in
theorem drain_blind (limit remaining : Nat) (completion : Completion α) :
    Eval.Blind related (engine.drain limit remaining completion) := by
  refine drain_induct (fun value => .pure value) (fun error => .throw error)
    (fun suspension next rest => ?_) limit remaining completion
  exact ((blind suspension.rest).bind fun _ => .pure _).bind rest

omit hidden in
theorem settle_blind (allowSuspend : Bool) (completion : Completion α) :
    Eval.Blind related (engine.settle allowSuspend completion) := by
  rw [settle]
  split
  · exact .pure completion
  · exact (drain_blind blind _ _ completion).bind fun _ => .pure _

theorem readGetter_blind (getter : Getter) (receiver : Value) :
    Eval.Blind related (engine.readGetter getter receiver) := by
  have received := typeReceiver_blind (σ := σ) hidden receiver
  cases getter with
  | typeOf =>
    refine .view (fun _ _ apart => ?_) fun world => .pure _
    rw [World.typeOf_eq (hidden.bare _ _ apart)]
  | typeName =>
    refine .view (fun _ _ apart => ?_) fun world => received.bind fun key => .pure _
    simp only [World.nameOf_eq (hidden.bare _ _ apart _)]
  | typeBase =>
    refine received.bind fun key => .view (fun world other apart => ?_) fun world => .pure _
    have base : (other.type? key).bind (·.base) = (world.type? key).bind (·.base) :=
      World.base?_eq (hidden.bare _ _ apart key)
    simp only [base]
  | typeChain =>
    refine received.bind fun key => .view (fun _ _ apart => ?_) fun world =>
      (tuple_blind hidden _).bind fun _ => .pure _
    rw [World.chain_eq (hidden.bare _ _ apart _)]
  | code code => exact start_blind blind code [receiver]

theorem readDescriptor_blind (descriptor : Descriptor) (receiver? : Option Value)
    (owner : TypeKey) (allowSuspend : Bool) :
    Eval.Blind related (engine.readDescriptor descriptor receiver? owner allowSuspend) := by
  cases descriptor with
  | accessor serial name data getter setter => exact start_blind blind getter _
  | property serial name getter setter =>
    cases receiver? with
    | some receiver => exact readGetter_blind hidden blind getter receiver
    | none =>
      refine .view (fun _ _ apart => ?_) fun world => .throw _
      rw [World.nameOf_eq (hidden.bare _ _ apart _)]

theorem writeDescriptor_blind (descriptor : Descriptor) (receiver : Value)
    (value? : Option Value) (allowSuspend : Bool) :
    Eval.Blind related (engine.writeDescriptor descriptor receiver value? allowSuspend) := by
  cases descriptor with
  | accessor serial name data getter setter =>
    exact (start_blind blind setter _).bind fun _ => .pure _
  | property serial name getter setter =>
    cases setter with
    | none => exact failFor_blind hidden _ _
    | some setter => exact (start_blind blind setter _).bind fun _ => .pure _

end

end Engine

namespace Engine

variable {σ : Type} {engine : Engine σ}

def AlikeAt (engine : Engine σ) (receiver : Value) (name : String)
    (related : World → World → Prop) (held : Roots) (allowSuspend : Bool)
    (state other : State σ) : Prop :=
  (engine.getAttribute receiver name allowSuspend held state).Alike related
    (engine.getAttribute receiver name allowSuspend held other) ∧
  (state.world.Writable receiver → ∀ value?,
    (engine.setAttribute receiver name value? allowSuspend held state).Alike related
      (engine.setAttribute receiver name value? allowSuspend held other))

structure Precedence (engine : Engine σ) (receiver : Value) (name : String) : Prop where
  -- A data descriptor of the type decides alone, whatever the store of the receiver holds.
  dataDecides : ∀ (descriptor : Descriptor) (state other : State σ), descriptor.isData = true →
    state.world.entry? receiver name = some (.descriptor descriptor) →
    state.world.ApartInStore receiver.store? other.world → ∀ held allowSuspend,
      engine.getAttribute receiver name allowSuspend held other =
        engine.consult descriptor (some receiver) (state.world.typeOf receiver) allowSuspend
          held other ∧
      (state.world.Writable receiver → ∀ value?,
        engine.setAttribute receiver name value? allowSuspend held other =
          engine.assign descriptor receiver value? allowSuspend held other)
  -- Then the store is neither read nor written, unless by code of the host.
  storeUntouched : ∀ (descriptor : Descriptor) (state other : State σ), descriptor.isData = true →
    state.world.entry? receiver name = some (.descriptor descriptor) →
    ∀ key left right, receiver.store? = some key →
    (∀ resumption, Eval.Blind (World.HoldingInStore key left right)
      (engine.proceed resumption)) →
    World.HoldingInStore key left right state.world other.world → state.host = other.host →
    ∀ held allowSuspend,
      engine.AlikeAt receiver name (World.HoldingInStore key left right) held allowSuspend
        state other
  -- Nor are members of types read, but for the entry itself, or written.
  membersUntouched : ∀ (descriptor : Descriptor) (state other : State σ),
    descriptor.isData = true →
    state.world.entry? receiver name = some (.descriptor descriptor) →
    other.world.entry? receiver name = some (.descriptor descriptor) →
    ∀ left right, (∀ resumption, Eval.Blind (World.HoldingInMembers left right)
      (engine.proceed resumption)) →
    World.HoldingInMembers left right state.world other.world → state.host = other.host →
    ∀ held allowSuspend,
      engine.AlikeAt receiver name (World.HoldingInMembers left right) held allowSuspend
        state other
  -- What the receiver itself has comes next.
  ownDecides : ∀ (own : Value) (state : State σ), state.world.own? receiver name = some own →
    (∀ found, state.world.entry? receiver name = some found → found.category ≠ .data) →
    ∀ held allowSuspend,
      engine.getAttribute receiver name allowSuspend held state =
        engine.giveOwn receiver own allowSuspend held state
  -- What the store holds is given as it is, whatever else the members of types are.
  storeDecides : ∀ (value : Value) (state other : State σ),
    state.world.ownAttribute? receiver name = some value →
    state.world.ApartInMembers other.world →
    (∀ found, other.world.entry? receiver name = some found → found.category ≠ .data) →
    ∀ held allowSuspend,
      engine.getAttribute receiver name allowSuspend held other =
        .done (.ok (.ready (some value))) other
  -- Last comes the entry of the type, read by its getter, bound, or given as it is.
  nonDataReads : ∀ (descriptor : Descriptor) (state : State σ), descriptor.isData = false →
    state.world.entry? receiver name = some (.descriptor descriptor) →
    state.world.own? receiver name = none → ∀ held allowSuspend,
      engine.getAttribute receiver name allowSuspend held state =
        engine.consult descriptor (some receiver) (state.world.typeOf receiver) allowSuspend
          held state
  methodBinds : ∀ (function : Function) (state : State σ), function.binding = .method →
    state.world.entry? receiver name = some (.function function) →
    state.world.own? receiver name = none → ∀ held allowSuspend,
      engine.getAttribute receiver name allowSuspend held state =
        .done (.ok (.ready (some (.boundMethod state.world.nextSerial function receiver))))
          { state with world := state.world.newSerial.2 }
  plainUnchanged : ∀ (found : Value) (state : State σ), found.category = .plain →
    state.world.entry? receiver name = some found → state.world.own? receiver name = none →
    ∀ held allowSuspend,
      engine.getAttribute receiver name allowSuspend held state =
        .done (.ok (.ready (some found))) state
  -- A name that is nowhere is no failure.
  missing : ∀ state : State σ,
    state.world.entry? receiver name = none → state.world.own? receiver name = none →
    ∀ held allowSuspend,
      engine.getAttribute receiver name allowSuspend held state = .done (.ok (.ready none)) state
  -- Without a data descriptor, what is written is what the receiver itself has.
  writesOwn : ∀ state : State σ, state.world.Writable receiver →
    (∀ found, state.world.entry? receiver name = some found → found.category ≠ .data) →
    ∀ value? held allowSuspend,
      engine.setAttribute receiver name value? allowSuspend held state =
        match state.world.writeOwn receiver name value? with
        | .ok world => .done (.ok (.ready ())) { state with world }
        | .error error => .done (.error error) state

theorem getAttribute_data {descriptor : Descriptor} (data : descriptor.isData = true)
    {receiver : Value} {name : String} {state : State σ}
    (entry : state.world.entry? receiver name = some (.descriptor descriptor)) (held : Roots)
    (allowSuspend : Bool) :
    engine.getAttribute receiver name allowSuspend held state =
      engine.consult descriptor (some receiver) (state.world.typeOf receiver) allowSuspend
        held state := by
  have decides : (some (Value.descriptor descriptor)).any (·.category.isData) = true := by
    simp [Value.category, data, Category.isData]
  rw [getAttribute_apply, entry, if_pos decides, fetch_descriptor]

theorem setAttribute_data {descriptor : Descriptor} (data : descriptor.isData = true)
    {receiver : Value} {name : String} {state : State σ}
    (entry : state.world.entry? receiver name = some (.descriptor descriptor))
    (writable : state.world.Writable receiver) (value? : Option Value) (held : Roots)
    (allowSuspend : Bool) :
    engine.setAttribute receiver name value? allowSuspend held state =
      engine.assign descriptor receiver value? allowSuspend held state := by
  have decides : (some (Value.descriptor descriptor)).filter (·.category.isData) =
      some (.descriptor descriptor) := by
    simp [Value.category, data, Category.isData]
  rw [setAttribute_apply _ _ _ _ _ _ writable, entry, decides, ← descriptorSet_data data]

section

variable {related : World → World → Prop} (hidden : World.Hidden related)
  (blind : ∀ resumption, Eval.Blind related (engine.proceed resumption))

include hidden blind

theorem consult_blind (descriptor : Descriptor) (receiver? : Option Value) (type : TypeKey)
    (allowSuspend : Bool) :
    Eval.Blind related (engine.consult descriptor receiver? type allowSuspend) :=
  ((readDescriptor_blind hidden blind descriptor receiver? type allowSuspend).bind
    fun completion => settle_blind blind allowSuspend completion).map _

theorem assign_blind (descriptor : Descriptor) (receiver : Value) (value? : Option Value)
    (allowSuspend : Bool) :
    Eval.Blind related (engine.assign descriptor receiver value? allowSuspend) :=
  (writeDescriptor_blind hidden blind descriptor receiver value? allowSuspend).bind
    fun completion => settle_blind blind allowSuspend completion

theorem alikeAt_of_data {descriptor : Descriptor} (data : descriptor.isData = true)
    {receiver : Value} {name : String} {state other : State σ}
    (entry : state.world.entry? receiver name = some (.descriptor descriptor))
    (otherEntry : other.world.entry? receiver name = some (.descriptor descriptor))
    (apart : related state.world other.world) (sameHost : state.host = other.host) (held : Roots)
    (allowSuspend : Bool) :
    engine.AlikeAt receiver name related held allowSuspend state other := by
  have bare := hidden.bare _ _ apart
  refine ⟨?_, fun writable value? => ?_⟩
  · rw [getAttribute_data data entry, getAttribute_data data otherEntry, World.typeOf_eq bare]
    exact consult_blind hidden blind descriptor _ _ allowSuspend held state other apart
      sameHost
  · have otherWritable := World.Writable.of_bare bare writable
    rw [setAttribute_data data entry writable, setAttribute_data data otherEntry otherWritable]
    exact assign_blind hidden blind descriptor receiver value? allowSuspend held state other apart
      sameHost

end

theorem getAttribute_notData {receiver : Value} {name : String} {state : State σ}
    (notData : ∀ found, state.world.entry? receiver name = some found → found.category ≠ .data)
    (held : Roots) (allowSuspend : Bool) :
    engine.getAttribute receiver name allowSuspend held state =
      (match state.world.own? receiver name with
      | some own => engine.giveOwn receiver own allowSuspend
      | none => engine.fetch (state.world.entry? receiver name) receiver
          (state.world.typeOf receiver) allowSuspend) held state := by
  have undecided : (state.world.entry? receiver name).any (·.category.isData) = false := by
    cases entry : state.world.entry? receiver name with
    | none => rfl
    | some found => simp [Category.isData, notData found entry]
  rw [getAttribute_apply, undecided]
  rfl

theorem setAttribute_notData {receiver : Value} {name : String} {state : State σ}
    (writable : state.world.Writable receiver)
    (notData : ∀ found, state.world.entry? receiver name = some found → found.category ≠ .data)
    (value? : Option Value) (held : Roots) (allowSuspend : Bool) :
    engine.setAttribute receiver name value? allowSuspend held state =
      (Completion.ready <$> goOver (·.writeOwn receiver name value?)) held state := by
  have undecided : (state.world.entry? receiver name).filter (·.category.isData) = none := by
    simpa [Option.filter_eq_none_iff, Category.isData] using notData
  rw [setAttribute_apply _ _ _ _ _ _ writable, undecided]

theorem setAttribute_own {receiver : Value} {name : String} {state : State σ}
    (writable : state.world.Writable receiver)
    (notData : ∀ found, state.world.entry? receiver name = some found → found.category ≠ .data)
    (value? : Option Value) (held : Roots) (allowSuspend : Bool) :
    engine.setAttribute receiver name value? allowSuspend held state =
      match state.world.writeOwn receiver name value? with
      | .ok world => .done (.ok (.ready ())) { state with world }
      | .error error => .done (.error error) state :=
  (setAttribute_notData writable notData value? held allowSuspend).trans (goOver_apply _ held state)

/-- Every attribute of every value is looked for in the one order, and no place that comes later in
it has any say before. -/
theorem attribute_precedence (engine : Engine σ) (receiver : Value) (name : String) :
    engine.Precedence receiver name where
  dataDecides descriptor state other data entry apart held allowSuspend := by
    have bare := apart.bare?_eq
    have sameType := World.typeOf_eq bare receiver
    have otherEntry : other.world.entry? receiver name = some (.descriptor descriptor) := by
      rw [World.entry?, sameType, apart.lookup_eq]
      exact entry
    refine ⟨?_, fun writable value? => setAttribute_data data otherEntry ?_ value? held _⟩
    · rw [getAttribute_data data otherEntry, sameType]
    · exact World.Writable.of_bare bare writable
  storeUntouched descriptor state other data entry key left right _ blind apart sameHost held
      allowSuspend := by
    have otherEntry : other.world.entry? receiver name = some (.descriptor descriptor) := by
      rw [World.entry?, World.typeOf_eq apart.bare?_eq, apart.lookup_eq]
      exact entry
    exact alikeAt_of_data (World.HoldingInStore.hidden key left right) blind data entry otherEntry
      apart sameHost held allowSuspend
  membersUntouched descriptor state other data entry otherEntry left right blind apart sameHost
      held allowSuspend :=
    alikeAt_of_data (World.HoldingInMembers.hidden left right) blind data entry otherEntry apart
      sameHost held allowSuspend
  ownDecides own state holds notData held allowSuspend := by
    rw [getAttribute_notData notData, holds]
  storeDecides value state other holds apart notData held allowSuspend := by
    rw [← apart.ownAttribute?_eq] at holds
    rw [getAttribute_notData notData]
    -- A type has no store, so the receiver is none.
    cases receiver with
    | type type => simp [World.ownAttribute?, Value.store?] at holds
    | _ =>
      simp only [World.own?, holds]
      rfl
  nonDataReads descriptor state nonData entry absent held allowSuspend := by
    have notData : (Value.descriptor descriptor).category ≠ .data := by
      simp [Value.category, nonData]
    rw [getAttribute_notData (by simp_all), absent, entry]
    simp only [fetch_descriptor]
  methodBinds function state method entry absent held allowSuspend := by
    have notData : (Value.function function).category ≠ .data := by
      simp [Value.category, method]
    rw [getAttribute_notData (by simp_all), absent, entry]
    simp only [fetch_method method]
    rfl
  plainUnchanged found state plain entry absent held allowSuspend := by
    rw [getAttribute_notData (by simp_all), absent, entry]
    simp only [fetch_plain plain]
    rfl
  missing state noEntry absent held allowSuspend := by
    rw [getAttribute_notData (by simp_all), absent, noEntry]
    rfl
  writesOwn state writable notData value? held allowSuspend :=
    setAttribute_own writable notData value? held allowSuspend

end Engine

end ObjectModel
