import ObjectModel.Attribute

set_option autoImplicit false

namespace ObjectModel

namespace Eval

variable {σ α β : Type}

@[simp]
theorem map_throw (change : α → β) (error : Error) :
    change <$> (throw error : Eval σ α) = throw error := rfl

@[simp]
theorem throw_bind (error : Error) (next : α → Eval σ β) :
    (throw error >>= next) = throw error := rfl

theorem world_bind_apply (next : World → Eval σ β) (held : Roots) (state : State σ) :
    (world >>= next) held state = next state.world held state := rfl

theorem bind_congr {first other : Eval σ α} {held : Roots} {state : State σ}
    (same : first held state = other held state) (next : α → Eval σ β) :
    (first >>= next) held state = (other >>= next) held state := by
  rw [bind_apply, bind_apply, same]

theorem map_congr {first other : Eval σ α} {held : Roots} {state : State σ}
    (same : first held state = other held state) (change : α → β) :
    (change <$> first) held state = (change <$> other) held state := by
  rw [map_eq_pure_bind, map_eq_pure_bind, bind_congr same]

theorem bind_eq_ok {operation : Eval σ α} {next : α → Eval σ β} {held : Roots}
    {state later : State σ} {value : β}
    (done : (operation >>= next) held state = .done (.ok value) later) :
    ∃ first middle, operation held state = .done (.ok first) middle ∧
      next first held middle = .done (.ok value) later := by
  rw [bind_apply] at done
  split at done
  · exact ⟨_, _, by assumption, done⟩
  all_goals cases done

end Eval

namespace Completion

variable {α β γ : Type}

theorem map_map (first : α → β) (second : β → γ) (completion : Completion α) :
    (completion.map first).map second = completion.map fun value => second (first value) := by
  cases completion <;> rfl

end Completion

theorem Engine.drain_induct {σ α : Type} {engine : Engine σ} {motive : Eval σ α → Prop}
    (ready : ∀ value, motive (pure value)) (failed : ∀ error, motive (throw error))
    (resumed : ∀ (suspension : Suspension α) next, (∀ completion, motive (next completion)) →
      motive (engine.resume suspension >>= next))
    (limit remaining : Nat) (completion : Completion α) :
    motive (engine.drain limit remaining completion) := by
  induction remaining generalizing completion with
  | zero =>
    cases completion with
    | ready value => exact ready value
    | suspended suspension =>
      obtain ⟨label, kind, rest, wrap⟩ := suspension
      cases kind with
      | blocking => exact failed _
      | optional => exact failed _
  | succ remaining ih =>
    cases completion with
    | ready value => exact ready value
    | suspended suspension =>
      obtain ⟨label, kind, rest, wrap⟩ := suspension
      cases kind with
      | blocking => exact failed _
      | optional => exact resumed _ _ ih

namespace World

def entry? (world : World) (receiver : Value) (name : String) : Option Value :=
  world.lookup (world.typeOf receiver) name

def own? (world : World) (receiver : Value) (name : String) : Option Value :=
  match receiver with
  -- The chain of a type plays the part that the store plays for an instance.
  | .type type => world.lookup type name
  | other => world.ownAttribute? other name

theorem own?_of_notType {receiver : Value} (notType : receiver.asType? = none) (world : World)
    (name : String) : world.own? receiver name = world.ownAttribute? receiver name := by
  cases receiver with
  | type key => cases notType
  | _ => rfl

def Writable (world : World) : Value → Prop
  | .type type => (world.flagsOf type).immutable = false
  | _ => True

def writeStore (world : World) (receiver : Value) (name : String) (value? : Option Value) :
    Except Error World :=
  match receiver.store?, value? with
  | none, _ => .error (.attributeMissing (world.typeName receiver) name)
  | some store, some value => .ok (world.modifyStore store (·.insert name value))
  | some store, none =>
    if world.storedAttribute? store name = none then
      .error (.attributeMissing (world.typeName receiver) name)
    else
      .ok (world.modifyStore store (·.erase name))

def writeMember (world : World) (type : TypeKey) (name : String) (value? : Option Value) :
    Except Error World :=
  match value? with
  | some value => .ok (world.setMember type name value)
  -- Only the type's own members count for a deletion, not those along its chain.
  | none =>
    if world.member? type name = none then
      .error (.typeAttributeMissing (world.nameOf type) name)
    else
      .ok (world.removeMember type name)

def writeOwn (world : World) (receiver : Value) (name : String) (value? : Option Value) :
    Except Error World :=
  match receiver with
  | .type type => world.writeMember type name value?
  | other => world.writeStore other name value?

end World

namespace Engine

variable {σ : Type} {engine : Engine σ}

def consult (engine : Engine σ) (descriptor : Descriptor) (receiver? : Option Value)
    (type : TypeKey) (allowSuspend : Bool) : Eval σ (Completion (Option Value)) :=
  Completion.map some <$> (engine.readDescriptor descriptor receiver? type allowSuspend >>=
    engine.settle allowSuspend)

def assign (engine : Engine σ) (descriptor : Descriptor) (receiver : Value)
    (value? : Option Value) (allowSuspend : Bool) : Eval σ (Completion Unit) :=
  engine.writeDescriptor descriptor receiver value? allowSuspend >>= engine.settle allowSuspend

def giveOwn (engine : Engine σ) (receiver own : Value) (allowSuspend : Bool) :
    Eval σ (Completion (Option Value)) :=
  match receiver, own with
  -- Along the chain of a type a non-data descriptor is read without an instance.
  | .type type, .descriptor descriptor =>
    if descriptor.isData then
      pure (.ready (some own))
    else
      engine.consult descriptor none type allowSuspend
  | _, _ => pure (.ready (some own))

theorem giveOwn_type (type : TypeKey) (own : Value) (allowSuspend : Bool) :
    engine.giveOwn (.type type) own allowSuspend =
      Completion.map some <$> engine.descriptorGet own none type allowSuspend := by
  cases own with
  | descriptor descriptor =>
    cases data : descriptor.isData with
    | true => simp [giveOwn, descriptorGet, data, Completion.map]
    | false => simp [giveOwn, descriptorGet, data, consult]
  | _ => rfl

theorem getAttribute_apply (receiver : Value) (name : String) (allowSuspend : Bool) (held : Roots)
    (state : State σ) :
    engine.getAttribute receiver name allowSuspend held state =
      (if (state.world.entry? receiver name).any (·.category.isData) then
        engine.fetch (state.world.entry? receiver name) receiver (state.world.typeOf receiver)
          allowSuspend
      else
        match state.world.own? receiver name with
        | some own => engine.giveOwn receiver own allowSuspend
        | none => engine.fetch (state.world.entry? receiver name) receiver
            (state.world.typeOf receiver) allowSuspend) held state := by
  cases receiver with
  | type type =>
    simp only [World.entry?, World.own?, giveOwn_type, map_eq_pure_bind]
    rfl
  | _ => rfl

def goOver (change : World → Except Error World) : Eval σ Unit :=
  Eval.createOrFail fun world => (change world).map fun later => ((), later)

theorem goOver_apply (change : World → Except Error World) (held : Roots) (state : State σ) :
    (Completion.ready <$> goOver change) held state =
      match change state.world with
      | .ok world => .done (.ok (.ready ())) { state with world }
      | .error error => .done (.error error) state := by
  rw [map_eq_pure_bind, Eval.bind_apply, goOver, Eval.createOrFail]
  cases change state.world <;> rfl

theorem genericSet_apply (receiver : Value) (name : String) (value? : Option Value)
    (allowSuspend : Bool) (held : Roots) (state : State σ) :
    engine.genericSet receiver name value? allowSuspend held state =
      match (state.world.entry? receiver name).filter (·.category.isData) with
      | some found => engine.descriptorSet found receiver value? allowSuspend held state
      | none => (Completion.ready <$> goOver (·.writeStore receiver name value?)) held state := by
  rw [genericSet, Eval.world_bind_apply]
  simp only [World.entry?, goOver_apply]
  cases (state.world.lookup (state.world.typeOf receiver) name).filter (·.category.isData) with
  | some found => rfl
  | none =>
    simp only [World.writeStore]
    cases store : receiver.store? with
    | none => rfl
    | some key =>
      cases value? with
      | some value => rfl
      | none =>
        cases stored : state.world.storedAttribute? key name with
        | none => simp [stored, World.typeName]
        | some value =>
          simp [stored]
          rfl

theorem typeSet_apply (type : TypeKey) (name : String) (value? : Option Value)
    (allowSuspend : Bool) (held : Roots) (state : State σ)
    (writable : (state.world.flagsOf type).immutable = false) :
    engine.typeSet type name value? allowSuspend held state =
      match (state.world.entry? (.type type) name).filter (·.category.isData) with
      | some found => engine.descriptorSet found (.type type) value? allowSuspend held state
      | none => (Completion.ready <$> goOver (·.writeMember type name value?)) held state := by
  rw [typeSet, Eval.world_bind_apply]
  simp only [World.entry?, World.typeOf, writable, goOver_apply]
  cases (state.world.lookup Builtin.type.key name).filter (·.category.isData) with
  | some found => rfl
  | none =>
    simp only [World.writeMember]
    cases value? with
    | some value => rfl
    | none =>
      cases stored : state.world.member? type name with
      | none => simp
      | some value =>
        simp
        rfl

theorem setAttribute_apply (receiver : Value) (name : String) (value? : Option Value)
    (allowSuspend : Bool) (held : Roots) (state : State σ)
    (writable : state.world.Writable receiver) :
    engine.setAttribute receiver name value? allowSuspend held state =
      match (state.world.entry? receiver name).filter (·.category.isData) with
      | some found => engine.descriptorSet found receiver value? allowSuspend held state
      | none => (Completion.ready <$> goOver (·.writeOwn receiver name value?)) held state := by
  cases receiver with
  | type type => exact typeSet_apply type name value? allowSuspend held state writable
  | _ => exact genericSet_apply _ name value? allowSuspend held state

theorem setAttribute_immutable (type : TypeKey) (name : String) (value? : Option Value)
    (allowSuspend : Bool) (held : Roots) (state : State σ)
    (immutable : (state.world.flagsOf type).immutable = true) :
    engine.setAttribute (.type type) name value? allowSuspend held state =
      .done (.error (.immutableType name (state.world.nameOf type))) state := by
  rw [setAttribute, typeSet, Eval.world_bind_apply]
  simp only [immutable]
  rfl

theorem fetch_descriptor (descriptor : Descriptor) (receiver : Value) (type : TypeKey)
    (allowSuspend : Bool) :
    engine.fetch (some (.descriptor descriptor)) receiver type allowSuspend =
      engine.consult descriptor (some receiver) type allowSuspend := by
  cases data : descriptor.isData <;>
    simp [fetch, Value.category, data, descriptorGet, consult]

theorem fetch_method {function : Function} (method : function.binding = .method)
    (receiver : Value) (type : TypeKey) (allowSuspend : Bool) :
    engine.fetch (some (.function function)) receiver type allowSuspend = do
      return .ready (some (.boundMethod (← Eval.create World.newSerial) function receiver)) := by
  simp [fetch, Value.category, method, descriptorGet, Completion.map]

theorem fetch_plain {found : Value} (plain : found.category = .plain) (receiver : Value)
    (type : TypeKey) (allowSuspend : Bool) :
    engine.fetch (some found) receiver type allowSuspend = pure (.ready (some found)) := by
  simp [fetch, plain]

theorem descriptorSet_data {descriptor : Descriptor} (data : descriptor.isData = true)
    (receiver : Value) (value? : Option Value) (allowSuspend : Bool) :
    engine.descriptorSet (.descriptor descriptor) receiver value? allowSuspend =
      engine.assign descriptor receiver value? allowSuspend := by
  simp [descriptorSet, data, assign]

end Engine

end ObjectModel
