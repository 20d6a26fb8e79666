import ObjectModel.Proofs.Locality
import ObjectModel.Proofs.Suspension

set_option autoImplicit false

namespace ObjectModel

namespace Engine

variable {σ : Type} {engine : Engine σ} {receiver : Value} {name : String}

theorem fetch_some (found receiver : Value) (type : TypeKey) (allowSuspend : Bool) :
    engine.fetch (some found) receiver type allowSuspend =
      Completion.map some <$> engine.descriptorGet found (some receiver) type allowSuspend := by
  cases found with
  | function function =>
    cases binding : function.binding <;>
      simp [fetch, Value.category, binding, descriptorGet, Completion.map]
  | descriptor descriptor =>
    cases data : descriptor.isData <;> simp [fetch, Value.category, data]
  | _ => simp [fetch, Value.category, descriptorGet, Completion.map]

theorem lookupSpecial_apply (held : Roots) (state : State σ) :
    engine.lookupSpecial receiver name held state =
      (engine.fetch (state.world.entry? receiver name) receiver (state.world.typeOf receiver) false
        >>= engine.complete) held state := by
  rw [lookupSpecial, Eval.world_bind_apply]
  simp only [World.entry?]
  cases state.world.lookup (state.world.typeOf receiver) name with
  | none => simp [fetch]
  | some found => simp [fetch_some, complete_map]

theorem lookupSpecial_eq {state : State σ} (notType : receiver.asType? = none)
    (unshadowed : receiver.store? = none ∨ state.world.ownAttribute? receiver name = none ∨
      ∃ found, state.world.entry? receiver name = some found ∧ found.category = .data)
    (held : Roots) :
    engine.lookupSpecial receiver name held state = engine.lookupAttr receiver name held state := by
  rw [lookupSpecial_apply, lookupAttr]
  apply Eval.bind_congr
  rw [getAttribute_apply, World.own?_of_notType notType]
  by_cases decides : (state.world.entry? receiver name).any (·.category.isData) = true
  · rw [if_pos decides]
  · have own : state.world.ownAttribute? receiver name = none := by
      rcases unshadowed with without | own | ⟨found, entry, data⟩
      · simp [World.ownAttribute?, without]
      · exact own
      · simp [entry, data, Category.isData] at decides
    rw [if_neg decides, own]

def getterCall? (receiver : Value) (type : TypeKey) : Value → Option (Code × List Value)
  | .descriptor (.property _ _ (.code code) _) => some (code, [receiver])
  | .descriptor (.accessor _ _ _ getter _) => some (getter, [receiver, .type type, .bool false])
  | _ => none

theorem settle_complete {α : Type} (completion : Completion α) :
    engine.settle false completion >>= engine.complete = engine.complete completion := by
  cases completion with
  | ready value => simp [settle, Completion.isReady]
  | suspended suspension => simp [settle, Completion.isReady]

section

variable {related : World → World → Prop}

theorem drain_ofProgress_blind {code : Code} {arguments : List Value}
    (blind : ∀ stage, Eval.Blind related (engine.proceed ⟨code, arguments, stage⟩))
    (limit remaining stage : Nat) (progress : Progress) :
    Eval.Blind related
      (engine.drain limit remaining (.ofProgress ⟨code, arguments, stage⟩ progress)) := by
  induction remaining generalizing stage progress with
  | zero =>
    cases progress with
    | finished value => exact .pure value
    | paused kind label => cases kind <;> exact .throw _
  | succ remaining ih =>
    cases progress with
    | finished value => exact .pure value
    | paused kind label =>
      cases kind with
      | blocking => exact .throw _
      | optional =>
        rw [drain_paused_succ]
        exact (blind (stage + 1)).bind fun progress => ih (stage + 1) progress

theorem start_complete_blind {code : Code} {arguments : List Value}
    (blind : ∀ stage, Eval.Blind related (engine.proceed ⟨code, arguments, stage⟩)) :
    Eval.Blind related (engine.start code arguments >>= engine.complete) := by
  simp only [start, bind_assoc, pure_bind]
  exact (blind 0).bind fun progress => drain_ofProgress_blind blind _ _ 0 progress

variable (hidden : World.Hidden related)

include hidden

theorem readGetter_complete_blind {getter : Getter} {receiver : Value}
    (blind : ∀ code, getter = .code code → ∀ stage,
      Eval.Blind related (engine.proceed ⟨code, [receiver], stage⟩)) :
    Eval.Blind related (engine.readGetter getter receiver >>= engine.complete) := by
  -- The getters of the system run no code, so that any engine does for them.
  let idle : Engine σ := { engine with proceed := fun _ => .exhausted }
  have nothing (resumption : Resumption) : Eval.Blind related (idle.proceed resumption) :=
    fun _ _ _ _ _ => trivial
  have read : Eval.Blind related (idle.readGetter getter receiver >>= idle.complete) :=
    (readGetter_blind hidden nothing getter receiver).bind fun _ => drain_blind nothing _ _ _
  cases getter with
  | code code => exact start_complete_blind (blind code rfl)
  | _ => simpa only [readGetter, bind_assoc, pure_bind, complete_ready] using read

theorem descriptorGet_complete_blind {found receiver : Value} {type : TypeKey}
    (blind : ∀ code arguments, getterCall? receiver type found = some (code, arguments) →
      ∀ stage, Eval.Blind related (engine.proceed ⟨code, arguments, stage⟩)) :
    Eval.Blind related
      (engine.descriptorGet found (some receiver) type false >>= engine.complete) := by
  cases found with
  | function function =>
    cases binding : function.binding with
    | method =>
      simp only [descriptorGet, binding, bind_assoc, pure_bind, complete_ready]
      exact (Eval.Blind.create hidden.newSerial).bind fun serial => .pure _
    | static =>
      simp only [descriptorGet, binding, pure_bind, complete_ready]
      exact .pure _
  | descriptor descriptor =>
    simp only [descriptorGet, Option.isNone_some, Bool.and_false, Bool.false_eq_true, if_false,
      bind_assoc, settle_complete]
    cases descriptor with
    | accessor serial name data getter setter => exact start_complete_blind (blind _ _ rfl)
    | property serial name getter setter =>
      apply readGetter_complete_blind hidden
      rintro code rfl
      exact blind code _ rfl
  | _ =>
    simp only [descriptorGet, pure_bind, complete_ready]
    exact .pure _

theorem fetch_complete_blind {found? : Option Value} {receiver : Value} {type : TypeKey}
    (blind : ∀ code arguments, found?.bind (getterCall? receiver type) = some (code, arguments) →
      ∀ stage, Eval.Blind related (engine.proceed ⟨code, arguments, stage⟩)) :
    Eval.Blind related (engine.fetch found? receiver type false >>= engine.complete) := by
  cases found? with
  | none =>
    simp only [fetch, pure_bind, complete_ready]
    exact .pure none
  | some found =>
    simp only [fetch_some, bind_map_left, complete_map]
    rw [← map_bind]
    exact (descriptorGet_complete_blind hidden blind).map some

theorem lookupSpecial_alike {state other : State σ}
    (entry : other.world.entry? receiver name = state.world.entry? receiver name)
    (blind : ∀ code arguments, (state.world.entry? receiver name).bind
        (getterCall? receiver (state.world.typeOf receiver)) = some (code, arguments) →
      ∀ stage, Eval.Blind related (engine.proceed ⟨code, arguments, stage⟩))
    (apart : related state.world other.world) (sameHost : state.host = other.host) (held : Roots) :
    (engine.lookupSpecial receiver name held state).Alike related
      (engine.lookupSpecial receiver name held other) := by
  rw [lookupSpecial_apply, lookupSpecial_apply, entry,
    World.typeOf_eq (hidden.bare _ _ apart)]
  exact fetch_complete_blind hidden blind held state other apart sameHost

end

end Engine

namespace World

variable {world other : World} {name : String}

theorem ApartInStore.hidden (store? : Option StoreKey) : Hidden (ApartInStore store?) where
  bare world other apart := apart.bare?_eq
  newSerial world other apart := by
    have serial : world.nextSerial = other.nextSerial := by rw [apart.rest]
    refine ⟨serial, ?_, apart.size, apart.stores⟩
    simp only [newSerial]
    rw [apart.rest]
  newStore world other apart := by
    refine ⟨by simp only [newStore, apart.size], ?_, ?_, fun index distinct => ?_⟩
    · simp only [newStore]
      rw [apart.rest]
    · simp only [newStore, Cells.size_push, apart.size]
    · simp only [newStore, Cells.get?_push, apart.size, apart.stores index distinct]

theorem ApartInStore.entry?_eq {store? : Option StoreKey} (apart : ApartInStore store? world other)
    (receiver : Value) : other.entry? receiver name = world.entry? receiver name := by
  rw [World.entry?, World.entry?, typeOf_eq apart.bare?_eq, apart.lookup_eq]

structure ApartFromMetatype (world other : World) : Prop extends ApartInMembers world other where
  metatype : ∀ owner ∈ world.chain Builtin.type.key, other.member? owner = world.member? owner

namespace ApartFromMetatype

theorem hidden : Hidden ApartFromMetatype where
  bare world other apart := apart.bare
  newSerial world other apart := by
    have serial : world.nextSerial = other.nextSerial := by rw [apart.rest]
    refine ⟨serial, ⟨?_, apart.bare⟩, apart.metatype⟩
    simp only [newSerial]
    rw [apart.rest]
  newStore world other apart := by
    have stores : world.stores = other.stores := by rw [apart.rest]
    refine ⟨by simp only [newStore, stores], ⟨?_, apart.bare⟩, apart.metatype⟩
    simp only [newStore]
    rw [apart.rest]

theorem entry?_eq (apart : ApartFromMetatype world other) (type : TypeKey) :
    other.entry? (.type type) name = world.entry? (.type type) name := by
  have nearest : other.nearest? (world.chain Builtin.type.key) name =
      world.nearest? (world.chain Builtin.type.key) name :=
    nearest?_congr fun owner above => congrFun (apart.metatype owner above) name
  simp only [World.entry?, typeOf, lookup, lookupWithOwner_eq, chain_eq (apart.bare _), nearest]

end ApartFromMetatype

end World

namespace Engine

structure SpecialAgreement {σ : Type} (engine : Engine σ) (receiver : Value) (name : String) :
    Prop where
  asAttribute : ∀ state : State σ, receiver.asType? = none →
    (receiver.store? = none ∨ state.world.ownAttribute? receiver name = none ∨
      ∃ found, state.world.entry? receiver name = some found ∧ found.category = .data) →
    ∀ held,
      engine.lookupSpecial receiver name held state = engine.lookupAttr receiver name held state
  store : ∀ state other : State σ, state.world.ApartInStore receiver.store? other.world →
    state.host = other.host →
    -- The code of the getter, if there is one, does not look there by itself.
    (∀ code arguments, (state.world.entry? receiver name).bind
        (getterCall? receiver (state.world.typeOf receiver)) = some (code, arguments) →
      ∀ stage, Eval.Blind (World.ApartInStore receiver.store?)
        (engine.proceed ⟨code, arguments, stage⟩)) →
    ∀ held, (engine.lookupSpecial receiver name held state).Alike
      (World.ApartInStore receiver.store?) (engine.lookupSpecial receiver name held other)
  members : ∀ (type : TypeKey) (state other : State σ), receiver = .type type →
    state.world.ApartFromMetatype other.world → state.host = other.host →
    (∀ code arguments, (state.world.entry? receiver name).bind
        (getterCall? receiver (state.world.typeOf receiver)) = some (code, arguments) →
      ∀ stage, Eval.Blind World.ApartFromMetatype (engine.proceed ⟨code, arguments, stage⟩)) →
    ∀ held, (engine.lookupSpecial receiver name held state).Alike World.ApartFromMetatype
      (engine.lookupSpecial receiver name held other)

/-- Finding a special method is reading the attribute, unless the store shadows it, and comes to the
same in whatever state the store of the receiver or the chain of a type object is. -/
theorem special_agrees {σ : Type} (engine : Engine σ) (receiver : Value) (name : String) :
    engine.SpecialAgreement receiver name where
  asAttribute _ notType unshadowed held := lookupSpecial_eq notType unshadowed held
  store _ _ apart sameHost blind held :=
    lookupSpecial_alike (World.ApartInStore.hidden _) (apart.entry?_eq receiver) blind apart
      sameHost held
  members type _ _ same apart sameHost blind held :=
    lookupSpecial_alike World.ApartFromMetatype.hidden (same ▸ apart.entry?_eq type) blind apart
      sameHost held

end Engine

end ObjectModel
