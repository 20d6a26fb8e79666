import ObjectModel.Proofs.Calling
import ObjectModel.Proofs.Registration

set_option autoImplicit false

namespace ObjectModel

theorem Value.items?_eq_some_iff {value : Value} {items : List Value} :
    value.items? = some items ↔ ∃ inst, value = .object inst ∧ inst.payload = .tuple items := by
  cases value with
  | object inst => cases carried : inst.payload <;> simp [items?, Payload.items?, carried]
  | _ => simp [items?]

namespace World

/-- Another type than the shared tuples, with their number. -/
def Namesake (world : World) (type : TypeKey) : Prop :=
  type ≠ Builtin.tuple.key ∧ world.idOf? type = some (UInt32.ofNat Builtin.tuple.id)

def Genuine (world : World) (value : Value) : Prop :=
  ∀ inst, value = .object inst → ¬ world.Namesake inst.type

-- The shared built-in types are as they were made, and `tuple` has kept its place in the registry.
-- Types of other registries may come and go.
structure Founded (world : World) : Prop where
  native : ∀ builtin, Native {} world builtin
  belongs : world.Belongs Builtin.tuple.key

variable {before world later : World} {used : Nat} {made : List (TypeKey × Nat)}
  {type : TypeKey} {id : UInt32}

theorem Numbering.founded (numbering : Numbering {} world used made)
    (room : used ≤ distinctNumbers) : world.Founded where
  native := numbering.enrolled.native
  belongs := by
    have listed := List.mem_append_left (made.map fun entry => (numberAt entry.2, entry.1))
      (mem_nativeRoll {} .tuple)
    rw [builtinKey_first] at listed
    exact numbering.belongs room listed

theorem Numbering.namesake_iff (numbering : Numbering before world used made)
    (room : used ≤ distinctNumbers) (member : (id, type) ∈ roll before made) :
    world.Namesake type ↔ type = before.builtinKey .tuple ∧ type ≠ Builtin.tuple.key := by
  have enrolled := numbering.enrolled
  constructor
  · rintro ⟨other, number⟩
    rw [enrolled.idOf?_of_roll member, Option.some.injEq] at number
    subst number
    -- The registry has its own tuples under that number, and no second type.
    have native : (_, before.builtinKey .tuple) ∈ roll before made :=
      List.mem_append_left _ (mem_nativeRoll before .tuple)
    have distinct : ((roll before made).map Prod.fst).Nodup := nodup_roll enrolled.dated room
    have first := Table.get?_ofList_of_mem distinct member
    rw [Table.get?_ofList_of_mem distinct native] at first
    exact ⟨(Option.some.inj first).symm, other⟩
  · rintro ⟨rfl, other⟩
    exact ⟨other, (enrolled.native .tuple).number⟩

namespace Founded

theorem number (founded : world.Founded) :
    world.idOf? Builtin.tuple.key = some (UInt32.ofNat Builtin.tuple.id) := by
  rw [← builtinKey_first, (founded.native .tuple).number]

theorem not_namesake (founded : world.Founded) (belongs : world.Belongs type) :
    ¬ world.Namesake type := by
  rintro ⟨other, number⟩
  exact other (belongs.unique founded.belongs (number.trans founded.number.symm))

end Founded

theorem Founded.exact_iff (founded : world.Founded) {value : Value}
    (genuine : world.Genuine value) : world.isExactTuple value = true ↔
      (∃ items, value.items? = some items) ∧ world.typeOf value = Builtin.tuple.key := by
  simp only [Value.items?_eq_some_iff]
  constructor
  · intro exact
    obtain ⟨inst, rfl, ⟨items, carries⟩, number⟩ := (world.isExactTuple_iff value).mp exact
    have same : inst.type = Builtin.tuple.key := by
      by_contra other
      exact genuine inst rfl ⟨other, number⟩
    exact ⟨⟨items, inst, rfl, carries⟩, (typeOf_of_idOf? number).trans same⟩
  · rintro ⟨⟨items, inst, rfl, carries⟩, ofTuple⟩
    refine (world.isExactTuple_iff _).mpr ⟨inst, rfl, ⟨items, carries⟩, ?_⟩
    rw [typeOf] at ofTuple
    split at ofTuple
    · rw [ofTuple, founded.number]
    · cases ofTuple

theorem mistaken_iff (world : World) (value : Value) :
    world.isExactTuple value = true ∧ world.typeOf value ≠ Builtin.tuple.key ↔
      (∃ items, value.items? = some items) ∧ ¬ world.Genuine value := by
  simp only [Value.items?_eq_some_iff, Genuine, Classical.not_forall, Classical.not_not]
  constructor
  · rintro ⟨exact, other⟩
    obtain ⟨inst, rfl, ⟨items, carries⟩, number⟩ := (world.isExactTuple_iff value).mp exact
    rw [typeOf_of_idOf? number] at other
    exact ⟨⟨items, inst, rfl, carries⟩, inst, rfl, other, number⟩
  · rintro ⟨⟨items, inst, rfl, carries⟩, _, ⟨rfl⟩, other, number⟩
    refine ⟨(world.isExactTuple_iff _).mpr ⟨inst, rfl, ⟨items, carries⟩, number⟩, ?_⟩
    rwa [typeOf_of_idOf? number]

end World

namespace Engine

variable {σ : Type} {engine : Engine σ} {held : Roots} {state later : State σ} {type : TypeKey}
  {value : Value} {arguments : Arguments}

theorem tupleNew_ok (keeps : engine.Keeps (World.Retains type))
    (founded : state.world.Founded)
    (genuine : type = Builtin.tuple.key → ∀ given ∈ arguments.positional,
      state.world.Genuine given)
    (done : engine.tupleNew type arguments held state = .done (.ok value) later) :
    (∃ object, state.world.type? type = some object) ∧
      ∃ inst, value = .object inst ∧ inst.type = type := by
  rw [tupleNew] at done
  by_cases same : type = Builtin.tuple.key
  · subst same
    obtain ⟨object, known, _⟩ := Option.map_eq_some_iff.mp founded.number
    refine ⟨⟨object, known⟩, ?_⟩
    rw [if_pos rfl] at done
    rcases exactTupleNew_ok keeps done with ⟨member, exact, _⟩ | ⟨middle, items, _, rfl⟩
    · -- The argument itself comes back, judged exact by the number of its type.
      obtain ⟨inst, rfl, _, number⟩ := (state.world.isExactTuple_iff value).mp exact
      have ofTuple := ((founded.exact_iff (genuine rfl _ member)).mp exact).2
      exact ⟨inst, rfl, (World.typeOf_of_idOf? number).symm.trans ofTuple⟩
    · exact ⟨_, rfl, World.newInstance_type ..⟩
  · rw [if_neg same, Eval.world_bind_apply] at done
    cases below : state.world.isSubtype type Builtin.tuple.key with
    | false => simp [below] at done
    | true =>
      simp only [below, Bool.not_true, Bool.false_eq_true, if_false] at done
      obtain ⟨plain, middle, _, done⟩ := Eval.bind_eq_ok done
      cases carried : plain.items? with
      | none => simp [carried] at done
      | some items =>
        simp only [carried] at done
        cases done
        refine ⟨?_, _, rfl, World.newInstance_type ..⟩
        -- A type that is gone has no ancestors left.
        cases known : state.world.type? type with
        | some object => exact ⟨object, rfl⟩
        | none => simp [World.isSubtype, World.chain, World.ancestors, known, Ne.symm same] at below

structure ExactByIdentity (engine : Engine σ) (held : Roots) (state : State σ) (type : TypeKey) :
    Prop where
  exact_iff : ∀ value, state.world.Genuine value → (state.world.isExactTuple value = true ↔
    (∃ items, value.items? = some items) ∧ state.world.typeOf value = Builtin.tuple.key)
  -- The other values are judged wrongly as soon as they carry items.
  mistaken_iff : ∀ value,
    state.world.isExactTuple value = true ∧ state.world.typeOf value ≠ Builtin.tuple.key ↔
      (∃ items, value.items? = some items) ∧ ¬ state.world.Genuine value
  -- They come from other registries, each of which has one type that makes them.
  native : ∀ known, state.world.Belongs known → ¬ state.world.Namesake known
  foreign : ∀ {before : World} {used : Nat} {made : List (TypeKey × Nat)},
    World.Numbering before state.world used made → used ≤ World.distinctNumbers →
    ∀ id known, (id, known) ∈ World.roll before made → (state.world.Namesake known ↔
      known = before.builtinKey .tuple ∧ known ≠ Builtin.tuple.key)
  -- A constructor makes tuples of the type that it is asked for, unless it is asked for the
  -- built-in one and takes its argument for such a tuple.
  constructs : ∀ arguments value later,
    (type = Builtin.tuple.key → ∀ given ∈ arguments.positional, state.world.Genuine given) →
    engine.tupleNew type arguments held state = .done (.ok value) later →
    later.world.typeOf value = type
  called : ∀ arguments value later,
    (∀ given ∈ arguments.positional, state.world.Genuine given) →
    engine.typeCall Builtin.tuple.key arguments held state = .done (.ok value) later →
    later.world.typeOf value = Builtin.tuple.key

/-- Exactness is identity of the type, except for tuples of other registries. -/
theorem exactness_is_identity {host : Host σ} (limits : Limits) (patience depth : Nat)
    (founded : state.world.Founded) (keeps : host.Keeps (World.Retains type))
    (keepsTuple : host.Keeps (World.Retains Builtin.tuple.key)) (held : Roots) :
    (host.engine limits patience depth).ExactByIdentity held state type where
  exact_iff value genuine := founded.exact_iff genuine
  mistaken_iff := state.world.mistaken_iff
  native known belongs := founded.not_namesake belongs
  foreign numbering room id known member := numbering.namesake_iff room member
  constructs arguments value later genuine done := by
    have engineKeeps := keeps.engine limits patience depth
    obtain ⟨⟨object, known⟩, inst, rfl, ofType⟩ := tupleNew_ok engineKeeps founded genuine done
    exact ((engineKeeps.composed (.tupleNew _ _)).of_done done).typeOf_eq known ofType
  called arguments value later genuine done := by
    have engineKeeps := keepsTuple.engine limits patience depth
    have slot := (founded.native .tuple).newSlot?_eq
    rw [World.builtinKey_first] at slot
    obtain ⟨middle, constructed⟩ := typeCall_ok slot done
    obtain ⟨⟨object, known⟩, inst, rfl, ofType⟩ :=
      tupleNew_ok engineKeeps founded (fun _ => genuine) constructed
    exact ((engineKeeps.typeCall _ _).of_done done).typeOf_eq known ofType

end Engine

def World.twofold : World :=
  World.initial.newRegistry.2

theorem World.twofold_numbering : Numbering {} twofold 0 [] :=
  .otherwise .fresh initial.extends_newRegistry rfl

namespace Engine

theorem exactness_is_identity_twofold :
    (idleHost.engine {} 1 1).ExactByIdentity {} ⟨World.twofold, ()⟩ Builtin.tuple.key ∧
      World.twofold.Namesake ⟨26⟩ := by
  have exactness : (idleHost.engine {} 1 1).ExactByIdentity {} ⟨World.twofold, ()⟩
      Builtin.tuple.key :=
    exactness_is_identity {} 1 1 (World.twofold_numbering.founded (by decide)) (idleHost_keeps _)
      (idleHost_keeps _) {}
  refine ⟨exactness, ?_⟩
  have second : World.Numbering World.initial World.twofold 0 [] := .fresh
  have tuples := List.mem_append_left [] (World.initial.mem_nativeRoll .tuple)
  exact (exactness.foreign second (by decide) _ _ tuples).mpr ⟨rfl, by decide⟩

-- The tuples of the second registry are a type of their own, and the shared one gives them back.
theorem exact_by_number_alone : ∃ tuple later,
    genericNew ⟨26⟩ ⟨26⟩ {} (⟨World.twofold, ()⟩ : State Unit) = .done (.ok tuple) later ∧
      later.world.isExactTuple tuple = true ∧ later.world.typeOf tuple = ⟨26⟩ ∧
      (⟨26⟩ : TypeKey) ≠ Builtin.tuple.key ∧
      (idleHost.engine {} 1 1).typeCall Builtin.tuple.key { positional := [tuple] } {} later =
        .done (.ok tuple) later := by
  exact ⟨_, _, rfl, rfl, rfl, by decide, rfl⟩

end Engine

end ObjectModel
