import ObjectModel.Proofs.Lineage
import ObjectModel.Proofs.Preservation
import ObjectModel.Proofs.Registration

set_option autoImplicit false

namespace ObjectModel

namespace World

/-- The shared registry knows the type under its number. -/
def Belongs (world : World) (type : TypeKey) : Prop :=
  -- Numbers are 32 bits wide, so a type may in the end be displaced by one created later.
  (world.idOf? type).bind (world.registered? sharedRegistry) = some type

structure Shaped (world : World) (type : TypeKey) (inst : Instance Value) : Prop where
  ofType : inst.type = type
  tuple : world.isSubtype type Builtin.tuple.key = true → ∃ items, inst.payload = .tuple items
  plain : world.isSubtype type Builtin.tuple.key = false → inst.payload = .empty
  store : inst.store.isSome = (world.flagsOf type).hasStore

theorem builtinKey_first (builtin : Builtin) : World.builtinKey {} builtin = builtin.key := by
  simp [builtinKey, Builtin.key, Cells.size]

theorem Belongs.unique {world : World} {left right : TypeKey} (first : world.Belongs left)
    (second : world.Belongs right) (same : world.idOf? left = world.idOf? right) :
    left = right := by
  unfold Belongs at first second
  rw [same, second] at first
  exact (Option.some.inj first).symm

theorem newInstance_type (world : World) (type : TypeKey) (payload : Payload Value) :
    (world.newInstance type payload).1.type = type := by
  simp only [newInstance]
  split <;> rfl

theorem newInstance_payload (world : World) (type : TypeKey) (payload : Payload Value) :
    (world.newInstance type payload).1.payload = payload := by
  simp only [newInstance]
  split <;> rfl

theorem newInstance_store (world : World) (type : TypeKey) (payload : Payload Value) :
    (world.newInstance type payload).1.store.isSome = (world.flagsOf type).hasStore := by
  have same : (world.newSerial.2.flagsOf type) = world.flagsOf type := rfl
  simp only [newInstance, same]
  split <;> simp_all

section

variable {world : World} {used : Nat} {numbers : List (TypeKey × Nat)} {type : TypeKey}
  {id : UInt32}

theorem Numbering.belongs (numbering : Numbering {} world used numbers)
    (room : used ≤ distinctNumbers) (member : (id, type) ∈ roll {} numbers) :
    world.Belongs type := by
  have enrolled := numbering.enrolled
  exact enrolled.registered?_of_mem room (enrolled.idOf?_of_roll member) member

end

theorem newInstance_types (world : World) (type : TypeKey) (payload : Payload Value) :
    (world.newInstance type payload).2.types = world.types := by
  simp only [newInstance]
  split <;> rfl

theorem Retains.typeOf_eq {world later : World} {type : TypeKey} {object : TypeObject}
    (retained : Retains type world later) (known : world.type? type = some object)
    {inst : Instance Value} (ofType : inst.type = type) : later.typeOf (.object inst) = type := by
  obtain ⟨members, after⟩ := retained object known
  simp [typeOf, ofType, after]

theorem isExactTuple_iff (world : World) (value : Value) :
    world.isExactTuple value = true ↔ ∃ inst, value = .object inst ∧
      (∃ items, inst.payload = .tuple items) ∧
      world.idOf? inst.type = some (UInt32.ofNat Builtin.tuple.id) := by
  rw [isExactTuple, Option.isSome_iff_exists]
  constructor
  · rintro ⟨items, exact⟩
    obtain ⟨inst, object, rfl, carries, known, number⟩ :=
      (world.exactItems?_eq_some_iff _ _).mp exact
    exact ⟨inst, rfl, ⟨items, carries⟩, by rw [idOf?, known, Option.map_some, number]⟩
  · rintro ⟨inst, rfl, ⟨items, carries⟩, number⟩
    obtain ⟨object, known, number⟩ := Option.map_eq_some_iff.mp number
    refine ⟨items, (world.exactItems?_eq_some_iff _ _).mpr ?_⟩
    exact ⟨inst, object, rfl, carries, known, number⟩

theorem typeOf_of_idOf? {world : World} {inst : Instance Value} {id : UInt32}
    (numbered : world.idOf? inst.type = some id) : world.typeOf (.object inst) = inst.type := by
  obtain ⟨object, known, _⟩ := Option.map_eq_some_iff.mp numbered
  simp [typeOf, known]

theorem newSlot?_native (world : World) (type : TypeKey)
    (native : ∀ above ∈ world.chain type, world.hasUserNew above = false) :
    world.newSlot? type = (world.layoutOf? type).map .native := by
  rw [newSlot?, layoutOf?, layoutOwner?]
  generalize world.chain type = chain at native
  induction chain with
  | nil => rfl
  | cons first rest ih =>
    have here : world.newSlotAt? first = (world.declaredLayout first).map .native := by
      simp [newSlotAt?, native first List.mem_cons_self]
    have further := ih fun above member => native above (List.mem_cons_of_mem _ member)
    rw [List.findSome?_cons, List.find?_cons, here]
    cases declared : world.declaredLayout first with
    | none => simpa [declared] using further
    | some layout => simp [declared]

theorem Shaped.newInstance {world middle : World} {type : TypeKey} {object : TypeObject}
    (retained : Retains type world middle) (known : world.type? type = some object)
    {payload : Payload Value}
    (tuple : world.isSubtype type Builtin.tuple.key = true → ∃ items, payload = .tuple items)
    (plain : world.isSubtype type Builtin.tuple.key = false → payload = .empty) :
    Shaped world type (middle.newInstance type payload).1 where
  ofType := newInstance_type middle type payload
  tuple := by rwa [newInstance_payload]
  plain := by rwa [newInstance_payload]
  store := by rw [newInstance_store, flagsOf_eq (retained.bare?_eq known)]

end World

theorem Eval.Keeps.of_done {σ α : Type} {kept : World → World → Prop} {operation : Eval σ α}
    (keeps : Eval.Keeps kept operation) {held : Roots} {state later : State σ}
    {result : Except Error α} (done : operation held state = .done result later) :
    kept state.world later.world := by
  have left := keeps held state
  rwa [done] at left

namespace Engine

open World

variable {σ : Type} {engine : Engine σ} {made : List (TypeKey × Storage)} {held : Roots}
  {state later : State σ} {type : TypeKey} {value : Value}

theorem checkNoKeywords_ok {name : String} {keywords : List Keyword} {done : Unit}
    (passed : checkNoKeywords name keywords held state = .done (.ok done) later) :
    later = state := by
  rw [checkNoKeywords] at passed
  split at passed <;> cases passed
  rfl

theorem checkArgumentCount_ok {name : String} {arguments : List Value} {least most : Nat}
    {done : Unit}
    (passed : checkArgumentCount name arguments least most held state = .done (.ok done) later) :
    later = state := by
  rw [checkArgumentCount] at passed
  split at passed <;> cases passed
  rfl

theorem exactTupleNew_ok {kept : World → World → Prop} [lasting : World.Lasting kept]
    (keeps : engine.Keeps kept) {arguments : Arguments}
    (done : engine.exactTupleNew arguments held state = .done (.ok value) later) :
    (value ∈ arguments.positional ∧ state.world.isExactTuple value = true ∧ later = state) ∨
      ∃ (middle : World) (items : List Value), kept state.world middle ∧
        value = .object (middle.newInstance Builtin.tuple.key (.tuple items)).1 := by
  obtain ⟨_, _, plain, done⟩ := Eval.bind_eq_ok done
  obtain ⟨_, _, counted, done⟩ := Eval.bind_eq_ok done
  rw [checkNoKeywords_ok plain] at counted
  rw [checkArgumentCount_ok counted] at done
  cases given : arguments.positional with
  | nil =>
    simp only [given] at done
    cases done
    exact .inr ⟨state.world, [], lasting.refl _, rfl⟩
  | cons source rest =>
    simp only [given, Eval.world_bind_apply] at done
    by_cases exactTuple : state.world.isExactTuple source = true
    · rw [if_pos exactTuple] at done
      cases done
      exact .inl ⟨List.mem_cons_self, exactTuple, rfl⟩
    · rw [if_neg exactTuple] at done
      obtain ⟨items, middle, collected, done⟩ := Eval.bind_eq_ok done
      cases done
      have between := (keeps.composed (.collect source)).of_done collected
      exact .inr ⟨middle.world, items, between, rfl⟩

end Engine

namespace World

variable {world : World} {made : List (TypeKey × Storage)} {declaring target : TypeKey}

theorem safeLayout_ok_iff (layout : Layout) :
    world.safeLayout declaring target = .ok layout ↔
      world.isSubtype target declaring = true ∧ world.layoutOf? target = some layout ∧
        world.layoutOf? declaring = some layout := by
  have inherited : world.layoutOf? target =
      (world.layoutOwner? target).bind world.declaredLayout := rfl
  rw [safeLayout, inherited]
  cases world.isSubtype target declaring with
  | false => simp
  | true =>
    cases world.layoutOwner? target with
    | none => simp
    | some owner =>
      simp only [Bool.true_eq_false, if_false, Option.bind_some, true_and]
      by_cases differs : world.declaredLayout owner ≠ world.layoutOf? declaring
      · rw [if_pos differs]
        refine iff_of_false (fun same => ?_) fun both => differs ?_
        · cases same
        · rw [both.1, both.2]
      · rw [if_neg differs, not_not.mp differs]
        cases world.layoutOf? declaring <;> simp

end World

namespace Engine

variable {σ : Type} {engine : Engine σ} {made : List (TypeKey × Storage)} {held : Roots}
  {state later : State σ} {type : TypeKey} {value : Value}

theorem constructSafely_apply (declaring target : TypeKey) (arguments : Arguments) :
    engine.constructSafely declaring (arguments.prepend (.type target)) held state =
      match state.world.safeLayout declaring target with
      | .ok layout => engine.construct layout target arguments held state
      | .error error => .done (.error error) state := by
  rw [Arguments.prepend, constructSafely_type, Eval.world_bind_apply]
  cases state.world.safeLayout declaring target <;> rfl

theorem typeCall_ok {layout : Layout} {arguments : Arguments}
    (native : state.world.newSlot? type = some (.native layout))
    (done : engine.typeCall type arguments held state = .done (.ok value) later) :
    ∃ middle, engine.construct layout type arguments held state = .done (.ok value) middle := by
  rw [typeCall, Eval.world_bind_apply] at done
  simp only [native] at done
  obtain ⟨first, middle, made, done⟩ := Eval.bind_eq_ok done
  -- Initialised or not, the instance is what is given in the end.
  rw [Eval.world_bind_apply] at done
  split at done
  · obtain ⟨_, _, _, done⟩ := Eval.bind_eq_ok done
    cases done
    exact ⟨middle, made⟩
  · cases done
    exact ⟨_, made⟩

def idleHost : Host Unit where
  run _ _ _ := pure .none
  proceed _ _ := pure (.finished .none)
  roots _ := {}

def constantHost (answer : Value) : Host Unit where
  run _ _ _ := pure answer
  proceed _ _ := pure (.finished answer)
  roots _ := {}

theorem idleHost_keeps (kept : World → World → Prop) [World.Lasting kept] :
    idleHost.Keeps kept :=
  ⟨fun _ _ _ _ => .pure _, fun _ _ _ => .pure _⟩

end Engine

def World.defining (method : String) : World :=
  match initial.newSubtype sharedRegistry "Point" Builtin.object.key .slots with
  | .ok (key, world) =>
    world.setMember key method (.function ⟨299, "Point", method, .method, none, .code ⟨0⟩⟩)
  | .error _ => initial

end ObjectModel
