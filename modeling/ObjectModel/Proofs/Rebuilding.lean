import ObjectModel.Proofs.BoundCalls
import ObjectModel.Proofs.Calling
import ObjectModel.Proofs.ExactTuples
import ObjectModel.Proofs.LastingNumbers
import ObjectModel.Proofs.Locality

set_option autoImplicit false

namespace ObjectModel

namespace World

variable {world later : World} {type base key : TypeKey}

/-- A type that extends the built-in tuples, in whatever registry it was created. -/
inductive ExtendsTuple : World → TypeKey → Prop where
  | itself {world : World} {made : List (TypeKey × Storage)} (grown : Grown {} world made) :
    ExtendsTuple world Builtin.tuple.key
  | created {world later : World} {registry : RegistryKey} {name : String} {base key : TypeKey}
    {storage : Storage} (below : ExtendsTuple world base)
    (extended : world.newSubtype registry name base storage = .ok (key, later)) :
    ExtendsTuple later key
  | otherwise {world later : World} {type : TypeKey} (below : ExtendsTuple world type)
    (extended : world.Extends later) : ExtendsTuple later type

structure TupleKind (world : World) (type : TypeKey) : Prop where
  tuples : world.MakesTuples
  declared : world.declaredLayout Builtin.tuple.key = some .tuple
  known : ∀ owner ∈ world.chain type, (world.bare? owner).isSome = true
  -- What is nearer than the built-in tuples brings no layout of its own.
  chain : ∃ nearer, world.chain type = nearer ++ world.chain Builtin.tuple.key ∧
    ∀ owner ∈ nearer, world.declaredLayout owner = none

theorem newSubtype_made {registry : RegistryKey} {name : String} {storage : Storage}
    {object : TypeObject}
    (extended : world.newSubtype registry name base storage = .ok (key, later))
    (held : world.type? base = some object) :
    later.chain key = key :: later.chain base ∧ (later.bare? key).isSome = true ∧
      later.declaredLayout key = none := by
  have grown := extends_newSubtype extended
  rw [chain_eq ((grown.types base).bare?_eq held)]
  obtain ⟨_, rfl, id, registries, rfl⟩ := newSubtype_ok extended
  refine ⟨?_, ?_, ?_⟩
  · simp [chain, ancestors, type?, Cells.get?_push]
  · simp [bare?, type?, Cells.get?_push]
  · simp [declaredLayout, type?, Cells.get?_push]

namespace TupleKind

theorem tuple_mem (kind : world.TupleKind type) : Builtin.tuple.key ∈ world.chain type := by
  obtain ⟨nearer, chain, -⟩ := kind.chain
  rw [chain]
  exact List.mem_append_right _ (world.mem_chain_self _)

theorem above (kind : world.TupleKind type) : ∀ owner ∈ world.chain Builtin.tuple.key,
    owner ∈ world.chain type := by
  obtain ⟨nearer, chain, -⟩ := kind.chain
  rw [chain]
  exact fun _ member => List.mem_append_right _ member

theorem isSubtype (kind : world.TupleKind type) :
    world.isSubtype type Builtin.tuple.key = true :=
  (world.isSubtype_iff _ _).mpr kind.tuple_mem

theorem layoutOf? (kind : world.TupleKind type) : world.layoutOf? type = some .tuple := by
  obtain ⟨nearer, chain, plain⟩ := kind.chain
  have passes : nearer.find? (fun owner => (world.declaredLayout owner).isSome) = none := by
    rw [List.find?_eq_none]
    intro owner member
    simp [plain owner member]
  have owner : world.layoutOwner? type = some Builtin.tuple.key := by
    rw [layoutOwner?, chain, List.find?_append, passes]
    simp [World.chain, kind.declared]
  rw [World.layoutOf?, owner, Option.bind_some, kind.declared]

theorem type?_of_mem (kind : world.TupleKind type) {owner : TypeKey}
    (member : owner ∈ world.chain type) : ∃ object, world.type? owner = some object := by
  have known := kind.known owner member
  rw [bare?, Option.isSome_map] at known
  exact Option.isSome_iff_exists.mp known

theorem of_bare (kind : world.TupleKind type)
    (same : ∀ owner ∈ world.chain type, later.bare? owner = world.bare? owner) :
    later.TupleKind type := by
  have tuple := same _ kind.tuple_mem
  have typeChain := chain_eq (same _ (world.mem_chain_self type))
  obtain ⟨nearer, chain, plain⟩ := kind.chain
  refine ⟨⟨?_, ?_⟩, ?_, ?_, nearer, ?_, ?_⟩
  · rw [idOf?_eq tuple, kind.tuples.number]
  · rw [flagsOf_eq tuple, kind.tuples.storeless]
  · rw [declaredLayout_eq tuple, kind.declared]
  · intro owner member
    rw [typeChain] at member
    rw [same owner member, kind.known owner member]
  · rw [typeChain, chain_eq tuple, chain]
  · intro owner member
    rw [declaredLayout_eq (same owner (chain ▸ List.mem_append_left _ member)), plain owner member]

theorem extend (kind : world.TupleKind type) (extended : world.Extends later) :
    later.TupleKind type := by
  refine kind.of_bare fun owner member => ?_
  obtain ⟨object, held⟩ := kind.type?_of_mem member
  exact (extended.types owner).bare?_eq held

theorem of_grown {made : List (TypeKey × Storage)} (grown : Grown {} world made) :
    world.TupleKind Builtin.tuple.key := by
  have native := grown.lineage.native
  refine ⟨grown.makesTuples, ?_, ?_, [], rfl, nofun⟩
  · rw [← builtinKey_first, (native .tuple).layout]
    rfl
  · rw [← builtinKey_first, (native .tuple).chain]
    intro owner member
    obtain ⟨builtin, -, rfl⟩ := List.mem_map.mp member
    obtain ⟨object, held⟩ := (native builtin).known
    rw [bare?, held]
    rfl

theorem create {registry : RegistryKey} {name : String} {storage : Storage}
    (kind : world.TupleKind base)
    (extended : world.newSubtype registry name base storage = .ok (key, later)) :
    later.TupleKind key := by
  have grown := extends_newSubtype extended
  obtain ⟨object, held⟩ := kind.type?_of_mem (world.mem_chain_self base)
  obtain ⟨own, known, noLayout⟩ := newSubtype_made extended held
  have older := kind.extend grown
  obtain ⟨nearer, chain, plain⟩ := older.chain
  refine ⟨older.tuples, older.declared, fun owner member => ?_, key :: nearer, ?_,
    fun owner member => ?_⟩
  · rw [own] at member
    rcases List.mem_cons.mp member with rfl | old
    · exact known
    · exact older.known owner old
  · rw [own, chain, List.cons_append]
  · rcases List.mem_cons.mp member with rfl | old
    · exact noLayout
    · exact plain owner old

end TupleKind

theorem ExtendsTuple.kind (below : world.ExtendsTuple type) : world.TupleKind type := by
  induction below with
  | itself grown => exact .of_grown grown
  | created _ extended ih => exact ih.create extended
  | otherwise _ extended ih => exact ih.extend extended

theorem Extends.isSubtype_eq (extended : world.Extends later) {object : TypeObject}
    (held : world.type? type = some object) (other : TypeKey) :
    later.isSubtype type other = world.isSubtype type other := by
  rw [World.isSubtype, World.isSubtype, chain_eq ((extended.types type).bare?_eq held)]

theorem Grown.extendsTuple_native {made : List (TypeKey × Storage)} (grown : Grown {} world made)
    {builtin : Builtin}
    (below : world.isSubtype (builtinKey {} builtin) Builtin.tuple.key = true) :
    world.ExtendsTuple (builtinKey {} builtin) := by
  rw [isSubtype_iff, (grown.lineage.native builtin).chain, ← builtinKey_first] at below
  obtain ⟨other, above, same⟩ := List.mem_map.mp below
  obtain rfl := builtinKey_injective same
  obtain rfl : builtin = .tuple := by
    revert above
    cases builtin <;> decide
  rw [builtinKey_first]
  exact .itself grown

theorem Grown.extendsTuple {made : List (TypeKey × Storage)} (grown : Grown {} world made)
    (given : HandedOut {} made type) (below : world.isSubtype type Builtin.tuple.key = true) :
    world.ExtendsTuple type := by
  induction grown generalizing type with
  | fresh =>
    cases given with
    | native builtin => exact Grown.extendsTuple_native .fresh below
    | created member => cases member
  | created grown known extended ih =>
    have larger := extends_newSubtype extended
    cases given with
    | native builtin => exact (grown.created known extended).extendsTuple_native below
    | created member =>
      rcases List.mem_cons.mp member with new | old
      · obtain ⟨rfl, rfl⟩ := Prod.mk.inj new
        obtain ⟨object, held⟩ := grown.lineage.known known
        have inherits := (isSubtype_iff _ _ _).mp below
        rw [(newSubtype_made extended held).1] at inherits
        rcases List.mem_cons.mp inherits with same | inherited
        · obtain rfl := (builtinKey_first .tuple).trans same
          exact absurd member ((grown.created known extended).lineage.builtinKey_not_made .tuple)
        · have above := (isSubtype_iff _ _ _).mpr inherited
          rw [larger.isSubtype_eq held] at above
          exact .created (ih known above) extended
      · obtain ⟨object, held⟩ := grown.lineage.known (.created old)
        rw [larger.isSubtype_eq held] at below
        exact .otherwise (ih (.created old) below) larger
  | otherwise grown extended ih =>
    obtain ⟨object, held⟩ := grown.lineage.known given
    rw [extended.isSubtype_eq held] at below
    exact .otherwise (ih given below) extended

structure PlainTuple (world : World) (type : TypeKey) : Prop where
  kind : world.TupleKind type
  uninitialised : ∀ owner ∈ world.chain type, world.member? owner "__init__" = none

def Distinguishes (world : World) (value : Value) : Prop :=
  -- Exact tuples are told by the number of their type. A subtype passes for them that way only if
  -- it was created after all the numbers had been used up.
  world.isExactTuple value = true →
    world.isSubtype (world.typeOf value) Builtin.tuple.key = true →
      world.typeOf value = Builtin.tuple.key

theorem NumbersLast.distinguishes {used : RegistryKey → Nat} (lasting : world.NumbersLast used)
    (value : Value) : world.Distinguishes value := by
  intro exact below
  obtain ⟨inst, rfl, _, number⟩ := (world.isExactTuple_iff value).mp exact
  rw [typeOf_of_idOf? number] at below ⊢
  rcases List.mem_cons.mp ((isSubtype_iff _ _ _).mp below) with same | above
  · exact same.symm
  · exact absurd above (lasting.tuplesApart.apart inst.type number)

def LeavesAlone (type : TypeKey) (world later : World) : Prop :=
  ∀ owner ∈ world.chain type, later.bare? owner = world.bare? owner ∧
    later.member? owner "__init__" = world.member? owner "__init__"

theorem LeavesAlone.chain_eq (alone : LeavesAlone type world later) :
    later.chain type = world.chain type :=
  World.chain_eq (alone type (world.mem_chain_self type)).1

instance LeavesAlone.lasting (type : TypeKey) : Lasting (LeavesAlone type) :=
  .of_types
    (fun {world later} same owner _ => by simp only [bare?, member?, type?, same, and_self])
    (fun {world middle later} first second owner member => by
      have again := second owner (first.chain_eq ▸ member)
      have before := first owner member
      exact ⟨again.1.trans before.1, again.2.trans before.2⟩)

namespace PlainTuple

theorem leave (plain : world.PlainTuple type) (alone : LeavesAlone type world later) :
    later.PlainTuple type where
  kind := plain.kind.of_bare fun owner member => (alone owner member).1
  uninitialised owner member := by
    rw [alone.chain_eq] at member
    rw [(alone owner member).2, plain.uninitialised owner member]

theorem native (plain : world.PlainTuple type) : world.PlainTuple Builtin.tuple.key where
  kind :=
    { plain.kind with
      known := fun owner member => plain.kind.known owner (plain.kind.above owner member)
      chain := ⟨[], rfl, nofun⟩ }
  uninitialised owner member := plain.uninitialised owner (plain.kind.above owner member)

theorem lookup_init (plain : world.PlainTuple type) : world.lookup type "__init__" = none := by
  rw [lookup, lookupWithOwner_eq, (world.nearest?_eq_none_iff _).mpr plain.uninitialised]
  rfl

theorem initialiser? (plain : world.PlainTuple type) (target : TypeKey) {value : Value}
    (ofType : world.typeOf value = type) : world.initialiser? target value = none := by
  rw [World.initialiser?, ofType, plain.lookup_init, ite_self]

theorem initialiser?_tuple (plain : world.PlainTuple type) {value : Value}
    (distinguished : world.Distinguishes value) (exact : world.isExactTuple value = true) :
    world.initialiser? Builtin.tuple.key value = none := by
  rw [World.initialiser?]
  split
  · next below => rw [distinguished exact below, plain.native.lookup_init]
  · rfl

theorem typeOf_instance (plain : world.PlainTuple type) {inst : Instance Value}
    (ofType : inst.type = type) : world.typeOf (.object inst) = type := by
  obtain ⟨object, held⟩ := plain.kind.type?_of_mem (world.mem_chain_self type)
  simp [typeOf, ofType, held]

end PlainTuple

end World

theorem Eval.bind_eq_self {σ α : Type} {operation : Eval σ α} {next : α → Eval σ α} {held : Roots}
    {state : State σ}
    (each : ∀ {value later}, operation held state = .done (.ok value) later →
      next value held later = .done (.ok value) later) :
    (operation >>= next) held state = operation held state := by
  rw [Eval.bind_apply]
  cases made : operation held state with
  | exhausted => rfl
  | abandoned later => rfl
  | done result later =>
    cases result with
    | error error => rfl
    | ok value => exact each made

namespace Engine

open World

variable {σ : Type} {engine : Engine σ} {type : TypeKey} {arguments : List Value} {held : Roots}
  {state middle : State σ} {plain : Value}

theorem initialised_none {value : Value} (none : state.world.initialiser? type value = none)
    (arguments : Arguments) (held : Roots) :
    engine.initialised type arguments value held state = .done (.ok value) state := by
  rw [initialised, Eval.world_bind_apply, none]
  rfl

theorem create_initialised (engine : Engine σ) (make : World → Instance Value × World)
    (none : (make state.world).2.initialiser? type (.object (make state.world).1) = none)
    (arguments : Arguments) (held : Roots) :
    ((do return .object (← Eval.create make)) >>= engine.initialised type arguments) held state =
      .done (.ok (.object (make state.world).1)) { state with world := (make state.world).2 } := by
  let later : State σ := { state with world := (make state.world).2 }
  have initialised : later.world.initialiser? type (.object (make state.world).1) = _ := none
  exact initialised_none initialised arguments held

theorem newInstance_initialised (engine : Engine σ) (extending : state.world.PlainTuple type)
    (items : List Value) (arguments : Arguments) (held : Roots) :
    ∃ value later,
      ((do return .object (← Eval.create fun world => world.newInstance type (.tuple items))) >>=
        engine.initialised type arguments) held state = .done (.ok value) later ∧
      later.world.typeOf value = type ∧ later.host = state.host ∧ value.items? = some items := by
  have alone : LeavesAlone type state.world (state.world.newInstance type (.tuple items)).2 :=
    Lasting.newInstance state.world type (.tuple items)
  have extending' := extending.leave alone
  have ofType := extending'.typeOf_instance (newInstance_type state.world type (.tuple items))
  have none := extending'.initialiser? type ofType
  have created := engine.create_initialised
    (fun world => world.newInstance type (.tuple items)) none arguments held
  have carries : (Value.object (state.world.newInstance type (.tuple items)).1).items? =
      some items := by
    rw [Value.items?, newInstance_payload]
    rfl
  exact ⟨_, _, created, ofType, rfl, carries⟩

structure GivesTuple (type : TypeKey) (plain : Value) (items : List Value) (world : World) :
    Prop where
  extending : world.PlainTuple type
  distinguished : world.Distinguishes plain
  exact : world.exactItems? plain = some items

namespace GivesTuple

variable {items : List Value}

theorem isExactTuple {world : World} (given : GivesTuple type plain items world) :
    world.isExactTuple plain = true := by
  rw [World.isExactTuple, given.exact]
  rfl

theorem initialised (given : GivesTuple type plain items state.world) (arguments : Arguments)
    (held : Roots) :
    engine.initialised Builtin.tuple.key arguments plain held state = .done (.ok plain) state :=
  initialised_none (given.extending.initialiser?_tuple given.distinguished given.isExactTuple)
    arguments held

end GivesTuple

/-- Both calls give tuples of the same items, the first of exactly this type if the second is one of
exactly the built-in tuples, or they end alike. -/
def SameItems (type : TypeKey) : Outcome σ Value → Outcome σ Value → Prop
  | .done (.ok value) later, .done (.ok plain) middle =>
    (middle.world.typeOf plain = Builtin.tuple.key → later.world.typeOf value = type) ∧
      later.host = middle.host ∧
      ∃ items, value.items? = some items ∧ plain.items? = some items
  | .done (.error error) later, .done (.error other) middle => error = other ∧ later = middle
  | .abandoned later, .abandoned middle => later = middle
  | .exhausted, .exhausted => True
  | _, _ => False

theorem SameItems.bind {operation : Eval σ Value} {next : Value → Eval σ Value}
    (each : ∀ {plain middle}, operation held state = .done (.ok plain) middle →
      SameItems type (next plain held middle) (.done (.ok plain) middle)) :
    SameItems type ((operation >>= next) held state) (operation held state) := by
  rw [Eval.bind_apply]
  cases made : operation held state with
  | exhausted => trivial
  | abandoned middle => rfl
  | done result middle =>
    cases result with
    | error error => exact ⟨rfl, rfl⟩
    | ok plain => exact each made

section

variable (extending : state.world.PlainTuple type)
  (native : ∀ owner ∈ state.world.chain type, state.world.hasUserNew owner = false)

include extending native

theorem typeCall_construct (arguments : Arguments) :
    engine.typeCall type arguments held state =
      (engine.tupleNew type arguments >>= engine.initialised type arguments) held state := by
  have slot := state.world.newSlot?_native type native
  rw [extending.kind.layoutOf?] at slot
  rw [typeCall_apply, slot]
  rfl

variable (gives : ∀ {plain middle}, engine.exactTupleNew { positional := arguments } held state =
  .done (.ok plain) middle → ∃ items, GivesTuple type plain items middle.world)

include gives

theorem typeCall_tuple :
    engine.typeCall Builtin.tuple.key { positional := arguments } held state =
      engine.exactTupleNew { positional := arguments } held state := by
  have native' : ∀ owner ∈ state.world.chain Builtin.tuple.key,
      state.world.hasUserNew owner = false :=
    fun owner member => native owner (extending.kind.above owner member)
  rw [typeCall_construct extending.native native', tupleNew, if_pos rfl]
  refine Eval.bind_eq_self fun made => ?_
  obtain ⟨items, given⟩ := gives made
  exact given.initialised _ held

theorem typeCall_sameItems :
    SameItems type (engine.typeCall type { positional := arguments } held state)
      (engine.exactTupleNew { positional := arguments } held state) := by
  rw [typeCall_construct extending native, tupleNew]
  by_cases same : type = Builtin.tuple.key
  · subst same
    rw [if_pos rfl]
    refine .bind fun {plain middle} made => ?_
    obtain ⟨items, given⟩ := gives made
    have carries := items?_of_exact given.exact
    rw [given.initialised]
    exact ⟨fun ofType => ofType, rfl, items, carries, carries⟩
  · rw [if_neg same, bind_assoc, Eval.world_bind_apply]
    simp only [extending.kind.isSubtype, Bool.not_true, Bool.false_eq_true, if_false, bind_assoc]
    refine .bind fun {plain middle} made => ?_
    obtain ⟨items, given⟩ := gives made
    have carries := items?_of_exact given.exact
    obtain ⟨value, later, created, ofType, host, carries'⟩ :=
      engine.newInstance_initialised given.extending items { positional := arguments } held
    simp only [carries]
    rw [created]
    exact ⟨fun _ => ofType, host, items, carries', carries⟩

end

theorem exactTupleNew_gives (keeps : engine.Keeps (LeavesAlone type))
    (extending : state.world.PlainTuple type)
    (distinguished : ∀ value ∈ arguments, state.world.Distinguishes value)
    (done : engine.exactTupleNew { positional := arguments } held state =
      .done (.ok plain) middle) :
    ∃ items, GivesTuple type plain items middle.world := by
  have extending' := extending.leave ((keeps.composed (.exactTupleNew _)).of_done done)
  rcases exactTupleNew_ok keeps done with
    ⟨member, exact, rfl⟩ | ⟨before, items, between, rfl⟩
  · obtain ⟨items, exactly⟩ := Option.isSome_iff_exists.mp exact
    exact ⟨items, extending, distinguished plain member, exactly⟩
  · have makes := (extending.leave between).kind.tuples
    have fresh : Value.object (before.newInstance Builtin.tuple.key (.tuple items)).1 =
        before.freshTuple items := congrArg Prod.fst (makes.newTuple items)
    have makes' := extending'.kind.tuples
    rw [fresh]
    exact ⟨items, extending', fun _ _ => makes'.typeOf_freshTuple items,
      makes'.exactItems?_freshTuple items⟩

def Rebuilds (engine : Engine σ) (type : TypeKey) (items : List Value) (arguments : Eval σ Value)
    (held : Roots) (state : State σ) : Prop :=
  ∃ given copy middle value later,
    arguments held state = .done (.ok given) middle ∧
      middle.world.exactItems? given = some [copy] ∧
      middle.world.exactItems? copy = some items ∧
      engine.callValue (.type type) { positional := [copy] } held middle =
        .done (.ok value) later ∧
      later.world.typeOf value = type ∧ value.items? = some items

theorem exactTupleNew_exact (engine : Engine σ) {copy : Value}
    (exact : state.world.isExactTuple copy = true) (held : Roots) :
    engine.exactTupleNew { positional := [copy] } held state = .done (.ok copy) state := by
  change (Eval.world >>= fun world => if world.isExactTuple copy then pure copy
    else engine.collect copy >>= Eval.tuple) held state = _
  rw [Eval.world_bind_apply, if_pos exact]
  rfl

theorem typeCall_copy (engine : Engine σ) {copy : Value} {items : List Value}
    (given : GivesTuple type copy items state.world)
    (ofType : state.world.typeOf copy = Builtin.tuple.key)
    (native : ∀ owner ∈ state.world.chain type, state.world.hasUserNew owner = false)
    (held : Roots) :
    ∃ value later,
      engine.typeCall type { positional := [copy] } held state = .done (.ok value) later ∧
      later.world.typeOf value = type ∧ value.items? = some items := by
  have taken := engine.exactTupleNew_exact given.isExactTuple held
  have gives : ∀ {plain middle}, engine.exactTupleNew { positional := [copy] } held state =
      .done (.ok plain) middle → ∃ items, GivesTuple type plain items middle.world := by
    intro plain middle made
    rw [taken] at made
    cases made
    exact ⟨items, given⟩
  have alike := typeCall_sameItems given.extending native gives
  rw [taken] at alike
  cases called : engine.typeCall type { positional := [copy] } held state with
  | exhausted =>
    rw [called] at alike
    cases alike
  | abandoned later =>
    rw [called] at alike
    cases alike
  | done result later =>
    rw [called] at alike
    cases result with
    | error error => cases alike
    | ok value =>
      obtain ⟨ofType', -, items', carries, carries'⟩ := alike
      cases (items?_of_exact given.exact).symm.trans carries'
      exact ⟨value, later, rfl, ofType' ofType, carries⟩

theorem newArguments_apply {function : Function} (body : function.body = .tuple .newArguments)
    {tuple : Value} {items : List Value} (carries : tuple.items? = some items) (serial : Nat) :
    engine.callValue (.boundMethod serial function tuple) {} =
      (do Eval.tuple [← Eval.tuple items]) := by
  simp only [callValue, invoke, body, Arguments.prepend, tupleMethod, carries]
  rfl

theorem newArguments_rebuilds (extending : state.world.PlainTuple type)
    (native : ∀ owner ∈ state.world.chain type, state.world.hasUserNew owner = false)
    {function : Function} (body : function.body = .tuple .newArguments) {tuple : Value}
    {items : List Value} (carries : tuple.items? = some items) (serial : Nat) :
    engine.Rebuilds type items (engine.callValue (.boundMethod serial function tuple) {}) held
      state := by
  have next := extending.leave (Lasting.newSerial state.world)
  have last := next.leave (Lasting.newSerial state.world.newSerial.2)
  let copy := state.world.freshTuple items
  let given := state.world.newSerial.2.freshTuple [copy]
  let middle : State σ := ⟨state.world.newSerial.2.newSerial.2, state.host⟩
  have made : engine.callValue (.boundMethod serial function tuple) {} held state =
      .done (.ok given) middle := by
    rw [newArguments_apply body carries, Eval.bind_apply, Eval.tuple_fresh extending.kind.tuples]
    exact Eval.tuple_fresh next.kind.tuples [copy] held
  have makes : middle.world.MakesTuples := last.kind.tuples
  have exact : middle.world.exactItems? copy = some items := makes.exactItems?_freshTuple items
  have ofType : middle.world.typeOf copy = _ := makes.typeOf_freshTuple items
  obtain ⟨value, later, called, rebuilt⟩ :=
    engine.typeCall_copy ⟨last, fun _ _ => ofType, exact⟩ ofType native held
  exact ⟨given, copy, middle, value, later, made, makes.exactItems?_freshTuple [copy], exact,
    called, rebuilt⟩

structure MakesTuplesAlike (engine : Engine σ) (type : TypeKey) (held : Roots)
    (state : State σ) : Prop where
  -- By the function of the built-in tuples, whatever the type itself makes of that name.
  rebuilds : ∀ {tuple : Value} {items : List Value} {function : Function} (serial : Nat),
    tuple.items? = some items → function.body = .tuple .newArguments →
      engine.Rebuilds type items (engine.callValue (.boundMethod serial function tuple) {}) held
        state
  named : ∀ {tuple : Value} {items : List Value} {function : Function},
    tuple.items? = some items → function.body = .tuple .newArguments →
      function.binding = .method → state.world.Reaches tuple "__getnewargs__" function →
      engine.Rebuilds type items
        (do engine.callValue (← engine.getAttr tuple "__getnewargs__") {}) held state
  alike : ∀ {used : RegistryKey → Nat}, state.world.NumbersLast used → ∀ arguments : List Value,
    SameItems type (engine.callValue (.type type) { positional := arguments } held state)
      (engine.callValue (.type Builtin.tuple.key) { positional := arguments } held state)
  -- Once a registry has started its numbers over, this still holds of the arguments that were
  -- given theirs before.
  distinguished : ∀ arguments : List Value,
    (∀ value ∈ arguments, state.world.Distinguishes value) →
      SameItems type (engine.callValue (.type type) { positional := arguments } held state)
        (engine.callValue (.type Builtin.tuple.key) { positional := arguments } held state)

/-- A type that extends the built-in tuples and has neither a constructor nor an initialiser of its
own makes the tuples that these make, whatever else it redefines. -/
theorem tuple_rebuilds {host : Host σ} (keeps : host.Keeps (LeavesAlone type)) (limits : Limits)
    (patience depth : Nat) (below : state.world.ExtendsTuple type)
    (native : ∀ owner ∈ state.world.chain type, state.world.hasUserNew owner = false)
    (uninitialised : ∀ owner ∈ state.world.chain type, state.world.member? owner "__init__" = none)
    (held : Roots) :
    (host.engine limits patience depth).MakesTuplesAlike type held state := by
  have extending : state.world.PlainTuple type := ⟨below.kind, uninitialised⟩
  have engineKeeps := keeps.engine limits patience depth
  have distinguished (arguments : List Value)
      (distinct : ∀ value ∈ arguments, state.world.Distinguishes value) :
      SameItems type
        ((host.engine limits patience depth).typeCall type { positional := arguments } held state)
        ((host.engine limits patience depth).typeCall Builtin.tuple.key
          { positional := arguments } held state) := by
    have gives {plain : Value} {middle : State σ}
        (made : (host.engine limits patience depth).exactTupleNew { positional := arguments } held
          state = .done (.ok plain) middle) : ∃ items, GivesTuple type plain items middle.world :=
      exactTupleNew_gives engineKeeps extending distinct made
    rw [typeCall_tuple extending native gives]
    exact typeCall_sameItems extending native gives
  refine ⟨fun serial carries body => newArguments_rebuilds extending native body carries serial,
    fun {tuple items function} carries body method reaches => ?_,
    fun lasting arguments => distinguished arguments fun value _ => lasting.distinguishes value,
    distinguished⟩
  let numbered : State σ := { state with world := state.world.newSerial.2 }
  have extending' : numbered.world.PlainTuple type :=
    extending.leave (Lasting.newSerial state.world)
  obtain ⟨given, copy, middle, value, later, called, rest⟩ :=
    newArguments_rebuilds extending' native body carries state.world.nextSerial
  refine ⟨given, copy, middle, value, later, ?_, rest⟩
  rw [Eval.bind_apply, getAttr_method reaches method]
  exact called

end Engine

def World.pairs : World :=
  match initial.newSubtype sharedRegistry "Pair" Builtin.tuple.key .slots with
  | .ok (key, world) =>
    world.setMember key "__iter__" (.function ⟨299, "Pair", "__iter__", .method, none, .code ⟨0⟩⟩)
  | .error _ => initial

theorem World.pairs_extendsTuple : pairs.ExtendsTuple ⟨18⟩ := by
  have pair : Grown {} _ [(⟨18⟩, .slots)] :=
    .created .fresh (.native .tuple) (show newSubtype _ _ "Pair" _ _ = _ from rfl)
  have pairs : Grown {} pairs [(⟨18⟩, .slots)] := .otherwise pair (.setMember "__iter__" _)
  exact pairs.extendsTuple (.created List.mem_cons_self) rfl

theorem World.pairs_numbersLast : ∃ used, pairs.NumbersLast used := by
  have pair : NumbersLast _ _ := .created .initial (by decide)
    (show newSubtype _ sharedRegistry "Pair" Builtin.tuple.key .slots = _ from rfl)
  exact ⟨_, .otherwise pair (bare?_modifyType fun _ => ⟨_, rfl⟩) rfl rfl⟩

-- The iterator of the pair gives nothing to iterate over, which is felt only where the pair itself
-- is copied.
theorem tuple_rebuilds_pair :
    let engine := Engine.idleHost.engine {} 1 2
    let pair : Value := .object ⟨300, ⟨18⟩, none, .tuple [.int 3, .int 4]⟩
    let call (type : TypeKey) := engine.callValue (.type type) { positional := [pair] } {}
      ⟨World.pairs, ()⟩
    engine.Rebuilds ⟨18⟩ [.int 3, .int 4]
        (do engine.callValue (← engine.getAttr pair "__getnewargs__") {}) {} ⟨World.pairs, ()⟩ ∧
      Engine.SameItems ⟨18⟩ (call ⟨18⟩) (call Builtin.tuple.key) ∧
      ∃ error later, call ⟨18⟩ = .done (.error error) later := by
  intro engine pair call
  have alike : engine.MakesTuplesAlike ⟨18⟩ {} ⟨World.pairs, ()⟩ :=
    Engine.tuple_rebuilds (Engine.idleHost_keeps _) {} 1 2 World.pairs_extendsTuple (by decide)
      (by decide) {}
  have reaches : ∃ function, World.pairs.Reaches pair "__getnewargs__" function ∧
      function.body = .tuple .newArguments ∧ function.binding = .method :=
    ⟨_, ⟨rfl, rfl, rfl, nofun⟩, rfl, rfl⟩
  obtain ⟨_, reached, body, method⟩ := reaches
  obtain ⟨used, lasting⟩ := World.pairs_numbersLast
  exact ⟨alike.named rfl body method reached, alike.alike lasting [pair], _, _, rfl⟩

/-- A second registry has handed out numbers until the next one is that of the tuples, and has
given it to a type that extends the shared tuples and initialises its instances itself. -/
def World.checking : World :=
  match (initial.newRegistry.2.spend ⟨1⟩ (distinctNumbers + 8)).newSubtype ⟨1⟩ "Checked"
    Builtin.tuple.key .slots with
  | .ok (key, world) => world.setMember key "__init__"
    (.function ⟨600, "Checked", "__init__", .method, none, .code ⟨0⟩⟩)
  | .error _ => initial

def World.renumbered : World :=
  match checking.newSubtype sharedRegistry "Pair" Builtin.tuple.key .slots with
  | .ok (_, world) => world
  | .error _ => initial

theorem World.newSubtype_checking :
    checking.newSubtype sharedRegistry "Pair" Builtin.tuple.key .slots = .ok (⟨37⟩, renumbered) :=
  rfl

theorem World.numbering_checking :
    Numbering initial checking (distinctNumbers + 8 + 1) [(⟨36⟩, distinctNumbers + 8)] := by
  have checked : Numbering initial _ _ _ :=
    .created (numbering_spend initial (distinctNumbers + 8))
      (show newSubtype _ ⟨1⟩ "Checked" Builtin.tuple.key .slots = .ok (⟨36⟩, _) from rfl)
  exact checked.otherwise (.setMember "__init__" _) rfl

theorem World.renumbered_extendsTuple : renumbered.ExtendsTuple ⟨37⟩ := by
  have second : initial.newRegistry.2.Extends checking := numbering_checking.enrolled.kept
  have grown : Grown {} checking [] :=
    .otherwise .fresh (initial.extends_newRegistry.trans second)
  have pair : Grown {} renumbered [(⟨37⟩, .slots)] :=
    grown.created (.native .tuple) newSubtype_checking
  exact pair.extendsTuple (.created List.mem_cons_self) rfl

theorem tuple_rebuilds_displaced :
    let engine := (Engine.constantHost (.int 3)).engine {} 1 2
    let checked : Value := .object ⟨700, ⟨36⟩, none, .tuple [.int 3]⟩
    let call (type : TypeKey) := engine.callValue (.type type) { positional := [checked] } {}
      ⟨World.renumbered, ()⟩
    World.Numbering World.initial World.checking (World.distinctNumbers + 9)
        [(⟨36⟩, World.distinctNumbers + 8)] ∧
      World.renumbered.ExtendsTuple ⟨37⟩ ∧
      (∀ owner ∈ World.renumbered.chain ⟨37⟩, World.renumbered.hasUserNew owner = false ∧
        World.renumbered.member? owner "__init__" = none) ∧
      (∃ value later, call ⟨37⟩ = .done (.ok value) later ∧ value.items? = some [.int 3]) ∧
      ∃ error later, call Builtin.tuple.key = .done (.error error) later := by
  intro engine checked call
  refine ⟨World.numbering_checking, World.renumbered_extendsTuple, ?_, ⟨_, _, rfl, rfl⟩, _, _, rfl⟩
  decide

end ObjectModel
