import ObjectModel.Call
import ObjectModel.Proofs.Resolution

/-!
# Composition of operations

Whatever an engine does is composed of a few steps in the world and of the four things that it can
ask for: to call a value, to run code, to go on with code, and to release an iterator. What holds
of these and passes from the parts of an operation to the whole therefore holds of all operations,
however deeply calls are nested.
-/

set_option autoImplicit false

namespace ObjectModel

def World.safeLayout (world : World) (declaring target : TypeKey) : Except Error Layout :=
  if world.isSubtype target declaring = false then
    .error (.newForStranger (world.nameOf declaring) (world.nameOf target))
  else
    match world.layoutOwner? target with
    | none => .error (.noNativeConstructor (world.nameOf target))
    | some owner =>
      if world.declaredLayout owner ≠ world.layoutOf? declaring then
        .error (.newUnsafe (world.nameOf declaring) (world.nameOf target) (world.nameOf owner))
      else
        match world.layoutOf? declaring with
        | some layout => .ok layout
        | none => .error (.noNativeConstructor (world.nameOf declaring))

theorem Engine.constructSafely_type {σ : Type} (engine : Engine σ) (declaring target : TypeKey)
    (rest : List Value) (keywords : List Keyword) :
    engine.constructSafely declaring { positional := .type target :: rest, keywords } =
      Eval.world >>= fun world => Eval.ofExcept (world.safeLayout declaring target) >>=
        fun layout => engine.construct layout target { positional := rest, keywords } := by
  rw [constructSafely]
  congr 1
  funext world
  simp only [World.safeLayout]
  cases world.isSubtype target declaring with
  | false => rfl
  | true =>
    cases world.layoutOwner? target with
    | none => rfl
    | some owner =>
      simp only [Bool.not_true, Bool.false_eq_true, Bool.true_eq_false, if_false]
      by_cases differs : world.declaredLayout owner ≠ world.layoutOf? declaring
      · rw [if_pos differs, if_pos differs]
        rfl
      · rw [if_neg differs, if_neg differs]
        cases world.layoutOf? declaring <;> rfl

namespace Engine

variable {σ α β : Type} {engine : Engine σ}

/-- Operations that are composed of what engines do by themselves and of what this one is asked
for. -/
inductive Composes (engine : Engine σ) : {α : Type} → Eval σ α → Prop where
  | pure {α : Type} (value : α) : Composes engine (Pure.pure value)
  | throw {α : Type} (error : Error) : Composes engine (MonadExcept.throw error : Eval σ α)
  | abandon {α : Type} : Composes engine (Eval.abandon : Eval σ α)
  | exhausted {α : Type} : Composes engine (Eval.exhausted : Eval σ α)
  | bind {α β : Type} {first : Eval σ α} {next : α → Eval σ β} (composes : Composes engine first)
    (rest : ∀ value, Composes engine (next value)) : Composes engine (first >>= next)
  | tryCatch {α : Type} {body : Eval σ α} {handler : Error → Eval σ α}
    (composes : Composes engine body) (handles : ∀ error, Composes engine (handler error)) :
    Composes engine (MonadExcept.tryCatch body handler)
  | holding {α : Type} {operation : Eval σ α} (composes : Composes engine operation)
    (values : List Value) : Composes engine (Eval.holding values operation)
  -- Steps in the world.
  | world : Composes engine Eval.world
  | newSerial : Composes engine (Eval.create World.newSerial)
  | newInstance (type : TypeKey) (payload : Payload Value) :
    Composes engine (Eval.create fun world => world.newInstance type payload)
  | newIterator (kind : IteratorKind) (cursor : Cursor) :
    Composes engine (Eval.create fun world => world.newIterator kind cursor)
  | step (cursor : CursorKey) : Composes engine (Eval.create (·.advance cursor))
  -- The only step that touches the remembered hashes; it contains the hashing of the items.
  | hashTuple {tuple : Value} {items : List Value} (carries : tuple.items? = some items)
    (computes : Composes engine (engine.hashItems items.length items {})) :
    Composes engine (engine.hashTuple tuple items)
  -- What the engine is asked for.
  | call (callee : Value) (arguments : Arguments) : Composes engine (engine.call callee arguments)
  | run (code : Code) (arguments : Arguments) : Composes engine (engine.run code arguments)
  | proceed (resumption : Resumption) : Composes engine (engine.proceed resumption)
  | release (cursor : CursorKey) : Composes engine (engine.release cursor)

namespace Composes

theorem map {operation : Eval σ α} (composes : engine.Composes operation) (change : α → β) :
    engine.Composes (change <$> operation) := by
  rw [map_eq_pure_bind]
  exact composes.bind fun value => .pure (change value)

theorem throw_bind (error : Error) (next : α → Eval σ β) :
    engine.Composes (MonadExcept.throw error >>= next) :=
  throw error

theorem ofExcept (result : Except Error α) :
    engine.Composes (Eval.ofExcept result : Eval σ α) := by
  cases result with
  | ok value => exact pure value
  | error error => exact throw error

theorem ofOption (result : Option α) : engine.Composes (Eval.ofOption result : Eval σ α) := by
  cases result with
  | some value => exact pure value
  | none => exact abandon

theorem tuple (items : List Value) : engine.Composes (Eval.tuple items : Eval σ Value) :=
  (newInstance Builtin.tuple.key (.tuple items)).map Value.object

theorem failFor (value : Value) (error : String → Error) :
    engine.Composes (Eval.failFor value error : Eval σ α) :=
  (world.bind fun _ => pure _).bind fun _ => throw _

theorem start (code : Code) (arguments : List Value) :
    engine.Composes (engine.start code arguments) :=
  (proceed _).bind fun _ => .pure _

theorem drain (limit remaining : Nat) (completion : Completion α) :
    engine.Composes (engine.drain limit remaining completion) := by
  refine drain_induct (fun value => .pure value) (fun error => .throw error)
    (fun suspension next rest => ?_) limit remaining completion
  exact ((proceed suspension.rest).bind fun _ => .pure _).bind rest

theorem complete (completion : Completion α) :
    engine.Composes (engine.complete completion) :=
  drain _ _ completion

theorem settle (allowSuspend : Bool) (completion : Completion α) :
    engine.Composes (engine.settle allowSuspend completion) := by
  rw [Engine.settle]
  split
  · exact .pure completion
  · exact (complete completion).bind fun _ => .pure _

theorem typeReceiver (receiver : Value) :
    engine.Composes (Engine.typeReceiver receiver : Eval σ TypeKey) := by
  cases receiver with
  | type key => exact .pure key
  | _ => exact .failFor _ _

theorem readGetter (getter : Getter) (receiver : Value) :
    engine.Composes (engine.readGetter getter receiver) := by
  have received : engine.Composes (Engine.typeReceiver receiver : Eval σ TypeKey) :=
    typeReceiver receiver
  cases getter with
  | typeOf => exact Composes.world.bind fun _ => .pure _
  | typeName => exact Composes.world.bind fun _ => received.bind fun _ => .pure _
  | typeBase => exact received.bind fun _ => Composes.world.bind fun _ => .pure _
  | typeChain =>
    exact received.bind fun _ => Composes.world.bind fun _ =>
      (tuple _).bind fun _ => .pure _
  | code code => exact start code [receiver]

theorem readDescriptor (descriptor : Descriptor)
    (receiver? : Option Value) (owner : TypeKey) (allowSuspend : Bool) :
    engine.Composes (engine.readDescriptor descriptor receiver? owner allowSuspend) := by
  cases descriptor with
  | accessor serial name data getter setter => exact start getter _
  | property serial name getter setter =>
    cases receiver? with
    | some receiver => exact readGetter getter receiver
    | none => exact Composes.world.bind fun _ => .throw _

theorem descriptorGet (found : Value) (receiver? : Option Value)
    (owner : TypeKey) (allowSuspend : Bool) :
    engine.Composes (engine.descriptorGet found receiver? owner allowSuspend) := by
  rw [Engine.descriptorGet.eq_def]
  split
  · split
    · exact newSerial.bind fun _ => .pure _
    · exact .pure _
  · split
    · exact .pure _
    · exact (readDescriptor _ _ _ _).bind fun _ => settle _ _
  · exact .pure _

theorem lookupSpecial (receiver : Value) (name : String) :
    engine.Composes (engine.lookupSpecial receiver name) := by
  refine Composes.world.bind fun world => ?_
  dsimp only
  split
  · exact .pure _
  · exact (descriptorGet _ _ _ _).bind fun _ => (complete _).bind fun _ => .pure _

theorem callSpecial (receiver : Value) (name : String)
    (positional : List Value) :
    engine.Composes (engine.callSpecial receiver name positional) := by
  refine (lookupSpecial receiver name).bind fun method? => ?_
  split
  · exact .pure _
  · exact .pure _
  · exact (call _ _).bind fun _ => .pure _

theorem fetch (found? : Option Value) (receiver : Value) (type : TypeKey) (allowSuspend : Bool) :
    engine.Composes (engine.fetch found? receiver type allowSuspend) := by
  cases found? with
  | none => exact .pure _
  | some found =>
    rw [Engine.fetch]
    split
    · exact .pure _
    · exact (descriptorGet _ _ _ _).bind fun _ => .pure _
    · exact (descriptorGet _ _ _ _).bind fun _ => .pure _

theorem getAttribute (receiver : Value) (name : String) (allowSuspend : Bool) :
    engine.Composes (engine.getAttribute receiver name allowSuspend) := by
  have instanceRule (receiver : Value) :
      engine.Composes (engine.genericGet receiver name allowSuspend) := by
    refine world.bind fun world => ?_
    dsimp only
    split
    · exact fetch _ _ _ _
    · split
      · exact .pure _
      · exact fetch _ _ _ _
  cases receiver with
  | type key =>
    refine world.bind fun world => ?_
    dsimp only
    split
    · exact fetch _ _ _ _
    · split
      · exact (descriptorGet _ _ _ _).bind fun _ => .pure _
      · exact fetch _ _ _ _
  | _ => exact instanceRule _

theorem getAttr (receiver : Value) (name : String) :
    engine.Composes (engine.getAttr receiver name) := by
  refine ((getAttribute _ _ _).bind fun _ => complete _).bind fun value? => ?_
  cases value? with
  | some value => exact .pure value
  | none => exact world.bind fun _ => .throw _

theorem callMethod (receiver : Value) (name : String) (arguments : Arguments) :
    engine.Composes (engine.callMethod receiver name arguments) :=
  (getAttr receiver name).bind fun method => call method arguments

theorem iterate (kind : IteratorKind) (items : List Value) :
    engine.Composes (Engine.iterate kind items : Eval σ Value) :=
  newIterator kind _

theorem advance (cursor : CursorKey) :
    engine.Composes (engine.advance cursor) := by
  have taken : engine.Composes (do Eval.ofExcept (← Eval.create (·.advance cursor)) : Eval σ _) :=
    (step cursor).bind fun _ => .ofExcept _
  refine Composes.world.bind fun world => ?_
  split
  · exact (release cursor).bind fun _ => taken
  · exact taken

theorem iter (value : Value) : engine.Composes (engine.iter value) := by
  cases value with
  | iterator cursor kind => exact .pure _
  | str text => exact iterate _ _
  | object inst =>
    refine (callSpecial _ _ _).bind fun iterator? => ?_
    cases iterator? with
    | some iterator => exact .pure _
    | none => exact .failFor _ _
  | _ => exact .failFor _ _

theorem next (iterator : Value) :
    engine.Composes (engine.next iterator) := by
  have asked : engine.Composes
      (MonadExcept.tryCatch (some <$> engine.callSpecial iterator "__next__" []) fun error =>
        if error.isStopIteration then Pure.pure none else MonadExcept.throw error) := by
    refine .tryCatch ((callSpecial _ _ _).map _) fun error => ?_
    split
    · exact .pure _
    · exact .throw _
  rw [Engine.next.eq_def]
  split
  · exact advance _
  · refine asked.bind fun answer => ?_
    split
    · exact .pure _
    · exact .pure _
    · exact .failFor _ _

theorem roundsFor (iterator : Value) :
    engine.Composes (engine.roundsFor iterator) := by
  cases iterator with
  | iterator cursor kind => exact Composes.world.bind fun _ => .pure _
  | _ => exact .pure _

theorem takeAll (iterator : Value) (rounds : Nat)
    (taken : List Value) : engine.Composes (engine.takeAll iterator rounds taken) := by
  induction rounds generalizing taken with
  | zero => exact .exhausted
  | succ rounds ih =>
    refine (next iterator).bind fun value? => ?_
    cases value? with
    | none => exact .pure _
    | some value => exact (ih _).holding [value]

theorem collect (iterable : Value) :
    engine.Composes (engine.collect iterable) := by
  refine Composes.world.bind fun world => ?_
  split
  · exact .pure _
  · refine (iter iterable).bind fun iterator => (roundsFor iterator).bind fun _ => ?_
    exact (takeAll iterator _ []).holding [iterator]

theorem truthWithin (rounds : Nat) (value : Value) :
    engine.Composes (engine.truthWithin rounds value) := by
  induction rounds, value using Engine.truthWithin.induct with
  | case1 inst => exact .exhausted
  | case2 inst rounds ih =>
    refine .holding ((callSpecial _ _ _).bind fun answer? => ?_) _
    cases answer? with
    | some answer => exact ih answer
    | none =>
      refine (callSpecial _ _ _).bind fun size? => ?_
      cases size? with
      | some size => exact .pure _
      | none => exact .pure _
  | case3 rounds value plain =>
    rw [Engine.truthWithin]
    · exact .pure _
    · exact plain

theorem comparisons :
    (∀ left right op, engine.Composes (engine.richCompare left right op)) ∧
    (∀ left right op, engine.Composes (engine.slotCompare left right op)) ∧
    (∀ items right op, engine.Composes (engine.tupleCompare items right op)) ∧
    (∀ items others op, engine.Composes (engine.compareItems items others op)) ∧
    ∀ left right op, engine.Composes (engine.containerCompare left right op) := by
  -- The cases are those of the five functions, in the order of their definition.
  apply Engine.richCompare.mutual_induct
  · intro left right op first second
    rw [Engine.richCompare]
    refine first.bind fun answer? => ?_
    cases answer? with
    | some answer => exact .pure _
    | none =>
      refine second.bind fun answer? => ?_
      cases answer? with
      | some answer => exact .pure _
      | none =>
        dsimp only
        split
        · exact .pure _
        · exact Composes.world.bind fun _ => .throw _
  · intro left right op isInstance inner
    rw [Engine.slotCompare, if_pos isInstance]
    refine (callSpecial _ _ _).bind fun answer? => ?_
    split
    · exact .pure _
    · exact (truthWithin _ _).bind fun _ => .pure _
    · split
      · exact .pure _
      · exact inner _ ‹_›
  · intro left right op notInstance
    rw [Engine.slotCompare, if_neg notInstance]
    exact .pure _
  · intro items right op plain
    rw [Engine.tupleCompare]
    split
    · exact .pure _
    · next others held => cases plain.symm.trans held
  · intro items right op others held inner
    rw [Engine.tupleCompare]
    split
    · exact .pure _
    · next others' same =>
      cases held.symm.trans same
      exact inner.bind fun _ => .pure _
  · intro op
    rw [Engine.compareItems]
    exact .pure _
  · intro op head tail
    rw [Engine.compareItems]
    exact .pure _
  · intro op head tail
    rw [Engine.compareItems]
    exact .pure _
  · intro op item items other others equal rest decide
    rw [Engine.compareItems]
    refine equal.bind fun same => ?_
    split
    · exact rest
    · split
      · exact .pure _
      · exact decide
  · intro left right op answer same
    rw [Engine.containerCompare]
    split
    · exact .pure _
    · simp_all
  · intro left right op different inner
    rw [Engine.containerCompare]
    split
    · exact .pure _
    · exact inner

theorem equal (left right : Value) :
    engine.Composes (engine.equal left right) :=
  comparisons.2.2.2.2 left right .eq

theorem instanceHash (value : Value) {native : Eval σ Int64}
    (computes : engine.Composes native) : engine.Composes (engine.instanceHash value native) := by
  have custom (type : TypeKey) (method : Value) :
      engine.Composes (engine.customHash value type method) := by
    refine (descriptorGet _ _ _ _).bind fun _ => (complete _).bind fun _ =>
      (call _ _).bind fun answer => ?_
    split
    · exact .pure _
    · exact .throw _
  refine Composes.world.bind fun world => ?_
  dsimp only
  split
  · exact .failFor _ _
  · split
    · exact custom _ _
    · exact computes
  · exact computes

theorem hashes :
    (∀ value, engine.Composes (engine.hash value)) ∧
    ∀ count items accumulator, engine.Composes (engine.hashItems count items accumulator) := by
  apply Engine.hash.mutual_induct
  case case7 => exact fun serial slice => .failFor _ _
  case case8 =>
    intro serial type store items computes
    exact instanceHash _ (hashTuple rfl computes)
  case case9 => exact fun serial type store => instanceHash _ (.pure _)
  case case16 =>
    intro count item rest accumulator first others
    exact first.bind fun itemHash => others itemHash
  all_goals
    intros
    exact .pure _

theorem customText (value : Value) :
    engine.Composes (engine.customText value) := by
  -- A failing `__repr__` is passed over, but what it has done stays.
  have asked : engine.Composes (MonadExcept.tryCatch (engine.callSpecial value "__repr__" [])
      fun _ => Pure.pure none) :=
    .tryCatch (callSpecial _ _ _) fun _ => .pure _
  refine asked.bind fun answer => ?_
  split
  · exact .pure _
  · exact Composes.world.bind fun _ => .pure _

theorem texts :
    (∀ value, engine.Composes (engine.repr value)) ∧
    ∀ items, engine.Composes (engine.reprItems items) := by
  apply Engine.repr.mutual_induct
  case case7 => exact fun key => Composes.world.bind fun _ => .pure _
  case case8 =>
    intro serial type store items inner
    refine Composes.world.bind fun world => ?_
    split
    · exact inner.bind fun _ => .pure _
    · exact customText _
  case case9 => exact fun serial type store => customText _
  case case11 =>
    exact fun serial function receiver =>
      (Composes.world.bind fun _ => .pure _).bind fun _ => .pure _
  case case14 => exact fun cursor kind => Composes.world.bind fun _ => .pure _
  case case16 =>
    intro item rest first others
    exact first.bind fun _ => others.bind fun _ => .pure _
  all_goals
    intros
    exact .pure _

theorem tupleItem (items : List Value) (key : Value) :
    engine.Composes (Engine.tupleItem items key : Eval σ Value) := by
  rw [Engine.tupleItem.eq_def]
  split
  · split
    · exact .pure _
    · exact .throw _
  · split
    · exact (ofOption _).bind fun _ => .tuple _
    · exact .failFor _ _

theorem reserve (count : Nat) : engine.Composes (Engine.reserve count : Eval σ Unit) := by
  rw [Engine.reserve]
  split
  · exact .abandon
  · exact .pure _

theorem tupleConcat (items : List Value) (other : Value) :
    engine.Composes (engine.tupleConcat items other) := by
  refine Composes.world.bind fun world => ?_
  split
  · exact .failFor _ _
  · split
    · exact .throw_bind _ _
    · exact (reserve _).bind fun _ => .tuple _

theorem tupleRepeat (items : List Value) (count : Value) :
    engine.Composes (engine.tupleRepeat items count) := by
  rw [Engine.tupleRepeat]
  split
  · exact .failFor _ _
  · split
    · exact .tuple _
    · dsimp only
      split
      · exact .throw_bind _ _
      · exact (reserve _).bind fun _ => .tuple _

theorem tupleContains (items : List Value) (item : Value) :
    engine.Composes (engine.tupleContains items item) := by
  induction items with
  | nil => exact .pure _
  | cons element rest ih =>
    refine (equal element item).bind fun same => ?_
    split
    · exact .pure _
    · exact ih

theorem tupleCount (items : List Value) (item : Value) :
    engine.Composes (engine.tupleCount items item) := by
  induction items with
  | nil => exact .pure _
  | cons element rest ih =>
    exact (equal element item).bind fun _ => ih.bind fun _ => .pure _

theorem firstEqual? (items : List Value) (position : Nat)
    (item : Value) : engine.Composes (engine.firstEqual? items position item) := by
  induction items generalizing position with
  | nil => exact .pure _
  | cons element rest ih =>
    refine (equal element item).bind fun same => ?_
    split
    · exact .pure _
    · exact ih _

theorem tupleIndex (items : List Value) (item : Value)
    (start stop : Option Value) : engine.Composes (engine.tupleIndex items item start stop) := by
  refine (ofExcept _).bind fun _ => (ofExcept _).bind fun _ =>
    (firstEqual? _ _ _).bind fun position? => ?_
  split
  · exact .pure _
  · exact .throw _

theorem checkArgumentCount (name : String) (arguments : List Value) (least most : Nat) :
    engine.Composes (Engine.checkArgumentCount name arguments least most : Eval σ Unit) := by
  rw [Engine.checkArgumentCount]
  split
  · exact .throw _
  · exact .pure _

theorem checkNoKeywords (name : String) (keywords : List Keyword) :
    engine.Composes (Engine.checkNoKeywords name keywords : Eval σ Unit) := by
  rw [Engine.checkNoKeywords]
  split
  · exact .throw _
  · exact .pure _

theorem tupleMethod (method : TupleMethod) (arguments : Arguments) :
    engine.Composes (engine.tupleMethod method arguments) := by
  have counted (arguments : List Value) (least most : Nat) :
      engine.Composes (Engine.checkArgumentCount method.name arguments least most : Eval σ Unit) :=
    checkArgumentCount _ _ _ _
  have plain : engine.Composes
      (Engine.checkNoKeywords method.name arguments.keywords : Eval σ Unit) :=
    checkNoKeywords _ _
  rw [Engine.tupleMethod]
  split
  · exact .throw _
  · split
    · next items carries =>
      cases method with
      | index =>
        exact plain.bind fun _ => (counted _ _ _).bind fun _ =>
          (tupleIndex _ _ _ _).bind fun _ => .pure _
      | count =>
        exact plain.bind fun _ => (counted _ _ _).bind fun _ =>
          (tupleCount _ _).bind fun _ => .pure _
      | newArguments =>
        exact plain.bind fun _ => (counted _ _ _).bind fun _ =>
          (tuple _).bind fun _ => .tuple _
      | length => exact (counted _ _ _).bind fun _ => .pure _
      | item => exact (counted _ _ _).bind fun _ => tupleItem _ _
      | contains =>
        exact (counted _ _ _).bind fun _ => (tupleContains _ _).bind fun _ => .pure _
      | iterate => exact iterate _ _
      | reverse => exact iterate _ _
      | hash => exact (hashTuple carries (hashes.2 _ _ _)).bind fun _ => .pure _
      | repr => exact ((texts.2 _).bind fun _ => .pure _).bind fun _ => .pure _
      | concatenate => exact (counted _ _ _).bind fun _ => tupleConcat _ _
      | repetition => exact (counted _ _ _).bind fun _ => tupleRepeat _ _
    · exact .failFor _ _

theorem iteratorMethod (method : IteratorMethod)
    (arguments : Arguments) : engine.Composes (engine.iteratorMethod method arguments) := by
  rw [Engine.iteratorMethod]
  split
  · exact .throw _
  · cases method with
    | iterate => exact .pure _
    | next =>
      refine (advance _).bind fun value? => ?_
      split
      · exact .pure _
      · exact .throw _
    | lengthHint => exact Composes.world.bind fun _ => .pure _
  · exact .failFor _ _

theorem genericNew (builtin type : TypeKey) :
    engine.Composes (Engine.genericNew builtin type : Eval σ Value) := by
  refine Composes.world.bind fun world => ?_
  split
  · exact .throw _
  · exact .throw _
  · split
    · exact .throw_bind _ _
    · exact (newInstance _ _).bind fun _ => .pure _

theorem exactTupleNew (arguments : Arguments) :
    engine.Composes (engine.exactTupleNew arguments) := by
  refine (checkNoKeywords _ _).bind fun _ => (checkArgumentCount _ _ _ _).bind fun _ => ?_
  split
  · exact .tuple _
  · refine Composes.world.bind fun world => ?_
    split
    · exact .pure _
    · exact (collect _).bind fun _ => .tuple _

theorem tupleNew (type : TypeKey) (arguments : Arguments) :
    engine.Composes (engine.tupleNew type arguments) := by
  rw [Engine.tupleNew]
  split
  · exact exactTupleNew arguments
  · refine Composes.world.bind fun world => ?_
    split
    · exact .throw_bind _ _
    · refine (exactTupleNew _).bind fun plain => ?_
      split
      · exact .throw _
      · exact (newInstance _ _).bind fun _ => .pure _

theorem construct (layout : Layout) (type : TypeKey)
    (arguments : Arguments) : engine.Composes (engine.construct layout type arguments) := by
  cases layout with
  | plain => exact Composes.world.bind fun _ => genericNew _ _
  | tuple => exact tupleNew type arguments
  | «sealed» => exact Composes.world.bind fun _ => .throw _

theorem constructSafely (declaring : TypeKey)
    (arguments : Arguments) : engine.Composes (engine.constructSafely declaring arguments) := by
  obtain ⟨positional, keywords⟩ := arguments
  cases positional with
  | nil => exact Composes.world.bind fun _ => .throw _
  | cons first rest =>
    cases first with
    | type target =>
      rw [constructSafely_type]
      exact Composes.world.bind fun _ => (ofExcept _).bind fun _ =>
        construct _ _ _
    | _ => exact Composes.world.bind fun _ => .throw _

theorem initialise (value : Value) (arguments : Arguments) :
    engine.Composes (engine.initialise value arguments) := by
  refine Composes.world.bind fun world => ?_
  dsimp only
  split
  · exact .pure _
  · refine (descriptorGet _ _ _ _).bind fun _ => (complete _).bind fun _ =>
      (call _ _).bind fun answer => ?_
    split
    · exact .failFor _ _
    · exact .pure _

theorem typeCall (type : TypeKey) (arguments : Arguments) :
    engine.Composes (engine.typeCall type arguments) := by
  have finished (value : Value) : engine.Composes (do
      let world ← Eval.world
      if world.isSubtype (world.typeOf value) type then
        Eval.holding [value] (engine.initialise value arguments)
      return value) := by
    refine Composes.world.bind fun world => ?_
    split
    · exact ((initialise value arguments).holding [value]).bind fun _ => .pure _
    · exact .pure _
  refine Composes.world.bind fun world => ?_
  split
  · exact .throw_bind _ _
  · exact (call _ _).bind finished
  · exact (construct _ _ _).bind finished

theorem invoke (function : Function) (arguments : Arguments) :
    engine.Composes (engine.invoke function arguments) := by
  rw [Engine.invoke]
  split
  · exact tupleMethod _ _
  · exact iteratorMethod _ _
  · refine Composes.world.bind fun world => ?_
    split
    · exact .throw_bind _ _
    · exact constructSafely _ _
  · exact run _ _

theorem callValue (callee : Value) (arguments : Arguments) :
    engine.Composes (engine.callValue callee arguments) := by
  rw [Engine.callValue.eq_def]
  split
  · exact invoke _ _
  · exact invoke _ _
  · exact typeCall _ _
  · refine (lookupSpecial _ _).bind fun method? => ?_
    split
    · exact .failFor _ _
    · exact .failFor _ _
    · exact call _ _

end Composes

end Engine

/-- A property that an operation has as soon as its parts have it. -/
structure Eval.Compositional {σ : Type} (property : (α : Type) → Eval σ α → Prop) : Prop where
  pure : ∀ {α} (value : α), property α (Pure.pure value)
  throw : ∀ {α} (error : Error), property α (MonadExcept.throw error)
  abandon : ∀ {α}, property α Eval.abandon
  exhausted : ∀ {α}, property α Eval.exhausted
  bind : ∀ {α β} {first : Eval σ α} {next : α → Eval σ β}, property α first →
    (∀ value, property β (next value)) → property β (first >>= next)
  tryCatch : ∀ {α} {body : Eval σ α} {handler : Error → Eval σ α}, property α body →
    (∀ error, property α (handler error)) → property α (MonadExcept.tryCatch body handler)
  holding : ∀ {α} {operation : Eval σ α}, property α operation →
    ∀ values, property α (Eval.holding values operation)
  world : property World Eval.world
  newSerial : property Nat (Eval.create World.newSerial)
  newInstance : ∀ type payload, property (Instance Value)
    (Eval.create fun world => world.newInstance type payload)
  newIterator : ∀ kind cursor, property Value
    (Eval.create fun world => world.newIterator kind cursor)
  step : ∀ cursor, property (Except Error (Option Value)) (Eval.create (·.advance cursor))
  hashTuple : ∀ (engine : Engine σ) {tuple : Value} {items : List Value},
    tuple.items? = some items → property Int64 (engine.hashItems items.length items {}) →
    property Int64 (engine.hashTuple tuple items)

structure Engine.Offers {σ : Type} (property : (α : Type) → Eval σ α → Prop) (engine : Engine σ) :
    Prop where
  call : ∀ callee arguments, property Value (engine.call callee arguments)
  run : ∀ code arguments, property Value (engine.run code arguments)
  proceed : ∀ resumption, property Progress (engine.proceed resumption)
  release : ∀ cursor, property Unit (engine.release cursor)

structure Host.Respects {σ : Type} (property : (α : Type) → Eval σ α → Prop) (host : Host σ) :
    Prop where
  run : ∀ engine : Engine σ, engine.Offers property → ∀ code arguments,
    property Value (host.run engine code arguments)
  proceed : ∀ engine : Engine σ, engine.Offers property → ∀ resumption,
    property Progress (host.proceed engine resumption)

section Properties

variable {σ α : Type} {property : (α : Type) → Eval σ α → Prop}

theorem Engine.Composes.inherits {engine : Engine σ} {operation : Eval σ α}
    (composes : engine.Composes operation) (compositional : Eval.Compositional property)
    (offers : engine.Offers property) : property α operation := by
  induction composes with
  | pure value => exact compositional.pure value
  | throw error => exact compositional.throw error
  | abandon => exact compositional.abandon
  | exhausted => exact compositional.exhausted
  | bind _ _ first rest => exact compositional.bind first rest
  | tryCatch _ _ body handles => exact compositional.tryCatch body handles
  | holding _ values ih => exact compositional.holding ih values
  | world => exact compositional.world
  | newSerial => exact compositional.newSerial
  | newInstance type payload => exact compositional.newInstance type payload
  | newIterator kind cursor => exact compositional.newIterator kind cursor
  | step cursor => exact compositional.step cursor
  | hashTuple carries _ computes => exact compositional.hashTuple engine carries computes
  | call callee arguments => exact offers.call callee arguments
  | run code arguments => exact offers.run code arguments
  | proceed resumption => exact offers.proceed resumption
  | release cursor => exact offers.release cursor

theorem Host.Respects.engine {host : Host σ} (respects : host.Respects property)
    (compositional : Eval.Compositional property)
    (releases : ∀ cursor, property Unit (host.release cursor)) (limits : Limits)
    (patience depth : Nat) : (host.engine limits patience depth).Offers property := by
  -- An engine calls back through the one with a level less.
  induction depth with
  | zero =>
    exact
      { call := fun _ _ => compositional.exhausted
        run := fun _ _ => compositional.exhausted
        proceed := fun _ => compositional.exhausted
        release := releases }
  | succ depth ih =>
    exact
      { call := fun callee arguments => compositional.holding
          ((Engine.Composes.callValue callee arguments).inherits compositional ih) _
        run := fun code arguments =>
          compositional.holding (respects.run _ ih code arguments) _
        proceed := fun resumption =>
          compositional.holding (respects.proceed _ ih resumption) _
        release := releases }

end Properties

section Ends

variable {σ α β : Type} {moves : State σ → State σ → Prop}

def Outcome.EndsIn (ends : State σ → Prop) : Outcome σ α → Prop
  | .done _ later | .abandoned later => ends later
  -- Nothing is known of the state then.
  | .exhausted => True

theorem Outcome.EndsIn.mono {narrow wide : State σ → Prop} {outcome : Outcome σ α}
    (within : outcome.EndsIn narrow) (weaker : ∀ later, narrow later → wide later) :
    outcome.EndsIn wide := by
  cases outcome with
  | exhausted => trivial
  | abandoned later => exact weaker _ within
  | done result later => exact weaker _ within

def Eval.Moves (moves : State σ → State σ → Prop) (operation : Eval σ α) : Prop :=
  ∀ held state, (operation held state).EndsIn (moves state)

namespace Eval.Moves

variable (trans : ∀ {state middle later}, moves state middle → moves middle later →
  moves state later)

include trans

theorem bind {first : Eval σ α} {next : α → Eval σ β} (before : Moves moves first)
    (rest : ∀ value, Moves moves (next value)) : Moves moves (first >>= next) := by
  intro held state
  have reached := before held state
  rw [Eval.bind_apply]
  generalize first held state = outcome at reached ⊢
  cases outcome with
  | exhausted => trivial
  | abandoned middle => exact reached
  | done result middle =>
    cases result with
    | error error => exact reached
    | ok value => exact (rest value held middle).mono fun later => trans reached

theorem tryCatch {body : Eval σ α} {handler : Error → Eval σ α} (before : Moves moves body)
    (handles : ∀ error, Moves moves (handler error)) :
    Moves moves (MonadExcept.tryCatch body handler) := by
  intro held state
  have reached := before held state
  change (Eval.recover body handler held state).EndsIn _
  rw [Eval.recover]
  generalize body held state = outcome at reached ⊢
  cases outcome with
  | exhausted => trivial
  | abandoned middle => exact reached
  | done result middle =>
    cases result with
    | ok value => exact reached
    | error error => exact (handles error held middle).mono fun later => trans reached

end Eval.Moves

end Ends

end ObjectModel
