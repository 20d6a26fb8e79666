import ObjectModel.Proofs.Extension
import ObjectModel.Proofs.Operations

set_option autoImplicit false

namespace ObjectModel

/-- A relation to later worlds that survives what operations do by themselves. -/
class World.Lasting (kept : World → World → Prop) : Prop where
  refl : ∀ world, kept world world
  trans : ∀ {world middle later}, kept world middle → kept middle later → kept world later
  newSerial : ∀ world : World, kept world world.newSerial.2
  newStore : ∀ world : World, kept world world.newStore.2
  newIterator : ∀ (world : World) kind cursor, kept world (world.newIterator kind cursor).2
  advance : ∀ (world : World) cursor, kept world (world.advance cursor).2
  releaseDead : ∀ (world : World) roots cursor, kept world (world.releaseDead roots cursor)
  rememberHash : ∀ (world : World) tuple hash, kept world (world.rememberHash tuple hash).2

namespace World.Lasting

variable {kept : World → World → Prop} [lasting : Lasting kept]

theorem newInstance (world : World) (type : TypeKey)
    (payload : Payload Value) : kept world (world.newInstance type payload).2 := by
  simp only [World.newInstance]
  split
  · exact lasting.trans (lasting.newSerial world) (lasting.newStore _)
  · exact lasting.newSerial world

end World.Lasting

-- What operations do by themselves leaves all types and registries as they are.
theorem World.Lasting.of_registries {kept : World → World → Prop}
    (same : ∀ {world later : World}, later.types = world.types →
      later.registries = world.registries → kept world later)
    (trans : ∀ {world middle later}, kept world middle → kept middle later → kept world later) :
    Lasting kept where
  refl world := same rfl rfl
  trans := trans
  newSerial world := same rfl rfl
  newStore world := same rfl rfl
  newIterator world kind cursor := same rfl rfl
  advance world cursor := by
    rw [World.advance]
    split <;> exact same rfl rfl
  releaseDead world roots cursor := by
    simp only [World.releaseDead]
    split
    · exact same rfl rfl
    · split <;> exact same rfl rfl
  rememberHash world tuple hash := by
    rw [World.rememberHash]
    split <;> exact same rfl rfl

theorem World.Lasting.of_types {kept : World → World → Prop}
    (same : ∀ {world later : World}, later.types = world.types → kept world later)
    (trans : ∀ {world middle later}, kept world middle → kept middle later → kept world later) :
    Lasting kept :=
  .of_registries (fun types _ => same types) trans

instance World.Retains.lasting (key : TypeKey) : World.Lasting (World.Retains key) :=
  .of_types .of_types_eq .trans

section Keeps

variable {σ α β : Type} {kept : World → World → Prop} [lasting : World.Lasting kept]

def Outcome.Leaves (kept : World → Prop) : Outcome σ α → Prop
  | .done _ later | .abandoned later => kept later.world
  -- Nothing is known of the state then.
  | .exhausted => True

omit lasting in
theorem Outcome.leaves_iff {kept : World → Prop} {outcome : Outcome σ α} :
    outcome.Leaves kept ↔ outcome.EndsIn fun later => kept later.world := by
  cases outcome <;> rfl

def Eval.Keeps (kept : World → World → Prop) (operation : Eval σ α) : Prop :=
  ∀ held state, (operation held state).Leaves (kept state.world)

namespace Eval.Keeps

theorem pure (value : α) : Keeps kept (Pure.pure value : Eval σ α) :=
  fun _ state => lasting.refl state.world

theorem throw (error : Error) :
    Keeps kept (MonadExcept.throw error : Eval σ α) :=
  fun _ state => lasting.refl state.world

omit lasting in
theorem exhausted : Keeps kept (Eval.exhausted : Eval σ α) :=
  fun _ _ => trivial

omit lasting in
theorem moves_iff {operation : Eval σ α} :
    Keeps kept operation ↔ operation.Moves fun state later => kept state.world later.world :=
  forall_congr' fun _ => forall_congr' fun _ => Outcome.leaves_iff

theorem bind {first : Eval σ α} {next : α → Eval σ β}
    (keeps : Keeps kept first) (rest : ∀ value, Keeps kept (next value)) :
    Keeps kept (first >>= next) := by
  rw [moves_iff] at keeps ⊢
  refine keeps.bind ?_ fun value => moves_iff.mp (rest value)
  exact lasting.trans

theorem tryCatch {body : Eval σ α} {handler : Error → Eval σ α}
    (keeps : Keeps kept body) (handles : ∀ error, Keeps kept (handler error)) :
    Keeps kept (MonadExcept.tryCatch body handler) := by
  rw [moves_iff] at keeps ⊢
  refine keeps.tryCatch ?_ fun error => moves_iff.mp (handles error)
  exact lasting.trans

omit lasting in
theorem holding {operation : Eval σ α} (keeps : Keeps kept operation) (values : List Value) :
    Keeps kept (Eval.holding values operation) :=
  fun held state => keeps (held.addValues values) state

theorem world : Keeps kept (Eval.world : Eval σ World) :=
  fun _ state => lasting.refl state.world

omit lasting in
theorem create {make : World → α × World} (keeps : ∀ world, kept world (make world).2) :
    Keeps kept (Eval.create make : Eval σ α) :=
  fun _ state => keeps state.world

theorem failFor (value : Value) (error : String → Error) :
    Keeps kept (Eval.failFor value error : Eval σ α) :=
  (world.bind fun _ => pure _).bind fun _ => throw _

end Eval.Keeps

end Keeps

structure Engine.Keeps {σ : Type} (kept : World → World → Prop) (engine : Engine σ) : Prop where
  call : ∀ callee arguments, Eval.Keeps kept (engine.call callee arguments)
  run : ∀ code arguments, Eval.Keeps kept (engine.run code arguments)
  proceed : ∀ resumption, Eval.Keeps kept (engine.proceed resumption)
  release : ∀ cursor, Eval.Keeps kept (engine.release cursor)

theorem Eval.Keeps.compositional {σ : Type} (kept : World → World → Prop) [World.Lasting kept] :
    Eval.Compositional fun α => (Eval.Keeps kept : Eval σ α → Prop) where
  pure := .pure
  throw := .throw
  abandon _ state := World.Lasting.refl state.world
  exhausted := .exhausted
  bind := .bind
  tryCatch := .tryCatch
  holding := .holding
  world := .world
  newSerial := .create World.Lasting.newSerial
  newInstance type payload :=
    .create fun world => World.Lasting.newInstance world type payload
  newIterator kind cursor := .create fun world => World.Lasting.newIterator world kind cursor
  step cursor := .create fun world => World.Lasting.advance world cursor
  hashTuple engine tuple items _ computes := by
    refine Eval.Keeps.world.bind fun world => ?_
    split
    · exact .pure _
    · exact computes.bind fun hash =>
        .create fun world => World.Lasting.rememberHash world tuple hash

namespace Engine.Keeps

variable {σ α : Type} {kept : World → World → Prop} {engine : Engine σ}

theorem offers (keeps : engine.Keeps kept) : engine.Offers fun _ => Eval.Keeps kept :=
  ⟨keeps.call, keeps.run, keeps.proceed, keeps.release⟩

theorem of_offers (offers : engine.Offers fun _ => Eval.Keeps kept) : engine.Keeps kept :=
  ⟨offers.call, offers.run, offers.proceed, offers.release⟩

variable [World.Lasting kept]

theorem composed (keeps : engine.Keeps kept) {operation : Eval σ α}
    (composes : engine.Composes operation) : Eval.Keeps kept operation :=
  composes.inherits (Eval.Keeps.compositional kept) keeps.offers

theorem constructSafely (keeps : engine.Keeps kept) (declaring : TypeKey)
    (arguments : Arguments) : Eval.Keeps kept (engine.constructSafely declaring arguments) :=
  keeps.composed (.constructSafely declaring arguments)

theorem typeCall (keeps : engine.Keeps kept) (type : TypeKey) (arguments : Arguments) :
    Eval.Keeps kept (engine.typeCall type arguments) :=
  keeps.composed (.typeCall type arguments)

end Engine.Keeps

structure Host.Keeps {σ : Type} (kept : World → World → Prop) (host : Host σ) : Prop where
  run : ∀ engine : Engine σ, engine.Keeps kept → ∀ code arguments,
    Eval.Keeps kept (host.run engine code arguments)
  proceed : ∀ engine : Engine σ, engine.Keeps kept → ∀ resumption,
    Eval.Keeps kept (host.proceed engine resumption)

theorem Host.Keeps.engine {σ : Type} {kept : World → World → Prop} [lasting : World.Lasting kept]
    {host : Host σ} (keeps : host.Keeps kept) (limits : Limits) (patience depth : Nat) :
    (host.engine limits patience depth).Keeps kept := by
  have respects : host.Respects fun _ => Eval.Keeps kept :=
    ⟨fun engine offers => keeps.run engine (.of_offers offers),
      fun engine offers => keeps.proceed engine (.of_offers offers)⟩
  have releases (cursor : CursorKey) : Eval.Keeps kept (host.release cursor) :=
    fun held state => lasting.releaseDead state.world _ cursor
  exact .of_offers (respects.engine (Eval.Keeps.compositional kept) releases limits patience depth)

end ObjectModel
