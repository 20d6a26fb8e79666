import ObjectModel.Error
import ObjectModel.Ownership
import ObjectModel.Registry

/-!
# Evaluation

An operation runs on a state and ends with a result, with a failure, by giving up, or without an
answer because its budget ran out. A failure keeps every change made before it, and so does giving
up, which nothing can handle. Running out of budget is no failure either: nothing is known of the
state then.

While an operation runs, the operations around it hold on to values and stores that nothing else may
refer to.
-/

set_option autoImplicit false

namespace ObjectModel

structure State (σ : Type) where
  world : World
  host : σ

/-- How an operation ends. -/
inductive Outcome (σ α : Type) where
  | done (result : Except Error α) (state : State σ)
  /-- Given up because a number left the range of a word. -/
  | abandoned (state : State σ)
  | exhausted

/-- An operation on the state, for what the operations around it hold. -/
def Eval (σ α : Type) : Type :=
  Roots → State σ → Outcome σ α

namespace Eval

variable {σ α β : Type}

@[inline]
def andThen (first : Eval σ α) (next : α → Eval σ β) : Eval σ β := fun held state =>
  match first held state with
  | .done (.ok value) state => next value held state
  | .done (.error error) state => .done (.error error) state
  | .abandoned state => .abandoned state
  | .exhausted => .exhausted

@[inline]
def succeed (value : α) : Eval σ α := fun _ state =>
  .done (.ok value) state

@[inline]
def fail (error : Error) : Eval σ α := fun _ state =>
  .done (.error error) state

@[inline]
def recover (body : Eval σ α) (handler : Error → Eval σ α) : Eval σ α := fun held state =>
  match body held state with
  | .done (.error error) state => handler error held state
  | outcome => outcome

@[inline]
def abandon : Eval σ α := fun _ state =>
  .abandoned state

@[inline]
def exhausted : Eval σ α := fun _ _ =>
  .exhausted

@[inline]
def holding (values : List Value) (body : Eval σ α) : Eval σ α := fun held state =>
  body (held.addValues values) state

@[inline]
def holdingStore (store : StoreKey) (body : Eval σ α) : Eval σ α := fun held state =>
  body (held.addStore store) state

@[inline]
def held : Eval σ Roots := fun held state =>
  .done (.ok held) state

instance : Monad (Eval σ) where
  pure := succeed
  bind := andThen

instance : MonadExceptOf Error (Eval σ) where
  throw := fail
  tryCatch := recover

instance : Inhabited (Eval σ α) := ⟨exhausted⟩

instance : LawfulMonad (Eval σ) :=
  LawfulMonad.mk' _
    (fun operation => by
      funext held state
      change andThen operation succeed held state = operation held state
      simp only [andThen]
      split <;> simp_all [succeed])
    (fun _ _ => rfl)
    (fun operation next rest => by
      funext held state
      change andThen (andThen operation next) rest held state =
        andThen operation (fun value => andThen (next value) rest) held state
      simp only [andThen]
      cases operation held state with
      | exhausted => rfl
      | abandoned state => rfl
      | done result state => cases result <;> rfl)

@[simp]
theorem pure_apply (value : α) (held : Roots) (state : State σ) :
    (pure value : Eval σ α) held state = .done (.ok value) state := rfl

@[simp]
theorem throw_apply (error : Error) (held : Roots) (state : State σ) :
    (throw error : Eval σ α) held state = .done (.error error) state := rfl

theorem bind_apply (operation : Eval σ α) (next : α → Eval σ β) (held : Roots)
    (state : State σ) :
    (operation >>= next) held state =
      match operation held state with
      | .done (.ok value) state => next value held state
      | .done (.error error) state => .done (.error error) state
      | .abandoned state => .abandoned state
      | .exhausted => .exhausted := rfl

@[simp]
theorem holding_pure (values : List Value) (value : α) :
    holding values (pure value : Eval σ α) = pure value := rfl

@[simp]
theorem holding_throw (values : List Value) (error : Error) :
    holding values (throw error : Eval σ α) = throw error := rfl

@[simp]
theorem holding_bind (values : List Value) (operation : Eval σ α) (next : α → Eval σ β) :
    holding values (operation >>= next) =
      holding values operation >>= fun value => holding values (next value) := rfl

@[inline]
def world : Eval σ World := fun _ state =>
  .done (.ok state.world) state

@[inline]
def host : Eval σ σ := fun _ state =>
  .done (.ok state.host) state

@[inline]
def modifyWorld (change : World → World) : Eval σ Unit := fun _ state =>
  .done (.ok ()) { state with world := change state.world }

@[inline]
def modifyHost (change : σ → σ) : Eval σ Unit := fun _ state =>
  .done (.ok ()) { state with host := change state.host }

@[inline]
def create (make : World → α × World) : Eval σ α := fun _ state =>
  let (value, world) := make state.world
  .done (.ok value) { state with world }

@[inline]
def createOrFail (make : World → Except Error (α × World)) : Eval σ α := fun _ state =>
  match make state.world with
  | .ok (value, world) => .done (.ok value) { state with world }
  | .error error => .done (.error error) state

@[inline]
def ofExcept (result : Except Error α) : Eval σ α := fun _ state =>
  .done result state

@[inline]
def ofOption (result : Option α) : Eval σ α :=
  result.elim abandon succeed

def attempt (step : World → Except Error α × World) : Eval σ α := do
  ofExcept (← create step)

def tuple (items : List Value) : Eval σ Value :=
  create fun world => world.newTuple items

def typeName (value : Value) : Eval σ String := do
  return (← world).typeName value

def failFor (value : Value) (error : String → Error) : Eval σ α := do
  throw (error (← typeName value))

end Eval

end ObjectModel
