import ObjectModel.Value.Basic

set_option autoImplicit false

namespace ObjectModel

inductive SuspensionKind where
  -- A hint to a scheduler; resuming at once is always right.
  | optional
  -- Waits for something outside and cannot be resumed in place.
  | blocking
  deriving DecidableEq, Repr

/-- Host code for its arguments, resumed `stage` times so far. -/
structure Resumption where
  code : Code
  arguments : List Value
  stage : Nat

def Resumption.next (resumption : Resumption) : Resumption :=
  { resumption with stage := resumption.stage + 1 }

inductive Progress where
  | finished (value : Value)
  | paused (kind : SuspensionKind) (label : String)

structure Suspension (α : Type) where
  label : String
  kind : SuspensionKind
  rest : Resumption
  wrap : Value → α

/-- A result, or a paused computation that leads to one. -/
inductive Completion (α : Type) where
  | ready (value : α)
  | suspended (suspension : Suspension α)

namespace Completion

variable {α β : Type}

def isReady : Completion α → Bool
  | ready _ => true
  | suspended _ => false

def pending : Completion α → List Value
  | ready _ => []
  | suspended suspension => suspension.rest.arguments

def ready? : Completion α → Option α
  | ready value => some value
  | suspended _ => none

def map (change : α → β) : Completion α → Completion β
  | ready value => ready (change value)
  | suspended suspension =>
    suspended
      { label := suspension.label
        kind := suspension.kind
        rest := suspension.rest
        wrap := fun value => change (suspension.wrap value) }

def ofProgress (resumption : Resumption) : Progress → Completion Value
  | .finished value => ready value
  | .paused kind label => suspended { label, kind, rest := resumption.next, wrap := id }

@[simp]
theorem isReady_map (change : α → β) (completion : Completion α) :
    (completion.map change).isReady = completion.isReady := by
  cases completion <;> rfl

@[simp]
theorem ready?_map (change : α → β) (completion : Completion α) :
    (completion.map change).ready? = completion.ready?.map change := by
  cases completion <;> rfl

@[simp]
theorem map_id (completion : Completion α) : completion.map id = completion := by
  cases completion <;> rfl

end Completion

end ObjectModel
