import ObjectModel.Completion
import ObjectModel.Eval
import ObjectModel.Limits
import ObjectModel.Ownership

/-!
# Engines

Operations on values may call back into other values and into code of the host. An engine is what
they call back through: it stands for the same object model with one nesting level less to spend.
-/

set_option autoImplicit false

namespace ObjectModel

/-- What operations may ask for while they run. -/
structure Engine (σ : Type) where
  limits : Limits
  /-- How many rounds a loop driven by host code may take. -/
  patience : Nat
  call : Value → Arguments → Eval σ Value
  run : Code → Arguments → Eval σ Value
  proceed : Resumption → Eval σ Progress
  -- Lets an iterator stop watching a store that nothing keeps alive.
  release : CursorKey → Eval σ Unit

namespace Engine

variable {σ α : Type}

def start (engine : Engine σ) (code : Code) (arguments : List Value) :
    Eval σ (Completion Value) := do
  let first : Resumption := { code, arguments, stage := 0 }
  return Completion.ofProgress first (← engine.proceed first)

def resume (engine : Engine σ) (suspension : Suspension α) : Eval σ (Completion α) := do
  let progress ← engine.proceed suspension.rest
  return (Completion.ofProgress suspension.rest progress).map suspension.wrap

def drain (engine : Engine σ) (limit : Nat) : Nat → Completion α → Eval σ α
  | _, .ready value => pure value
  | remaining, .suspended suspension =>
    match suspension.kind, remaining with
    | .blocking, _ => throw (.blockedSuspension suspension.label)
    | .optional, 0 => throw (.unfinishedSuspension suspension.label limit)
    | .optional, remaining + 1 => do
      engine.drain limit remaining (← engine.resume suspension)

def finish (engine : Engine σ) (limit : Nat) (completion : Completion α) : Eval σ α :=
  engine.drain limit limit completion

def complete (engine : Engine σ) (completion : Completion α) : Eval σ α :=
  engine.finish engine.limits.maxSuspensionResumes completion

/-- Leaves the completion to a caller that can suspend, and finishes it for one that cannot. -/
def settle (engine : Engine σ) (allowSuspend : Bool) (completion : Completion α) :
    Eval σ (Completion α) :=
  if allowSuspend || completion.isReady then
    pure completion
  else do
    return .ready (← engine.complete completion)

end Engine

end ObjectModel
