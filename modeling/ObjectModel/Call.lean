import ObjectModel.Construction

set_option autoImplicit false

namespace ObjectModel

namespace Engine

variable {σ : Type}

def invoke (engine : Engine σ) (function : Function) (arguments : Arguments) : Eval σ Value := do
  match function.body with
  | .tuple method => engine.tupleMethod method arguments
  | .iterator method => engine.iteratorMethod method arguments
  | .construct declaring =>
    if ((← Eval.world).type? declaring).isNone then throw .declaringTypeGone
    engine.constructSafely declaring arguments
  | .code code => engine.run code arguments

def callValue (engine : Engine σ) (callee : Value) (arguments : Arguments) : Eval σ Value := do
  match callee with
  | .function function => engine.invoke function arguments
  | .boundMethod _ function receiver => engine.invoke function (arguments.prepend receiver)
  | .type type => engine.typeCall type arguments
  | other =>
    match ← engine.lookupSpecial other "__call__" with
    | none | some .none => .failFor other .notCallable
    | some method => engine.call method arguments

def callMethod (engine : Engine σ) (receiver : Value) (name : String) (arguments : Arguments) :
    Eval σ Value := do
  engine.call (← engine.getAttr receiver name) arguments

end Engine

/-- What the host of the object model contributes: the meaning of its code. -/
structure Host (σ : Type) where
  run : Engine σ → Code → Arguments → Eval σ Value
  proceed : Engine σ → Resumption → Eval σ Progress
  roots : σ → Roots

def Host.release {σ : Type} (host : Host σ) (cursor : CursorKey) : Eval σ Unit := do
  let roots := host.roots (← Eval.host) ++ (← Eval.held)
  Eval.modifyWorld (·.releaseDead roots cursor)

/-- The engine that has `depth` nesting levels to spend. A call holds what is called and its
arguments until it is over. -/
def Host.engine {σ : Type} (host : Host σ) (limits : Limits) (patience : Nat) : Nat → Engine σ
  | 0 =>
    { limits, patience
      call := fun _ _ => .exhausted
      run := fun _ _ => .exhausted
      proceed := fun _ => .exhausted
      release := host.release }
  | depth + 1 =>
    { limits, patience
      call := fun callee arguments =>
        Eval.holding (callee :: arguments.values)
          ((host.engine limits patience depth).callValue callee arguments)
      run := fun code arguments =>
        Eval.holding arguments.values
          (host.run (host.engine limits patience depth) code arguments)
      proceed := fun resumption =>
        Eval.holding resumption.arguments
          (host.proceed (host.engine limits patience depth) resumption)
      release := host.release }

end ObjectModel
