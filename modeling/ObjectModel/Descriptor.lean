import ObjectModel.Engine

set_option autoImplicit false

namespace ObjectModel

inductive Category where
  | plain | nonData | data
  deriving DecidableEq, Repr

def Value.category : Value → Category
  | .descriptor held => if held.isData then .data else .nonData
  | .function held =>
    match held.binding with
    | .method => .nonData
    | .static => .plain
  | _ => .plain

def Category.isData (category : Category) : Bool :=
  category = .data

def Category.hasGetter (category : Category) : Bool :=
  category ≠ .plain

namespace Engine

variable {σ : Type}

def typeReceiver (receiver : Value) : Eval σ TypeKey :=
  match receiver with
  | .type key => pure key
  | other => .failFor other .typeReceiverExpected

def readGetter (engine : Engine σ) (getter : Getter) (receiver : Value) :
    Eval σ (Completion Value) := do
  match getter with
  | .typeOf => return .ready (.type ((← Eval.world).typeOf receiver))
  | .typeName => return .ready (.str ((← Eval.world).nameOf (← typeReceiver receiver)))
  | .typeBase =>
    let key ← typeReceiver receiver
    let base := ((← Eval.world).type? key).bind (·.base)
    return .ready (base.elim .none .type)
  | .typeChain =>
    let key ← typeReceiver receiver
    return .ready (← Eval.tuple (((← Eval.world).chain key).map .type))
  | .code code => engine.start code [receiver]

def readDescriptor (engine : Engine σ) (descriptor : Descriptor) (receiver? : Option Value)
    (owner : TypeKey) (allowSuspend : Bool) : Eval σ (Completion Value) := do
  match descriptor with
  | .property _ name getter _ =>
    match receiver? with
    | some receiver => engine.readGetter getter receiver
    | none => throw (.propertyWithoutInstance name ((← Eval.world).nameOf owner))
  | .accessor _ _ _ getter _ =>
    engine.start getter [receiver?.getD .none, .type owner, .bool allowSuspend]

def writeDescriptor (engine : Engine σ) (descriptor : Descriptor) (receiver : Value)
    (value? : Option Value) (allowSuspend : Bool) : Eval σ (Completion Unit) := do
  let request := [receiver, value?.getD .none, .bool value?.isSome]
  match descriptor with
  | .property _ name _ none =>
    .failFor receiver fun typeName => .readOnlyProperty name typeName value?.isNone
  | .property _ _ _ (some setter) =>
    return (← engine.start setter request).map fun _ => ()
  | .accessor _ _ _ _ setter =>
    return (← engine.start setter (request ++ [.bool allowSuspend])).map fun _ => ()

/-- Fetches a value found on a type: binds functions, runs getters, gives all else as it is. A data
descriptor that is read from the type itself is given as it is, too. -/
def descriptorGet (engine : Engine σ) (found : Value) (receiver? : Option Value)
    (owner : TypeKey) (allowSuspend : Bool) : Eval σ (Completion Value) := do
  match found, receiver? with
  | .function function, some receiver =>
    match function.binding with
    | .method =>
      let serial ← Eval.create World.newSerial
      return .ready (.boundMethod serial function receiver)
    | .static => return .ready found
  | .descriptor descriptor, _ =>
    if descriptor.isData && receiver?.isNone then
      return .ready found
    else
      engine.settle allowSuspend (← engine.readDescriptor descriptor receiver? owner allowSuspend)
  | _, _ => return .ready found

def descriptorSet (engine : Engine σ) (found : Value) (receiver : Value) (value? : Option Value)
    (allowSuspend : Bool) : Eval σ (Completion Unit) := do
  match found with
  | .descriptor descriptor =>
    if descriptor.isData then
      engine.settle allowSuspend (← engine.writeDescriptor descriptor receiver value? allowSuspend)
    else
      .failFor found .notADataDescriptor
  | other => .failFor other .notADataDescriptor

end Engine

end ObjectModel
