import ObjectModel.Tuple

set_option autoImplicit false

namespace ObjectModel

/-- How a type makes its instances. -/
inductive NewSlot where
  -- Through `__new__` written into a type at run time.
  | user (new : Value)
  -- Through the native layout of the nearest built-in ancestor.
  | native (layout : Layout)

namespace World

def newSlotAt? (world : World) (key : TypeKey) : Option NewSlot :=
  match if world.hasUserNew key then world.member? key "__new__" else none with
  | some new => some (.user new)
  | none => (world.declaredLayout key).map .native

def newSlot? (world : World) (type : TypeKey) : Option NewSlot :=
  (world.chain type).findSome? world.newSlotAt?

end World

namespace Engine

variable {σ : Type}

/-- Allocates an instance of `type` with the empty payload of `builtin`. -/
def genericNew (builtin type : TypeKey) : Eval σ Value := do
  let world ← Eval.world
  match world.layoutOf? builtin with
  | none | some .sealed => throw (.unconstructible (world.nameOf builtin))
  | some layout =>
    if builtin ≠ type && !world.isSubtype type builtin then
      throw (.allocationForStranger (world.nameOf builtin) (world.nameOf type))
    return .object (← Eval.create fun world => world.newInstance type layout.zeroPayload)

def objectNew (type : TypeKey) : Eval σ Value := do
  genericNew (((← Eval.world).ancestors type).getLast?.getD type) type

def exactTupleNew (engine : Engine σ) (arguments : Arguments) : Eval σ Value := do
  checkNoKeywords "tuple" arguments.keywords
  checkArgumentCount "tuple" arguments.positional 0 1
  match arguments.positional with
  | [] => Eval.tuple []
  | source :: _ =>
    if (← Eval.world).isExactTuple source then return source
    Eval.tuple (← engine.collect source)

/-- Makes an exact tuple, or an instance of a subtype that carries the items of one. Keywords are
left to the `__init__` of the subtype. -/
def tupleNew (engine : Engine σ) (type : TypeKey) (arguments : Arguments) : Eval σ Value := do
  if type = Builtin.tuple.key then
    engine.exactTupleNew arguments
  else
    let world ← Eval.world
    if !world.isSubtype type Builtin.tuple.key then throw (.notATupleType (world.nameOf type))
    let plain ← engine.exactTupleNew { positional := arguments.positional }
    match plain.items? with
    | none => throw .tupleExpected
    | some items =>
      return .object (← Eval.create fun world => world.newInstance type (.tuple items))

def construct (engine : Engine σ) (layout : Layout) (type : TypeKey) (arguments : Arguments) :
    Eval σ Value := do
  match layout with
  | .plain => objectNew type
  | .tuple => engine.tupleNew type arguments
  | .sealed => throw (.unconstructible ((← Eval.world).nameOf type))

/-- Runs `declaring.__new__`: the first argument is a type that extends `declaring` and has the
same native layout. -/
def constructSafely (engine : Engine σ) (declaring : TypeKey) (arguments : Arguments) :
    Eval σ Value := do
  let world ← Eval.world
  let this := world.nameOf declaring
  match arguments.positional with
  | [] => throw (.newWithoutTarget this)
  | .type target :: rest =>
    let name := world.nameOf target
    if !world.isSubtype target declaring then throw (.newForStranger this name)
    match world.layoutOwner? target with
    | none => throw (.noNativeConstructor name)
    | some owner =>
      let expected := world.layoutOf? declaring
      if world.declaredLayout owner ≠ expected then
        throw (.newUnsafe this name (world.nameOf owner))
      match expected with
      | some layout => engine.construct layout target { arguments with positional := rest }
      | none => throw (.noNativeConstructor this)
  | other :: _ => throw (.newForNonType this (world.typeName other))

def initialise (engine : Engine σ) (value : Value) (arguments : Arguments) : Eval σ Unit := do
  let world ← Eval.world
  let type := world.typeOf value
  match world.lookup type "__init__" with
  | none => return ()
  | some init =>
    let bound ← engine.complete (← engine.descriptorGet init (some value) type false)
    let answer ← engine.call bound arguments
    if !answer.isNone then .failFor answer .initReturnedValue

/-- Calls a type. A constructor may give something else than an instance of the type, which is then
not initialised. -/
def typeCall (engine : Engine σ) (type : TypeKey) (arguments : Arguments) : Eval σ Value := do
  let world ← Eval.world
  let value ← match world.newSlot? type with
    | none => throw (.noConstructor (world.nameOf type))
    | some (.user new) => engine.call new (arguments.prepend (.type type))
    | some (.native layout) => engine.construct layout type arguments
  let world ← Eval.world
  if world.isSubtype (world.typeOf value) type then
    Eval.holding [value] (engine.initialise value arguments)
  return value

end Engine

end ObjectModel
