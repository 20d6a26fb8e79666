import ObjectModel.Descriptor

set_option autoImplicit false

namespace ObjectModel

def World.missingAttribute (world : World) (receiver : Value) (name : String) : Error :=
  match receiver with
  | .type key => .typeAttributeMissing (world.nameOf key) name
  | other => .attributeMissing (world.typeName other) name

def World.ownAttribute? (world : World) (receiver : Value) (name : String) : Option Value :=
  receiver.store?.bind (world.storedAttribute? · name)

namespace Engine

variable {σ : Type}

def fetch (engine : Engine σ) (found? : Option Value) (receiver : Value) (type : TypeKey)
    (allowSuspend : Bool) : Eval σ (Completion (Option Value)) := do
  match found? with
  | none => return .ready none
  | some found =>
    match found.category with
    | .plain => return .ready (some found)
    | .nonData | .data =>
      return (← engine.descriptorGet found (some receiver) type allowSuspend).map some

/-- Reads an attribute by the rule for instances. A missing attribute is no failure. -/
def genericGet (engine : Engine σ) (receiver : Value) (name : String) (allowSuspend : Bool) :
    Eval σ (Completion (Option Value)) := do
  let world ← Eval.world
  let type := world.typeOf receiver
  let found? := world.lookup type name
  if found?.any (·.category.isData) then
    engine.fetch found? receiver type allowSuspend
  else
    match world.ownAttribute? receiver name with
    | some value => return .ready (some value)
    | none => engine.fetch found? receiver type allowSuspend

def genericSet (engine : Engine σ) (receiver : Value) (name : String) (value? : Option Value)
    (allowSuspend : Bool) : Eval σ (Completion Unit) := do
  let world ← Eval.world
  let type := world.typeOf receiver
  match (world.lookup type name).filter (·.category.isData) with
  | some descriptor => engine.descriptorSet descriptor receiver value? allowSuspend
  | none =>
    let missing := Error.attributeMissing (world.nameOf type) name
    match receiver.store?, value? with
    | none, _ => throw missing
    | some store, some value =>
      Eval.modifyWorld (·.modifyStore store (·.insert name value))
      return .ready ()
    | some store, none =>
      if (world.storedAttribute? store name).isNone then throw missing
      Eval.modifyWorld (·.modifyStore store (·.erase name))
      return .ready ()

def typeGet (engine : Engine σ) (type : TypeKey) (name : String) (allowSuspend : Bool) :
    Eval σ (Completion (Option Value)) := do
  let world ← Eval.world
  let metatype := Builtin.type.key
  let onMetatype? := world.lookup metatype name
  if onMetatype?.any (·.category.isData) then
    engine.fetch onMetatype? (.type type) metatype allowSuspend
  else
    match world.lookup type name with
    | some found => return (← engine.descriptorGet found none type allowSuspend).map some
    | none => engine.fetch onMetatype? (.type type) metatype allowSuspend

def typeSet (engine : Engine σ) (type : TypeKey) (name : String) (value? : Option Value)
    (allowSuspend : Bool) : Eval σ (Completion Unit) := do
  let world ← Eval.world
  if (world.flagsOf type).immutable then throw (.immutableType name (world.nameOf type))
  match (world.lookup Builtin.type.key name).filter (·.category.isData) with
  | some descriptor => engine.descriptorSet descriptor (.type type) value? allowSuspend
  | none =>
    match value? with
    | some value => Eval.modifyWorld (·.setMember type name value)
    | none =>
      if (world.member? type name).isNone then
        throw (.typeAttributeMissing (world.nameOf type) name)
      Eval.modifyWorld (·.removeMember type name)
    return .ready ()

def getAttribute (engine : Engine σ) (receiver : Value) (name : String) (allowSuspend : Bool) :
    Eval σ (Completion (Option Value)) :=
  match receiver with
  | .type key => engine.typeGet key name allowSuspend
  | other => engine.genericGet other name allowSuspend

def setAttribute (engine : Engine σ) (receiver : Value) (name : String) (value? : Option Value)
    (allowSuspend : Bool) : Eval σ (Completion Unit) :=
  match receiver with
  | .type key => engine.typeSet key name value? allowSuspend
  | other => engine.genericSet other name value? allowSuspend

def lookupAttr (engine : Engine σ) (receiver : Value) (name : String) : Eval σ (Option Value) := do
  engine.complete (← engine.getAttribute receiver name false)

def getAttr (engine : Engine σ) (receiver : Value) (name : String) : Eval σ Value := do
  match ← engine.lookupAttr receiver name with
  | some value => return value
  | none => throw ((← Eval.world).missingAttribute receiver name)

def setAttr (engine : Engine σ) (receiver : Value) (name : String) (value : Value) :
    Eval σ Unit := do
  engine.complete (← engine.setAttribute receiver name (some value) false)

def delAttr (engine : Engine σ) (receiver : Value) (name : String) : Eval σ Unit := do
  engine.complete (← engine.setAttribute receiver name none false)

/-- The special method that a value's type defines, bound to the value. The value's own attribute
store has no say. -/
def lookupSpecial (engine : Engine σ) (receiver : Value) (name : String) :
    Eval σ (Option Value) := do
  let world ← Eval.world
  let type := world.typeOf receiver
  match world.lookup type name with
  | none => return none
  | some found =>
    return some (← engine.complete (← engine.descriptorGet found (some receiver) type false))

def callSpecial (engine : Engine σ) (receiver : Value) (name : String)
    (positional : List Value) : Eval σ (Option Value) := do
  match ← engine.lookupSpecial receiver name with
  | none | some .none => return none
  | some method => return some (← engine.call method { positional })

end Engine

end ObjectModel
