import ObjectModel.World

set_option autoImplicit false

namespace ObjectModel

inductive Storage where
  -- Instances get an attribute store.
  | store
  -- No attribute store, unless the base already has one.
  | slots
  deriving DecidableEq, Repr

namespace World

def sharedRegistry : RegistryKey := ⟨0⟩

def newRegistry (world : World) : RegistryKey × World :=
  let first := world.types.size
  let registry : Registry :=
    { first
      types := Table.ofList (Builtin.all.map fun builtin =>
        (UInt32.ofNat builtin.id, ⟨first + builtin.id⟩))
      nextId := TypeObject.firstHeapId }
  let types := Builtin.byId.foldl
    (fun types builtin => types.push (builtin.typeObject first world.nextSerial)) world.types
  (⟨world.registries.size⟩,
    { world with
      types
      registries := world.registries.push registry
      nextSerial := world.nextSerial + Builtin.serialsPerType * Builtin.count })

def initial : World :=
  (World.newRegistry {}).2

def registry? (world : World) (key : RegistryKey) : Option Registry :=
  world.registries.get? key.index

def modifyRegistry (world : World) (key : RegistryKey) (change : Registry → Registry) : World :=
  { world with registries := world.registries.modify key.index change }

def allocateId (world : World) (key : RegistryKey) : UInt32 × World :=
  (((world.registry? key).map (·.nextId)).getD 0,
    world.modifyRegistry key fun registry => { registry with nextId := registry.nextId + 1 })

def registered? (world : World) (key : RegistryKey) (id : UInt32) : Option TypeKey :=
  (world.registry? key).bind (·.types.get? id)

def registrySize (world : World) (key : RegistryKey) : Nat :=
  ((world.registry? key).map (·.types.size)).getD 0

def registryBuiltin? (world : World) (key : RegistryKey) (builtin : Builtin) : Option TypeKey :=
  (world.registry? key).map fun registry => ⟨registry.first + builtin.id⟩

/-- Creates a type that extends `base` and registers it, or refuses a base that cannot be extended.
The world that comes back is the one that the steps taken so far have left. -/
def registerSubtype (world : World) (registry : RegistryKey) (name : String) (base : TypeKey)
    (storage : Storage) : Except Error TypeKey × World :=
  let inherited := world.flagsOf base
  if !inherited.baseType then
    (.error (.sealedBase (world.nameOf base)), world)
  else
    let (id, world) := world.allocateId registry
    let key : TypeKey := ⟨world.types.size⟩
    let type : TypeObject :=
      { id, name
        base := some base
        ancestors := world.chain base
        members := {}
        flags :=
          { baseType := true, heap := true, hasStore := storage = .store || inherited.hasStore }
        layout := none }
    (.ok key,
      { world with types := world.types.push type }.modifyRegistry registry fun entry =>
        { entry with types := entry.types.insert id key })

def newSubtype (world : World) (registry : RegistryKey) (name : String) (base : TypeKey)
    (storage : Storage) : Except Error (TypeKey × World) :=
  match world.registerSubtype registry name base storage with
  | (.ok key, later) => .ok (key, later)
  | (.error error, _) => .error error

def dropRegistry (world : World) (key : RegistryKey) : World :=
  match world.registry? key with
  | none => world
  | some registry =>
    { world with
      types := registry.types.entries.foldl (fun types entry => types.free entry.2.index)
        world.types
      registries := world.registries.free key.index }

/-- An instance that has outlived the registry of its type. -/
def newOrphan (world : World) (name : String) (storage : Storage) (payload : Payload Value) :
    Except Error (Instance Value × World) := do
  let (registry, world) := world.newRegistry
  let root := ((world.registryBuiltin? registry .object)).getD Builtin.object.key
  let (key, world) ← world.newSubtype registry name root storage
  let (inst, world) := world.newInstance key payload
  return (inst, world.dropRegistry registry)

end World

end ObjectModel
