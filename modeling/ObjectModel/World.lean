import ObjectModel.Builtins
import ObjectModel.Cells
import ObjectModel.Error
import ObjectModel.Value.Identity
import Std.Data.HashMap

/-!
# The world

Everything about values that can change: the members of types, attribute stores, positions of
iterators, sizes of watched containers, registries, the tuple hashes found so far, and what is known
of lifetimes. All questions about types are answered here, along the chain from a type to the root.
-/

set_option autoImplicit false

namespace ObjectModel

structure RegistryKey where
  index : Nat
  deriving DecidableEq, Repr

structure GaugeKey where
  index : Nat
  deriving DecidableEq, Repr

structure Registry where
  -- Index of the first built-in type of the registry.
  first : Nat
  types : Table UInt32 TypeKey
  nextId : UInt32

structure Gauge where
  size : Nat
  name : String
  deriving DecidableEq, Repr

abbrev AttributeStore := Table String Value

inductive Origin where
  | store (key : StoreKey)
  | gauge (key : GaugeKey)
  -- A container that was gone before the iteration began.
  | gone
  deriving DecidableEq, Repr

inductive Cursor where
  | walking (items rest : List Value)
  | finished
  /-- A walk over a snapshot of `size` items, which fails while its container has another size. -/
  | checked (size : Nat) (items rest : List Value) (origin : Origin) (container : String)

namespace Cursor

def start (items : List Value) : Cursor :=
  walking items items

def lengthHint : Cursor → Nat
  | walking _ rest => rest.length
  | finished => 0
  | checked _ _ rest _ _ => rest.length

def items : Cursor → List Value
  | walking items _ => items
  | finished => []
  | checked _ items _ _ _ => items

def release : Cursor → Cursor
  | checked size items rest _ container => checked size items rest .gone container
  | cursor => cursor

end Cursor

/-- What holds values and lives only as long as it is referred to. -/
inductive Holder where
  | store (key : StoreKey)
  | cursor (key : CursorKey)
  deriving DecidableEq, Hashable

structure Survey where
  alive : List Holder := []
  -- The numbers of stores and cursors that there were.
  stores : Nat := 0
  cursors : Nat := 0

/-- The changing part of the object model. -/
structure World where
  types : Cells TypeObject := {}
  stores : Cells AttributeStore := {}
  cursors : Cells Cursor := {}
  gauges : Cells Gauge := {}
  registries : Cells Registry := {}
  /-- Hashes of tuples, each under the tuple it was computed for. -/
  hashes : Std.HashMap Value Int64 := {}
  survey : Survey := {}
  -- The serial number of the next created value.
  nextSerial : Nat := 0

namespace World

def type? (world : World) (key : TypeKey) : Option TypeObject :=
  world.types.get? key.index

def nameOf (world : World) (key : TypeKey) : String :=
  ((world.type? key).map (·.name)).getD ""

def flagsOf (world : World) (key : TypeKey) : TypeFlags :=
  ((world.type? key).map (·.flags)).getD {}

def declaredLayout (world : World) (key : TypeKey) : Option Layout :=
  (world.type? key).bind (·.layout)

def ancestors (world : World) (key : TypeKey) : List TypeKey :=
  ((world.type? key).map (·.ancestors)).getD []

def chain (world : World) (key : TypeKey) : List TypeKey :=
  key :: world.ancestors key

def isSubtype (world : World) (key other : TypeKey) : Bool :=
  (world.chain key).contains other

def member? (world : World) (key : TypeKey) (name : String) : Option Value :=
  (world.type? key).bind (·.members.get? name)

def lookupWithOwner (world : World) (key : TypeKey) (name : String) : Option (Value × TypeKey) :=
  (world.chain key).findSome? fun owner => (world.member? owner name).map (·, owner)

def lookup (world : World) (key : TypeKey) (name : String) : Option Value :=
  (world.lookupWithOwner key name).map Prod.fst

def layoutOwner? (world : World) (key : TypeKey) : Option TypeKey :=
  (world.chain key).find? fun owner => (world.declaredLayout owner).isSome

def layoutOf? (world : World) (key : TypeKey) : Option Layout :=
  (world.layoutOwner? key).bind world.declaredLayout

def hasUserNew (world : World) (key : TypeKey) : Bool :=
  (world.flagsOf key).heap && (world.member? key "__new__").isSome

def modifyType (world : World) (key : TypeKey) (change : TypeObject → TypeObject) : World :=
  { world with types := world.types.modify key.index change }

def setMember (world : World) (key : TypeKey) (name : String) (value : Value) : World :=
  world.modifyType key fun type => { type with members := type.members.insert name value }

def removeMember (world : World) (key : TypeKey) (name : String) : World :=
  world.modifyType key fun type => { type with members := type.members.erase name }

/-- The type of a value. An instance whose type is gone counts as a plain object. -/
def typeOf (world : World) : Value → TypeKey
  | .none => Builtin.noneType.key
  | .notImplemented => Builtin.notImplementedType.key
  | .bool _ => Builtin.bool.key
  | .int _ => Builtin.int.key
  | .float _ => Builtin.float.key
  | .str _ => Builtin.str.key
  | .type _ => Builtin.type.key
  | .object inst => if (world.type? inst.type).isSome then inst.type else Builtin.object.key
  | .function _ => Builtin.function.key
  | .boundMethod .. => Builtin.method.key
  | .descriptor descriptor =>
    if descriptor.isData then Builtin.property.key else Builtin.methodDescriptor.key
  | .slice .. => Builtin.slice.key
  | .iterator _ kind => (Builtin.ofIterator kind).key

def typeName (world : World) (value : Value) : String :=
  world.nameOf (world.typeOf value)

def exactItems? (world : World) : Value → Option (List Value)
  | .object inst =>
    match inst.payload, world.type? inst.type with
    | .tuple items, some type =>
      if type.id = UInt32.ofNat Builtin.tuple.id then some items else none
    | _, _ => none
  | _ => none

theorem exactItems?_eq_some_iff (world : World) (value : Value) (items : List Value) :
    world.exactItems? value = some items ↔
      ∃ inst type, value = .object inst ∧ inst.payload = .tuple items ∧
        world.type? inst.type = some type ∧ type.id = UInt32.ofNat Builtin.tuple.id := by
  constructor
  · intro exact
    cases value with
    | object inst =>
      simp only [exactItems?] at exact
      split at exact
      · next held type carries known =>
        split at exact
        · next number =>
          cases exact
          exact ⟨inst, type, rfl, carries, known, number⟩
        · cases exact
      · cases exact
    | _ => cases exact
  · rintro ⟨inst, type, rfl, carries, known, number⟩
    simp only [exactItems?, carries, known, number, if_true]

def isExactTuple (world : World) (value : Value) : Bool :=
  (world.exactItems? value).isSome

def store? (world : World) (key : StoreKey) : Option AttributeStore :=
  world.stores.get? key.index

def storedAttribute? (world : World) (key : StoreKey) (name : String) : Option Value :=
  (world.store? key).bind (·.get? name)

def modifyStore (world : World) (key : StoreKey)
    (change : AttributeStore → AttributeStore) : World :=
  { world with stores := world.stores.modify key.index change }

def newStore (world : World) : StoreKey × World :=
  (⟨world.stores.size⟩, { world with stores := world.stores.push {} })

def dropStore (world : World) (key : StoreKey) : World :=
  { world with stores := world.stores.free key.index }

def newSerial (world : World) : Nat × World :=
  (world.nextSerial, { world with nextSerial := world.nextSerial + 1 })

def newInstance (world : World) (type : TypeKey) (payload : Payload Value) :
    Instance Value × World :=
  let (serial, world) := world.newSerial
  if (world.flagsOf type).hasStore then
    let (store, world) := world.newStore
    ({ serial, type, store := some store, payload }, world)
  else
    ({ serial, type, store := none, payload }, world)

def newTuple (world : World) (items : List Value) : Value × World :=
  let (inst, world) := world.newInstance Builtin.tuple.key (.tuple items)
  (.object inst, world)

def newGauge (world : World) (size : Nat) (name : String) : GaugeKey × World :=
  (⟨world.gauges.size⟩, { world with gauges := world.gauges.push ⟨size, name⟩ })

def setGauge (world : World) (key : GaugeKey) (size : Nat) : World :=
  { world with gauges := world.gauges.modify key.index fun gauge => { gauge with size } }

def dropGauge (world : World) (key : GaugeKey) : World :=
  { world with gauges := world.gauges.free key.index }

def newIterator (world : World) (kind : IteratorKind) (cursor : Cursor) : Value × World :=
  (.iterator ⟨world.cursors.size⟩ kind, { world with cursors := world.cursors.push cursor })

def liveSize? (world : World) : Origin → Option Nat
  | .store key => (world.store? key).map (·.size)
  | .gauge key => (world.gauges.get? key.index).map (·.size)
  | .gone => none

def containerName (world : World) : Origin → String
  | .store key => if (world.store? key).isSome then "dict" else "container"
  | .gauge key => ((world.gauges.get? key.index).map (·.name)).getD "container"
  | .gone => "container"

def checkedCursor (world : World) (items : List Value) (origin : Origin) : Cursor :=
  .checked items.length items items origin (world.containerName origin)

def keysCursor (world : World) (key : StoreKey) : Cursor :=
  let names := ((world.store? key).map (·.keys)).getD []
  world.checkedCursor (names.map .str) (.store key)

def lengthHint (world : World) (key : CursorKey) : Nat :=
  ((world.cursors.get? key.index).map Cursor.lengthHint).getD 0

/-- The next value at a cursor, nothing once the end is reached, and the cursor after it. A checked
cursor stays where it is while its container has another size than the snapshot. -/
def stepCursor (world : World) : Cursor → Except Error (Option Value) × Cursor
  | .walking _ [] => (.ok none, .finished)
  | .walking items (value :: rest) => (.ok (some value), .walking items rest)
  | .finished => (.ok none, .finished)
  | .checked size items rest origin container =>
    if (world.liveSize? origin).all (· = size) then
      match rest with
      | [] => (.ok none, .checked size items [] origin container)
      | value :: rest => (.ok (some value), .checked size items rest origin container)
    else
      (.error (.changedSize container), .checked size items rest origin container)

def advance (world : World) (key : CursorKey) : Except Error (Option Value) × World :=
  match world.cursors.get? key.index with
  | none => (.ok none, world)
  | some cursor =>
    let (result, moved) := world.stepCursor cursor
    (result, { world with cursors := world.cursors.modify key.index fun _ => moved })

def rememberHash (world : World) (tuple : Value) (hash : Int64) : Int64 × World :=
  match world.hashes[tuple]? with
  | some known => (known, world)
  | none => (hash, { world with hashes := world.hashes.insert tuple hash })

end World

end ObjectModel
