import ObjectModel.Table
import ObjectModel.Value.Basic

set_option autoImplicit false

namespace ObjectModel

inductive Layout where
  | plain
  | tuple
  -- Instances come from the system alone.
  | sealed
  deriving DecidableEq, Repr

def Layout.zeroPayload : Layout → Payload Value
  | tuple => .tuple []
  | plain | sealed => .empty

structure TypeFlags where
  baseType : Bool := false
  immutable : Bool := false
  hasStore : Bool := false
  heap : Bool := false
  deriving DecidableEq, Repr

namespace TypeFlags

def bits (flags : TypeFlags) : Nat :=
  flags.baseType.toNat + 2 * flags.immutable.toNat + 4 * flags.hasStore.toNat +
    8 * flags.heap.toNat

def names (flags : TypeFlags) : List String :=
  [(flags.baseType, "BASETYPE"), (flags.immutable, "IMMUTABLE"), (flags.hasStore, "HAS_DICT"),
    (flags.heap, "HEAPTYPE")].filterMap fun (set, name) => if set then some name else none

end TypeFlags

structure TypeObject where
  id : UInt32
  name : String
  base : Option TypeKey
  -- The base, its base, and so on up to the root.
  ancestors : List TypeKey
  members : Table String Value
  flags : TypeFlags
  layout : Option Layout

/-- Numbers from here on belong to types created at run time. -/
def TypeObject.firstHeapId : UInt32 := 256

def TypeObject.isBuiltinId (id : UInt32) : Bool :=
  id < TypeObject.firstHeapId

inductive Builtin where
  | object | type | noneType | notImplementedType | bool | int | float | str | tuple | slice
  | function | method | property | methodDescriptor | tupleIterator | reversed | keyIterator
  | strIterator
  deriving DecidableEq, Repr

namespace Builtin

def id : Builtin → Nat
  | object => 0
  | type => 1
  | noneType => 2
  | notImplementedType => 3
  | bool => 4
  | int => 5
  | float => 6
  | str => 7
  | tuple => 8
  | slice => 9
  | function => 10
  | method => 11
  | property => 12
  | methodDescriptor => 13
  | tupleIterator => 14
  | reversed => 15
  | keyIterator => 16
  | strIterator => 17

def byId : List Builtin :=
  [object, type, noneType, notImplementedType, bool, int, float, str, tuple, slice, function,
    method, property, methodDescriptor, tupleIterator, reversed, keyIterator, strIterator]

/-- The built-in types, each after its base. -/
def all : List Builtin :=
  [object, type, noneType, notImplementedType, int, bool, float, str, tuple, slice, function,
    method, property, methodDescriptor, tupleIterator, reversed, keyIterator, strIterator]

def count : Nat := 18

def name : Builtin → String
  | object => "object"
  | type => "type"
  | noneType => "NoneType"
  | notImplementedType => "NotImplementedType"
  | bool => "bool"
  | int => "int"
  | float => "float"
  | str => "str"
  | tuple => "tuple"
  | slice => "slice"
  | function => "builtin_function_or_method"
  | method => "method"
  | property => "property"
  | methodDescriptor => "method_descriptor"
  | tupleIterator => IteratorKind.tuple.typeName
  | reversed => IteratorKind.reversed.typeName
  | keyIterator => IteratorKind.keys.typeName
  | strIterator => IteratorKind.str.typeName

def ofName? (name : String) : Option Builtin :=
  all.find? (·.name = name)

def base? : Builtin → Option Builtin
  | object => none
  | bool => some int
  | _ => some object

def ancestors : Builtin → List Builtin
  | object => []
  | bool => [int, object]
  | _ => [object]

def layout : Builtin → Layout
  | object => .plain
  | tuple => .tuple
  | _ => .sealed

def flags : Builtin → TypeFlags
  | object | tuple => { baseType := true, immutable := true }
  | _ => { immutable := true }

def key (builtin : Builtin) : TypeKey :=
  ⟨builtin.id⟩

def ofIterator : IteratorKind → Builtin
  | .tuple => tupleIterator
  | .reversed => reversed
  | .keys => keyIterator
  | .str => strIterator

def isIterator : Builtin → Bool
  | tupleIterator | reversed | keyIterator | strIterator => true
  | _ => false

end Builtin

end ObjectModel
