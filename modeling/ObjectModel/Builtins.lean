import ObjectModel.TypeObject

set_option autoImplicit false

namespace ObjectModel

namespace TupleMethod

def all : List TupleMethod :=
  [index, count, newArguments, length, item, contains, iterate, reverse, hash, repr, concatenate,
    repetition]

def name : TupleMethod → String
  | index => "index"
  | count => "count"
  | newArguments => "__getnewargs__"
  | length => "__len__"
  | item => "__getitem__"
  | contains => "__contains__"
  | iterate => "__iter__"
  | reverse => "__reversed__"
  | hash => "__hash__"
  | repr => "__repr__"
  | concatenate => "__add__"
  | repetition => "__mul__"

def doc : TupleMethod → Option String
  | index => some "Return first index of value.\n\nRaises ValueError if the value is not present."
  | count => some "Return number of occurrences of value."
  | _ => none

end TupleMethod

namespace IteratorMethod

def all : List IteratorMethod := [iterate, next, lengthHint]

def name : IteratorMethod → String
  | iterate => "__iter__"
  | next => "__next__"
  | lengthHint => "__length_hint__"

def doc : IteratorMethod → Option String
  | lengthHint => some "Private method returning an estimate of len(list(it))."
  | _ => none

end IteratorMethod

def tupleDoc : String :=
  "Built-in immutable sequence.\n\n" ++
    "If no argument is given, the constructor returns an empty tuple.\n" ++
    "If iterable is specified the tuple is initialized from iterable's items.\n\n" ++
    "If the argument is a tuple, the return value is the same object."

def newDoc : String :=
  "Create and return a new object.  See help(type) for accurate signature."

namespace Builtin

/-- A member that still wants the serial number of the value it holds. -/
abbrev Member := String × (Nat → Value)

def constructor (builtin : Builtin) (key : TypeKey) : Member :=
  ("__new__", fun serial => .function
    { serial, owner := builtin.name, name := "__new__", binding := .static, doc := some newDoc
      body := .construct key })

def tupleMember (method : TupleMethod) : Member :=
  (method.name, fun serial => .function
    { serial, owner := tuple.name, name := method.name, binding := .method, doc := method.doc
      body := .tuple method })

def iteratorMember (builtin : Builtin) (method : IteratorMethod) : Member :=
  (method.name, fun serial => .function
    { serial, owner := builtin.name, name := method.name, binding := .method, doc := method.doc
      body := .iterator method })

def propertyMember (name : String) (getter : Getter) : Member :=
  (name, fun serial => .descriptor (.property serial name getter none))

def ownMembers : Builtin → List Member
  | object => [propertyMember "__class__" .typeOf]
  | type =>
    [propertyMember "__name__" .typeName, propertyMember "__base__" .typeBase,
      propertyMember "__mro__" .typeChain]
  | tuple => ("__doc__", fun _ => .str tupleDoc) :: TupleMethod.all.map tupleMember
  | builtin => if builtin.isIterator then IteratorMethod.all.map builtin.iteratorMember else []

def serialsPerType : Nat := 16

/-- A built-in type of a registry whose built-in types start at `first`, with members numbered
from `serial` on. -/
def typeObject (first serial : Nat) (builtin : Builtin) : TypeObject :=
  let keyOf (other : Builtin) : TypeKey := ⟨first + other.id⟩
  let members := builtin.constructor (keyOf builtin) :: builtin.ownMembers
  { id := UInt32.ofNat builtin.id
    name := builtin.name
    base := builtin.base?.map keyOf
    ancestors := builtin.ancestors.map keyOf
    members := Table.ofList (members.zipIdx.map fun ((name, make), index) =>
      (name, make (serial + serialsPerType * builtin.id + index)))
    flags := builtin.flags
    layout := some builtin.layout }

end Builtin

end ObjectModel
