import ObjectModel.Number.Binary64
import ObjectModel.Slice

set_option autoImplicit false

namespace ObjectModel

structure TypeKey where
  index : Nat
  deriving DecidableEq, Repr

structure StoreKey where
  index : Nat
  deriving DecidableEq, Hashable, Repr

structure CursorKey where
  index : Nat
  deriving DecidableEq, Hashable, Repr

/-- Names a piece of code that the host of the object model knows how to run. -/
structure Code where
  index : Nat
  deriving DecidableEq, Repr

inductive Binding where
  -- The instance becomes the first argument.
  | method
  -- The function comes back unchanged.
  | static
  deriving DecidableEq, Repr

inductive TupleMethod where
  | index | count | newArguments | length | item | contains | iterate | reverse | hash | repr
  | concatenate | repetition
  deriving DecidableEq, Repr

inductive IteratorMethod where
  | iterate | next | lengthHint
  deriving DecidableEq, Repr

inductive Body where
  | tuple (method : TupleMethod)
  | iterator (method : IteratorMethod)
  | construct (declaring : TypeKey)
  | code (code : Code)
  deriving DecidableEq, Repr

structure Function where
  serial : Nat
  owner : String
  name : String
  binding : Binding
  doc : Option String
  body : Body
  deriving DecidableEq, Repr

def Function.qualifiedName (function : Function) : String :=
  s!"{function.owner}.{function.name}"

inductive Getter where
  | typeOf
  | typeName
  | typeBase
  | typeChain
  | code (code : Code)
  deriving DecidableEq, Repr

inductive Descriptor where
  | property (serial : Nat) (name : String) (getter : Getter) (setter : Option Code)
  /-- Reads and writes through host code, which learns how it was reached. Without the data
  capability it takes no assignments. -/
  | accessor (serial : Nat) (name : String) (data : Bool) (getter setter : Code)
  deriving DecidableEq, Repr

def Descriptor.name : Descriptor → String
  | .property _ name _ _ | .accessor _ name _ _ _ => name

def Descriptor.isData : Descriptor → Bool
  | .property .. => true
  | .accessor _ _ data _ _ => data

inductive IteratorKind where
  | tuple | reversed | keys | str
  deriving DecidableEq, Repr

def IteratorKind.typeName : IteratorKind → String
  | tuple => "tuple_iterator"
  | reversed => "reversed"
  | keys => "dict_keyiterator"
  | str => "str_iterator"

inductive Payload (α : Type) where
  | empty
  | tuple (items : List α)

def Payload.items? {α : Type} : Payload α → Option (List α)
  | empty => none
  | tuple items => some items

structure Instance (α : Type) where
  serial : Nat
  type : TypeKey
  store : Option StoreKey
  payload : Payload α

inductive Value where
  | none
  | notImplemented
  | bool (truth : Bool)
  | int (number : Int64)
  | float (number : Binary64)
  | str (text : String)
  | type (key : TypeKey)
  | object (inst : Instance Value)
  | function (function : Function)
  | boundMethod (serial : Nat) (function : Function) (receiver : Value)
  | descriptor (descriptor : Descriptor)
  | slice (serial : Nat) (slice : Slice)
  | iterator (cursor : CursorKey) (kind : IteratorKind)

instance : Inhabited Value := ⟨.none⟩

abbrev Keyword := String × Value

structure Arguments where
  positional : List Value := []
  keywords : List Keyword := []

namespace Arguments

def prepend (first : Value) (arguments : Arguments) : Arguments :=
  { arguments with positional := first :: arguments.positional }

def values (arguments : Arguments) : List Value :=
  arguments.positional ++ arguments.keywords.map Prod.snd

end Arguments

namespace Value

def isNone : Value → Bool
  | none => true
  | _ => false

def isInstance : Value → Bool
  | object _ => true
  | _ => false

def asInt? : Value → Option Int64
  | int number => some number
  | _ => Option.none

/-- The integer that the value stands for as an index, bools included. -/
def asIndex? : Value → Option Int64
  | int number => some number
  | bool truth => some (if truth then 1 else 0)
  | _ => Option.none

def asStr? : Value → Option String
  | str text => some text
  | _ => Option.none

def asType? : Value → Option TypeKey
  | type key => some key
  | _ => Option.none

def items? : Value → Option (List Value)
  | object inst => inst.payload.items?
  | _ => Option.none

def store? : Value → Option StoreKey
  | object inst => inst.store
  | _ => Option.none

end Value

end ObjectModel
