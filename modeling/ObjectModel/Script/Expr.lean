import ObjectModel.Comparison
import ObjectModel.Completion
import ObjectModel.Error
import ObjectModel.Registry

set_option autoImplicit false

namespace ObjectModel.Script

inductive Route where
  | any
  | instances
  | types
  deriving DecidableEq, Repr

inductive Request where
  | read | write | erase
  deriving DecidableEq, Repr

inductive AttributeOp where
  | get (name : String)
  | set (name : String)
  | delete (name : String)
  | access (route : Route) (request : Request) (name : String) (allowSuspend : Bool)
      (save : Option String)
  | fetch (direct hasInstance allowSuspend : Bool) (save : Option String)
  | assign (deleting allowSuspend : Bool) (save : Option String)
  | classify
  | resume (saved : String)
  | settle (saved : String) (allowSuspend : Bool)
  | finish (saved : String) (limit : Nat)
  | takeReady (saved : String)
  | inspectSaved (saved : String)

inductive CallOp where
  | call
  | method (name : String)
  | special (name : String)
  | lookupSpecial (name : String)
  | checkCount (name : String) (least most : Nat)
  | checkNoKeywords (name : String)
  | genericNew
  | safeNew
  | typeCall
  | construct (layout : Layout)
  | zeroPayload (layout : Layout)
  | newSlot

inductive TypeOp where
  | info
  | ownGet (name : String)
  | ownSet (name : String)
  | ownDelete (name : String)
  | lookup (name : String)
  | lookupOwner (name : String)
  | hasUserNew
  | isSubtype
  | builtin (name : String)
  | id
  | registryNew (registry : String)
  | registryBuiltin (registry name : String)
  | registryAll (registry : String)
  | registrySize (registry : String)
  | registryIsEmpty (registry : String)
  | registryAllocate (registry : String)
  | registryGet (registry : String) (id : Nat)
  | registryContains (registry : String) (id : Nat)
  | orphan (hasStore : Bool)
  | orphanTuple

inductive StoreOp where
  | create (name : String)
  | drop (name : String)
  | hasStore

inductive StoreAccess where
  | get (name : String)
  | insert (name : String)
  | remove (name : String)
  | contains (name : String)
  | size
  | isEmpty
  | items
  | live
  | inspect
  | keys

inductive Walk where
  | forward | backward | checked
  deriving DecidableEq, Repr

inductive IteratorOp where
  | walk (direction : Walk) (kind : IteratorKind)
  | newGauge (gauge : String) (size : Nat) (name : String)
  | setGauge (gauge : String) (size : Nat)
  | dropGauge (gauge : String)
  | watch (kind : IteratorKind) (gauge : String)
  | trace (direction : Walk) (kind : IteratorKind) (rounds : Nat)
  | hint
  | forwardHint (size position : Nat)
  | backwardHint (position : Nat)
  | iter
  | next
  | hasNext
  | collect
  | collectSorted
  | reversed

inductive ValueOp where
  | truthy
  | hash
  | sameHash
  | compare (op : Comparison)
  | containerCompare (op : Comparison)
  | equal
  | compareAll
  | describeOperator (op : Comparison)
  | repr
  | length
  | getItem
  | contains
  | concat
  | repetition
  | is
  | type
  | inspect
  | debug
  | tupleGet
  | tupleCompare (op : Comparison)
  | tupleIndex
  | slice
  | resolveSlice (length : Nat)
  | functionInfo
  | range (size : Nat)
  | repeatText (text : String) (count : Nat)

inductive SystemOp where
  | errorInfo (error : Error)
  | propertyInfo (name : String) (writable : Bool)
  | intern (texts : List String)
  | defaultLimits
  | limitsOf (sequenceLength suspensionResumes : Option String)
  | installLimits (sequenceLength suspensionResumes : Nat)

inductive Op where
  | access (op : AttributeOp)
  | call (op : CallOp)
  | type (op : TypeOp)
  | store (op : StoreOp)
  | iterator (op : IteratorOp)
  | value (op : ValueOp)
  | system (op : SystemOp)

inductive Role where
  | value
  | argument
  | spread
  | keyword (name : String)
  deriving DecidableEq, Repr

structure Pause where
  kind : SuspensionKind
  label : String
  count : Nat

structure Routine (ε : Type) where
  before : Option ε := none
  pauses : List Pause := []
  result : ε

def pauseAt? : List Pause → Nat → Option Pause
  | [], _ => none
  | pause :: rest, stage =>
    if stage < pause.count then some pause else pauseAt? rest (stage - pause.count)

inductive Expr where
  | constant (value : Value)
  | tuple (items : List Expr)
  | variable (name : String)
  | builtin (name : String)
  | argument (position : Nat)
  | argumentsFrom (position : Nat)
  | keyword (name : String)
  | assign (name : String) (value : Expr)
  | increment (name : String)
  | log (value : Expr)
  | choose (condition yes no : Expr)
  | sequence (steps : List Expr)
  | attempt (body : Expr)
  | raise (error : Error)
  | nest (depth : Nat) (body : Expr)
  | function (owner name : String) (binding : Binding) (doc : Option String) (body : Expr)
  | property (name : String) (getter : Routine Expr) (setter : Option (Routine Expr))
  | accessor (name : String) (data : Bool) (getter setter : Routine Expr)
  | define (registry : Option String) (name : String) (base : Expr) (storage : Storage)
      (members : List (String × Expr))
  | lookup (receiver : Expr) (name : String) (fallback : Option Expr)
  | accessNamed (store : String) (access : StoreAccess) (operands : List Expr)
  | accessOwn (owner : Expr) (access : StoreAccess) (operands : List Expr)
  /-- An operation; `forward` passes on the keyword arguments of the running code. -/
  | apply (op : Op) (operands : List (Role × Expr)) (forward : Bool)

end ObjectModel.Script
