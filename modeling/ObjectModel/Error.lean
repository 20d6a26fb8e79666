set_option autoImplicit false

namespace ObjectModel

/-- A failure reported by an operation of the object model. -/
inductive Error where
  -- An instance of `typeName` has no attribute `attr`.
  | attributeMissing (typeName attr : String)
  -- The type object `typeName` itself has no attribute `attr`.
  | typeAttributeMissing (typeName attr : String)
  | attributeFailure (text : String)
  | construction (text : String)
  | typeMismatch (text : String)
  | indexOutOfRange (text : String)
  | valueNotFound (text : String)
  | overflow (text : String)
  | changedSize (container : String)
  | stopIteration
  | internal (text : String)
  deriving DecidableEq, Repr

namespace Error

def exceptionName : Error → String
  | attributeMissing .. | typeAttributeMissing .. | attributeFailure _ => "AttributeError"
  | construction _ | typeMismatch _ => "TypeError"
  | indexOutOfRange _ => "IndexError"
  | valueNotFound _ => "ValueError"
  | overflow _ => "OverflowError"
  | changedSize _ => "RuntimeError"
  | stopIteration => "StopIteration"
  | internal _ => "SystemError"

def message : Error → String
  | attributeMissing typeName attr => s!"'{typeName}' object has no attribute '{attr}'"
  | typeAttributeMissing typeName attr => s!"type object '{typeName}' has no attribute '{attr}'"
  | attributeFailure text | construction text | typeMismatch text | indexOutOfRange text
  | valueNotFound text | overflow text => text
  | changedSize container => s!"{container} changed size during iteration"
  | stopIteration => "iteration exhausted"
  | internal text => s!"internal error: {text}"

def tracebackLine (error : Error) : String :=
  s!"{error.exceptionName}: {error.message}"

def isStopIteration : Error → Bool
  | stopIteration => true
  | _ => false

def isAttributeMissing : Error → Bool
  | attributeMissing .. | typeAttributeMissing .. => true
  | _ => false

def notCallable (typeName : String) : Error :=
  typeMismatch s!"'{typeName}' object is not callable"

def unhashable (typeName : String) : Error :=
  typeMismatch s!"unhashable type: '{typeName}'"

def hashNotInteger : Error :=
  typeMismatch "__hash__ method should return an integer"

def unordered (symbol left right : String) : Error :=
  typeMismatch s!"'{symbol}' not supported between instances of '{left}' and '{right}'"

def unsupportedOperands (symbol left right : String) : Error :=
  typeMismatch s!"unsupported operand type(s) for {symbol}: '{left}' and '{right}'"

def noLength (typeName : String) : Error :=
  typeMismatch s!"object of type '{typeName}' has no len()"

def notASize (method : String) : Error :=
  typeMismatch s!"{method}() should return a non-negative integer"

def notSubscriptable (typeName : String) : Error :=
  typeMismatch s!"'{typeName}' object is not subscriptable"

def notIterable (typeName : String) : Error :=
  typeMismatch s!"'{typeName}' object is not iterable"

def notAContainer (typeName : String) : Error :=
  typeMismatch s!"argument of type '{typeName}' is not iterable"

def notAnIterator (typeName : String) : Error :=
  typeMismatch s!"'{typeName}' object is not an iterator"

def notReversible (typeName : String) : Error :=
  typeMismatch s!"'{typeName}' object is not reversible"

def substringExpected (typeName : String) : Error :=
  typeMismatch s!"'in <string>' requires string as left operand, not {typeName}"

def tupleIndexOutOfRange : Error :=
  indexOutOfRange "tuple index out of range"

def badTupleIndex (typeName : String) : Error :=
  typeMismatch s!"tuple indices must be integers or slices, not {typeName}"

def badConcatenation (typeName : String) : Error :=
  typeMismatch s!"can only concatenate tuple (not \"{typeName}\") to tuple"

def concatenationTooLong : Error :=
  overflow "concatenated tuple is too long"

def badRepetition (typeName : String) : Error :=
  typeMismatch s!"can't multiply sequence by non-int of type '{typeName}'"

def repetitionTooLong : Error :=
  overflow "repeated tuple is too long"

def itemNotInTuple : Error :=
  valueNotFound "tuple.index(x): x not in tuple"

def badSearchBound : Error :=
  typeMismatch "slice indices must be integers or have an __index__ method"

def badSliceBound : Error :=
  typeMismatch "slice indices must be integers or None or have an __index__ method"

def zeroSliceStep : Error :=
  valueNotFound "slice step cannot be zero"

def tupleReceiverExpected (method typeName : String) : Error :=
  typeMismatch s!"descriptor '{method}' requires a 'tuple' object but received '{typeName}'"

def tupleReceiverMissing (method : String) : Error :=
  typeMismatch s!"descriptor '{method}' of 'tuple' object needs an argument"

def iteratorReceiverExpected (method typeName : String) : Error :=
  typeMismatch s!"descriptor '{method}' requires an iterator object but received '{typeName}'"

def iteratorReceiverMissing (method : String) : Error :=
  typeMismatch s!"descriptor '{method}' needs an argument"

def typeReceiverExpected (typeName : String) : Error :=
  typeMismatch s!"descriptor requires a 'type' object but received '{typeName}'"

def noKeywords (name : String) : Error :=
  typeMismatch s!"{name}() takes no keyword arguments"

def sealedBase (typeName : String) : Error :=
  typeMismatch s!"type '{typeName}' is not an acceptable base type"

def unconstructible (typeName : String) : Error :=
  typeMismatch s!"cannot create '{typeName}' instances"

def allocationForStranger (builtin target : String) : Error :=
  typeMismatch s!"{builtin}.__new__({target}): {target} is not a subtype of {builtin}"

def newWithoutTarget (declaring : String) : Error :=
  construction s!"{declaring}.__new__(): not enough arguments"

def newForNonType (declaring typeName : String) : Error :=
  construction s!"{declaring}.__new__(X): X is not a type object ({typeName})"

def newForStranger (declaring target : String) : Error :=
  construction s!"{declaring}.__new__({target}): {target} is not a subtype of {declaring}"

def newUnsafe (declaring target owner : String) : Error :=
  construction s!"{declaring}.__new__({target}) is not safe, use {owner}.__new__()"

def noNativeConstructor (typeName : String) : Error :=
  internal s!"type '{typeName}' has no native constructor"

def noConstructor (typeName : String) : Error :=
  internal s!"type '{typeName}' has no constructor"

def declaringTypeGone : Error :=
  internal "__new__ of an unregistered type"

def notATupleType (typeName : String) : Error :=
  internal s!"tuple constructor called for non-tuple type '{typeName}'"

def tupleExpected : Error :=
  internal "tuple constructor produced a non-tuple"

def initReturnedValue (typeName : String) : Error :=
  typeMismatch s!"__init__() should return None, not '{typeName}'"

def immutableType (attr typeName : String) : Error :=
  typeMismatch s!"cannot set '{attr}' attribute of immutable type '{typeName}'"

def notADataDescriptor (typeName : String) : Error :=
  internal s!"'{typeName}' object is not a data descriptor"

def propertyWithoutInstance (name owner : String) : Error :=
  internal s!"property '{name}' of '{owner}' read without an instance"

def readOnlyProperty (name typeName : String) (deleting : Bool) : Error :=
  let verb := if deleting then "deleter" else "setter"
  attributeFailure s!"property '{name}' of '{typeName}' object has no {verb}"

def blockedSuspension (label : String) : Error :=
  internal s!"blocking suspension '{label}' raised where suspension is not allowed"

def unfinishedSuspension (label : String) (limit : Nat) : Error :=
  internal s!"suspension '{label}' did not complete after {limit} resumes"

def argumentCount (name : String) (given least most : Nat) : Error :=
  let noun (count : Nat) := if count = 1 then "argument" else "arguments"
  if least = most then
    typeMismatch s!"{name}() takes exactly {least} {noun least} ({given} given)"
  else if given < least then
    typeMismatch s!"{name}() takes at least {least} {noun least} ({given} given)"
  else
    typeMismatch s!"{name}() takes at most {most} {noun most} ({given} given)"

end Error

end ObjectModel
