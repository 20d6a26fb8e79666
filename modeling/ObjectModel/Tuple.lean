import ObjectModel.Compare
import ObjectModel.Hash
import ObjectModel.Iteration
import ObjectModel.Repr

set_option autoImplicit false

namespace ObjectModel

namespace Tuple

def get? (items : List Value) (position : Int64) : Option Value :=
  let size := Int64.ofNat items.length
  let position := if position < 0 then position + size else position
  if 0 ≤ position && position < size then items[position.toInt.toNat]? else none

def select? (items : List Value) (slice : Slice) : Option (List Value) := do
  let array := items.toArray
  return (← (← slice.resolve? items.length).positions?).filterMap (array[·]?)

def clampBound (size : Nat) (bound : Option Value) (default : Nat) : Except Error Nat :=
  match bound with
  | none => .ok default
  | some value =>
    match value.asIndex? with
    | none => .error .badSearchBound
    | some position =>
      let size := Int64.ofNat size
      let clamped := if position < 0 then max (position + size) 0 else min position size
      .ok clamped.toInt.toNat

-- One word for the kind of a value and two for what it holds.
def valueBytes : Nat := 24

-- An allocation has at most as many bytes as a word can count.
def capacity : Nat := 0x7fffffffffffffff / valueBytes

end Tuple

namespace Engine

variable {σ : Type}

/-- Allocates room for so many values, which gives up where there are too many. -/
def reserve (count : Nat) : Eval σ Unit :=
  if Tuple.capacity < count then .abandon else pure ()

def tupleItem (items : List Value) (key : Value) : Eval σ Value := do
  match key.asIndex? with
  | some position =>
    match Tuple.get? items position with
    | some item => return item
    | none => throw .tupleIndexOutOfRange
  | none =>
    match key with
    | .slice _ slice => Eval.tuple (← Eval.ofOption (Tuple.select? items slice))
    | other => .failFor other .badTupleIndex

def tupleConcat (engine : Engine σ) (items : List Value) (other : Value) : Eval σ Value := do
  match (← Eval.world).exactItems? other with
  | none => .failFor other .badConcatenation
  | some others =>
    if engine.limits.maxSequenceLength < items.length + others.length then
      throw .concatenationTooLong
    reserve (items.length + others.length)
    Eval.tuple (items ++ others)

def tupleRepeat (engine : Engine σ) (items : List Value) (count : Value) : Eval σ Value := do
  match count.asIndex? with
  | none => .failFor count .badRepetition
  | some times =>
    if times ≤ 0 || items.isEmpty then
      Eval.tuple []
    else
      let times := times.toInt.toNat
      if engine.limits.maxSequenceLength < items.length * times then
        throw .repetitionTooLong
      reserve (items.length * times)
      Eval.tuple (List.replicate times items).flatten

def tupleContains (engine : Engine σ) : List Value → Value → Eval σ Bool
  | [], _ => return false
  | element :: rest, item => do
    if ← engine.equal element item then return true
    engine.tupleContains rest item

def tupleCount (engine : Engine σ) : List Value → Value → Eval σ Nat
  | [], _ => return 0
  | element :: rest, item => do
    let here ← engine.equal element item
    let there ← engine.tupleCount rest item
    return if here then there + 1 else there

def firstEqual? (engine : Engine σ) : List Value → Nat → Value → Eval σ (Option Nat)
  | [], _, _ => return none
  | element :: rest, position, item => do
    if ← engine.equal element item then return some position
    engine.firstEqual? rest (position + 1) item

def tupleIndex (engine : Engine σ) (items : List Value) (item : Value)
    (start stop : Option Value) : Eval σ Nat := do
  let start ← Eval.ofExcept (Tuple.clampBound items.length start 0)
  let stop ← Eval.ofExcept (Tuple.clampBound items.length stop items.length)
  match ← engine.firstEqual? ((items.drop start).take (stop - start)) start item with
  | some position => return position
  | none => throw .itemNotInTuple

def checkArgumentCount (name : String) (arguments : List Value) (least most : Nat) :
    Eval σ Unit := do
  let given := arguments.length
  if given < least || most < given then throw (.argumentCount name given least most)

def checkNoKeywords (name : String) (keywords : List Keyword) : Eval σ Unit := do
  if !keywords.isEmpty then throw (.noKeywords name)

def sizeValue (size : Nat) : Value :=
  .int (if size ≤ 0x7fffffffffffffff then Int64.ofNat size else Int64.maxValue)

def tupleMethod (engine : Engine σ) (method : TupleMethod) (arguments : Arguments) :
    Eval σ Value := do
  match arguments.positional with
  | [] => throw (.tupleReceiverMissing method.name)
  | receiver :: rest =>
    let some items := receiver.items?
      | .failFor receiver (.tupleReceiverExpected method.name)
    let exactly (count : Nat) := checkArgumentCount method.name rest count count
    match method with
    | .index =>
      checkNoKeywords method.name arguments.keywords
      checkArgumentCount method.name rest 1 3
      return sizeValue (← engine.tupleIndex items (rest[0]?.getD .none) rest[1]? rest[2]?)
    | .count =>
      checkNoKeywords method.name arguments.keywords
      exactly 1
      return sizeValue (← engine.tupleCount items (rest[0]?.getD .none))
    | .newArguments =>
      checkNoKeywords method.name arguments.keywords
      exactly 0
      Eval.tuple [← Eval.tuple items]
    | .length =>
      exactly 0
      return sizeValue items.length
    | .item =>
      exactly 1
      tupleItem items (rest[0]?.getD .none)
    | .contains =>
      exactly 1
      return .bool (← engine.tupleContains items (rest[0]?.getD .none))
    | .iterate => iterate .tuple items
    | .reverse => iterate .reversed items.reverse
    | .hash => return .int (← engine.hashTuple receiver items)
    | .repr => return .str (← engine.reprTuple items)
    | .concatenate =>
      exactly 1
      engine.tupleConcat items (rest[0]?.getD .none)
    | .repetition =>
      exactly 1
      engine.tupleRepeat items (rest[0]?.getD .none)

def iteratorMethod (engine : Engine σ) (method : IteratorMethod) (arguments : Arguments) :
    Eval σ Value := do
  match arguments.positional with
  | [] => throw (.iteratorReceiverMissing method.name)
  | receiver@(.iterator cursor _) :: _ =>
    match method with
    | .iterate => return receiver
    | .next =>
      match ← engine.advance cursor with
      | some value => return value
      | none => throw .stopIteration
    | .lengthHint => return sizeValue ((← Eval.world).lengthHint cursor)
  | other :: _ => .failFor other (.iteratorReceiverExpected method.name)

end Engine

end ObjectModel
