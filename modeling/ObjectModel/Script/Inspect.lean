import ObjectModel.Repr
import ObjectModel.Text.Escaped
import ObjectModel.Script.Session

set_option autoImplicit false

namespace ObjectModel.Script

def layoutName : Layout → String
  | .plain => "Object"
  | .tuple => "Tuple"
  | .sealed => "Unconstructible"

def categoryName : Category → String
  | .plain => "Plain"
  | .nonData => "NonData"
  | .data => "Data"

def suspensionName : SuspensionKind → String
  | .optional => "Optional"
  | .blocking => "Blocking"

def iteratorName : IteratorKind → String
  | .tuple => "TupleIterator"
  | .reversed => "TupleReverseIterator"
  | .keys => "DictKeyIterator"
  | .str => "StrIterator"

def errorName : Error → String
  | .attributeMissing .. => "AttributeMissing"
  | .typeAttributeMissing .. => "TypeAttributeMissing"
  | .attributeFailure _ => "Attribute"
  | .construction _ => "ConstructionUnsafe"
  | .typeMismatch _ => "TypeMismatch"
  | .indexOutOfRange _ => "IndexOutOfRange"
  | .valueNotFound _ => "ValueNotFound"
  | .overflow _ => "Overflow"
  | .changedSize _ => "ConcurrentModification"
  | .stopIteration => "StopIteration"
  | .internal _ => "Internal"

def optionText {α : Type} (text : α → String) : Option α → String
  | none => "None"
  | some content => s!"Some({text content})"

def recordText (name : String) (fields : List (String × String)) (more : Bool) : String :=
  let parts := fields.map fun (field, text) => s!"{field}: {text}"
  let parts := if more then parts ++ [".."] else parts
  name ++ " \x7b " ++ ", ".intercalate parts ++ " \x7d"

def storeText (engine : Engine Session) (store : AttributeStore) : ScriptM String := do
  let parts ← store.entries.mapM fun (name, value) => do
    return Text.escaped name ++ ": " ++ (← engine.repr value)
  return "\x7b" ++ ", ".intercalate parts ++ "\x7d"

def typeText (world : World) (type : TypeObject) : String :=
  recordText "TypeObject"
    [("id", s!"TypeId({type.id.toNat})"),
      ("name", Text.escaped type.name),
      ("base", optionText (fun base => Text.escaped (world.nameOf base)) type.base),
      ("flags", "TypeFlags(" ++ " | ".intercalate type.flags.names ++ ")")] false

def instanceText (engine : Engine Session) (inst : Instance Value) : ScriptM String := do
  let world ← Eval.world
  let store ← match inst.store.bind world.store? with
    | none => pure "None"
    | some store => (optionText id ∘ some) <$> storeText engine store
  let payload ← match inst.payload with
    | .empty => pure "Empty"
    | .tuple items => (fun text => s!"Tuple({text})") <$> engine.reprTuple items
  return recordText "InstanceObject"
    [("type", optionText (fun type => Text.escaped type.name) (world.type? inst.type)),
      ("dict", store), ("payload", payload)] false

def sliceText (slice : Slice) : String :=
  let bound := optionText fun (position : Int64) => toString position.toInt
  recordText "SliceObject"
    [("start", bound slice.start), ("stop", bound slice.stop), ("step", bound slice.step)] false

def bindingText : Binding → String
  | .method => "Method"
  | .static => "Static"

def valueText (engine : Engine Session) (value : Value) : ScriptM String := do
  let world ← Eval.world
  match value with
  | .type key => return ((world.type? key).map (typeText world)).getD ""
  | .object inst => instanceText engine inst
  | .function f =>
    return recordText "NativeFunction"
      [("qualname", Text.escaped f.qualifiedName), ("kind", bindingText f.binding)] false
  | .boundMethod _ f receiver =>
    return recordText "BoundMethod"
      [("func", Text.escaped f.qualifiedName),
        ("receiver", Text.escaped (world.typeName receiver))] false
  | .descriptor held =>
    let kind := categoryName value.category
    return s!"Descriptor::{kind}({held.name})"
  | .slice _ slice => return sliceText slice
  | other => engine.repr other

def completionText (engine : Engine Session) : Completion (Option Value) → ScriptM String
  | .ready none => return "Ready(None)"
  | .ready (some value) => do
    let text ← engine.repr value
    return s!"Ready(Some({text}))"
  | .suspended suspension =>
    let inner := recordText "Suspension"
      [("label", Text.escaped suspension.label), ("kind", suspensionName suspension.kind)] true
    return s!"Suspended({inner})"

def propertyText (name : String) (writable : Bool) : String :=
  recordText "Property"
    [("name", Text.escaped name), ("writable", if writable then "true" else "false")] false

def walkText (walk : Walk) (kind : IteratorKind) (container : String) (remaining : Nat) : String :=
  let kind := ("kind", iteratorName kind)
  let remaining := ("remaining", toString remaining)
  match walk with
  | .forward => recordText "ArrayIter" [kind, remaining] false
  | .backward => recordText "ReverseArrayIter" [kind, remaining] false
  | .checked =>
    recordText "CheckedArrayIter" [kind, ("container", Text.escaped container), remaining] false

def errorReport (error : Error) : Report :=
  .record
    [("kind", .text (errorName error)),
      ("exception", .text error.exceptionName),
      ("message", .text error.message),
      ("traceback", .text error.tracebackLine),
      ("stop_iteration", .bool error.isStopIteration),
      ("attribute_missing", .bool error.isAttributeMissing)]

end ObjectModel.Script
