import ObjectModel.Script.Inspect
import ObjectModel.Sequence

set_option autoImplicit false

namespace ObjectModel.Script

def verdict (comparison : ScriptM Bool) : ScriptM Report := do
  try
    return .bool (← comparison)
  catch error =>
    return .text error.tracebackLine

def verdicts (engine : Engine Session) (left right : Value) (op : Comparison) :
    ScriptM Report := do
  let plain ← verdict (engine.richCompare left right op)
  let contained ← verdict (engine.containerCompare left right op)
  return .list [.text op.symbol, plain, contained]

def valueReport (world : World) (value : Value) : Report :=
  let int (number? : Option Int64) : Report := Report.optional (fun n => .int n.toInt) number?
  .record
    [("type", .text (world.typeName value)),
      ("is_none", .bool value.isNone),
      ("as_int", int value.asInt?),
      ("as_index", int value.asIndex?),
      ("as_str", Report.optional .text value.asStr?),
      ("as_type", Report.optional (fun key => .text (world.nameOf key)) value.asType?),
      ("tuple_len", Report.optional (fun items => .nat items.length) value.items?),
      ("exact_tuple", .bool (world.isExactTuple value)),
      ("has_dict", .bool value.store?.isSome),
      ("has_addr", .bool value.identity?.isSome)]

def functionReport (f : Function) : Report :=
  .record
    [("name", .text f.name), ("owner", .text f.owner), ("qualname", .text f.qualifiedName),
      ("kind", .text (Report.bindingName f.binding)), ("doc", Report.optional .text f.doc)]

def operatorReport (op : Comparison) : Report :=
  .record
    [("swapped", .text op.swapped.symbol), ("symbol", .text op.symbol),
      ("dunder", .text op.method), ("less", .bool (op.accepts .lt)),
      ("equal", .bool (op.accepts .eq)), ("greater", .bool (op.accepts .gt))]

/-- A text a number of times, unless it has more bytes than a word can count. -/
def repeated? (text : String) (count : Nat) : Option String :=
  if text.isEmpty then some ""
  else if Int64.maxValue.toInt < text.utf8ByteSize * count then none
  else some (String.join (List.replicate count text))

def shownPositions : Nat := 20

def boundsReport? (bounds : Slice.Bounds) : Option Report := do
  let positions ← bounds.firstPositions? shownPositions
  return .record
    [("start", .int bounds.start.toInt), ("step", .int bounds.step.toInt),
      ("length", .nat bounds.length), ("positions", .list (positions.map .nat))]

def ValueOp.run (engine : Engine Session) (op : ValueOp) (operands : Operands) :
    ScriptM Answer := do
  match op, operands.values with
  | .truthy, [value] => return .bool (← engine.truthy value)
  | .hash, [value] => return .value (.int (← engine.hash value))
  | .sameHash, [left, right] =>
    let leftHash ← engine.hash left
    return .bool (leftHash = (← engine.hash right))
  | .compare op, [left, right] => return .bool (← engine.richCompare left right op)
  | .containerCompare op, [left, right] => return .bool (← engine.containerCompare left right op)
  | .equal, [left, right] => return .bool (← engine.equal left right)
  | .compareAll, [left, right] =>
    return .report (.list (← Comparison.all.mapM (verdicts engine left right)))
  | .describeOperator op, [] => return .report (operatorReport op)
  | .repr, [value] => return .value (.str (← engine.repr value))
  | .length, [value] => return .nat (← engine.length value)
  | .getItem, [container, key] => return .value (← engine.getItem container key)
  | .contains, [container, item] => return .bool (← engine.contains container item)
  | .concat, [left, right] => return .value (← engine.concat left right)
  | .repetition, [sequence, count] => return .value (← engine.repetition sequence count)
  | .is, [left, right] => return .bool (left.is right)
  | .type, [value] => return .value (.type ((← Eval.world).typeOf value))
  | .inspect, [value] => return .report (valueReport (← Eval.world) value)
  | .debug, [value] => return .report (.text (← valueText engine value))
  | .tupleGet, [tuple, position] =>
    match tuple.items?, position.asIndex? with
    | some items, some position => return .ofOption (Tuple.get? items position)
    | _, _ => malformed "not a tuple and an integer"
  | .tupleCompare op, [tuple, other] =>
    match tuple.items? with
    | some items =>
      return .report (Report.optional .bool (← engine.tupleCompare items other op))
    | none => malformed "not a tuple"
  | .tupleIndex, tuple :: item :: bounds =>
    match tuple.items? with
    | some items => return .nat (← engine.tupleIndex items item bounds[0]? bounds[1]?)
    | none => malformed "not a tuple"
  | .slice, [start, stop, step] =>
    let slice ← Eval.ofExcept (Slice.ofValues start stop step)
    return .value (.slice (← Eval.create World.newSerial) slice)
  | .resolveSlice size, [.slice _ held] =>
    return .report (← Eval.ofOption ((held.resolve? size).bind boundsReport?))
  | .functionInfo, [.function f] | .functionInfo, [.boundMethod _ f _] =>
    return .report (functionReport f)
  | .range size, [] =>
    return .value (← Eval.tuple ((List.range size).map fun n => .int (Int64.ofNat n)))
  | .repeatText text count, [] => return .value (.str (← Eval.ofOption (repeated? text count)))
  | _, _ => malformed "bad operands"

end ObjectModel.Script
