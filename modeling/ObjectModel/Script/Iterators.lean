import ObjectModel.Script.Types

set_option autoImplicit false

namespace ObjectModel.Script

def Walk.cursor (world : World) (walk : Walk) (items : List Value) : Cursor :=
  match walk with
  | .forward => .start items
  | .backward => .start items.reverse
  | .checked => world.checkedCursor items .gone

def traceRounds (engine : Engine Session) (walk : Walk) (kind : IteratorKind) (cursor : CursorKey) :
    Nat → ScriptM (List Report)
  | 0 => return []
  | rounds + 1 => do
    let got ← engine.advance cursor
    let world ← Eval.world
    let finished := match world.cursors.get? cursor.index with
      | some .finished => true
      | _ => false
    let hint := world.lengthHint cursor
    let container := world.containerName .gone
    let report := Report.record
      [("got", Report.ofValue? world got), ("hint", .nat hint),
        ("exhausted", if walk = .forward then .bool finished else .null),
        ("debug", .text (walkText walk kind container hint))]
    return report :: (← traceRounds engine walk kind cursor rounds)

def namedGauge? (name : String) : ScriptM (Option GaugeKey) := do
  return (← Eval.host).gauges.get? name

def dropNamedGauge (name : String) : ScriptM Bool := do
  match ← namedGauge? name with
  | none => return false
  | some key =>
    Eval.modifyHost fun session => { session with gauges := session.gauges.erase name }
    Eval.modifyWorld (·.dropGauge key)
    return true

def IteratorOp.run (engine : Engine Session) (op : IteratorOp) (operands : Operands) :
    ScriptM Answer := do
  let items := operands.arguments.positional
  match op, operands.values with
  | .walk direction kind, [] =>
    return .value (← Eval.create fun world =>
      world.newIterator kind (direction.cursor world items))
  | .newGauge gauge size name, [] =>
    let _ ← dropNamedGauge gauge
    let key ← Eval.create fun world => world.newGauge size name
    Eval.modifyHost fun session => { session with gauges := session.gauges.insert gauge key }
    return .none
  | .setGauge gauge size, [] =>
    match ← namedGauge? gauge with
    | none => malformed "no container of that name"
    | some key =>
      Eval.modifyWorld (·.setGauge key size)
      return .none
  | .dropGauge gauge, [] => return .bool (← dropNamedGauge gauge)
  | .watch kind gauge, [] =>
    let origin := (← namedGauge? gauge).elim Origin.gone Origin.gauge
    return .value (← Eval.create fun world =>
      world.newIterator kind (world.checkedCursor items origin))
  | .trace direction kind rounds, [] =>
    let made ← Eval.create fun world => world.newIterator kind (direction.cursor world items)
    match made with
    | .iterator cursor _ =>
      let first := Report.record
        [("kind", .text kind.typeName), ("hint", .nat ((← Eval.world).lengthHint cursor))]
      return .report (.list (first :: (← traceRounds engine direction kind cursor rounds)))
    | _ => malformed "not an iterator"
  | .hint, [.iterator cursor _] => return .nat ((← Eval.world).lengthHint cursor)
  | .forwardHint size position, [] => return .nat (ObjectModel.forwardHint size position)
  | .backwardHint position, [] => return .nat (ObjectModel.backwardHint position)
  | .iter, [value] => return .value (← engine.iter value)
  | .next, [iterator] => return .ofOption (← engine.next iterator)
  | .hasNext, [iterator] => return .bool (← engine.next iterator).isSome
  | .collect, [iterable] => return .value (← Eval.tuple (← engine.collect iterable))
  | .collectSorted, [iterable] =>
    let texts := (← engine.collect iterable).filterMap Value.asStr?
    return .report (Report.texts (sortedTexts texts))
  | .reversed, [value] => return .value (← engine.reversed value)
  | _, _ => malformed "bad operands"

end ObjectModel.Script
