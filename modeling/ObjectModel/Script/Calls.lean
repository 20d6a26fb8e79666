import ObjectModel.Script.Inspect

set_option autoImplicit false

namespace ObjectModel.Script

def CallOp.run (engine : Engine Session) (op : CallOp) (operands : Operands) : ScriptM Answer := do
  let arguments := operands.arguments
  match op, operands.values with
  | .call, [callee] => return .value (← engine.call callee arguments)
  | .method name, [receiver] => return .value (← engine.callMethod receiver name arguments)
  | .special name, [receiver] =>
    return .ofOption (← engine.callSpecial receiver name arguments.positional)
  | .lookupSpecial name, [receiver] => return .ofOption (← engine.lookupSpecial receiver name)
  | .checkCount name least most, [] =>
    Engine.checkArgumentCount name arguments.positional least most
    return .none
  | .checkNoKeywords name, [] =>
    Engine.checkNoKeywords name arguments.keywords
    return .none
  | .genericNew, [.type builtin, .type type] => return .value (← Engine.genericNew builtin type)
  | .safeNew, [.type declaring] => return .value (← engine.constructSafely declaring arguments)
  | .typeCall, [.type type] => return .value (← engine.typeCall type arguments)
  | .construct layout, [.type type] => return .value (← engine.construct layout type arguments)
  | .zeroPayload layout, [] =>
    return .report (.text (match layout.zeroPayload with
      | .empty => "Empty"
      | .tuple _ => "Tuple(())"))
  | .newSlot, [.type type] =>
    let world ← Eval.world
    match world.newSlot? type with
    | none => throw (.noConstructor (world.nameOf type))
    | some (.user new) => return .report (.record [("user", Report.ofValue world new)])
    | some (.native layout) => return .report (.record [("native", .text (layoutName layout))])
  | _, _ => malformed "bad operands"

end ObjectModel.Script
