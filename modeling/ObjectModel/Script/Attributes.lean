import ObjectModel.Script.Inspect

set_option autoImplicit false

namespace ObjectModel.Script

def completionReport (world : World) : Completion (Option Value) → Report
  | .ready value? => .record [("ready", Report.ofValue? world value?)]
  | .suspended suspension =>
    .record
      [("suspended", .text suspension.label), ("kind", .text (suspensionName suspension.kind))]

def answerCompletion (save : Option String) (completion : Completion (Option Value)) :
    ScriptM Answer := do
  if let some name := save then keep name completion
  return .report (completionReport (← Eval.world) completion)

def accessBy (engine : Engine Session) (route : Route) (request : Request) (receiver : Value)
    (name : String) (value? : Option Value) (allowSuspend : Bool) :
    ScriptM (Completion (Option Value)) := do
  let ignore (completion : Completion Unit) : Completion (Option Value) :=
    completion.map fun _ => some .none
  match route, request, receiver with
  | .any, .read, _ => engine.getAttribute receiver name allowSuspend
  | .any, _, _ => return ignore (← engine.setAttribute receiver name value? allowSuspend)
  | .instances, .read, _ => engine.genericGet receiver name allowSuspend
  | .instances, _, _ => return ignore (← engine.genericSet receiver name value? allowSuspend)
  | .types, .read, .type key => engine.typeGet key name allowSuspend
  | .types, _, .type key => return ignore (← engine.typeSet key name value? allowSuspend)
  | .types, _, _ => malformed "not a type"

def fetchFound (engine : Engine Session) (direct : Bool) (found : Value) (receiver? : Option Value)
    (owner : TypeKey) (allowSuspend : Bool) : ScriptM (Completion (Option Value)) := do
  let completion ← match direct, found with
    | true, .descriptor held => engine.readDescriptor held receiver? owner allowSuspend
    | _, _ => engine.descriptorGet found receiver? owner allowSuspend
  return completion.map some

def AttributeOp.run (engine : Engine Session) (op : AttributeOp) (operands : Operands) :
    ScriptM Answer := do
  match op, operands.values with
  | .get name, [receiver] => return .value (← engine.getAttr receiver name)
  | .set name, [receiver, value] =>
    engine.setAttr receiver name value
    return .none
  | .delete name, [receiver] =>
    engine.delAttr receiver name
    return .none
  | .access route .write name allowSuspend save, [receiver, value] =>
    answerCompletion save (← accessBy engine route .write receiver name (some value) allowSuspend)
  | .access route request name allowSuspend save, [receiver] =>
    answerCompletion save (← accessBy engine route request receiver name none allowSuspend)
  | .fetch direct true allowSuspend save, [found, receiver, .type owner] =>
    answerCompletion save (← fetchFound engine direct found (some receiver) owner allowSuspend)
  | .fetch direct false allowSuspend save, [found, .type owner] =>
    answerCompletion save (← fetchFound engine direct found none owner allowSuspend)
  | .assign false allowSuspend save, [found, receiver, value] =>
    let completion ← engine.descriptorSet found receiver (some value) allowSuspend
    answerCompletion save (completion.map fun _ => some .none)
  | .assign true allowSuspend save, [found, receiver] =>
    let completion ← engine.descriptorSet found receiver none allowSuspend
    answerCompletion save (completion.map fun _ => some .none)
  | .classify, [value] =>
    let category := value.category
    return .report (.record
      [("kind", .text (categoryName category)), ("data", .bool category.isData),
        ("get", .bool category.hasGetter)])
  | .resume saved, [] =>
    match ← takeSaved saved with
    | .ready value? => answerCompletion (some saved) (.ready value?)
    | .suspended suspension => answerCompletion (some saved) (← engine.resume suspension)
  | .settle saved allowSuspend, [] =>
    answerCompletion (some saved) (← engine.settle allowSuspend (← takeSaved saved))
  | .finish saved limit, [] => return .ofOption (← engine.finish limit (← takeSaved saved))
  | .takeReady saved, [] =>
    match (← takeSaved saved).ready? with
    | some value? => return .ofOption value?
    | none => return .report (.record [("ready", .bool false)])
  | .inspectSaved saved, [] =>
    match (← Eval.host).saved.get? saved with
    | none => malformed "no completion of that name"
    | some completion =>
      return .report (.record
        [("debug", .text (← completionText engine completion)),
          ("ready", .bool completion.isReady)])
  | _, _ => malformed "bad operands"

end ObjectModel.Script
