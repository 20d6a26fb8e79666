import ObjectModel.Script.Attributes
import ObjectModel.Script.Calls
import ObjectModel.Script.Iterators
import ObjectModel.Script.Stores
import ObjectModel.Script.System
import ObjectModel.Script.Values

/-!
# Running programs

Expressions evaluate their operands from left to right, hold on to them until they are done, and end
with the first failure. The code that a program writes is code of the host: the object model runs it
through the interpreter. A program is a list of steps; a failing step does not stop the ones after
it, and neither does one that is given up.
-/

set_option autoImplicit false

namespace ObjectModel.Script

def Op.run (engine : Engine Session) (op : Op) (operands : Operands) : ScriptM Answer :=
  match op with
  | .access op => op.run engine operands
  | .call op => op.run engine operands
  | .type op => op.run operands
  | .store op => op.run operands
  | .iterator op => op.run engine operands
  | .value op => op.run engine operands
  | .system op => op.run engine

def Role.contribution (role : Role) (value : Value) : ScriptM (List Value) :=
  match role with
  | .spread =>
    match value.items? with
    | some items => pure items
    | none => malformed "not a tuple of arguments"
  | .value | .argument | .keyword _ => pure [value]

def Operands.add (operands : Operands) (role : Role) (values : List Value) : Operands :=
  let arguments := operands.arguments
  match role with
  | .value => { operands with values := operands.values ++ values }
  | .argument | .spread =>
    { operands with arguments := { arguments with positional := arguments.positional ++ values } }
  | .keyword name =>
    let keywords := arguments.keywords ++ values.map (name, ·)
    { operands with arguments := { arguments with keywords } }

def nested : Nat → Value → ScriptM Value
  | 0, value => return value
  | depth + 1, value => do nested depth (← Eval.tuple [value])

def variableValue (name : String) : ScriptM Value := do
  match (← Eval.host).environment.get? name with
  | some value => return value
  | none => malformed "no variable of that name"

def incremented (name : String) : ScriptM Value := do
  let count := (((← Eval.host).environment.get? name).bind Value.asInt?).getD 0
  let value : Value := .int (← Eval.ofOption (Word.add? count 1))
  assign name value
  return value

def argumentAt (frame : Frame) (position : Nat) : ScriptM Value :=
  match frame.positional[position]? with
  | some value => pure value
  | none => throw (.typeMismatch s!"script: missing argument {position}")

def newDescriptor (make : Nat → Descriptor) : ScriptM Answer := do
  return .value (.descriptor (make (← Eval.create World.newSerial)))

mutual

def evaluate (engine : Engine Session) (frame : Frame) : Expr → ScriptM Answer
  | .constant value => return .value value
  | .tuple items => do return .value (← Eval.tuple (← evaluateAll engine frame items))
  | .variable name => return .value (← variableValue name)
  | .builtin name =>
    match Builtin.ofName? name with
    | some builtin => return .value (.type builtin.key)
    | none => malformed "no built-in type of that name"
  | .argument position => return .value (← argumentAt frame position)
  | .argumentsFrom position => return .value (← Eval.tuple (frame.positional.drop position))
  | .keyword name =>
    return .value (((frame.keywords.find? (·.1 = name)).map (·.2)).getD .none)
  | .assign name value => do
    let value ← (← evaluate engine frame value).operand
    assign name value
    return .value value
  | .increment name => return .value (← incremented name)
  | .log value => do
    let value ← (← evaluate engine frame value).operand
    logReport (Report.ofValue (← Eval.world) value)
    return .none
  | .choose condition yes no => do
    let condition ← (← evaluate engine frame condition).operand
    if ← engine.truthy condition then
      evaluate engine frame yes
    else
      evaluate engine frame no
  | .sequence steps => evaluateInTurn engine frame .none steps
  | .attempt body => do
    try evaluate engine frame body catch error => return .value (.str error.tracebackLine)
  | .raise error => throw error
  | .nest depth body => do
    return .value (← nested depth (← (← evaluate engine frame body).operand))
  | .function owner name binding doc body => do
    let code ← newCode { result := body }
    let serial ← Eval.create World.newSerial
    return .value (.function { serial, owner, name, binding, doc, body := .code code })
  | .property name getter setter => do
    let getter ← newCode getter
    let setter ← match setter with
      | some setter => some <$> newCode setter
      | none => pure none
    newDescriptor fun serial => .property serial name (.code getter) setter
  | .accessor name data getter setter => do
    let getter ← newCode getter
    let setter ← newCode setter
    newDescriptor fun serial => .accessor serial name data getter setter
  | .define registry name base storage members => do
    let registry ← registryFor registry
    let base ← (← evaluate engine frame base).operand
    match base with
    | .type base =>
      let key ← Eval.attempt fun world => world.registerSubtype registry name base storage
      assign name (.type key)
      let members ← evaluateMembers engine frame members
      for (member, value) in members do
        Eval.modifyWorld (·.setMember key member value)
      return .value (.type key)
    | _ => malformed "not a type"
  | .lookup receiver name fallback => do
    let receiver ← (← evaluate engine frame receiver).operand
    match ← Eval.holding [receiver] (engine.lookupAttr receiver name) with
    | some value => return .value value
    | none =>
      match fallback with
      | some fallback => Eval.holding [receiver] (evaluate engine frame fallback)
      | none => return .missing
  | .accessNamed store access operands => do
    let store ← namedStore store
    Eval.holdingStore store do
      access.run engine store (← evaluateAll engine frame operands)
  | .accessOwn owner access operands => do
    let store ← ownStore (← (← evaluate engine frame owner).operand)
    Eval.holdingStore store do
      access.run engine store (← evaluateAll engine frame operands)
  | .apply op operands forward => do
    let inherited := if forward then frame.keywords else []
    let operands ← evaluateOperands engine frame { arguments.keywords := inherited } operands
    Eval.holding operands.all (op.run engine operands)

def evaluateAll (engine : Engine Session) (frame : Frame) : List Expr → ScriptM (List Value)
  | [] => return []
  | expr :: rest => do
    let value ← (← evaluate engine frame expr).operand
    return value :: (← Eval.holding [value] (evaluateAll engine frame rest))

/-- Evaluates steps one after the other and gives the answer of the last one. The answer of a step
is held until the next one has given its own. -/
def evaluateInTurn (engine : Engine Session) (frame : Frame) (last : Answer) :
    List Expr → ScriptM Answer
  | [] => return last
  | expr :: rest => do
    let answer ← Eval.holding last.values (evaluate engine frame expr)
    evaluateInTurn engine frame answer rest

def evaluateMembers (engine : Engine Session) (frame : Frame) :
    List (String × Expr) → ScriptM (List (String × Value))
  | [] => return []
  | (name, expr) :: rest => do
    let value ← (← evaluate engine frame expr).operand
    return (name, value) :: (← Eval.holding [value] (evaluateMembers engine frame rest))

def evaluateOperands (engine : Engine Session) (frame : Frame) (operands : Operands) :
    List (Role × Expr) → ScriptM Operands
  | [] => return operands
  | (role, expr) :: rest => do
    let value ← (← evaluate engine frame expr).operand
    let values ← role.contribution value
    Eval.holding values (evaluateOperands engine frame (operands.add role values) rest)

end

def routineOf (code : Code) : ScriptM (Routine Expr) := do
  match (← Eval.host).routines[code.index]? with
  | some routine => return routine
  | none => malformed "no such code"

def evaluateResult (engine : Engine Session) (routine : Routine Expr) (frame : Frame) :
    ScriptM Value := do
  (← evaluate engine frame routine.result).operand

/-- Programs as hosts: functions evaluate their bodies, and getters and setters pause as they are
told before they evaluate their results. -/
def host : Host Session where
  run engine code arguments := do
    evaluateResult engine (← routineOf code) arguments
  proceed engine resumption := do
    let routine ← routineOf resumption.code
    let frame : Frame := { positional := resumption.arguments }
    if resumption.stage = 0 then
      if let some before := routine.before then
        let _ ← evaluate engine frame before
    match pauseAt? routine.pauses resumption.stage with
    | some pause => return .paused pause.kind pause.label
    | none => return .finished (← evaluateResult engine routine frame)
  roots session := session.roots

def programLimits : Limits :=
  { maxSequenceLength := 5000, maxSuspensionResumes := 64 }

def programPatience : Nat := 1000000000

def programDepth : Nat := 1000000000

def programEngine : Engine Session :=
  host.engine programLimits programPatience programDepth

inductive StepResult where
  | answered (report : Report)
  | failed (error : Error)
  -- Given up because a number left the range of a word.
  | abandoned
  | exhausted

structure Step where
  result : StepResult
  log : List Report

def Session.shownLog (session : Session) : List Report :=
  session.log.reverse.map Report.hidden

def runStep (state : State Session) (expr : Expr) : Step × State Session :=
  let state := { state with host := { state.host with log := [] } }
  match evaluate programEngine {} expr {} state with
  | .done (.ok answer) state =>
    (⟨.answered (answer.toReport state.world).hidden, state.host.shownLog⟩, state)
  | .done (.error error) state => (⟨.failed error, state.host.shownLog⟩, state)
  | .abandoned state => (⟨.abandoned, state.host.shownLog⟩, state)
  | .exhausted => (⟨.exhausted, []⟩, state)

def runSteps (state : State Session) : List Expr → List Step
  | [] => []
  | expr :: rest =>
    let (step, state) := runStep state expr
    step :: runSteps state rest

def runProgram (steps : List Expr) : List Step :=
  runSteps { world := World.initial, host := {} } steps

end ObjectModel.Script
