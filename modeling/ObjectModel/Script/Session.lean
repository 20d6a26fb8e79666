import ObjectModel.Call
import ObjectModel.Ownership
import ObjectModel.Script.Expr
import ObjectModel.Script.Report

set_option autoImplicit false

namespace ObjectModel.Script

structure Session where
  environment : Table String Value := {}
  routines : Array (Routine Expr) := #[]
  saved : Table String (Completion (Option Value)) := {}
  stores : Table String StoreKey := {}
  gauges : Table String GaugeKey := {}
  registries : Table String RegistryKey := {}
  log : List Report := []

abbrev ScriptM := Eval Session

inductive Answer where
  | value (value : Value)
  | missing
  | report (report : Report)

namespace Answer

def ofOption : Option Value → Answer
  | some held => .value held
  | none => .missing

def none : Answer := .value .none

def bool (truth : Bool) : Answer := .value (.bool truth)

def nat (number : Nat) : Answer := .value (.int (Int64.ofNat number))

def values : Answer → List Value
  | .value held => [held]
  | .missing | .report _ => []

def toReport (world : World) : Answer → Report
  | .value held => Report.ofValue world held
  | .missing => Report.missing
  | .report content => content

end Answer

def malformed {α : Type} (reason : String) : ScriptM α :=
  throw (.internal s!"driver: {reason}")

def Answer.operand (answer : Answer) : ScriptM Value :=
  match answer with
  | .value held => pure held
  | .missing | .report _ => malformed "not a value"

def assign (name : String) (value : Value) : ScriptM Unit :=
  Eval.modifyHost fun session =>
    { session with environment := session.environment.insert name value }

def newCode (routine : Routine Expr) : ScriptM Code := do
  let code : Code := ⟨(← Eval.host).routines.size⟩
  Eval.modifyHost fun session => { session with routines := session.routines.push routine }
  return code

def logReport (report : Report) : ScriptM Unit :=
  Eval.modifyHost fun session => { session with log := report :: session.log }

def keep (name : String) (completion : Completion (Option Value)) : ScriptM Unit :=
  Eval.modifyHost fun session => { session with saved := session.saved.insert name completion }

def takeSaved (name : String) : ScriptM (Completion (Option Value)) := do
  match (← Eval.host).saved.get? name with
  | none => malformed "no completion of that name"
  | some completion =>
    Eval.modifyHost fun session => { session with saved := session.saved.erase name }
    return completion

/-- What a program has in use: its variables, the completions it keeps, and the stores it has
named. -/
def Session.roots (session : Session) : Roots where
  values :=
    session.saved.entries.flatMap (fun (_, completion) =>
      completion.ready?.join.toList ++ completion.pending) ++
    session.environment.entries.map Prod.snd
  stores := session.stores.entries.map Prod.snd

def namedRegistry (name : String) : ScriptM RegistryKey := do
  match (← Eval.host).registries.get? name with
  | none => malformed "no registry of that name"
  | some registry => return registry

structure Operands where
  values : List Value := []
  arguments : Arguments := {}

def Operands.all (operands : Operands) : List Value :=
  operands.values ++ operands.arguments.values

abbrev Frame := Arguments

end ObjectModel.Script
