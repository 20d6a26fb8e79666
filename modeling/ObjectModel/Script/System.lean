import ObjectModel.Script.Inspect
import ObjectModel.Text.Interner

set_option autoImplicit false

namespace ObjectModel.Script

def limitsReport (limits : Limits) : Report :=
  .record
    [("max_sequence_length", .nat limits.maxSequenceLength),
      ("max_suspension_resumes", .nat limits.maxSuspensionResumes)]

/-- What interning texts one after the other gives: for each the first text that got the same
entry, the size of the table, the text, and whether an entry of another table is equal to it. -/
def internReport (texts : List String) : Report :=
  let table : Text.Interner := {}
  let steps := table.internAll texts
  let entries := steps.map Prod.fst
  let rows := (texts.zip steps).map fun (text, entry, size) =>
    Report.list [.nat (entries.idxOf entry), .nat size, .text text, .bool false]
  .record [("empty_before", .bool (table.size = 0)), ("steps", .list rows)]

def SystemOp.run (engine : Engine Session) (op : SystemOp) : ScriptM Answer := do
  match op with
  | .errorInfo error => return .report (errorReport error)
  | .propertyInfo name writable =>
    return .report (.record
      [("writable", .bool writable), ("debug", .text (propertyText name writable))])
  | .intern texts => return .report (internReport texts)
  | .defaultLimits => return .report (limitsReport {})
  | .limitsOf sequenceLength suspensionResumes =>
    return .report (limitsReport (Limits.ofSettings sequenceLength suspensionResumes))
  | .installLimits sequenceLength suspensionResumes =>
    let (installed, active) := Limits.install (some engine.limits)
      { maxSequenceLength := sequenceLength, maxSuspensionResumes := suspensionResumes }
    return .report (.record
      [("installed", .bool installed), ("active", limitsReport active)])

end ObjectModel.Script
