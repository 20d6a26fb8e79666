import ObjectModel.Text.Blank

set_option autoImplicit false

namespace ObjectModel

structure Limits where
  maxSequenceLength : Nat := 0x7fffffffffffffff
  maxSuspensionResumes : Nat := 10000
  deriving DecidableEq, Repr

namespace Limits

def digitsValue? (digits : List Char) : Option Nat :=
  if digits.isEmpty || !digits.all Char.isDigit then none
  else some (digits.foldl (fun total digit => 10 * total + (digit.toNat - '0'.toNat)) 0)

/-- Reads a size: one optional plus sign, then digits, with a value below `2 ^ 64`. -/
def parseSize? (text : String) : Option Nat :=
  let digits := match Text.trimBlank text.toList with
    | '+' :: rest => rest
    | characters => characters
  (digitsValue? digits).filter (· ≤ 0xffffffffffffffff)

def ofSettings (sequenceLength suspensionResumes : Option String) : Limits :=
  let defaults : Limits := {}
  { maxSequenceLength := (sequenceLength.bind parseSize?).getD defaults.maxSequenceLength
    maxSuspensionResumes := (suspensionResumes.bind parseSize?).getD defaults.maxSuspensionResumes }

def install (active : Option Limits) (proposed : Limits) : Bool × Limits :=
  match active with
  | some limits => (false, limits)
  | none => (true, proposed)

end Limits

end ObjectModel
