import ObjectModel.World

set_option autoImplicit false

namespace ObjectModel.Script

inductive Report where
  | null
  | bool (truth : Bool)
  | int (number : Int)
  | text (text : String)
  | list (items : List Report)
  | record (fields : List (String × Report))

namespace Report

def nat (number : Nat) : Report :=
  .int number

def optional {α : Type} (report : α → Report) (content : Option α) : Report :=
  content.elim .null report

def texts (texts : List String) : Report :=
  .list (texts.map .text)

def missing : Report :=
  .record [("missing", .bool true)]

def hexDigits (word : UInt64) : String :=
  let digits := Nat.toDigits 16 word.toNat
  String.ofList (List.replicate (16 - digits.length) '0' ++ digits)

def ofSlice (slice : Slice) : Report :=
  let bound (position : Option Int64) : Report := optional (fun n => .int n.toInt) position
  .record [("slice", .list [bound slice.start, bound slice.stop, bound slice.step])]

def bindingName : Binding → String
  | .method => "method"
  | .static => "static"

mutual

def ofValue (world : World) : Value → Report
  | .none => .null
  | .notImplemented => .record [("k", .text "NotImplemented")]
  | .bool truth => .bool truth
  | .int number => .int number.toInt
  | .float number => .record [("f", .text (hexDigits number.bits))]
  | .str content => .text content
  | .type key => .record [("type", .text (world.nameOf key))]
  | value@(.object ⟨_, _, _, .tuple items⟩) =>
    if world.isExactTuple value then
      .record [("tuple", .list (ofItems world items))]
    else
      .record [("obj", .text (world.typeName value)), ("tuple", .list (ofItems world items))]
  | value@(.object ⟨_, _, _, .empty⟩) => .record [("obj", .text (world.typeName value))]
  | .function f =>
    .record [("function", .text f.qualifiedName), ("kind", .text (bindingName f.binding))]
  | .boundMethod _ f receiver =>
    .record [("bound", .text f.qualifiedName), ("self", ofValue world receiver)]
  | .descriptor held =>
    .record [("descriptor", .text held.name), ("data", .bool held.isData)]
  | .slice _ slice => ofSlice slice
  | .iterator cursor kind =>
    .record [("iterator", .text kind.typeName), ("hint", .nat (world.lengthHint cursor))]

def ofItems (world : World) : List Value → List Report
  | [] => []
  | item :: rest => ofValue world item :: ofItems world rest

end

def ofValue? (world : World) (value? : Option Value) : Report :=
  value?.elim missing (ofValue world)

/-- The mark that stands before the number of an identity in a text. -/
def identityMark : List Char := " object at 0x".toList

def isHexDigit (character : Char) : Bool :=
  character.isDigit || ('a' ≤ character && character ≤ 'f') ||
    ('A' ≤ character && character ≤ 'F')

def identityLength? (characters : List Char) : Option Nat :=
  if identityMark.isPrefixOf characters then
    let rest := characters.drop identityMark.length
    let digits := rest.takeWhile isHexDigit
    match digits, rest.drop digits.length with
    | _ :: _, '>' :: _ => some (identityMark.length + digits.length + 1)
    | _, _ => none
  else
    none

/-- Replaces the numbers of identities; `skip` characters belong to one already replaced. -/
def hideFrom : Nat → List Char → List Char
  | _, [] => []
  | skip + 1, _ :: rest => hideFrom skip rest
  | 0, character :: rest =>
    match identityLength? (character :: rest) with
    | some length => " object at 0xADDR>".toList ++ hideFrom (length - 1) rest
    | none => character :: hideFrom 0 rest

def hideIdentities (text : String) : String :=
  String.ofList (hideFrom 0 text.toList)

mutual

def hidden : Report → Report
  | .text content => .text (hideIdentities content)
  | .list items => .list (hiddenItems items)
  | .record fields => .record (hiddenFields fields)
  | report => report

def hiddenItems : List Report → List Report
  | [] => []
  | item :: rest => item.hidden :: hiddenItems rest

def hiddenFields : List (String × Report) → List (String × Report)
  | [] => []
  | (name, report) :: rest => (name, report.hidden) :: hiddenFields rest

end

end Report

end ObjectModel.Script
