set_option autoImplicit false

namespace ObjectModel

inductive Comparison where
  | lt | le | eq | ne | gt | ge
  deriving DecidableEq, Repr

namespace Comparison

def all : List Comparison := [lt, le, eq, ne, gt, ge]

def swapped : Comparison → Comparison
  | lt => gt
  | le => ge
  | eq => eq
  | ne => ne
  | gt => lt
  | ge => le

@[simp]
theorem swapped_swapped (op : Comparison) : op.swapped.swapped = op := by
  cases op <;> rfl

def symbol : Comparison → String
  | lt => "<"
  | le => "<="
  | eq => "=="
  | ne => "!="
  | gt => ">"
  | ge => ">="

def method : Comparison → String
  | lt => "__lt__"
  | le => "__le__"
  | eq => "__eq__"
  | ne => "__ne__"
  | gt => "__gt__"
  | ge => "__ge__"

def accepts : Comparison → Ordering → Bool
  | lt, order => order == .lt
  | le, order => order != .gt
  | eq, order => order == .eq
  | ne, order => order != .eq
  | gt, order => order == .gt
  | ge, order => order != .lt

@[simp]
theorem accepts_swapped (op : Comparison) (order : Ordering) :
    op.swapped.accepts order.swap = op.accepts order := by
  cases op <;> cases order <;> rfl

/-- Operands without an order differ from each other and satisfy nothing else. -/
def acceptsOrder? (op : Comparison) : Option Ordering → Bool
  | some order => op.accepts order
  | none => op = ne

def ofEquality? : Comparison → Bool → Option Bool
  | eq, same => some same
  | ne, same => some !same
  | _, _ => none

end Comparison

end ObjectModel
