set_option autoImplicit false

namespace ObjectModel

/-- Numbered cells, each holding a value until it is emptied. -/
structure Cells (α : Type) where
  slots : Array (Option α) := #[]

namespace Cells

variable {α : Type}

def empty : Cells α := {}

instance : Inhabited (Cells α) := ⟨empty⟩

def size (cells : Cells α) : Nat :=
  cells.slots.size

def get? (cells : Cells α) (index : Nat) : Option α :=
  cells.slots[index]?.join

def toList (cells : Cells α) : List (Nat × α) :=
  (cells.slots.toList.zipIdx).filterMap fun (value?, index) => value?.map (index, ·)

def push (cells : Cells α) (value : α) : Cells α :=
  ⟨cells.slots.push (some value)⟩

def modify (cells : Cells α) (index : Nat) (change : α → α) : Cells α :=
  ⟨cells.slots.modify index (Option.map change)⟩

def free (cells : Cells α) (index : Nat) : Cells α :=
  ⟨cells.slots.modify index fun _ => none⟩

@[simp]
theorem size_push (cells : Cells α) (value : α) : (cells.push value).size = cells.size + 1 := by
  simp [push, size]

@[simp]
theorem size_modify (cells : Cells α) (index : Nat) (change : α → α) :
    (cells.modify index change).size = cells.size := by
  simp [modify, size]

@[simp]
theorem size_free (cells : Cells α) (index : Nat) : (cells.free index).size = cells.size := by
  simp [free, size]

theorem get?_push (cells : Cells α) (value : α) (index : Nat) :
    (cells.push value).get? index =
      if index = cells.size then some value else cells.get? index := by
  by_cases fresh : index = cells.slots.size <;>
    simp [get?, push, size, Array.getElem?_push, fresh]

theorem get?_modify (cells : Cells α) (index other : Nat) (change : α → α) :
    (cells.modify index change).get? other =
      if index = other then (cells.get? other).map change else cells.get? other := by
  simp only [get?, modify, Array.getElem?_modify]
  split
  · cases cells.slots[other]? <;> rfl
  · rfl

theorem get?_free (cells : Cells α) (index other : Nat) :
    (cells.free index).get? other = if index = other then none else cells.get? other := by
  simp only [get?, free, Array.getElem?_modify]
  split
  · cases cells.slots[other]? <;> rfl
  · rfl

theorem get?_eq_none_of_size_le (cells : Cells α) {index : Nat} (fresh : cells.size ≤ index) :
    cells.get? index = none := by
  simp only [get?, size] at *
  rw [Array.getElem?_eq_none fresh]
  rfl

theorem modify_modify (cells : Cells α) (index : Nat) (first second : α → α) :
    (cells.modify index first).modify index second =
      cells.modify index fun value => second (first value) := by
  simp only [modify, mk.injEq]
  apply Array.ext_getElem?
  intro position
  simp only [Array.getElem?_modify]
  split <;> simp [Function.comp_def]

theorem modify_of_fixed {cells : Cells α} {index : Nat} {change : α → α}
    (fixed : ∀ value, cells.get? index = some value → change value = value) :
    cells.modify index change = cells := by
  obtain ⟨slots⟩ := cells
  simp only [modify, mk.injEq]
  apply Array.ext_getElem?
  intro position
  rw [Array.getElem?_modify]
  split
  · next same =>
    subst same
    cases slot : slots[index]? with
    | none => rfl
    | some value? =>
      cases value? with
      | none => rfl
      | some value =>
        have kept := fixed value (by simp [get?, slot])
        simp [kept]
  · rfl

end Cells

end ObjectModel
