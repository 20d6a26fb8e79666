set_option autoImplicit false

namespace ObjectModel

/-- A finite map that remembers the order in which its keys arrived. -/
structure Table (κ α : Type) where
  entries : List (κ × α) := []
  distinct : (entries.map Prod.fst).Nodup := by exact List.nodup_nil

namespace Table

variable {κ α : Type}

def empty : Table κ α := {}

instance : Inhabited (Table κ α) := ⟨empty⟩

def keys (table : Table κ α) : List κ :=
  table.entries.map Prod.fst

def size (table : Table κ α) : Nat :=
  table.entries.length

def isEmpty (table : Table κ α) : Bool :=
  table.entries.isEmpty

variable [DecidableEq κ]

def find (key : κ) : List (κ × α) → Option α
  | [] => none
  | (other, value) :: rest => if other = key then some value else find key rest

def replaced (key : κ) (value : α) : List (κ × α) → List (κ × α)
  | [] => [(key, value)]
  | (other, old) :: rest =>
    if other = key then (key, value) :: rest else (other, old) :: replaced key value rest

def without (key : κ) : List (κ × α) → List (κ × α)
  | [] => []
  | (other, old) :: rest => if other = key then rest else (other, old) :: without key rest

theorem mem_keys_replaced (key other : κ) (value : α) (entries : List (κ × α)) :
    other ∈ (replaced key value entries).map Prod.fst ↔
      other = key ∨ other ∈ entries.map Prod.fst := by
  induction entries with
  | nil => simp [replaced]
  | cons entry rest ih =>
    obtain ⟨held, old⟩ := entry
    by_cases same : held = key
    · subst same; simp [replaced]
    · simp only [replaced, same, if_false, List.map_cons, List.mem_cons, ih]
      grind

theorem nodup_keys_replaced (key : κ) (value : α) (entries : List (κ × α))
    (distinct : (entries.map Prod.fst).Nodup) :
    ((replaced key value entries).map Prod.fst).Nodup := by
  induction entries with
  | nil => simp [replaced]
  | cons entry rest ih =>
    obtain ⟨held, old⟩ := entry
    simp only [List.map_cons, List.nodup_cons] at distinct
    by_cases same : held = key
    · subst same; simpa [replaced] using distinct
    · simp only [replaced, same, if_false, List.map_cons, List.nodup_cons, mem_keys_replaced]
      exact ⟨by grind, ih distinct.2⟩

theorem mem_keys_without (key other : κ) (entries : List (κ × α))
    (distinct : (entries.map Prod.fst).Nodup) :
    other ∈ (without key entries).map Prod.fst ↔
      other ≠ key ∧ other ∈ entries.map Prod.fst := by
  induction entries with
  | nil => simp [without]
  | cons entry rest ih =>
    obtain ⟨held, old⟩ := entry
    simp only [List.map_cons, List.nodup_cons] at distinct
    by_cases same : held = key
    · subst same
      simp only [without, if_true, List.map_cons, List.mem_cons]
      grind
    · simp only [without, same, if_false, List.map_cons, List.mem_cons, ih distinct.2]
      grind

theorem nodup_keys_without (key : κ) (entries : List (κ × α))
    (distinct : (entries.map Prod.fst).Nodup) :
    ((without key entries).map Prod.fst).Nodup := by
  induction entries with
  | nil => simp [without]
  | cons entry rest ih =>
    obtain ⟨held, old⟩ := entry
    simp only [List.map_cons, List.nodup_cons] at distinct
    by_cases same : held = key
    · subst same; simpa [without] using distinct.2
    · simp only [without, same, if_false, List.map_cons, List.nodup_cons]
      refine ⟨fun held => distinct.1 ?_, ih distinct.2⟩
      exact ((mem_keys_without key _ rest distinct.2).mp held).2

def get? (table : Table κ α) (key : κ) : Option α :=
  find key table.entries

def contains (table : Table κ α) (key : κ) : Bool :=
  (table.get? key).isSome

def insert (table : Table κ α) (key : κ) (value : α) : Table κ α :=
  { entries := replaced key value table.entries
    distinct := nodup_keys_replaced key value table.entries table.distinct }

def erase (table : Table κ α) (key : κ) : Table κ α :=
  { entries := without key table.entries
    distinct := nodup_keys_without key table.entries table.distinct }

def ofList (entries : List (κ × α)) : Table κ α :=
  entries.foldl (fun table entry => table.insert entry.1 entry.2) empty

theorem find_replaced (key other : κ) (value : α) (entries : List (κ × α)) :
    find other (replaced key value entries) =
      if key = other then some value else find other entries := by
  induction entries with
  | nil => simp [replaced, find]
  | cons entry rest ih =>
    obtain ⟨held, old⟩ := entry
    by_cases same : held = key
    · subst same; simp only [replaced, if_true, find]; split <;> simp_all
    · simp only [replaced, same, if_false, find, ih]; grind

theorem find_eq_none_iff (key : κ) (entries : List (κ × α)) :
    find key entries = none ↔ key ∉ entries.map Prod.fst := by
  induction entries with
  | nil => simp [find]
  | cons entry rest ih =>
    obtain ⟨held, old⟩ := entry
    simp only [find, List.map_cons, List.mem_cons, not_or]
    split
    · simp_all
    · rename_i different
      simp [ih, Ne.symm different]

theorem find_without (key other : κ) (entries : List (κ × α))
    (distinct : (entries.map Prod.fst).Nodup) :
    find other (without key entries) = if key = other then none else find other entries := by
  induction entries with
  | nil => simp [without, find]
  | cons entry rest ih =>
    obtain ⟨held, old⟩ := entry
    simp only [List.map_cons, List.nodup_cons] at distinct
    by_cases same : held = key
    · subst same
      simp only [without, if_true, find]
      split
      · rename_i found
        subst found
        exact (find_eq_none_iff _ _).mpr distinct.1
      · rfl
    · simp only [without, same, if_false, find, ih distinct.2]; grind

@[simp]
theorem get?_empty (key : κ) : (empty : Table κ α).get? key = none := rfl

@[simp]
theorem get?_insert (table : Table κ α) (key other : κ) (value : α) :
    (table.insert key value).get? other = if key = other then some value else table.get? other :=
  find_replaced key other value table.entries

@[simp]
theorem get?_erase (table : Table κ α) (key other : κ) :
    (table.erase key).get? other = if key = other then none else table.get? other :=
  find_without key other table.entries table.distinct

theorem get?_eq_none_iff (table : Table κ α) (key : κ) :
    table.get? key = none ↔ key ∉ table.keys :=
  find_eq_none_iff key table.entries

theorem length_replaced (key : κ) (value : α) (entries : List (κ × α)) :
    (replaced key value entries).length =
      if (find key entries).isSome then entries.length else entries.length + 1 := by
  induction entries with
  | nil => rfl
  | cons entry rest ih =>
    obtain ⟨held, old⟩ := entry
    by_cases same : held = key
    · simp [replaced, find, same]
    · simp only [replaced, find, same, if_false, List.length_cons, ih]
      split <;> rfl

theorem size_insert (table : Table κ α) (key : κ) (value : α) :
    (table.insert key value).size =
      if (table.get? key).isSome then table.size else table.size + 1 :=
  length_replaced key value table.entries

theorem ofList_concat (entries : List (κ × α)) (entry : κ × α) :
    ofList (entries ++ [entry]) = (ofList entries).insert entry.1 entry.2 := by
  simp [ofList]

theorem find_of_mem {key : κ} {value : α} {entries : List (κ × α)}
    (distinct : (entries.map Prod.fst).Nodup) (member : (key, value) ∈ entries) :
    find key entries = some value := by
  induction entries with
  | nil => simp at member
  | cons entry rest ih =>
    obtain ⟨held, old⟩ := entry
    simp only [List.map_cons, List.nodup_cons] at distinct
    rcases List.mem_cons.mp member with new | later
    · obtain ⟨rfl, rfl⟩ := Prod.mk.inj new
      simp [find]
    · have different : held ≠ key := fun same =>
        distinct.1 (same ▸ List.mem_map_of_mem later)
      simp only [find, different, if_false]
      exact ih distinct.2 later

theorem replaced_of_absent {key : κ} (value : α) {entries : List (κ × α)}
    (absent : key ∉ entries.map Prod.fst) :
    replaced key value entries = entries ++ [(key, value)] := by
  induction entries with
  | nil => rfl
  | cons entry rest ih =>
    obtain ⟨held, old⟩ := entry
    simp only [List.map_cons, List.mem_cons, not_or] at absent
    simp only [replaced, Ne.symm absent.1, if_false, ih absent.2, List.cons_append]

theorem entries_foldl_insert {entries : List (κ × α)} (table : Table κ α)
    (distinct : ((table.entries ++ entries).map Prod.fst).Nodup) :
    (entries.foldl (fun table entry => table.insert entry.1 entry.2) table).entries =
      table.entries ++ entries := by
  induction entries generalizing table with
  | nil => simp
  | cons entry rest ih =>
    have absent : entry.1 ∉ table.entries.map Prod.fst := by
      simp only [List.map_append, List.map_cons, List.nodup_append] at distinct
      exact fun member => distinct.2.2 _ member _ List.mem_cons_self rfl
    have appended : (table.insert entry.1 entry.2).entries = table.entries ++ [entry] :=
      replaced_of_absent entry.2 absent
    rw [List.foldl_cons, ih _ (by simpa [appended] using distinct), appended]
    simp

theorem entries_ofList {entries : List (κ × α)} (distinct : (entries.map Prod.fst).Nodup) :
    (ofList entries).entries = entries :=
  entries_foldl_insert empty distinct

theorem get?_ofList_of_mem {key : κ} {value : α} {entries : List (κ × α)}
    (distinct : (entries.map Prod.fst).Nodup) (member : (key, value) ∈ entries) :
    (ofList entries).get? key = some value := by
  rw [get?, entries_ofList distinct]
  exact find_of_mem distinct member

theorem size_ofList {entries : List (κ × α)} (distinct : (entries.map Prod.fst).Nodup) :
    (ofList entries).size = entries.length := by
  rw [size, entries_ofList distinct]

end Table

end ObjectModel
