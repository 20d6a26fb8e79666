set_option autoImplicit false

namespace ObjectModel.Text

/-- A table of distinct texts, each at the position that stands for it. -/
structure Interner where
  texts : List String := []
  distinct : texts.Nodup := by exact List.nodup_nil

namespace Interner

def size (table : Interner) : Nat :=
  table.texts.length

def intern (table : Interner) (text : String) : Nat × Interner :=
  if known : text ∈ table.texts then
    (table.texts.idxOf text, table)
  else
    (table.size,
      { texts := table.texts ++ [text]
        distinct := List.nodup_append.mpr ⟨table.distinct, by simp, by
          intro left held right new
          simp only [List.mem_singleton] at new
          rintro rfl
          exact known (new ▸ held)⟩ })

def internAll (table : Interner) : List String → List (Nat × Nat)
  | [] => []
  | text :: rest =>
    let (position, grown) := table.intern text
    (position, grown.size) :: grown.internAll rest

end Interner

end ObjectModel.Text
