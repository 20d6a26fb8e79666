import Mathlib.Data.List.Infix
import ObjectModel.Registry

set_option autoImplicit false

namespace ObjectModel

namespace Cells

variable {α β : Type}

theorem get?_lt_size {cells : Cells α} {index : Nat} {value : α}
    (held : cells.get? index = some value) : index < cells.size := by
  by_contra outside
  simp [cells.get?_eq_none_of_size_le (Nat.le_of_not_lt outside)] at held

theorem get?_foldl_push_of_lt (make : β → α) (items : List β) (cells : Cells α) {index : Nat}
    (old : index < cells.size) :
    (items.foldl (fun cells item => cells.push (make item)) cells).get? index =
      cells.get? index := by
  induction items generalizing cells with
  | nil => rfl
  | cons item rest ih =>
    rw [List.foldl_cons, ih _ (by rw [size_push]; omega), get?_push, if_neg (by omega)]

theorem get?_foldl_push (make : β → α) (items : List β) (cells : Cells α) (position : Nat) :
    (items.foldl (fun cells item => cells.push (make item)) cells).get? (cells.size + position) =
      items[position]?.map make := by
  induction items generalizing cells position with
  | nil => simp [get?_eq_none_of_size_le]
  | cons item rest ih =>
    cases position with
    | zero =>
      rw [List.foldl_cons, get?_foldl_push_of_lt _ _ _ (by rw [size_push]; omega), get?_push]
      simp
    | succ position =>
      have next := ih (cells.push (make item)) position
      rw [size_push, Nat.add_assoc, Nat.add_comm 1 position] at next
      simpa using next

theorem get?_foldl_free (index : β → Nat) (items : List β) (cells : Cells α)
    (position : Nat) :
    (items.foldl (fun cells item => cells.free (index item)) cells).get? position = none ∨
      (items.foldl (fun cells item => cells.free (index item)) cells).get? position =
        cells.get? position := by
  induction items generalizing cells with
  | nil => exact .inr rfl
  | cons item rest ih =>
    rw [List.foldl_cons]
    rcases ih (cells.free (index item)) with gone | kept
    · exact .inl gone
    · rw [kept, get?_free]
      split
      · exact .inl rfl
      · exact .inr rfl

theorem size_foldl_free (index : β → Nat) (items : List β) (cells : Cells α) :
    (items.foldl (fun cells item => cells.free (index item)) cells).size = cells.size := by
  induction items generalizing cells with
  | nil => rfl
  | cons item rest ih => rw [List.foldl_cons, ih, size_free]

end Cells

namespace World

def base? (world : World) (key : TypeKey) : Option TypeKey :=
  (world.type? key).bind (·.base)

def idOf? (world : World) (key : TypeKey) : Option UInt32 :=
  (world.type? key).map (·.id)

def bare? (world : World) (key : TypeKey) : Option TypeObject :=
  (world.type? key).map fun type => { type with members := {} }

section Readings

variable {world other : World} {key : TypeKey} (same : other.bare? key = world.bare? key)

include same

theorem part_eq {β : Type} (part : TypeObject → Option β)
    (blind : ∀ type : TypeObject, part type = part { type with members := {} }) :
    (other.type? key).bind part = (world.type? key).bind part := by
  have through (world : World) : (world.type? key).bind part = (world.bare? key).bind part := by
    rw [bare?, Option.bind_map]
    exact congrArg (Option.bind _) (funext blind)
  rw [through, through, same]

theorem view_eq {β : Type} (view : TypeObject → β)
    (blind : ∀ type : TypeObject, view type = view { type with members := {} }) :
    (other.type? key).map view = (world.type? key).map view := by
  rw [Option.map_eq_bind, Option.map_eq_bind]
  exact part_eq same _ fun type => congrArg some (blind type)

theorem nameOf_eq : other.nameOf key = world.nameOf key := by
  rw [nameOf, nameOf, view_eq same _ fun _ => rfl]

theorem flagsOf_eq : other.flagsOf key = world.flagsOf key := by
  rw [flagsOf, flagsOf, view_eq same _ fun _ => rfl]

theorem chain_eq : other.chain key = world.chain key := by
  rw [chain, chain, ancestors, ancestors, view_eq same _ fun _ => rfl]

theorem idOf?_eq : other.idOf? key = world.idOf? key :=
  view_eq same _ fun _ => rfl

theorem base?_eq : other.base? key = world.base? key :=
  part_eq same _ fun _ => rfl

theorem declaredLayout_eq : other.declaredLayout key = world.declaredLayout key :=
  part_eq same _ fun _ => rfl

end Readings

/-- A type of a world is in the later one, with nothing but its members changed. -/
def Retains (key : TypeKey) (world later : World) : Prop :=
  ∀ type, world.type? key = some type → ∃ members, later.type? key = some { type with members }

structure Extends (world later : World) : Prop where
  size : world.types.size ≤ later.types.size
  types : ∀ key, Retains key world later

namespace Retains

variable {world middle later : World} {key : TypeKey} {type : TypeObject}

theorem trans (first : Retains key world middle) (second : Retains key middle later) :
    Retains key world later := by
  intro type held
  obtain ⟨members, between⟩ := first type held
  obtain ⟨others, after⟩ := second _ between
  exact ⟨others, after⟩

theorem of_types_eq (same : later.types = world.types) : Retains key world later :=
  fun type held => ⟨type.members, by simpa only [type?, same] using held⟩

theorem bare?_eq (retained : Retains key world later) (held : world.type? key = some type) :
    later.bare? key = world.bare? key := by
  obtain ⟨members, after⟩ := retained type held
  simp [bare?, held, after]

end Retains

namespace Extends

variable {world : World} {key : TypeKey}

theorem modifyType {change : TypeObject → TypeObject}
    (keeps : ∀ type, ∃ members, change type = { type with members }) :
    world.Extends (world.modifyType key change) := by
  refine ⟨by simp [World.modifyType], fun other type held => ?_⟩
  simp only [type?, World.modifyType, Cells.get?_modify] at held ⊢
  split
  · obtain ⟨members, changed⟩ := keeps type
    exact ⟨members, by rw [held, Option.map_some, changed]⟩
  · exact ⟨type.members, held⟩

theorem setMember (name : String) (value : Value) :
    world.Extends (world.setMember key name value) :=
  modifyType fun _ => ⟨_, rfl⟩

end Extends

theorem extends_push (world : World) (registries : Cells Registry) (type : TypeObject) :
    world.Extends { world with types := world.types.push type, registries } := by
  refine ⟨by simp, fun key held present => ⟨held.members, ?_⟩⟩
  have old : key.index < world.types.size := Cells.get?_lt_size present
  simpa [type?, Cells.get?_push, old.ne] using present

theorem extends_newRegistry (world : World) : world.Extends world.newRegistry.2 := by
  constructor
  case size =>
    simp only [newRegistry, Builtin.byId, List.foldl_cons, List.foldl_nil, Cells.size_push]
    omega
  case types =>
    intro key held present
    have old : key.index < world.types.size := Cells.get?_lt_size present
    refine ⟨held.members, ?_⟩
    rw [type?, newRegistry, Cells.get?_foldl_push_of_lt _ _ _ old]
    exact present

end World

end ObjectModel
