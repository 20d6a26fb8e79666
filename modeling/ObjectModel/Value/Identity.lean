import ObjectModel.Value.Basic

set_option autoImplicit false

namespace ObjectModel

namespace Value

mutual

def same : Value → Value → Bool
  | none, none => true
  | notImplemented, notImplemented => true
  | bool left, bool right => left = right
  | int left, int right => left = right
  | float left, float right => left = right
  | str left, str right => left = right
  | type left, type right => left = right
  | object ⟨serial, kind, store, payload⟩, object ⟨serial', kind', store', payload'⟩ =>
    serial = serial' && kind = kind' && store = store' &&
      match payload, payload' with
      | .empty, .empty => true
      | .tuple items, .tuple items' => sameItems items items'
      | _, _ => false
  | function left, function right => left = right
  | boundMethod serial method receiver, boundMethod serial' method' receiver' =>
    serial = serial' && method = method' && receiver.same receiver'
  | descriptor left, descriptor right => left = right
  | slice serial left, slice serial' right => serial = serial' && left = right
  | iterator left kind, iterator right kind' => left = right && kind = kind'
  | _, _ => false

def sameItems : List Value → List Value → Bool
  | [], [] => true
  | left :: lefts, right :: rights => left.same right && sameItems lefts rights
  | _, _ => false

end

mutual

theorem same_iff (left right : Value) : left.same right = true ↔ left = right := by
  match left with
  | object ⟨serial, kind, store, .tuple items⟩ =>
    cases right with
    | object other =>
      obtain ⟨serial', kind', store', payload'⟩ := other
      cases payload' with
      | empty => simp [same]
      | tuple items' => simp [same, sameItems_iff items items', and_assoc]
    | _ => simp [same]
  | object ⟨serial, kind, store, .empty⟩ =>
    cases right with
    | object other =>
      obtain ⟨serial', kind', store', payload'⟩ := other
      cases payload' <;> simp [same, and_assoc]
    | _ => simp [same]
  | boundMethod serial method receiver =>
    cases right with
    | boundMethod serial' method' receiver' => simp [same, same_iff receiver receiver', and_assoc]
    | _ => simp [same]
  | none | notImplemented | bool _ | int _ | float _ | str _ | type _ | function _ | descriptor _
  | slice _ _ | iterator _ _ => cases right <;> simp [same]

theorem sameItems_iff (lefts rights : List Value) :
    sameItems lefts rights = true ↔ lefts = rights := by
  match lefts, rights with
  | [], [] => simp [sameItems]
  | [], _ :: _ => simp [sameItems]
  | _ :: _, [] => simp [sameItems]
  | left :: lefts, right :: rights =>
    simp [sameItems, same_iff left right, sameItems_iff lefts rights]

end

instance : DecidableEq Value := fun left right =>
  withPtrEqDecEq left right fun _ => decidable_of_iff _ (same_iff left right)

def is (left right : Value) : Bool :=
  left = right

@[simp]
theorem is_iff (left right : Value) : left.is right = true ↔ left = right := by
  simp [is]

/-- The kinds of created values, and the number that tells values of a kind apart. -/
inductive Identity where
  | type (number : Nat)
  | object (number : Nat)
  | function (number : Nat)
  | boundMethod (number : Nat)
  | descriptor (number : Nat)
  | slice (number : Nat)
  | iterator (number : Nat)
  deriving DecidableEq, Repr

def identity? : Value → Option Identity
  | type key => some (.type key.index)
  | object inst => some (.object inst.serial)
  | function f => some (.function f.serial)
  | boundMethod serial _ _ => some (.boundMethod serial)
  | descriptor (.property serial ..) | descriptor (.accessor serial ..) =>
    some (.descriptor serial)
  | slice serial _ => some (.slice serial)
  | iterator cursor _ => some (.iterator cursor.index)
  | _ => Option.none

/-- Where the numbers of identities begin, far from the numbers that programs count with. -/
def firstIdentity : Nat := 0x40000000000

def Identity.number : Identity → Nat
  | .type number => firstIdentity + 8 * number
  | .object number => firstIdentity + 8 * number + 1
  | .function number => firstIdentity + 8 * number + 2
  | .boundMethod number => firstIdentity + 8 * number + 3
  | .descriptor number => firstIdentity + 8 * number + 4
  | .slice number => firstIdentity + 8 * number + 5
  | .iterator number => firstIdentity + 8 * number + 6

def identityNumber (value : Value) : Nat :=
  (value.identity?.map Identity.number).getD 0

instance : Hashable Value := ⟨fun value => hash value.identityNumber⟩

end Value

end ObjectModel
