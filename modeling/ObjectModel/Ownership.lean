import ObjectModel.World
import Std.Data.HashMap
import Std.Data.HashSet

/-!
# Ownership

An attribute store lives with its instance, and an instance lives for as long as something that
lives refers to it: a value in use, a member of a type, another store, or an iterator that holds it.
Instances that refer to one another in a ring keep each other alive. A store may also be in use by
itself, which keeps what it holds alive but not its instance. An iterator over the names in a store
does not keep the store alive, and stops watching it once nothing else does.

What is no longer alive does not come back, so that each look at lifetimes takes up where the last
one ended.
-/

set_option autoImplicit false

namespace ObjectModel

/-- What is in use whether or not anything refers to it. -/
structure Roots where
  values : List Value := []
  stores : List StoreKey := []

namespace Roots

def append (roots others : Roots) : Roots where
  values := roots.values ++ others.values
  stores := roots.stores ++ others.stores

instance : Append Roots := ⟨append⟩

def addValues (roots : Roots) (values : List Value) : Roots :=
  { roots with values := values ++ roots.values }

def addStore (roots : Roots) (store : StoreKey) : Roots :=
  { roots with stores := store :: roots.stores }

end Roots

structure Findings where
  -- The serial numbers of the instances that were searched.
  searched : Std.HashSet Nat := {}
  holders : Std.HashSet Holder := {}

namespace Findings

def note (findings : Findings) (holder : Holder) : Findings :=
  { findings with holders := findings.holders.insert holder }

mutual

def search (findings : Findings) : Value → Findings
  | .object ⟨serial, _, store, payload⟩ =>
    if findings.searched.contains serial then
      findings
    else
      let findings := { findings with searched := findings.searched.insert serial }
      let findings := match store with
        | some key => findings.note (.store key)
        | none => findings
      match payload with
      | .tuple items => findings.searchAll items
      | .empty => findings
  | .boundMethod _ _ receiver => findings.search receiver
  | .iterator cursor _ => findings.note (.cursor cursor)
  | .none | .notImplemented | .bool _ | .int _ | .float _ | .str _ | .type _ | .function _
  | .descriptor _ | .slice .. => findings

def searchAll (findings : Findings) : List Value → Findings
  | [] => findings
  | value :: rest => (findings.search value).searchAll rest

end

end Findings

def referencesOf (values : List Value) : List Holder :=
  (({} : Findings).searchAll values).holders.toList

abbrev ReferenceCounts := Std.HashMap Holder Nat

namespace ReferenceCounts

def count (counts : ReferenceCounts) (holder : Holder) : Nat :=
  counts[holder]?.getD 0

def retain (counts : ReferenceCounts) (holders : List Holder) : ReferenceCounts :=
  holders.foldl (fun counts holder => counts.insert holder (counts.count holder + 1)) counts

def release (counts : ReferenceCounts) (holders : List Holder) : ReferenceCounts :=
  holders.foldl (fun counts holder => counts.insert holder (counts.count holder - 1)) counts

end ReferenceCounts

namespace World

def heldBy (world : World) : Holder → List Value
  | .store key => ((world.store? key).map fun store => store.entries.map Prod.snd).getD []
  | .cursor key => ((world.cursors.get? key.index).map Cursor.items).getD []

def memberValues (world : World) : List Value :=
  world.types.toList.flatMap fun (_, type) => type.members.entries.map Prod.snd

/-- The holders that may be alive: those that were at the last look, and those made since. -/
def holders (world : World) : List Holder :=
  let survey := world.survey
  let since (first size : Nat) := List.range' first (size - first)
  survey.alive ++
    (since survey.stores world.stores.size).map (.store ⟨·⟩) ++
    (since survey.cursors world.cursors.size).map (.cursor ⟨·⟩)

def allReferences (world : World) (roots : Roots) : ReferenceCounts :=
  let inUse := (({} : ReferenceCounts).retain (roots.stores.map .store)).retain
    (referencesOf (roots.values ++ world.memberValues))
  world.holders.foldl (fun counts holder => counts.retain (referencesOf (world.heldBy holder)))
    inUse

/-- Gives up holders without an owner, one after the other, and with each its references. What
loses its last owner by that is given up in turn, so that each holder takes one round. -/
def giveUp (world : World) : Nat → List Holder → ReferenceCounts → ReferenceCounts
  | 0, _, counts | _, [], counts => counts
  | rounds + 1, holder :: rest, counts =>
    let references := referencesOf (world.heldBy holder)
    let counts := counts.release references
    world.giveUp rounds (references.filter (counts.count · = 0) ++ rest) counts

def liveReferences (world : World) (roots : Roots) : ReferenceCounts :=
  let counts := world.allReferences roots
  let holders := world.holders
  world.giveUp holders.length (holders.filter (counts.count · = 0)) counts

def remember (world : World) (counts : ReferenceCounts) : World :=
  let survey : Survey :=
    { alive := world.holders.filter (counts.count · ≠ 0)
      stores := world.stores.size
      cursors := world.cursors.size }
  { world with survey }

def watchedStore? (world : World) (key : CursorKey) : Option StoreKey :=
  match world.cursors.get? key.index with
  | some (.checked _ _ _ (.store store) _) => some store
  | _ => none

def watchesChange (world : World) (key : CursorKey) : Bool :=
  match world.cursors.get? key.index with
  | some (.checked size _ _ (.store store) _) =>
    (world.liveSize? (.store store)).any (· ≠ size)
  | _ => false

def releaseDead (world : World) (roots : Roots) (key : CursorKey) : World :=
  match world.watchedStore? key with
  | none => world
  | some store =>
    let counts := world.liveReferences roots
    let world := world.remember counts
    if counts.count (.store store) = 0 then
      { world with cursors := world.cursors.modify key.index Cursor.release }
    else
      world

end World

end ObjectModel
