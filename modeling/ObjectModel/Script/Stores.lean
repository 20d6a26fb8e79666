import ObjectModel.Script.Types

set_option autoImplicit false

namespace ObjectModel.Script

def namedStore (name : String) : ScriptM StoreKey := do
  match (← Eval.host).stores.get? name with
  | some key => return key
  | none => malformed "no store of that name"

def ownStore (owner : Value) : ScriptM StoreKey :=
  match owner.store? with
  | some key => pure key
  | none => malformed "no store"

def dropNamedStore (name : String) : ScriptM Bool := do
  match (← Eval.host).stores.get? name with
  | none => return false
  | some key =>
    Eval.modifyHost fun session => { session with stores := session.stores.erase name }
    if !(← Eval.held).stores.contains key then Eval.modifyWorld (·.dropStore key)
    return true

def StoreOp.run (op : StoreOp) (operands : Operands) : ScriptM Answer := do
  match op, operands.values with
  | .create name, [] =>
    let _ ← dropNamedStore name
    let key ← Eval.create World.newStore
    Eval.modifyHost fun session => { session with stores := session.stores.insert name key }
    return .none
  | .drop name, [] => return .bool (← dropNamedStore name)
  | .hasStore, [value] => return .bool value.store?.isSome
  | _, _ => malformed "bad operands"

def StoreAccess.run (engine : Engine Session) (access : StoreAccess) (key : StoreKey)
    (operands : List Value) : ScriptM Answer := do
  let world ← Eval.world
  let some store := world.store? key
    | malformed "the store is gone"
  match access, operands with
  | .get name, [] => return .ofOption (store.get? name)
  | .insert name, [value] =>
    Eval.modifyWorld (·.modifyStore key (·.insert name value))
    return .ofOption (store.get? name)
  | .remove name, [] =>
    Eval.modifyWorld (·.modifyStore key (·.erase name))
    return .ofOption (store.get? name)
  | .contains name, [] => return .bool (store.contains name)
  | .size, [] => return .nat store.size
  | .isEmpty, [] => return .bool store.isEmpty
  | .items, [] =>
    let pairs ← (sortedTexts store.keys).mapM fun name =>
      Eval.tuple [.str name, (store.get? name).getD .none]
    return .value (← Eval.tuple pairs)
  | .live, [] =>
    return .report (.list
      [Report.optional .nat (world.liveSize? (.store key)),
        .text (world.containerName (.store key))])
  | .inspect, [] => return .report (.text (← storeText engine store))
  | .keys, [] =>
    return .value (← Eval.create fun world => world.newIterator .keys (world.keysCursor key))
  | _, _ => malformed "bad operands"

end ObjectModel.Script
