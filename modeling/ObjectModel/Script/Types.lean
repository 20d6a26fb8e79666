import ObjectModel.Script.Inspect

set_option autoImplicit false

namespace ObjectModel.Script

def sortedTexts (texts : List String) : List String :=
  texts.mergeSort fun left right => !decide (right < left)

def typeReport (world : World) (key : TypeKey) (type : TypeObject) : Report :=
  let layout (layout? : Option Layout) : Report :=
    Report.optional (fun layout => .text (layoutName layout)) layout?
  let typeName (key? : Option TypeKey) : Report :=
    Report.optional (fun key => .text (world.nameOf key)) key?
  let chain := world.chain key
  .record
    [("name", .text type.name),
      ("base", typeName type.base),
      ("mro", Report.texts (chain.map world.nameOf)),
      ("mro_len", .nat chain.length),
      ("ancestors", .nat type.ancestors.length),
      ("flags", .nat type.flags.bits),
      ("basetype", .bool type.flags.baseType),
      ("immutable", .bool type.flags.immutable),
      ("heap", .bool type.flags.heap),
      ("has_dict", .bool type.flags.hasStore),
      ("native_new", layout type.layout),
      ("resolved_native_new", layout (world.layoutOf? key)),
      ("native_owner", typeName (world.layoutOwner? key)),
      ("builtin_id", if TypeObject.isBuiltinId type.id then .nat type.id.toNat else .null),
      ("own_names", Report.texts (sortedTexts type.members.keys))]

def registryFor (name : Option String) : ScriptM RegistryKey :=
  name.elim (pure World.sharedRegistry) namedRegistry

def answerType (key? : Option TypeKey) : Answer :=
  .ofOption (key?.map .type)

def TypeOp.run (op : TypeOp) (operands : Operands) : ScriptM Answer := do
  let world ← Eval.world
  match op, operands.values with
  | .info, [.type key] =>
    match world.type? key with
    | none => malformed "the type is gone"
    | some type => return .report (typeReport world key type)
  | .ownGet name, [.type key] => return .ofOption (world.member? key name)
  | .ownSet name, [.type key, value] =>
    Eval.modifyWorld (·.setMember key name value)
    return .ofOption (world.member? key name)
  | .ownDelete name, [.type key] =>
    Eval.modifyWorld (·.removeMember key name)
    return .ofOption (world.member? key name)
  | .lookup name, [.type key] => return .ofOption (world.lookup key name)
  | .lookupOwner name, [.type key] =>
    match world.lookupWithOwner key name with
    | none => return .missing
    | some (value, owner) =>
      return .report (.record
        [("value", Report.ofValue world value), ("owner", .text (world.nameOf owner))])
  | .hasUserNew, [.type key] => return .bool (world.hasUserNew key)
  | .isSubtype, [.type key, .type other] => return .bool (world.isSubtype key other)
  | .builtin name, [] => return answerType ((Builtin.ofName? name).map Builtin.key)
  | .id, [.type key] =>
    match world.type? key with
    | none => malformed "the type is gone"
    | some type =>
      return .report (.record
        [("raw", .nat type.id.toNat), ("builtin", .bool (TypeObject.isBuiltinId type.id))])
  | .registryNew name, [] =>
    let registry ← Eval.create World.newRegistry
    Eval.modifyHost fun session =>
      { session with registries := session.registries.insert name registry }
    return .none
  | .registryBuiltin registry name, [] =>
    let registry ← namedRegistry registry
    return answerType ((Builtin.ofName? name).bind (world.registryBuiltin? registry))
  | .registryAll registry, [] =>
    let registry ← namedRegistry registry
    let builtins := Builtin.all.map fun builtin =>
      Report.list [.text builtin.name, .nat builtin.id]
    return .report (.record
      [("builtins", .list builtins), ("len", .nat (world.registrySize registry))])
  | .registrySize registry, [] =>
    return .nat (world.registrySize (← namedRegistry registry))
  | .registryIsEmpty registry, [] =>
    return .bool (world.registrySize (← namedRegistry registry) = 0)
  | .registryAllocate registry, [] =>
    let registry ← namedRegistry registry
    return .nat (← Eval.create fun world => world.allocateId registry).toNat
  | .registryGet registry number, [] =>
    return answerType (world.registered? (← namedRegistry registry) (UInt32.ofNat number))
  | .registryContains registry number, [] =>
    return .bool (world.registered? (← namedRegistry registry) (UInt32.ofNat number)).isSome
  | .orphan hasStore, [] =>
    let storage : Storage := if hasStore then .store else .slots
    return .value (.object (← Eval.createOrFail fun world =>
      world.newOrphan "Orphan" storage .empty))
  | .orphanTuple, [] =>
    let items := operands.arguments.positional
    return .value (.object (← Eval.createOrFail fun world =>
      world.newOrphan "OrphanTuple" .slots (.tuple items)))
  | _, _ => malformed "bad operands"

end ObjectModel.Script
