import ObjectModel.Attribute
import ObjectModel.Text.Digest

set_option autoImplicit false

namespace ObjectModel

namespace Hash

/-- Keeps `-1` free as a mark for consumers of hashes. -/
def avoidMark (hash : Int64) : Int64 :=
  if hash = -1 then -2 else hash

theorem avoidMark_ne (hash : Int64) : avoidMark hash ≠ -1 := by
  unfold avoidMark
  split
  · decide
  · assumption

def ofNone : Int64 := 0x4e6f6e65

def ofNotImplemented : Int64 := 0x4e6f7449

def ofInfinity : Int64 := 314159

/-- The hash of a floating-point number; one that equals an integer hashes like it. -/
def ofFloat (x : Binary64) : Int64 :=
  if x.isNaN then 0
  else if x.isInfinite then if x.isNegative then -ofInfinity else ofInfinity
  else if x.isWord then avoidMark (Int64.ofInt x.wholePart)
  else avoidMark x.bits.toInt64

def ofString (text : String) : Int64 :=
  avoidMark (Text.Digest.ofString text).toInt64

def ofIdentity (value : Value) : Int64 :=
  avoidMark (Int64.ofNat value.identityNumber)

structure Accumulator where
  hash : Int64 := 0x345678
  multiplier : Int64 := 1000003

def Accumulator.add (accumulator : Accumulator) (count : Nat) (item : Int64) : Accumulator :=
  { hash := (accumulator.hash ^^^ item) * accumulator.multiplier
    multiplier := accumulator.multiplier + (82520 + Int64.ofNat count + Int64.ofNat count) }

def Accumulator.finish (accumulator : Accumulator) : Int64 :=
  avoidMark (accumulator.hash + 97531)

end Hash

namespace Engine

variable {σ : Type}

/-- The remembered hash of a tuple, or the computed one, which is remembered from now on. -/
def rememberedHash (tuple : Value) (compute : Eval σ Int64) : Eval σ Int64 := do
  match (← Eval.world).hashes[tuple]? with
  | some hash => return hash
  | none =>
    let hash ← compute
    Eval.create fun world => world.rememberHash tuple hash

def customHash (engine : Engine σ) (value : Value) (type : TypeKey) (method : Value) :
    Eval σ Int64 := do
  let bound ← engine.complete (← engine.descriptorGet method (some value) type false)
  match (← engine.call bound {}).asIndex? with
  | some hash => return Hash.avoidMark hash
  | none => throw .hashNotInteger

def instanceHash (engine : Engine σ) (value : Value) (native : Eval σ Int64) : Eval σ Int64 := do
  let world ← Eval.world
  let type := world.typeOf value
  match world.lookupWithOwner type "__hash__" with
  | some (.none, _) => .failFor value .unhashable
  | some (method, owner) =>
    if (world.flagsOf owner).heap then engine.customHash value type method else native
  | none => native

mutual

def hash (engine : Engine σ) : Value → Eval σ Int64
  | .none => return Hash.ofNone
  | .notImplemented => return Hash.ofNotImplemented
  | .bool truth => return if truth then 1 else 0
  | .int number => return Hash.avoidMark number
  | .float number => return Hash.ofFloat number
  | .str text => return Hash.ofString text
  | value@(.slice ..) => .failFor value .unhashable
  | value@(.object ⟨_, _, _, .tuple items⟩) =>
    engine.instanceHash value
      (rememberedHash value (engine.hashItems items.length items {}))
  | value@(.object ⟨_, _, _, .empty⟩) =>
    engine.instanceHash value (pure (Hash.ofIdentity value))
  | value@(.type _) | value@(.function _) | value@(.boundMethod ..) | value@(.descriptor _)
  | value@(.iterator ..) => return Hash.ofIdentity value

def hashItems (engine : Engine σ) (count : Nat) : List Value → Hash.Accumulator → Eval σ Int64
  | [], accumulator => return accumulator.finish
  | item :: rest, accumulator => do
    let itemHash ← engine.hash item
    engine.hashItems count rest (accumulator.add count itemHash)

end

def hashTuple (engine : Engine σ) (tuple : Value) (items : List Value) : Eval σ Int64 :=
  rememberedHash tuple (engine.hashItems items.length items {})

end Engine

end ObjectModel
