set_option autoImplicit false

namespace ObjectModel

structure Binary64 where
  bits : UInt64
  deriving DecidableEq, Repr

namespace Binary64

def signBit : Nat := 0x8000000000000000

def leadingBit : Nat := 0x10000000000000

def isNegative (x : Binary64) : Bool :=
  signBit ≤ x.bits.toNat

def magnitudeBits (x : Binary64) : Nat :=
  x.bits.toNat % signBit

def infinityBits : Nat := 0x7ff0000000000000

def isNaN (x : Binary64) : Bool :=
  infinityBits < x.magnitudeBits

def isInfinite (x : Binary64) : Bool :=
  x.magnitudeBits = infinityBits

def isZero (x : Binary64) : Bool :=
  x.magnitudeBits = 0

def exponentField (x : Binary64) : Nat :=
  x.magnitudeBits / leadingBit

def significand (x : Binary64) : Nat :=
  if x.exponentField = 0 then x.magnitudeBits else x.magnitudeBits % leadingBit + leadingBit

def scale (x : Binary64) : Nat :=
  x.exponentField - 1

def unitsPerOne : Nat := Nat.pow 2 1074

def units (x : Binary64) : Nat :=
  x.significand * Nat.pow 2 x.scale

/-- Orders the numbers other than NaN: larger numbers have larger ranks, both zeros rank zero. -/
def rank (x : Binary64) : Int :=
  if x.isNegative then -(x.magnitudeBits : Int) else x.magnitudeBits

def ordering? (x y : Binary64) : Option Ordering :=
  if x.isNaN || y.isNaN then none else some (compare x.rank y.rank)

def wholePart (x : Binary64) : Int :=
  let whole : Int := ((x.units / unitsPerOne : Nat) : Int)
  if x.isNegative then -whole else whole

def isWhole (x : Binary64) : Bool :=
  x.units % unitsPerOne = 0

def wordRank : Int := 0x43e0000000000000

def orderingOfInt? (n : Int64) (x : Binary64) : Option Ordering :=
  if x.isNaN then none
  else if wordRank ≤ x.rank then some .lt
  else if x.rank < -wordRank then some .gt
  else
    some ((compare n.toInt x.wholePart).then
      (if x.isWhole then .eq else if x.isNegative then .gt else .lt))

def isWord (x : Binary64) : Bool :=
  !x.isNaN && x.isWhole && -wordRank ≤ x.rank && x.rank < wordRank

end Binary64

end ObjectModel
