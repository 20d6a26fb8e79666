set_option autoImplicit false

namespace ObjectModel.Text.Digest

def fold (left right : UInt64) : UInt64 :=
  let product := left.toNat * right.toNat
  UInt64.ofNat product ^^^ UInt64.ofNat (product / 0x10000000000000000)

def word (bytes : List UInt8) : UInt64 :=
  bytes.foldr (fun byte high => byte.toUInt64 ||| (high <<< 8)) 0

def firstSeed : UInt64 := 0x243f6a8885a308d3

def secondSeed : UInt64 := 0x13198a2e03707344

def blockKey : UInt64 := 0xa4093822299f31d0

def multiplier : UInt64 := 0xf1357aea2e62a9c5

def absorb (first second : UInt64) (bytes : List UInt8) : Nat → UInt64 × UInt64
  | 0 => (first, second)
  | blocks + 1 =>
    let mixed := fold (first ^^^ word (bytes.take 8)) (blockKey ^^^ word ((bytes.drop 8).take 8))
    absorb second mixed (bytes.drop 16) blocks

def compress (bytes : List UInt8) : UInt64 :=
  let size := bytes.length
  let last (count : Nat) := word (bytes.drop (size - count))
  let (first, second) :=
    if size = 0 then
      (firstSeed, secondSeed)
    else if size < 4 then
      (firstSeed ^^^ word (bytes.take 1),
        secondSeed ^^^ ((last 1 <<< 8) ||| word ((bytes.drop (size / 2)).take 1)))
    else if size < 8 then
      (firstSeed ^^^ word (bytes.take 4), secondSeed ^^^ last 4)
    else if size ≤ 16 then
      (firstSeed ^^^ word (bytes.take 8), secondSeed ^^^ last 8)
    else
      -- The last block stays out even if it is whole.
      let (first, second) := absorb firstSeed secondSeed bytes ((size - 1) / 16)
      (first ^^^ word ((bytes.drop (size - 16)).take 8), second ^^^ last 8)
  fold first second ^^^ UInt64.ofNat size

def rotateLeft (value amount : UInt64) : UInt64 :=
  (value <<< amount) ||| (value >>> (64 - amount))

def ofString (text : String) : UInt64 :=
  let body := compress text.toUTF8.toList * multiplier
  rotateLeft ((body + 0xff) * multiplier) 26

end ObjectModel.Text.Digest
