import DocumentMapping.Number.Power

/-!
# A hash of words and texts

Words are mixed in one after the other by an addition and a multiplication modulo `2 ^ 64`; a byte
is a word of its own, and a text is first condensed into one word. The result is rotated so that its
upper bits, which depend on all words, come last.
-/

namespace DocumentMapping

/-- What can be mixed into a hash. -/
inductive HashItem where
  | word (value : UInt64)
  | byte (value : UInt8)
  | text (value : String)
deriving DecidableEq, Repr

namespace WordHash

/-- The low and the high half of a product, combined by exclusive or. -/
def fold (x y : UInt64) : UInt64 :=
  let product := x.toNat * y.toNat
  UInt64.ofNat (product % 2 ^ 64) ^^^ UInt64.ofNat (product / 2 ^ 64)

/-- The number that bytes write, the least significant one first. -/
def littleEndian (bytes : List UInt8) : UInt64 :=
  bytes.foldr (fun byte value => value <<< 8 ||| byte.toUInt64) 0

/-- The last bytes of a list. -/
def takeLast (count : Nat) (bytes : List UInt8) : List UInt8 :=
  bytes.drop (bytes.length - count)

/-- The two words a condensation starts from. -/
def seeds : UInt64 × UInt64 := (0x243f6a8885a308d3, 0x13198a2e03707344)

/-- Mixes whole pairs of words into the seeds, as long as further bytes follow them. -/
def absorb (s : UInt64 × UInt64) : Nat → List UInt8 → UInt64 × UInt64
  | 0, _ => s
  | fuel + 1, bytes =>
    if 16 < bytes.length then
      let x := littleEndian (bytes.take 8)
      let y := littleEndian ((bytes.drop 8).take 8)
      absorb (s.2, fold (s.1 ^^^ x) (0xa4093822299f31d0 ^^^ y)) fuel (bytes.drop 16)
    else s

/-- Mixes in the bytes of a text of at most sixteen. -/
def absorbShort (bytes : List UInt8) : UInt64 × UInt64 :=
  let n := bytes.length
  if 8 ≤ n then
    (seeds.1 ^^^ littleEndian (bytes.take 8), seeds.2 ^^^ littleEndian (takeLast 8 bytes))
  else if 4 ≤ n then
    (seeds.1 ^^^ littleEndian (bytes.take 4), seeds.2 ^^^ littleEndian (takeLast 4 bytes))
  else
    match bytes.head?, bytes[n / 2]?, bytes.getLast? with
    | some first, some middle, some last =>
      (seeds.1 ^^^ first.toUInt64, seeds.2 ^^^ (last.toUInt64 <<< 8 ||| middle.toUInt64))
    | _, _, _ => seeds

/-- Mixes in the bytes of a longer text: pairs of words, and the last sixteen bytes. -/
def absorbLong (bytes : List UInt8) : UInt64 × UInt64 :=
  let s := absorb seeds bytes.length bytes
  let tail := takeLast 16 bytes
  (s.1 ^^^ littleEndian (tail.take 8), s.2 ^^^ littleEndian (tail.drop 8))

/-- Condenses bytes into a word. -/
def condense (bytes : List UInt8) : UInt64 :=
  let s := if bytes.length ≤ 16 then absorbShort bytes else absorbLong bytes
  fold s.1 s.2 ^^^ UInt64.ofNat bytes.length

/-- Mixes a word into a hash. -/
def addWord (hash word : UInt64) : UInt64 :=
  (hash + word) * 0xf1357aea2e62a9c5

/-- Mixes an item into a hash. A text is its condensed word and a closing mark. -/
def add (hash : UInt64) : HashItem → UInt64
  | .word value => addWord hash value
  | .byte value => addWord hash value.toUInt64
  | .text value => addWord (addWord hash (condense value.toUTF8.toList)) 0xff

/-- The hash of items. -/
def hash (items : List HashItem) : UInt64 :=
  let mixed := items.foldl add 0
  mixed <<< 26 ||| mixed >>> 38

/-- Sixteen hexadecimal digits. -/
def digits (value : UInt64) : String :=
  let written := Nat.toDigits 16 value.toNat
  String.ofList (List.replicate (16 - written.length) '0' ++ written)

end WordHash

end DocumentMapping
