/-!
# Digest — the 64-bit digest of a byte sequence

The XXH64 digest with seed zero, over lists of bytes, which are read as little-endian lanes of eight.
Groups of four lanes are absorbed into four accumulators; what is left is folded in one by one.
-/

namespace Recast
namespace Digest

/-! ## Words -/

/-- The word that a short list of bytes spells, its first byte in the low eight bits. -/
def leWord (bytes : List UInt8) : UInt64 :=
  bytes.foldr (fun b word => (word <<< 8) ||| b.toUInt64) 0

/-- Turn a word left by `r` bits, for `0 < r < 64`. -/
def rotateLeft (x : UInt64) (r : UInt64) : UInt64 :=
  (x <<< r) ||| (x >>> (64 - r))

/-- Split bytes into the lanes of eight that they fill and the at most seven bytes that are left. -/
def lanes : List UInt8 → List UInt64 × List UInt8
  | b0 :: b1 :: b2 :: b3 :: b4 :: b5 :: b6 :: b7 :: rest =>
      let split := lanes rest
      (leWord [b0, b1, b2, b3, b4, b5, b6, b7] :: split.1, split.2)
  | rest => ([], rest)

/-! ## Constants -/

def prime1 : UInt64 := 0x9e3779b185ebca87

def prime2 : UInt64 := 0xc2b2ae3d27d4eb4f

def prime3 : UInt64 := 0x165667b19e3779f9

def prime4 : UInt64 := 0x85ebca77c2b2ae63

/-- Fifth multiplier, and the starting word of inputs shorter than four lanes. -/
def prime5 : UInt64 := 0x27d4eb2f165667c5

/-! ## Absorbing lanes -/

def round (acc lane : UInt64) : UInt64 :=
  rotateLeft (acc + lane * prime2) 31 * prime1

/-- The four accumulators that the lanes of an input are dealt to in turn. -/
structure Accumulators where
  v1 : UInt64
  v2 : UInt64
  v3 : UInt64
  v4 : UInt64

namespace Accumulators

def start : Accumulators :=
  { v1 := prime1 + prime2
    v2 := prime2
    v3 := 0
    v4 := 0 - prime1 }

/-- Absorb lanes four at a time; fewer than four lanes are handed back. -/
def absorb (a : Accumulators) : List UInt64 → Accumulators × List UInt64
  | l1 :: l2 :: l3 :: l4 :: rest =>
      absorb
        { v1 := round a.v1 l1
          v2 := round a.v2 l2
          v3 := round a.v3 l3
          v4 := round a.v4 l4 }
        rest
  | rest => (a, rest)

def mergeRound (word acc : UInt64) : UInt64 :=
  (word ^^^ round 0 acc) * prime1 + prime4

def merge (a : Accumulators) : UInt64 :=
  let word :=
    rotateLeft a.v1 1 + rotateLeft a.v2 7 + rotateLeft a.v3 12 + rotateLeft a.v4 18
  [a.v1, a.v2, a.v3, a.v4].foldl mergeRound word

end Accumulators

/-- The word that the full groups of four lanes leave, and the lanes after them. -/
def start (ls : List UInt64) : UInt64 × List UInt64 :=
  if ls.length < 4 then
    -- Too short for the accumulators: all lanes are left to the tail.
    (prime5, ls)
  else
    let absorbed := Accumulators.start.absorb ls
    (absorbed.1.merge, absorbed.2)

/-! ## The tail -/

def mixLane (word lane : UInt64) : UInt64 :=
  rotateLeft (word ^^^ round 0 lane) 27 * prime1 + prime4

def mixByte (word : UInt64) (b : UInt8) : UInt64 :=
  rotateLeft (word ^^^ (b.toUInt64 * prime5)) 11 * prime1

/-- Fold in the at most seven bytes after the last lane: half a lane at once, then byte by byte. -/
def mixTail (word : UInt64) : List UInt8 → UInt64
  | b0 :: b1 :: b2 :: b3 :: rest =>
      let mixed :=
        rotateLeft (word ^^^ (leWord [b0, b1, b2, b3] * prime1)) 23 * prime2 + prime3
      rest.foldl mixByte mixed
  | rest => rest.foldl mixByte word

/-- Spread every bit of a word over all of it. -/
def avalanche (word : UInt64) : UInt64 :=
  let a := (word ^^^ (word >>> 33)) * prime2
  let b := (a ^^^ (a >>> 29)) * prime3
  b ^^^ (b >>> 32)

def ofBytes (bytes : List UInt8) : UInt64 :=
  let split := lanes bytes
  let started := start split.1
  let counted := started.1 + UInt64.ofNat bytes.length
  avalanche (mixTail (started.2.foldl mixLane counted) split.2)

/-- The digest of the bytes that encode a text in UTF-8. -/
def ofString (s : String) : UInt64 :=
  ofBytes s.toUTF8.toList

end Digest
end Recast
