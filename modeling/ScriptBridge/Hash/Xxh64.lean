/-!
# The 64-bit xxHash

`Xxh64.hash` digests a list of bytes under a seed. The input is read as little-endian 64-bit words.
Four lanes absorb four words at a time, as long as four are left; the remaining words, then one
32-bit half word, then single bytes are mixed into the joined lanes; `finish` spreads every input
bit over the whole digest. All arithmetic wraps at 64 bits.
-/

namespace ScriptBridge.Xxh64

/-! ## Constants and mixing steps -/

def prime1 : UInt64 := 11400714785074694791
def prime2 : UInt64 := 14029467366897019727
def prime3 : UInt64 := 1609587929392839161
def prime4 : UInt64 := 9650029242287828579
def prime5 : UInt64 := 2870177450012600261

/-- Rotation to the left by `k` bits, for `0 < k < 64`. -/
def rotateLeft (x k : UInt64) : UInt64 := (x <<< k) ||| (x >>> (64 - k))

/-- One word absorbed by one lane. -/
def absorb (lane word : UInt64) : UInt64 := rotateLeft (lane + word * prime2) 31 * prime1

/-- One finished lane folded into the digest. -/
def foldLane (digest lane : UInt64) : UInt64 := (digest ^^^ absorb 0 lane) * prime1 + prime4

/-- One word mixed into the digest after the lanes are joined. -/
def mixWord (digest word : UInt64) : UInt64 :=
  rotateLeft (digest ^^^ absorb 0 word) 27 * prime1 + prime4

/-- A 32-bit half word mixed into the digest. -/
def mixHalf (digest half : UInt64) : UInt64 :=
  rotateLeft (digest ^^^ (half * prime1)) 23 * prime2 + prime3

/-- A single byte mixed into the digest. -/
def mixByte (digest byte : UInt64) : UInt64 := rotateLeft (digest ^^^ (byte * prime5)) 11 * prime1

/-- The closing avalanche. -/
def finish (digest : UInt64) : UInt64 :=
  let d := (digest ^^^ (digest >>> 33)) * prime2
  let d := (d ^^^ (d >>> 29)) * prime3
  d ^^^ (d >>> 32)

/-! ## Reading the input -/

/-- The number whose base-256 digits are the bytes, least significant first. -/
def littleEndian : List UInt8 → UInt64
  | [] => 0
  | b :: rest => b.toUInt64 ||| (littleEndian rest <<< 8)

/-- The input as 64-bit words and the fewer than eight bytes that are left over. -/
def words : List UInt8 → List UInt64 × List UInt8
  | a :: b :: c :: d :: e :: f :: g :: h :: rest =>
    let (ws, tail) := words rest
    (littleEndian [a, b, c, d, e, f, g, h] :: ws, tail)
  | tail => ([], tail)

/-- The four lanes that absorb a long input in parallel. -/
structure Lanes where
  first : UInt64
  second : UInt64
  third : UInt64
  fourth : UInt64

/-- The lanes before any input. -/
def Lanes.start (seed : UInt64) : Lanes :=
  ⟨seed + prime1 + prime2, seed + prime2, seed, seed - prime1⟩

/-- Absorbs four words at a time; answers the lanes and the fewer than four words left over. -/
def Lanes.run (lanes : Lanes) : List UInt64 → Lanes × List UInt64
  | a :: b :: c :: d :: rest =>
    Lanes.run ⟨absorb lanes.first a, absorb lanes.second b, absorb lanes.third c,
      absorb lanes.fourth d⟩ rest
  | left => (lanes, left)

/-- The lanes joined to one digest. -/
def Lanes.join (lanes : Lanes) : UInt64 :=
  let sum := rotateLeft lanes.first 1 + rotateLeft lanes.second 7 + rotateLeft lanes.third 12
    + rotateLeft lanes.fourth 18
  [lanes.first, lanes.second, lanes.third, lanes.fourth].foldl foldLane sum

/-- The digest and the words still to mix in: inputs of fewer than four words skip the lanes. -/
def start (seed : UInt64) (input : List UInt64) : UInt64 × List UInt64 :=
  if input.length < 4 then (seed + prime5, input)
  else
    let (lanes, left) := (Lanes.start seed).run input
    (lanes.join, left)

/-- The fewer than eight bytes behind the last word: four together if there are four, then one by
one. -/
def mixTail (digest : UInt64) : List UInt8 → UInt64
  | a :: b :: c :: d :: rest =>
    (rest.map UInt8.toUInt64).foldl mixByte (mixHalf digest (littleEndian [a, b, c, d]))
  | few => (few.map UInt8.toUInt64).foldl mixByte digest

/-- The digest of `bytes` under `seed`. -/
def hash (seed : UInt64) (bytes : List UInt8) : UInt64 :=
  let (input, tail) := words bytes
  let (digest, left) := start seed input
  finish (mixTail (left.foldl mixWord (digest + UInt64.ofNat bytes.length)) tail)

end ScriptBridge.Xxh64
