/-!
The hash function SHA-256 on octets, and the keyed hash made from it.
-/
namespace SurveyDesk.Sha256

/-- The words that the rounds add: the first 32 bits of the fractional parts of the cube roots of
the first sixty-four primes. -/
def roundWords : List UInt32 := [
  0x428a2f98, 0x71374491, 0xb5c0fbcf, 0xe9b5dba5, 0x3956c25b, 0x59f111f1, 0x923f82a4, 0xab1c5ed5,
  0xd807aa98, 0x12835b01, 0x243185be, 0x550c7dc3, 0x72be5d74, 0x80deb1fe, 0x9bdc06a7, 0xc19bf174,
  0xe49b69c1, 0xefbe4786, 0x0fc19dc6, 0x240ca1cc, 0x2de92c6f, 0x4a7484aa, 0x5cb0a9dc, 0x76f988da,
  0x983e5152, 0xa831c66d, 0xb00327c8, 0xbf597fc7, 0xc6e00bf3, 0xd5a79147, 0x06ca6351, 0x14292967,
  0x27b70a85, 0x2e1b2138, 0x4d2c6dfc, 0x53380d13, 0x650a7354, 0x766a0abb, 0x81c2c92e, 0x92722c85,
  0xa2bfe8a1, 0xa81a664b, 0xc24b8b70, 0xc76c51a3, 0xd192e819, 0xd6990624, 0xf40e3585, 0x106aa070,
  0x19a4c116, 0x1e376c08, 0x2748774c, 0x34b0bcb5, 0x391c0cb3, 0x4ed8aa4a, 0x5b9cca4f, 0x682e6ff3,
  0x748f82ee, 0x78a5636f, 0x84c87814, 0x8cc70208, 0x90befffa, 0xa4506ceb, 0xbef9a3f7, 0xc67178f2]

/-- The eight words that are chained from block to block. -/
structure Chain where
  a : UInt32
  b : UInt32
  c : UInt32
  d : UInt32
  e : UInt32
  f : UInt32
  g : UInt32
  h : UInt32
  deriving DecidableEq, Repr

/-- The chain before the first block. -/
def Chain.start : Chain :=
  ⟨0x6a09e667, 0xbb67ae85, 0x3c6ef372, 0xa54ff53a, 0x510e527f, 0x9b05688c, 0x1f83d9ab, 0x5be0cd19⟩

/-- A word rotated to the right. -/
def rotated (word : UInt32) (count : UInt32) : UInt32 :=
  (word >>> count) ||| (word <<< (32 - count))

/-- The chain after one round with a word of the schedule and a round word. -/
def Chain.round (chain : Chain) (scheduled added : UInt32) : Chain :=
  let mixedE := rotated chain.e 6 ^^^ rotated chain.e 11 ^^^ rotated chain.e 25
  let choice := (chain.e &&& chain.f) ^^^ ((chain.e ^^^ 0xffffffff) &&& chain.g)
  let first := chain.h + mixedE + choice + added + scheduled
  let mixedA := rotated chain.a 2 ^^^ rotated chain.a 13 ^^^ rotated chain.a 22
  let majority := (chain.a &&& chain.b) ^^^ (chain.a &&& chain.c) ^^^ (chain.b &&& chain.c)
  ⟨first + (mixedA + majority), chain.a, chain.b, chain.c, chain.d + first, chain.e, chain.f,
    chain.g⟩

/-- Two chains added word by word. -/
def Chain.plus (x y : Chain) : Chain :=
  ⟨x.a + y.a, x.b + y.b, x.c + y.c, x.d + y.d, x.e + y.e, x.f + y.f, x.g + y.g, x.h + y.h⟩

/-- The word made of four octets, the most significant first. -/
def wordOf (a b c d : UInt8) : UInt32 :=
  (a.toUInt32 <<< 24) ||| (b.toUInt32 <<< 16) ||| (c.toUInt32 <<< 8) ||| d.toUInt32

/-- The words of octets, four octets each. -/
def words : List UInt8 → List UInt32
  | a :: b :: c :: d :: rest => wordOf a b c d :: words rest
  | _ => []

/-- The schedule, newest word first, with so many more words. Each comes of the second, seventh,
fifteenth and sixteenth before it. -/
def extended (schedule : List UInt32) : (count : Nat) → List UInt32
  | 0 => schedule
  | count + 1 =>
    let back (distance : Nat) : UInt32 := schedule.getD (distance - 1) 0
    let near := rotated (back 2) 17 ^^^ rotated (back 2) 19 ^^^ (back 2 >>> 10)
    let far := rotated (back 15) 7 ^^^ rotated (back 15) 18 ^^^ (back 15 >>> 3)
    extended ((near + back 7 + far + back 16) :: schedule) count

/-- The schedule of a block of sixteen words: as many words as there are rounds. -/
def scheduleOf (block : List UInt32) : List UInt32 := (extended block.reverse 48).reverse

/-- The chain after a block. -/
def Chain.block (chain : Chain) (block : List UInt32) : Chain :=
  chain.plus ((List.zip (scheduleOf block) roundWords).foldl
    (fun chain pair => chain.round pair.1 pair.2) chain)

/-- The chain after several blocks of sixteen words. -/
def Chain.blocks (chain : Chain) : (count : Nat) → List UInt32 → Chain
  | 0, _ => chain
  | count + 1, words => (chain.block (words.take 16)).blocks count (words.drop 16)

/-- The octets of a number, the most significant first. -/
def bigEndian (count n : Nat) : List UInt8 :=
  (List.range count).reverse.map fun place => UInt8.ofNat (n / Nat.pow 256 place % 256)

/-- A message with what is put behind it: a one bit, zeros, and its length in bits, to fill blocks
of sixty-four octets. -/
def padded (message : List UInt8) : List UInt8 :=
  let zeros := (119 - message.length % 64) % 64
  message ++ 0x80 :: List.replicate zeros 0 ++ bigEndian 8 (8 * message.length)

/-- The octets of a word. -/
def octets (word : UInt32) : List UInt8 := bigEndian 4 word.toNat

/-- The hash of a message. -/
def hash (message : List UInt8) : List UInt8 :=
  let message := padded message
  let chain := Chain.start.blocks (message.length / 64) (words message)
  [chain.a, chain.b, chain.c, chain.d, chain.e, chain.f, chain.g, chain.h].flatMap octets

/-- The octets in a block. -/
def blockLength : Nat := 64

/-- A key filled up to a block; one that is longer is hashed first. -/
def blockKey (key : List UInt8) : List UInt8 :=
  let key := if blockLength < key.length then hash key else key
  key ++ List.replicate (blockLength - key.length) 0

/-- The keyed hash of a message. -/
def keyed (key message : List UInt8) : List UInt8 :=
  let key := blockKey key
  hash (key.map (· ^^^ 0x5c) ++ hash (key.map (· ^^^ 0x36) ++ message))

end SurveyDesk.Sha256
