/-! # SHA-256

The Secure Hash Standard's 256-bit digest on lists of bytes.  A message is padded to whole blocks of
sixteen 32-bit words (`padded`), each block is mixed into the eight chaining words (`Chain.absorb`),
and the digest is their thirty-two bytes, most significant first (`digest`).

Everything recurses on the data: the message schedule is a window of sixteen words that moves on by
one word a round, so no array is indexed. -/

namespace ScopedStyles.Sha256

/-- The eight chaining words. -/
structure Chain where
  a : UInt32
  b : UInt32
  c : UInt32
  d : UInt32
  e : UInt32
  f : UInt32
  g : UInt32
  h : UInt32
deriving DecidableEq, Repr

abbrev Digest := Vector UInt8 32

/-- The chaining words before the first block. -/
def Chain.start : Chain :=
  ⟨0x6a09e667, 0xbb67ae85, 0x3c6ef372, 0xa54ff53a, 0x510e527f, 0x9b05688c, 0x1f83d9ab, 0x5be0cd19⟩

/-- One constant for each of the sixty-four rounds. -/
def roundConstants : List UInt32 :=
  [0x428a2f98, 0x71374491, 0xb5c0fbcf, 0xe9b5dba5, 0x3956c25b, 0x59f111f1, 0x923f82a4, 0xab1c5ed5,
   0xd807aa98, 0x12835b01, 0x243185be, 0x550c7dc3, 0x72be5d74, 0x80deb1fe, 0x9bdc06a7, 0xc19bf174,
   0xe49b69c1, 0xefbe4786, 0x0fc19dc6, 0x240ca1cc, 0x2de92c6f, 0x4a7484aa, 0x5cb0a9dc, 0x76f988da,
   0x983e5152, 0xa831c66d, 0xb00327c8, 0xbf597fc7, 0xc6e00bf3, 0xd5a79147, 0x06ca6351, 0x14292967,
   0x27b70a85, 0x2e1b2138, 0x4d2c6dfc, 0x53380d13, 0x650a7354, 0x766a0abb, 0x81c2c92e, 0x92722c85,
   0xa2bfe8a1, 0xa81a664b, 0xc24b8b70, 0xc76c51a3, 0xd192e819, 0xd6990624, 0xf40e3585, 0x106aa070,
   0x19a4c116, 0x1e376c08, 0x2748774c, 0x34b0bcb5, 0x391c0cb3, 0x4ed8aa4a, 0x5b9cca4f, 0x682e6ff3,
   0x748f82ee, 0x78a5636f, 0x84c87814, 0x8cc70208, 0x90befffa, 0xa4506ceb, 0xbef9a3f7, 0xc67178f2]

/-- Rotation of a word to the right, for amounts from 1 to 31. -/
def rotr (x : UInt32) (n : UInt32) : UInt32 := (x >>> n) ||| (x <<< (32 - n))

/-- The schedule word sixteen places after the first word of the window. -/
def scheduled (w : List UInt32) : UInt32 :=
  let x := w.getD 1 0
  let y := w.getD 14 0
  let s₀ := rotr x 7 ^^^ rotr x 18 ^^^ (x >>> 3)
  let s₁ := rotr y 17 ^^^ rotr y 19 ^^^ (y >>> 10)
  w.getD 0 0 + s₀ + w.getD 9 0 + s₁

/-- One round with constant `k` and schedule word `w`. -/
def Chain.round (s : Chain) (k w : UInt32) : Chain :=
  let s₁ := rotr s.e 6 ^^^ rotr s.e 11 ^^^ rotr s.e 25
  let ch := (s.e &&& s.f) ^^^ (~~~s.e &&& s.g)
  let t₁ := s.h + s₁ + ch + k + w
  let s₀ := rotr s.a 2 ^^^ rotr s.a 13 ^^^ rotr s.a 22
  let maj := (s.a &&& s.b) ^^^ (s.a &&& s.c) ^^^ (s.b &&& s.c)
  ⟨t₁ + (s₀ + maj), s.a, s.b, s.c, s.d + t₁, s.e, s.f, s.g⟩

/-- All rounds of a block: the constants not yet used, the window of sixteen schedule words and the
working words. -/
def Chain.rounds : List UInt32 → List UInt32 → Chain → Chain
  | [], _, s => s
  | k :: ks, w, s => Chain.rounds ks (w.drop 1 ++ [scheduled w]) (s.round k (w.getD 0 0))

/-- Mixes one block of sixteen words into the chaining words. -/
def Chain.absorb (s : Chain) (block : List UInt32) : Chain :=
  let t := Chain.rounds roundConstants block s
  ⟨s.a + t.a, s.b + t.b, s.c + t.c, s.d + t.d, s.e + t.e, s.f + t.f, s.g + t.g, s.h + t.h⟩

/-- The next `n` blocks of a message in words. -/
def Chain.absorbBlocks : Nat → List UInt32 → Chain → Chain
  | 0, _, s => s
  | n + 1, ws, s => Chain.absorbBlocks n (ws.drop 16) (s.absorb (ws.take 16))

/-- The `n` low bytes of a number, most significant first. -/
def bigEndian : Nat → Nat → List UInt8
  | 0, _ => []
  | n + 1, x => UInt8.ofNat (x >>> (8 * n)) :: bigEndian n x

/-- A message, the bit 1, zeros, and its length in bits in eight bytes: whole blocks of 64 bytes. -/
def padded (message : List UInt8) : List UInt8 :=
  message ++ 0x80 :: List.replicate ((119 - message.length % 64) % 64) 0
    ++ bigEndian 8 (8 * message.length)

/-- Bytes as 32-bit words, most significant byte first. -/
def words : List UInt8 → List UInt32
  | p :: q :: r :: s :: rest =>
      (p.toUInt32 <<< 24 ||| q.toUInt32 <<< 16 ||| r.toUInt32 <<< 8 ||| s.toUInt32) :: words rest
  | _ => []

/-- The digest that the chaining words stand for. -/
def Chain.digest (s : Chain) : Digest :=
  let byte (w : UInt32) (k : UInt32) : UInt8 := (w >>> k).toUInt8
  #v[byte s.a 24, byte s.a 16, byte s.a 8, byte s.a 0,
     byte s.b 24, byte s.b 16, byte s.b 8, byte s.b 0,
     byte s.c 24, byte s.c 16, byte s.c 8, byte s.c 0,
     byte s.d 24, byte s.d 16, byte s.d 8, byte s.d 0,
     byte s.e 24, byte s.e 16, byte s.e 8, byte s.e 0,
     byte s.f 24, byte s.f 16, byte s.f 8, byte s.f 0,
     byte s.g 24, byte s.g 16, byte s.g 8, byte s.g 0,
     byte s.h 24, byte s.h 16, byte s.h 8, byte s.h 0]

def digest (message : List UInt8) : Digest :=
  let ws := words (padded message)
  (Chain.absorbBlocks (ws.length / 16) ws Chain.start).digest

end ScopedStyles.Sha256
