/-!
# SHA-256

The SHA-256 hash of a byte string, as the Secure Hash Standard defines it: the message is
padded to a whole number of 64-byte blocks (a one bit, zeros, and the bit length as a
64-bit big-endian number), and each block is mixed into eight 32-bit words by 64 rounds.
All word arithmetic is modulo 2^32, which is what `UInt32` does.
-/

namespace SeatBilling.Crypto.Sha256

/-- The round constants: the first 32 bits of the fractional parts of the cube roots of the
first 64 primes. -/
def roundConstants : List UInt32 := [
  0x428a2f98, 0x71374491, 0xb5c0fbcf, 0xe9b5dba5, 0x3956c25b, 0x59f111f1, 0x923f82a4, 0xab1c5ed5,
  0xd807aa98, 0x12835b01, 0x243185be, 0x550c7dc3, 0x72be5d74, 0x80deb1fe, 0x9bdc06a7, 0xc19bf174,
  0xe49b69c1, 0xefbe4786, 0x0fc19dc6, 0x240ca1cc, 0x2de92c6f, 0x4a7484aa, 0x5cb0a9dc, 0x76f988da,
  0x983e5152, 0xa831c66d, 0xb00327c8, 0xbf597fc7, 0xc6e00bf3, 0xd5a79147, 0x06ca6351, 0x14292967,
  0x27b70a85, 0x2e1b2138, 0x4d2c6dfc, 0x53380d13, 0x650a7354, 0x766a0abb, 0x81c2c92e, 0x92722c85,
  0xa2bfe8a1, 0xa81a664b, 0xc24b8b70, 0xc76c51a3, 0xd192e819, 0xd6990624, 0xf40e3585, 0x106aa070,
  0x19a4c116, 0x1e376c08, 0x2748774c, 0x34b0bcb5, 0x391c0cb3, 0x4ed8aa4a, 0x5b9cca4f, 0x682e6ff3,
  0x748f82ee, 0x78a5636f, 0x84c87814, 0x8cc70208, 0x90befffa, 0xa4506ceb, 0xbef9a3f7, 0xc67178f2]

/-- The eight working words. -/
structure Words where
  a : UInt32
  b : UInt32
  c : UInt32
  d : UInt32
  e : UInt32
  f : UInt32
  g : UInt32
  h : UInt32
  deriving DecidableEq, Repr

/-- The initial hash value: the first 32 bits of the fractional parts of the square roots of
the first eight primes. -/
def initial : Words :=
  ⟨0x6a09e667, 0xbb67ae85, 0x3c6ef372, 0xa54ff53a, 0x510e527f, 0x9b05688c, 0x1f83d9ab, 0x5be0cd19⟩

/-- Rotation to the right by `count` bits. -/
def rotateRight (word : UInt32) (count : UInt32) : UInt32 := (word >>> count) ||| (word <<< (32 - count))

/-- The big-endian word of four bytes. -/
def wordOf (b0 b1 b2 b3 : UInt8) : UInt32 :=
  (b0.toUInt32 <<< 24) ||| (b1.toUInt32 <<< 16) ||| (b2.toUInt32 <<< 8) ||| b3.toUInt32

/-- The sixteen big-endian words of a 64-byte block. -/
def blockWords : List UInt8 → List UInt32
  | b0 :: b1 :: b2 :: b3 :: rest => wordOf b0 b1 b2 b3 :: blockWords rest
  | _ => []

/-- The four big-endian bytes of a word. -/
def wordBytes (word : UInt32) : List UInt8 :=
  [(word >>> 24).toUInt8, (word >>> 16).toUInt8, (word >>> 8).toUInt8, word.toUInt8]

/-- The message schedule: the block's sixteen words, extended to 64 by
`w t = σ₁ (w (t-2)) + w (t-7) + σ₀ (w (t-15)) + w (t-16)`. -/
def schedule (block : List UInt32) : Array UInt32 :=
  (List.range 48).foldl (fun (words : Array UInt32) index =>
    let at_ := fun back => words.getD (index + 16 - back) 0
    let w15 := at_ 15
    let w2 := at_ 2
    let sigma0 := rotateRight w15 7 ^^^ rotateRight w15 18 ^^^ (w15 >>> 3)
    let sigma1 := rotateRight w2 17 ^^^ rotateRight w2 19 ^^^ (w2 >>> 10)
    words.push (sigma1 + at_ 7 + sigma0 + at_ 16)) block.toArray

/-- One round: the working words after mixing in one scheduled word and its constant. -/
def round (v : Words) (constant word : UInt32) : Words :=
  let bigSigma1 := rotateRight v.e 6 ^^^ rotateRight v.e 11 ^^^ rotateRight v.e 25
  let choice := (v.e &&& v.f) ^^^ (~~~v.e &&& v.g)
  let first := v.h + bigSigma1 + choice + constant + word
  let bigSigma0 := rotateRight v.a 2 ^^^ rotateRight v.a 13 ^^^ rotateRight v.a 22
  let majority := (v.a &&& v.b) ^^^ (v.a &&& v.c) ^^^ (v.b &&& v.c)
  let second := bigSigma0 + majority
  ⟨first + second, v.a, v.b, v.c, v.d + first, v.e, v.f, v.g⟩

/-- The hash value after one 64-byte block. -/
def compress (state : Words) (block : List UInt8) : Words :=
  let words := (schedule (blockWords block)).toList
  let mixed := (roundConstants.zip words).foldl (fun v pair => round v pair.1 pair.2) state
  ⟨state.a + mixed.a, state.b + mixed.b, state.c + mixed.c, state.d + mixed.d,
    state.e + mixed.e, state.f + mixed.f, state.g + mixed.g, state.h + mixed.h⟩

/-- The big-endian bytes of a 64-bit count. -/
def lengthBytes (count : Nat) : List UInt8 :=
  (List.range 8).reverse.map fun index => (count / Nat.pow 2 (8 * index) % 256).toUInt8

/-- The padded message: a one bit, zeros up to 56 bytes modulo 64, then the bit length. -/
def pad (message : List UInt8) : List UInt8 :=
  let zeros := (119 - message.length % 64) % 64
  message ++ 0x80 :: List.replicate zeros 0 ++ lengthBytes (8 * message.length)

/-- Mixes in `count` blocks of a padded message. -/
def compressBlocks : Nat → Words → List UInt8 → Words
  | 0, state, _ => state
  | count + 1, state, bytes => compressBlocks count (compress state (bytes.take 64)) (bytes.drop 64)

/-- The 32-byte hash of a message. -/
def hash (message : List UInt8) : List UInt8 :=
  let padded := pad message
  let final := compressBlocks (padded.length / 64) initial padded
  [final.a, final.b, final.c, final.d, final.e, final.f, final.g, final.h].flatMap wordBytes

end SeatBilling.Crypto.Sha256
