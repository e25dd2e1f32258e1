/-!
# SHA-384

The SHA-384 hash of a byte string, as the Secure Hash Standard defines it: SHA-512's
compression over 64-bit words, started from its own initial value and cut to the first six
words. The message is padded to a whole number of 128-byte blocks (a one bit, zeros, and the
bit length as a 128-bit big-endian number), and each block is mixed into eight words by 80
rounds. All word arithmetic is modulo 2^64, which is what `UInt64` does.
-/

namespace SeatBilling.Crypto.Sha384

/-- The round constants: the first 64 bits of the fractional parts of the cube roots of the
first 80 primes. -/
def roundConstants : List UInt64 := [
  0x428a2f98d728ae22, 0x7137449123ef65cd, 0xb5c0fbcfec4d3b2f, 0xe9b5dba58189dbbc,
  0x3956c25bf348b538, 0x59f111f1b605d019, 0x923f82a4af194f9b, 0xab1c5ed5da6d8118,
  0xd807aa98a3030242, 0x12835b0145706fbe, 0x243185be4ee4b28c, 0x550c7dc3d5ffb4e2,
  0x72be5d74f27b896f, 0x80deb1fe3b1696b1, 0x9bdc06a725c71235, 0xc19bf174cf692694,
  0xe49b69c19ef14ad2, 0xefbe4786384f25e3, 0x0fc19dc68b8cd5b5, 0x240ca1cc77ac9c65,
  0x2de92c6f592b0275, 0x4a7484aa6ea6e483, 0x5cb0a9dcbd41fbd4, 0x76f988da831153b5,
  0x983e5152ee66dfab, 0xa831c66d2db43210, 0xb00327c898fb213f, 0xbf597fc7beef0ee4,
  0xc6e00bf33da88fc2, 0xd5a79147930aa725, 0x06ca6351e003826f, 0x142929670a0e6e70,
  0x27b70a8546d22ffc, 0x2e1b21385c26c926, 0x4d2c6dfc5ac42aed, 0x53380d139d95b3df,
  0x650a73548baf63de, 0x766a0abb3c77b2a8, 0x81c2c92e47edaee6, 0x92722c851482353b,
  0xa2bfe8a14cf10364, 0xa81a664bbc423001, 0xc24b8b70d0f89791, 0xc76c51a30654be30,
  0xd192e819d6ef5218, 0xd69906245565a910, 0xf40e35855771202a, 0x106aa07032bbd1b8,
  0x19a4c116b8d2d0c8, 0x1e376c085141ab53, 0x2748774cdf8eeb99, 0x34b0bcb5e19b48a8,
  0x391c0cb3c5c95a63, 0x4ed8aa4ae3418acb, 0x5b9cca4f7763e373, 0x682e6ff3d6b2b8a3,
  0x748f82ee5defb2fc, 0x78a5636f43172f60, 0x84c87814a1f0ab72, 0x8cc702081a6439ec,
  0x90befffa23631e28, 0xa4506cebde82bde9, 0xbef9a3f7b2c67915, 0xc67178f2e372532b,
  0xca273eceea26619c, 0xd186b8c721c0c207, 0xeada7dd6cde0eb1e, 0xf57d4f7fee6ed178,
  0x06f067aa72176fba, 0x0a637dc5a2c898a6, 0x113f9804bef90dae, 0x1b710b35131c471b,
  0x28db77f523047d84, 0x32caab7b40c72493, 0x3c9ebe0a15c9bebc, 0x431d67c49c100d4c,
  0x4cc5d4becb3e42b6, 0x597f299cfc657e2a, 0x5fcb6fab3ad6faec, 0x6c44198c4a475817]

/-- The eight working words. -/
structure Words where
  a : UInt64
  b : UInt64
  c : UInt64
  d : UInt64
  e : UInt64
  f : UInt64
  g : UInt64
  h : UInt64
  deriving DecidableEq, Repr

/-- The initial hash value: the first 64 bits of the fractional parts of the square roots of
the ninth through sixteenth primes. -/
def initial : Words :=
  ⟨0xcbbb9d5dc1059ed8, 0x629a292a367cd507, 0x9159015a3070dd17, 0x152fecd8f70e5939,
    0x67332667ffc00b31, 0x8eb44a8768581511, 0xdb0c2e0d64f98fa7, 0x47b5481dbefa4fa4⟩

/-- Rotation to the right by `count` bits. -/
def rotateRight (word : UInt64) (count : UInt64) : UInt64 := (word >>> count) ||| (word <<< (64 - count))

/-- The big-endian word of the first eight bytes of a list. -/
def wordOf (bytes : List UInt8) : UInt64 :=
  (bytes.take 8).foldl (fun word byte => (word <<< 8) ||| byte.toUInt64) 0

/-- The sixteen big-endian words of a 128-byte block. -/
def blockWords (block : List UInt8) : List UInt64 :=
  (List.range 16).map fun index => wordOf (block.drop (8 * index))

/-- The eight big-endian bytes of a word. -/
def wordBytes (word : UInt64) : List UInt8 :=
  (List.range 8).reverse.map fun index => (word >>> (8 * index).toUInt64).toUInt8

/-- The message schedule: the block's sixteen words, extended to 80 by
`w t = σ₁ (w (t-2)) + w (t-7) + σ₀ (w (t-15)) + w (t-16)`. -/
def schedule (block : List UInt64) : Array UInt64 :=
  (List.range 64).foldl (fun (words : Array UInt64) index =>
    let at_ := fun back => words.getD (index + 16 - back) 0
    let w15 := at_ 15
    let w2 := at_ 2
    let sigma0 := rotateRight w15 1 ^^^ rotateRight w15 8 ^^^ (w15 >>> 7)
    let sigma1 := rotateRight w2 19 ^^^ rotateRight w2 61 ^^^ (w2 >>> 6)
    words.push (sigma1 + at_ 7 + sigma0 + at_ 16)) block.toArray

/-- One round: the working words after mixing in one scheduled word and its constant. -/
def round (v : Words) (constant word : UInt64) : Words :=
  let bigSigma1 := rotateRight v.e 14 ^^^ rotateRight v.e 18 ^^^ rotateRight v.e 41
  let choice := (v.e &&& v.f) ^^^ (~~~v.e &&& v.g)
  let first := v.h + bigSigma1 + choice + constant + word
  let bigSigma0 := rotateRight v.a 28 ^^^ rotateRight v.a 34 ^^^ rotateRight v.a 39
  let majority := (v.a &&& v.b) ^^^ (v.a &&& v.c) ^^^ (v.b &&& v.c)
  let second := bigSigma0 + majority
  ⟨first + second, v.a, v.b, v.c, v.d + first, v.e, v.f, v.g⟩

/-- The hash value after one 128-byte block. -/
def compress (state : Words) (block : List UInt8) : Words :=
  let words := (schedule (blockWords block)).toList
  let mixed := (roundConstants.zip words).foldl (fun v pair => round v pair.1 pair.2) state
  ⟨state.a + mixed.a, state.b + mixed.b, state.c + mixed.c, state.d + mixed.d,
    state.e + mixed.e, state.f + mixed.f, state.g + mixed.g, state.h + mixed.h⟩

/-- The big-endian bytes of a 128-bit count. -/
def lengthBytes (count : Nat) : List UInt8 :=
  (List.range 16).reverse.map fun index => (count / Nat.pow 2 (8 * index) % 256).toUInt8

/-- The padded message: a one bit, zeros up to 112 bytes modulo 128, then the bit length. -/
def pad (message : List UInt8) : List UInt8 :=
  let zeros := (239 - message.length % 128) % 128
  message ++ 0x80 :: List.replicate zeros 0 ++ lengthBytes (8 * message.length)

/-- Mixes in `count` blocks of a padded message. -/
def compressBlocks : Nat → Words → List UInt8 → Words
  | 0, state, _ => state
  | count + 1, state, bytes => compressBlocks count (compress state (bytes.take 128)) (bytes.drop 128)

/-- The 48-byte hash of a message. -/
def hash (message : List UInt8) : List UInt8 :=
  let padded := pad message
  let final := compressBlocks (padded.length / 128) initial padded
  [final.a, final.b, final.c, final.d, final.e, final.f].flatMap wordBytes

end SeatBilling.Crypto.Sha384
