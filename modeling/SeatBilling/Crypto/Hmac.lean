import SeatBilling.Crypto.Sha256

/-!
# HMAC-SHA256

The keyed hash of a message: a key longer than a block (64 bytes) is hashed first, the key
is padded with zeros to a block, and the tag is `H (key ⊕ opad ++ H (key ⊕ ipad ++ message))`
with `ipad` the byte 0x36 and `opad` the byte 0x5c repeated.
-/

namespace SeatBilling.Crypto

/-- The block size of SHA-256 in bytes. -/
def blockSize : Nat := 64

/-- The key as a whole block: hashed if longer than a block, then padded with zeros. -/
def blockKey (key : List UInt8) : List UInt8 :=
  let short := if key.length > blockSize then Sha256.hash key else key
  short ++ List.replicate (blockSize - short.length) 0

/-- The HMAC-SHA256 tag of a message under a key. -/
def hmacSha256 (key message : List UInt8) : List UInt8 :=
  let padded := blockKey key
  let inner := Sha256.hash (padded.map (· ^^^ 0x36) ++ message)
  Sha256.hash (padded.map (· ^^^ 0x5c) ++ inner)

end SeatBilling.Crypto
