import FormEngine.Digest.Sha256
/-!
# Keyed hashing

The message authentication code over SHA-256: a key longer than a block is hashed first, a
shorter one is filled up with zeros, and the message is hashed under the two masks of the key.
-/

namespace FormEngine.Digest

/-- A key brought to the sixty-four bytes of a block. -/
def blockKey (key : List UInt8) : List UInt8 :=
  let short := if key.length > 64 then sha256 key else key
  short ++ List.replicate (64 - short.length) 0

/-- The authentication code of a message under a key, thirty-two bytes. -/
def hmacSha256 (key message : List UInt8) : List UInt8 :=
  let k := blockKey key
  sha256 (k.map (· ^^^ 0x5c) ++ sha256 (k.map (· ^^^ 0x36) ++ message))

end FormEngine.Digest
