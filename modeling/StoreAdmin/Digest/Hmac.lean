import StoreAdmin.Digest.Sha256

/-!
# Keyed hashes

A message is signed by hashing it twice, behind two pads that are made from the key.
-/

namespace StoreAdmin.Hmac

/-- A key as a block; a key that is too long is hashed first. -/
def keyBlock (key : List UInt8) : List UInt8 :=
  let key := if 64 < key.length then Sha256.hash key else key
  key ++ List.replicate (64 - key.length) 0

/-- The signature of a message under a key. -/
def sign (key message : List UInt8) : List UInt8 :=
  let block := keyBlock key
  let inner := Sha256.hash (block.map (· ^^^ 0x36) ++ message)
  Sha256.hash (block.map (· ^^^ 0x5C) ++ inner)

end StoreAdmin.Hmac
