import MarketWire.Digest.Sha384

/-!
# Keyed digests

A message is digested twice together with the key, which is first digested itself if it is longer
than a block.
-/
namespace MarketWire
namespace Hmac

def blockSize : Nat := 128

/-- The key as exactly one block. -/
def blockKey (key : List UInt8) : List UInt8 :=
  let key := if blockSize < key.length then Sha384.digest key else key
  key ++ List.replicate (blockSize - key.length) 0

def mix (key : List UInt8) (pad : UInt8) : List UInt8 := (blockKey key).map (· ^^^ pad)

def sha384 (key message : List UInt8) : List UInt8 :=
  Sha384.digest (mix key 0x5c ++ Sha384.digest (mix key 0x36 ++ message))

end Hmac
end MarketWire
