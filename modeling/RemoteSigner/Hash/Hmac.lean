import RemoteSigner.Hash.Sha256

/-!
# HMAC and key stretching over SHA-256

The two keyed states are prepared once, so that each code of a long run costs
two blocks.
-/

namespace RemoteSigner

namespace Hmac

/-- The states that have taken in the inner and the outer key block. -/
structure Key where
  inner : Sha256.State
  outer : Sha256.State

/-- Prepare a key. A key longer than a block is hashed first. -/
def Key.ofBytes (key : Bytes) : Key :=
  let key := if key.length > 64 then (Sha256.digest key).bytes else key
  let block := key ++ List.replicate (64 - key.length) 0
  ⟨Sha256.absorb Sha256.initial #[] (block.map (· ^^^ 0x36)),
   Sha256.absorb Sha256.initial #[] (block.map (· ^^^ 0x5c))⟩

/-- The code of a message. -/
def Key.code (k : Key) (message : Bytes) : FixedBytes 32 :=
  Sha256.finish k.outer 64 (Sha256.finish k.inner 64 message).bytes

/-- The code of a message under a key given as bytes. -/
def code (key message : Bytes) : FixedBytes 32 :=
  (Key.ofBytes key).code message

end Hmac

namespace Pbkdf2

/-- Combine two byte strings bit by bit. -/
def xor (a b : Bytes) : Bytes :=
  List.zipWith (· ^^^ ·) a b

/-- Add `rounds` further codes to the sum of those so far. -/
def iterate (k : Hmac.Key) : Nat → Bytes → Bytes → Bytes
  | 0, _, sum => sum
  | n + 1, last, sum =>
      let next := (k.code last).bytes
      iterate k n next (xor sum next)

/-- The block with the given number, counted from one. -/
def block (k : Hmac.Key) (salt : Bytes) (rounds index : Nat) : Bytes :=
  let first := (k.code (salt ++ bytesOfNat 4 index)).bytes
  iterate k (rounds - 1) first first

/-- Stretch a password to `length` bytes. No rounds count as one. -/
def derive (password salt : Bytes) (rounds length : Nat) : Bytes :=
  let k := Hmac.Key.ofBytes password
  ((List.range ((length + 31) / 32)).flatMap fun i => block k salt rounds (i + 1)).take length

end Pbkdf2

end RemoteSigner
