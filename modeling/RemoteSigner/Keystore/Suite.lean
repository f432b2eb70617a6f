import RemoteSigner.Cipher.Aes128
import RemoteSigner.Kdf.Scrypt
import RemoteSigner.Keys.Signer

/-!
# The functions that keystores rest on

They are parameters of all that reads and writes keystores, so that statements
can be made for any of them; the signer uses the standard ones.
-/

namespace RemoteSigner

/-- Key stretching, key stream, digest and signing keys. -/
structure KeySuite where
  /-- Stretch a password with a salt in a number of rounds to a length. -/
  pbkdf2 : Bytes → Bytes → Nat → (length : Nat) → FixedBytes length
  /-- Stretch a password with a salt at a cost to a length. -/
  scrypt : Bytes → Bytes → Scrypt.Cost → (length : Nat) → FixedBytes length
  /-- The bytes of the key stream of a key and an initial vector, by place. -/
  keyStream : Bytes → Bytes → Nat → UInt8
  digest : Bytes → Root
  /-- The signer of a secret. -/
  signer : KeyType → Bytes → Except KeyError Signer
  /-- A new secret from random draws. -/
  newSecret : KeyType → List Root → Except KeyError Bytes

/-- The standard functions. -/
def KeySuite.standard : KeySuite where
  pbkdf2 password salt rounds length := .fit length (Pbkdf2.derive password salt rounds length)
  scrypt password salt cost length := .fit length (Scrypt.derive password salt cost length)
  keyStream := Aes128.keyStream
  digest := Sha256.digest
  signer := Signer.ofSecret
  newSecret := Signer.newSecret

end RemoteSigner
