import RemoteSigner.Bytes.Base64
import RemoteSigner.Curve.Bls12381
import RemoteSigner.Curve.Secp256k1
import RemoteSigner.Keys.Error
import RemoteSigner.SignerId

/-!
# Signers

A signer owns one private key and signs byte strings with it; how the key was
obtained no longer matters.
-/

namespace RemoteSigner

/-- A signature. -/
structure Signature where
  bytes : Bytes
deriving DecidableEq

namespace Signature

/-- The text behind `0x`. -/
def toHex (s : Signature) : String :=
  Hex.encodeMarked s.bytes

/-- The text in base 64. -/
def toBase64 (s : Signature) : String :=
  Base64.encode s.bytes

end Signature

/-- A key that signs. -/
structure Signer where
  identifier : SignerId
  keyType : KeyType
  sign : Bytes → Except KeyError Signature

namespace Signer

/-- The signer of a BLS secret. -/
def ofBlsSecret (secret : Nat) : Signer where
  identifier := ⟨Bls12381.publicKey secret⟩
  keyType := .bls
  sign message := .ok ⟨Bls12381.sign secret message⟩

/-- Sign a digest of 32 bytes. -/
def signDigest (secret : Nat) (message : Bytes) : Except KeyError Signature :=
  if message.length ≠ 32 then
    .error (.signing ("secp256k1 signing expects a 32-byte digest, got " ++
      toString message.length ++ " bytes"))
  else
    match Secp256k1.sign? secret message with
    | some bytes => .ok ⟨bytes⟩
    | none => .error (.signing "signature error")

/-- The signer of a secp256k1 secret. -/
def ofSecp256k1Secret (secret : Nat) : Signer where
  identifier := ⟨Secp256k1.publicKey secret⟩
  keyType := .secp256k1
  sign := signDigest secret

/-- The signer of a secret given as bytes. -/
def ofSecret (keyType : KeyType) (secret : Bytes) : Except KeyError Signer :=
  match keyType with
  | .bls =>
      match Bls12381.secret? secret with
      | some n => .ok (ofBlsSecret n)
      | none => .error (.keyMaterial .bls "BLST_BAD_ENCODING")
  | .secp256k1 =>
      match Secp256k1.secret? secret with
      | some n => .ok (ofSecp256k1Secret n)
      | none => .error (.keyMaterial .secp256k1 "signature error")

/-- The number of draws for a new secret. -/
def drawLimit : Nat := 8

/-- A new secret from random draws: key material for BLS, and for secp256k1 the
first draw that is in range. -/
def newSecret (keyType : KeyType) (draws : List Root) : Except KeyError Bytes :=
  match keyType with
  | .bls => .ok (bytesOfNat 32 (Bls12381.secretOf (draws.headD (.zero 32)).bytes))
  | .secp256k1 =>
      match (draws.take drawLimit).find? fun d => (Secp256k1.secret? d.bytes).isSome with
      | some d => .ok d.bytes
      | none => .error (.keyMaterial .secp256k1 "no valid scalar drawn")

end Signer

end RemoteSigner
