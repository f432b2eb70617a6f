import RemoteSigner.Error
import RemoteSigner.Json.Decode

/-!
# Signature schemes
-/

namespace RemoteSigner

/-- The signature scheme of a key. -/
inductive KeyType where
  | bls
  | secp256k1
deriving DecidableEq, Repr

namespace KeyType

/-- The name of a scheme. -/
def name : KeyType → String
  | .bls => "BLS"
  | .secp256k1 => "SECP256K1"

/-- Read a name in any case. -/
def parse (text : String) : Except CoreError KeyType :=
  let upper := String.ofList (Text.upper text.toList)
  if upper = "BLS" then .ok .bls
  else if upper = "SECP256K1" then .ok .secp256k1
  else .error (.invalid ("unknown key type: " ++ upper))

/-- The document of a scheme. -/
def toJson (k : KeyType) : Json :=
  .text k.name

/-- Decode a scheme by its exact name. -/
def decode : Json.Decoder KeyType :=
  .enumeration [("BLS", .bls), ("SECP256K1", .secp256k1)]

end KeyType

end RemoteSigner
