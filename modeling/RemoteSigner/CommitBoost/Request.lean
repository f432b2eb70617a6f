import RemoteSigner.Chain.Domain
import RemoteSigner.KeyType
import RemoteSigner.SignerId

/-!
# Commit-boost requests and answers

A module asks for the keys, for a signature over an object root, or for a new
proxy key that a consensus key vouches for.
-/

namespace RemoteSigner

open Ssz

/-- Which key signs a request. -/
inductive ModuleKey where
  | consensus
  | proxyBls
  | proxyEcdsa
deriving DecidableEq, Repr

namespace ModuleKey

/-- The name of a kind of key. -/
def name : ModuleKey → String
  | .consensus => "consensus"
  | .proxyBls => "proxy_bls"
  | .proxyEcdsa => "proxy_ecdsa"

/-- Decode a kind of key. -/
def decode : Json.Decoder ModuleKey :=
  .enumeration [("consensus", .consensus), ("proxy_bls", .proxyBls),
    ("proxy_ecdsa", .proxyEcdsa)]

end ModuleKey

/-- A request for a signature over an object root. -/
structure ModuleSignRequest where
  kind : ModuleKey
  publicKey : String
  objectRoot : Root
deriving DecidableEq

namespace ModuleSignRequest

/-- The document of a request. -/
def toJson (r : ModuleSignRequest) : Json :=
  .record [("type", .text r.kind.name), ("pubkey", .text r.publicKey),
    ("object_root", r.objectRoot.toJson)]

/-- The field of the public key. -/
def keyField : Json.Field := ⟨"pubkey", ["proxy"]⟩

/-- Decode a request. -/
def decode : Json.Decoder ModuleSignRequest :=
  .record "struct CommitBoostSignRequest" ["type", keyField, "object_root"] fun fs =>
    ModuleSignRequest.mk <$> fs.required "type" ModuleKey.decode
      <*> fs.required keyField .text
      <*> fs.required "object_root" FixedBytes.decode

end ModuleSignRequest

/-- A request for a new proxy key. -/
structure ProxyKeyRequest where
  publicKey : String
  scheme : KeyType
deriving DecidableEq

namespace ProxyKeyRequest

/-- The name of a scheme in requests. -/
def schemeName : KeyType → String
  | .bls => "bls"
  | .secp256k1 => "ecdsa"

/-- Decode a scheme. -/
def decodeScheme : Json.Decoder KeyType :=
  .enumeration [(⟨"bls", ["BLS"]⟩, .bls), (⟨"ecdsa", ["ECDSA"]⟩, .secp256k1)]

/-- The document of a request. -/
def toJson (r : ProxyKeyRequest) : Json :=
  .record [("pubkey", .text r.publicKey), ("scheme", .text (schemeName r.scheme))]

/-- Decode a request. -/
def decode : Json.Decoder ProxyKeyRequest :=
  .record "struct GenerateProxyKeyRequest" ["pubkey", "scheme"] fun fs =>
    ProxyKeyRequest.mk <$> fs.required "pubkey" .text
      <*> fs.required "scheme" decodeScheme

end ProxyKeyRequest

/-- The statement that a proxy key speaks for a consensus key. -/
structure ProxyDelegation where
  delegator : SignerId
  proxy : SignerId
deriving DecidableEq

namespace ProxyDelegation

/-- The document of a delegation. -/
def toJson (d : ProxyDelegation) : Json :=
  .record [("delegator", d.delegator.toJson), ("proxy", d.proxy.toJson)]

/-- Decode a delegation. -/
def decode : Json.Decoder ProxyDelegation :=
  .record "struct ProxyDelegation" ["delegator", "proxy"] fun fs =>
    ProxyDelegation.mk <$> fs.required "delegator" SignerId.decode
      <*> fs.required "proxy" SignerId.decode

/-- Its hash tree root; both keys are byte vectors. -/
def root (hash : Compression) (d : ProxyDelegation) : Root :=
  containerRoot hash [bytesRoot hash d.delegator.key, bytesRoot hash d.proxy.key]

end ProxyDelegation

/-- A delegation with the signature of the consensus key. -/
structure SignedDelegation where
  message : ProxyDelegation
  signature : String
deriving DecidableEq

/-- The document of a signed delegation. -/
def SignedDelegation.toJson (d : SignedDelegation) : Json :=
  .record [("message", d.message.toJson), ("signature", .text d.signature)]

/-- A consensus key with its proxy keys. -/
structure KeyMapping where
  consensus : SignerId
  proxyBls : List SignerId
  proxyEcdsa : List SignerId
deriving DecidableEq

/-- The document of a mapping. -/
def KeyMapping.toJson (m : KeyMapping) : Json :=
  .record [("consensus", m.consensus.toJson),
    ("proxy_bls", .list (m.proxyBls.map SignerId.toJson)),
    ("proxy_ecdsa", .list (m.proxyEcdsa.map SignerId.toJson))]

/-- The document of all mappings. -/
def KeyMapping.listToJson (ms : List KeyMapping) : Json :=
  .record [("keys", .list (ms.map KeyMapping.toJson))]

end RemoteSigner
