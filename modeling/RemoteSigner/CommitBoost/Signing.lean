import RemoteSigner.CommitBoost.Request
import RemoteSigner.Custody
import RemoteSigner.Signing.Error

/-!
# Signing for commit-boost modules

Consensus keys and their proxies sign object roots in the commit-boost domain
of a network. A new proxy is written to disk, installed, and vouched for by the
consensus key.
-/

namespace RemoteSigner

open Ssz

namespace CommitBoost

/-- The domain of a network. -/
def domain (hash : Compression) (genesisForkVersion : Version) : Root :=
  computeDomain hash .commitBoost genesisForkVersion (.zero 32)

/-- The root that is signed for an object. -/
def signingRoot (hash : Compression) (genesisForkVersion : Version) (objectRoot : Root) : Root :=
  computeSigningRoot hash objectRoot (domain hash genesisForkVersion)

/-- The number of rounds that stretch the password of a new proxy. -/
def kdfRounds : Nat := 65536

end CommitBoost

namespace Snapshot

/-- Every consensus key with its proxies. -/
def keyMappings (s : Snapshot) : List KeyMapping :=
  s.identifiers.map fun id =>
    ⟨id, s.proxyIdentifiers id .bls, s.proxyIdentifiers id .secp256k1⟩

/-- The key that a module addresses. -/
def moduleSigner? (s : Snapshot) (kind : ModuleKey) (id : SignerId) : Option Signer :=
  match kind with
  | .consensus => s.find? id
  | .proxyBls => (s.findProxy? id).filter (·.keyType == .bls)
  | .proxyEcdsa => (s.findProxy? id).filter (·.keyType == .secp256k1)

end Snapshot

/-- The identifier in a request. -/
def requestedKey (text : String) : Except SigningError SignerId :=
  (SignerId.parse text).mapError fun e => .invalidIdentifier e.message

namespace Custody

/-- The key that a request addresses, and the root it is to sign. -/
def resolveModule (c : Custody) (genesisForkVersion : Version) (request : ModuleSignRequest) :
    Except SigningError (Signer × Root) := do
  let id ← requestedKey request.publicKey
  match c.snapshot.moduleSigner? request.kind id with
  | none => .error (.noSuchKey id.marked)
  | some signer =>
      .ok (signer, CommitBoost.signingRoot sha256Pair genesisForkVersion request.objectRoot)

/-- Sign an object root. -/
def signForModule (c : Custody) (genesisForkVersion : Version) (request : ModuleSignRequest) :
    Except SigningError Signature := do
  let (signer, root) ← c.resolveModule genesisForkVersion request
  (signer.sign root.bytes).mapError .signer

/-- What generating a proxy needs. -/
structure ProxyMint where
  suite : KeySuite
  medium : Medium
  config : ProxyConfig
  rounds : Nat

/-- The consensus key that is to vouch for a new proxy. -/
def delegator (c : Custody) (request : ProxyKeyRequest) :
    Except SigningError (SignerId × Signer) := do
  let id ← requestedKey request.publicKey
  match c.snapshot.find? id with
  | none => .error (.noSuchKey id.marked)
  | some signer => .ok (id, signer)

/-- Write and install a new proxy of a key. -/
def installProxy (c : Custody) (mint : ProxyMint) (entropy : ProxyEntropy) (consensus : SignerId)
    (scheme : KeyType) : Except KeyError Signer × Custody :=
  match mint.config.generate mint.suite mint.medium entropy consensus scheme mint.rounds
      c.disk with
  | (.error e, disk) => (.error e, { c with disk := disk })
  | (.ok proxy, disk) =>
      match c.registry.addProxy consensus proxy with
      | (.error e, registry) => (.error e, { c with registry := registry, disk := disk })
      | (.ok (), registry) => (.ok proxy, { c with registry := registry, disk := disk })

/-- Generate a proxy key, if there is a place for such keys: the consensus key
that is to vouch for it, and the delegation that it is to sign. -/
def delegate (c : Custody) (mint : Option ProxyMint) (entropy : ProxyEntropy)
    (request : ProxyKeyRequest) : Except SigningError (Signer × ProxyDelegation) × Custody :=
  match mint with
  | none => (.error (.invalidRequest "proxy key generation is not configured"), c)
  | some mint =>
      match c.delegator request with
      | .error e => (.error e, c)
      | .ok (id, consensus) =>
          match c.installProxy mint entropy id request.scheme with
          | (.error e, c) => (.error (.signer e), c)
          | (.ok proxy, c) => (.ok (consensus, ⟨id, proxy.identifier⟩), c)

/-- Generate a proxy key with the delegation that its consensus key signs. -/
def generateProxy (c : Custody) (genesisForkVersion : Version) (mint : Option ProxyMint)
    (entropy : ProxyEntropy) (request : ProxyKeyRequest) :
    Except SigningError SignedDelegation × Custody :=
  match c.delegate mint entropy request with
  | (.error e, c) => (.error e, c)
  | (.ok (consensus, message), c) =>
      let root :=
        CommitBoost.signingRoot sha256Pair genesisForkVersion (message.root sha256Pair)
      match consensus.sign root.bytes with
      | .error e => (.error (.signer e), c)
      | .ok signature => (.ok ⟨message, signature.toHex⟩, c)

end Custody

end RemoteSigner
