import RemoteSigner.Custody
import RemoteSigner.Signing.SigningRoot

/-!
# Signing artifacts

A request passes a fixed row of checks: its identifier, its root, the root the
client expects, the presence of the key, and for blocks and attestations
slashing protection. Only then the key signs, and it signs the computed root.
-/

namespace RemoteSigner

/-- How a signature is written. -/
inductive SignatureEncoding where
  | hex
  | base64
deriving DecidableEq, Repr

/-- The text of a signature in an encoding. -/
def Signature.toText (s : Signature) : SignatureEncoding → String
  | .hex => s.toHex
  | .base64 => s.toBase64

namespace Engine

/-- Ask slashing protection about an artifact. Only blocks and attestations
can be slashable. -/
def consult (e : Engine) (key : SignerId) (root : Root) (a : Artifact) :
    Protected (Option Decision) × Engine :=
  let answer (outcome : Protected Decision × Engine) : Protected (Option Decision) × Engine :=
    (outcome.1.map some, outcome.2)
  match a with
  | .block fork header => answer (e.mayBlock key ⟨header.slot, root⟩ fork.genesisRoot)
  | .versionedBlock fork block =>
      answer (e.mayBlock key ⟨block.header.slot, root⟩ fork.genesisRoot)
  | .attestation fork data =>
      answer (e.mayAttest key ⟨data.source.epoch, data.target.epoch, root⟩ fork.genesisRoot)
  | _ => (.ok none, e)

end Engine

namespace Custody

/-- What a request asks for: the key that signs and the root it signs, as far as
that can be told without slashing protection. -/
def resolve (c : Custody) (net : Network) (identifier : String) (request : SigningRequest) :
    Except SigningError (Signer × Root) := do
  let id ← (SignerId.parse identifier).mapError fun e => .invalidIdentifier e.message
  let root ← request.artifact.rootToSign net
  match request.supplied.filter (· ≠ root) with
  | some supplied => .error (.rootMismatch supplied root)
  | none =>
      match c.snapshot.find? id with
      | none => .error (.noSuchKey id.marked)
      | some signer => .ok (signer, root)

/-- Let a request through to its key: the key and the root it is to sign. -/
def authorize (c : Custody) (net : Network) (identifier : String) (request : SigningRequest) :
    Except SigningError (Signer × Root) × Custody :=
  match c.resolve net identifier request with
  | .error e => (.error e, c)
  | .ok (signer, root) =>
      match c.protect none fun e => e.consult signer.identifier root request.artifact with
      | (.error e, c) => (.error (.protection e), c)
      | (.ok (some (.reject reason)), c) => (.error (.protectionEnforced reason), c)
      | (.ok _, c) => (.ok (signer, root), c)

/-- Sign a request. -/
def sign (c : Custody) (net : Network) (identifier : String) (request : SigningRequest) :
    Except SigningError Signature × Custody :=
  match c.authorize net identifier request with
  | (.error e, c) => (.error e, c)
  | (.ok (signer, root), c) => ((signer.sign root.bytes).mapError .signer, c)

end Custody

end RemoteSigner
