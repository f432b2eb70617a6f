import RemoteSigner.Chain.Attestation
import RemoteSigner.Chain.Block
import RemoteSigner.Chain.SyncCommittee
import RemoteSigner.Chain.Validator
import RemoteSigner.CommitBoost.Request

/-!
# Containers by name

The objects that have a hash tree root, by the names that specifications give
them.
-/

namespace RemoteSigner

open Ssz

/-- How one kind of object is read, written and hashed. -/
structure Container where
  Carrier : Type
  decode : Json.Decoder Carrier
  toJson : Carrier → Json
  /-- The hash tree root. Only malformed bits have none. -/
  root : Compression → Carrier → Except BitsError Root

namespace Container

/-- A kind of object without bits. -/
def plain {α : Type} (decode : Json.Decoder α) (toJson : α → Json)
    (root : Compression → α → Root) : Container :=
  ⟨α, decode, toJson, fun hash a => .ok (root hash a)⟩

/-- The kinds with their names. -/
def named : List (String × Container) := [
  ("BeaconBlockHeader", plain BlockHeader.decode BlockHeader.toJson BlockHeader.root),
  ("Checkpoint", plain Checkpoint.decode Checkpoint.toJson Checkpoint.root),
  ("AttestationData", plain AttestationData.decode AttestationData.toJson AttestationData.root),
  ("Attestation", ⟨Attestation, Attestation.decode, Attestation.toJson, Attestation.root⟩),
  ("AggregateAndProof",
    ⟨AggregateAndProof, AggregateAndProof.decode, AggregateAndProof.toJson,
      AggregateAndProof.root⟩),
  ("SyncAggregatorSelectionData",
    plain SyncSelectionData.decode SyncSelectionData.toJson SyncSelectionData.root),
  ("SyncCommitteeContribution",
    ⟨SyncContribution, SyncContribution.decode, SyncContribution.toJson, SyncContribution.root⟩),
  ("ContributionAndProof",
    ⟨ContributionAndProof, ContributionAndProof.decode, ContributionAndProof.toJson,
      ContributionAndProof.root⟩),
  ("VoluntaryExit", plain VoluntaryExit.decode VoluntaryExit.toJson VoluntaryExit.root),
  ("DepositMessage", plain DepositMessage.decode DepositMessage.toJson DepositMessage.root),
  ("ValidatorRegistration",
    plain ValidatorRegistration.decode ValidatorRegistration.toJson ValidatorRegistration.root),
  ("ProxyDelegation", plain ProxyDelegation.decode ProxyDelegation.toJson ProxyDelegation.root)]

/-- Read an object of a kind, and write it again beside its root. -/
def examine (c : Container) (hash : Compression) (text : String) :
    Except Json.DecodeError (String × Except BitsError Root) := do
  let a ← c.decode.ofText text
  pure ((c.toJson a).compact, c.root hash a)

end Container

end RemoteSigner
