import RemoteSigner.Ssz.Merkle

/-!
# Signing domains

A domain ties a message to its purpose and to a chain: four bytes of the
purpose and the first twenty-eight of the root over fork version and genesis
root.
-/

namespace RemoteSigner

/-- The purpose of a signed message. -/
structure DomainType where
  bytes : FixedBytes 4
deriving DecidableEq

namespace DomainType

/-- The purpose with the given four bytes. -/
def of (a b c d : UInt8) : DomainType :=
  ⟨⟨[a, b, c, d], rfl⟩⟩

/-- Block proposals. -/
def beaconProposer : DomainType := of 0 0 0 0

/-- Attestations. -/
def beaconAttester : DomainType := of 1 0 0 0

/-- Reveals of randomness. -/
def randao : DomainType := of 2 0 0 0

/-- Deposits. -/
def deposit : DomainType := of 3 0 0 0

/-- Voluntary exits. -/
def voluntaryExit : DomainType := of 4 0 0 0

/-- Selection proofs of aggregators. -/
def selectionProof : DomainType := of 5 0 0 0

/-- Aggregates with their proofs. -/
def aggregateAndProof : DomainType := of 6 0 0 0

/-- Sync committee messages. -/
def syncCommittee : DomainType := of 7 0 0 0

/-- Selection proofs of sync committee aggregators. -/
def syncCommitteeSelectionProof : DomainType := of 8 0 0 0

/-- Sync committee contributions with their proofs. -/
def contributionAndProof : DomainType := of 9 0 0 0

/-- Validator registrations with builders. -/
def applicationBuilder : DomainType := of 0 0 0 1

/-- Messages of commit-boost modules. -/
def commitBoost : DomainType := of 0x6d 0x6d 0x6f 0x43

/-- The purposes by name. -/
def named : List (String × DomainType) := [
  ("BEACON_PROPOSER", beaconProposer), ("BEACON_ATTESTER", beaconAttester), ("RANDAO", randao),
  ("DEPOSIT", deposit), ("VOLUNTARY_EXIT", voluntaryExit), ("SELECTION_PROOF", selectionProof),
  ("AGGREGATE_AND_PROOF", aggregateAndProof), ("SYNC_COMMITTEE", syncCommittee),
  ("SYNC_COMMITTEE_SELECTION_PROOF", syncCommitteeSelectionProof),
  ("CONTRIBUTION_AND_PROOF", contributionAndProof), ("APPLICATION_BUILDER", applicationBuilder),
  ("COMMIT_BOOST", commitBoost)]

end DomainType

namespace Ssz

/-- The domain of a purpose on a chain. -/
def computeDomain (hash : Compression) (purpose : DomainType) (version : Version)
    (genesisRoot : Root) : Root :=
  let forkData := containerRoot hash [bytesRoot hash version.bytes, genesisRoot]
  FixedBytes.fit 32 (purpose.bytes.bytes ++ forkData.bytes.take 28)

/-- The root that is signed for an object in a domain. -/
def computeSigningRoot (hash : Compression) (objectRoot domain : Root) : Root :=
  containerRoot hash [objectRoot, domain]

end Ssz

end RemoteSigner
