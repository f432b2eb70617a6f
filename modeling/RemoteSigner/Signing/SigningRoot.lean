import RemoteSigner.Chain.Domain
import RemoteSigner.Signing.Artifact
import RemoteSigner.Signing.Error

/-!
# Signing roots

The root that is signed for an artifact: the root of its object in the domain
of its purpose, under the fork version in force at its epoch. Deposits and
registrations are signed outside any chain, so that they hold on every fork.
-/

namespace RemoteSigner

open Ssz

/-- What signing needs to know of the network. -/
structure Network where
  genesisForkVersion : Version
  slotsPerEpoch : UInt64
  slots_ne_zero : slotsPerEpoch ≠ 0

namespace Network

/-- The network with the given parameters, if its epochs have slots. -/
def of? (genesisForkVersion : Version) (slotsPerEpoch : UInt64) : Option Network :=
  if h : slotsPerEpoch ≠ 0 then some ⟨genesisForkVersion, slotsPerEpoch, h⟩ else none

/-- The network with the given parameters, or the fault of epochs without
slots. -/
def of (genesisForkVersion : Version) (slotsPerEpoch : UInt64) : Except SigningError Network :=
  match of? genesisForkVersion slotsPerEpoch with
  | some net => .ok net
  | none => .error (.invalidRequest "slots per epoch must be positive")

/-- The epoch of a slot. -/
def epochAt (net : Network) (slot : Slot) : Epoch :=
  slot / net.slotsPerEpoch

end Network

namespace Artifact

/-- The root of the object that is signed. -/
def objectRoot (hash : Compression) : Artifact → Except BitsError Root
  | .block _ x => .ok (x.root hash)
  | .versionedBlock _ x => .ok (x.header.root hash)
  | .attestation _ x => .ok (x.root hash)
  | .aggregationSlot _ x => .ok (uint64Root x.slot)
  | .aggregateAndProof _ x => x.root hash
  | .syncCommitteeMessage _ x => .ok x.blockRoot
  | .syncSelectionProof _ x => .ok (x.root hash)
  | .contributionAndProof _ x => x.root hash
  | .voluntaryExit _ x => .ok (x.root hash)
  | .randaoReveal _ x => .ok (uint64Root x.epoch)
  | .deposit x => .ok (x.root hash)
  | .validatorRegistration x => .ok (x.root hash)

/-- The purpose an artifact is signed for. -/
def purpose : Artifact → DomainType
  | .block .. | .versionedBlock .. => .beaconProposer
  | .attestation .. => .beaconAttester
  | .aggregationSlot .. => .selectionProof
  | .aggregateAndProof .. => .aggregateAndProof
  | .syncCommitteeMessage .. => .syncCommittee
  | .syncSelectionProof .. => .syncCommitteeSelectionProof
  | .contributionAndProof .. => .contributionAndProof
  | .voluntaryExit .. => .voluntaryExit
  | .randaoReveal .. => .randao
  | .deposit _ => .deposit
  | .validatorRegistration _ => .applicationBuilder

/-- The epoch whose fork version counts. -/
def epoch (net : Network) : Artifact → Epoch
  | .block _ x => net.epochAt x.slot
  | .versionedBlock _ x => net.epochAt x.header.slot
  | .attestation _ x => x.target.epoch
  | .aggregationSlot _ x => net.epochAt x.slot
  | .aggregateAndProof _ x => net.epochAt x.aggregate.data.slot
  | .syncCommitteeMessage _ x => net.epochAt x.slot
  | .syncSelectionProof _ x => net.epochAt x.slot
  | .contributionAndProof _ x => net.epochAt x.contribution.slot
  | .voluntaryExit _ x => x.epoch
  | .randaoReveal _ x => x.epoch
  | .deposit _ | .validatorRegistration _ => 0

/-- The fork version and genesis root of the domain. -/
def chain (net : Network) (a : Artifact) : Version × Root :=
  match a.forkInfo?, a with
  | some info, a => (info.fork.versionAt (a.epoch net), info.genesisRoot)
  | none, .deposit x => (x.genesisForkVersion, FixedBytes.zero 32)
  | none, _ => (net.genesisForkVersion, FixedBytes.zero 32)

/-- The domain an artifact is signed in. -/
def domain (hash : Compression) (net : Network) (a : Artifact) : Root :=
  let (version, genesisRoot) := a.chain net
  computeDomain hash a.purpose version genesisRoot

/-- The root that is signed for an artifact. -/
def signingRoot (hash : Compression) (net : Network) (a : Artifact) : Except BitsError Root := do
  let root ← a.objectRoot hash
  pure (computeSigningRoot hash root (a.domain hash net))

/-- The root that is signed for an artifact, hashed with SHA-256, or the fault
of the request. -/
def rootToSign (net : Network) (a : Artifact) : Except SigningError Root :=
  (a.signingRoot sha256Pair net).mapError fun e => .ofCore (.invalid e.message)

end Artifact

end RemoteSigner
