import RemoteSigner.Chain.Container
import RemoteSigner.Chain.Domain
import RemoteSigner.Proofs.Ssz.Schema

/-!
# Consensus objects by schema

The schema of each container, in the order in which the consensus specification lists its
fields, and the object of the schema that a message stands for. Aggregates stand for an
object only together with the bits that they carry encoded, which are left open here. The
root of a message is that of its object: `root_eq` for messages without bits, `root_eq_ok_iff`
for those that carry some.
-/

namespace RemoteSigner

open Ssz

variable {hash : Compression} {root : Root}

/-! ## Blocks and votes -/

namespace BlockHeader

/-- How a header is made. -/
def schema : Schema :=
  .container [.uint64, .uint64, .bytes 32, .bytes 32, .bytes 32]

/-- The object of a header. -/
def object (x : BlockHeader) : schema.Object :=
  (x.slot, x.proposerIndex, x.parentRoot, x.stateRoot, x.bodyRoot, ())

theorem root_eq (x : BlockHeader) : x.root hash = schema.root hash x.object := by
  refine containerRoot_eq_root ?_
  rw [uint64Root_eq_root hash, uint64Root_eq_root hash, eq_root hash x.parentRoot,
    eq_root hash x.stateRoot, eq_root hash x.bodyRoot]
  rfl

end BlockHeader

namespace Checkpoint

/-- How a checkpoint is made. -/
def schema : Schema :=
  .container [.uint64, .bytes 32]

/-- The object of a checkpoint. -/
def object (x : Checkpoint) : schema.Object :=
  (x.epoch, x.blockRoot, ())

theorem root_eq (x : Checkpoint) : x.root hash = schema.root hash x.object := by
  refine containerRoot_eq_root ?_
  rw [uint64Root_eq_root hash, eq_root hash x.blockRoot]
  rfl

end Checkpoint

namespace AttestationData

/-- How a vote is made. -/
def schema : Schema :=
  .container [.uint64, .uint64, .bytes 32, Checkpoint.schema, Checkpoint.schema]

/-- The object of a vote. -/
def object (x : AttestationData) : schema.Object :=
  (x.slot, x.index, x.blockRoot, x.source.object, x.target.object, ())

theorem root_eq (x : AttestationData) : x.root hash = schema.root hash x.object := by
  refine containerRoot_eq_root ?_
  rw [uint64Root_eq_root hash, uint64Root_eq_root hash, eq_root hash x.blockRoot,
    Checkpoint.root_eq, Checkpoint.root_eq]
  rfl

end AttestationData

/-! ## Aggregates -/

namespace Attestation

/-- How an aggregated vote is made. -/
def schema : Schema :=
  .container [.bitlist 2048, AttestationData.schema, .bytes 96]

/-- The object of an aggregated vote with the given bits. -/
def object (x : Attestation) (bits : (Schema.bitlist 2048).Object) : schema.Object :=
  (bits, x.data.object, x.signature, ())

/-- Whether these are the bits that an aggregated vote carries encoded. -/
def Carries (x : Attestation) (bits : (Schema.bitlist 2048).Object) : Prop :=
  bitlistBytes bits.val = x.aggregationBits.bytes

theorem carries_unique {x : Attestation} {bits bits' : (Schema.bitlist 2048).Object}
    (h : x.Carries bits) (h' : x.Carries bits') : bits = bits' :=
  Subtype.ext (bitlistBytes_inj (h.trans h'.symm))

theorem root_eq_ok_iff (x : Attestation) :
    x.root hash = .ok root ↔
      ∃ bits, x.Carries bits ∧ schema.root hash (x.object bits) = root := by
  have hcontainer : ∀ bits : (Schema.bitlist 2048).Object,
      containerRoot hash [Schema.root hash (.bitlist 2048) bits, x.data.root hash,
        bytesRoot hash x.signature.bytes] = schema.root hash (x.object bits) := fun bits => by
    refine containerRoot_eq_root ?_
    rw [AttestationData.root_eq, bytesRoot_eq_root]
    rfl
  have hbits : ∀ a, bitlistRoot hash x.aggregationBits.bytes maxValidatorsPerCommittee = .ok a ↔
      ∃ bits, x.Carries bits ∧ Schema.root hash (.bitlist 2048) bits = a :=
    fun _ => bitlistRoot_eq_ok_iff_root (by decide)
  exact bind_pure_eq_ok_iff hbits hcontainer

end Attestation

namespace AggregateAndProof

/-- How an aggregate with its proof is made. -/
def schema : Schema :=
  .container [.uint64, Attestation.schema, .bytes 96]

/-- The object of an aggregate with the given bits. -/
def object (x : AggregateAndProof) (bits : (Schema.bitlist 2048).Object) : schema.Object :=
  (x.aggregatorIndex, x.aggregate.object bits, x.selectionProof, ())

theorem root_eq_ok_iff (x : AggregateAndProof) :
    x.root hash = .ok root ↔
      ∃ bits, x.aggregate.Carries bits ∧ schema.root hash (x.object bits) = root := by
  have hcontainer : ∀ bits : (Schema.bitlist 2048).Object,
      containerRoot hash [uint64Root x.aggregatorIndex,
        Attestation.schema.root hash (x.aggregate.object bits),
        bytesRoot hash x.selectionProof.bytes] = schema.root hash (x.object bits) := fun bits => by
    refine containerRoot_eq_root ?_
    rw [uint64Root_eq_root hash, bytesRoot_eq_root]
    rfl
  exact bind_pure_eq_ok_iff (fun _ => x.aggregate.root_eq_ok_iff) hcontainer

end AggregateAndProof

/-! ## Sync committees -/

namespace SyncSelectionData

/-- How the data of a selection is made. -/
def schema : Schema :=
  .container [.uint64, .uint64]

/-- The object of the data of a selection. -/
def object (x : SyncSelectionData) : schema.Object :=
  (x.slot, x.subcommitteeIndex, ())

theorem root_eq (x : SyncSelectionData) : x.root hash = schema.root hash x.object := by
  refine containerRoot_eq_root ?_
  rw [uint64Root_eq_root hash, uint64Root_eq_root hash]
  rfl

end SyncSelectionData

namespace SyncContribution

/-- How a contribution is made. -/
def schema : Schema :=
  .container [.uint64, .bytes 32, .uint64, .bitvector 128, .bytes 96]

/-- The object of a contribution with the given bits. -/
def object (x : SyncContribution) (bits : (Schema.bitvector 128).Object) : schema.Object :=
  (x.slot, x.blockRoot, x.subcommitteeIndex, bits, x.signature, ())

/-- Whether these are the bits that a contribution carries encoded. -/
def Carries (x : SyncContribution) (bits : (Schema.bitvector 128).Object) : Prop :=
  bitvectorBytes bits.val = x.aggregationBits.bytes

theorem carries_unique {x : SyncContribution} {bits bits' : (Schema.bitvector 128).Object}
    (h : x.Carries bits) (h' : x.Carries bits') : bits = bits' :=
  Subtype.ext (bitvectorBytes_inj (bits.property.trans bits'.property.symm) (h.trans h'.symm))

theorem root_eq_ok_iff (x : SyncContribution) :
    x.root hash = .ok root ↔
      ∃ bits, x.Carries bits ∧ schema.root hash (x.object bits) = root := by
  have hcontainer : ∀ bits : (Schema.bitvector 128).Object,
      containerRoot hash [uint64Root x.slot, x.blockRoot, uint64Root x.subcommitteeIndex,
        Schema.root hash (.bitvector 128) bits, bytesRoot hash x.signature.bytes] =
          schema.root hash (x.object bits) := fun bits => by
    refine containerRoot_eq_root ?_
    rw [uint64Root_eq_root hash, uint64Root_eq_root hash, eq_root hash x.blockRoot,
      bytesRoot_eq_root]
    rfl
  have hbits : ∀ a, bitvectorRoot hash x.aggregationBits.bytes syncSubcommitteeSize = .ok a ↔
      ∃ bits, x.Carries bits ∧ Schema.root hash (.bitvector 128) bits = a :=
    fun _ => bitvectorRoot_eq_ok_iff_root (by decide)
  exact bind_pure_eq_ok_iff hbits hcontainer

end SyncContribution

namespace ContributionAndProof

/-- How a contribution with its proof is made. -/
def schema : Schema :=
  .container [.uint64, SyncContribution.schema, .bytes 96]

/-- The object of a contribution with the given bits. -/
def object (x : ContributionAndProof) (bits : (Schema.bitvector 128).Object) : schema.Object :=
  (x.aggregatorIndex, x.contribution.object bits, x.selectionProof, ())

theorem root_eq_ok_iff (x : ContributionAndProof) :
    x.root hash = .ok root ↔
      ∃ bits, x.contribution.Carries bits ∧ schema.root hash (x.object bits) = root := by
  have hcontainer : ∀ bits : (Schema.bitvector 128).Object,
      containerRoot hash [uint64Root x.aggregatorIndex,
        SyncContribution.schema.root hash (x.contribution.object bits),
        bytesRoot hash x.selectionProof.bytes] = schema.root hash (x.object bits) := fun bits => by
    refine containerRoot_eq_root ?_
    rw [uint64Root_eq_root hash, bytesRoot_eq_root]
    rfl
  exact bind_pure_eq_ok_iff (fun _ => x.contribution.root_eq_ok_iff) hcontainer

end ContributionAndProof

/-! ## Validators -/

namespace VoluntaryExit

/-- How an exit is made. -/
def schema : Schema :=
  .container [.uint64, .uint64]

/-- The object of an exit. -/
def object (x : VoluntaryExit) : schema.Object :=
  (x.epoch, x.validatorIndex, ())

theorem root_eq (x : VoluntaryExit) : x.root hash = schema.root hash x.object := by
  refine containerRoot_eq_root ?_
  rw [uint64Root_eq_root hash, uint64Root_eq_root hash]
  rfl

end VoluntaryExit

namespace DepositMessage

/-- How a deposit is made; the fork version it is sent with is no part of it. -/
def schema : Schema :=
  .container [.bytes 48, .bytes 32, .uint64]

/-- The object of a deposit. -/
def object (x : DepositMessage) : schema.Object :=
  (x.publicKey, x.withdrawalCredentials, x.amount, ())

theorem root_eq (x : DepositMessage) : x.root hash = schema.root hash x.object := by
  refine containerRoot_eq_root ?_
  rw [bytesRoot_eq_root, eq_root hash x.withdrawalCredentials, uint64Root_eq_root hash]
  rfl

end DepositMessage

namespace ValidatorRegistration

/-- How a registration is made. -/
def schema : Schema :=
  .container [.bytes 20, .uint64, .uint64, .bytes 48]

/-- The object of a registration. -/
def object (x : ValidatorRegistration) : schema.Object :=
  (x.feeRecipient, x.gasLimit, x.timestamp, x.publicKey, ())

theorem root_eq (x : ValidatorRegistration) : x.root hash = schema.root hash x.object := by
  refine containerRoot_eq_root ?_
  rw [bytesRoot_eq_root, uint64Root_eq_root hash, uint64Root_eq_root hash, bytesRoot_eq_root]
  rfl

end ValidatorRegistration

/-! ## Domains -/

namespace Ssz

/-- How the fork data of a domain is made: a fork version and a genesis root. -/
def forkDataSchema : Schema :=
  .container [.bytes 4, .bytes 32]

/-- The domain of a purpose: its four bytes, and the first 28 of the root of the fork data. -/
def domainOf (hash : Compression) (purpose : Bytes) (version : Version) (genesisRoot : Root) :
    Root :=
  chunkOf (byteAt
    (purpose ++ (forkDataSchema.root hash (version, genesisRoot, ())).bytes.take 28)) 0

theorem computeDomain_eq (hash : Compression) (purpose : DomainType) (version : Version)
    (genesisRoot : Root) :
    computeDomain hash purpose version genesisRoot =
      domainOf hash purpose.bytes.bytes version genesisRoot := by
  have hdata : containerRoot hash [bytesRoot hash version.bytes, genesisRoot] =
      forkDataSchema.root hash (version, genesisRoot, ()) := by
    refine containerRoot_eq_root ?_
    rw [bytesRoot_eq_root, eq_root hash genesisRoot]
    rfl
  rw [computeDomain, hdata, fit_eq_chunkOf]
  rfl

end Ssz

end RemoteSigner
