import RemoteSigner.Chain.Container
import RemoteSigner.Chain.Domain
import RemoteSigner.Proofs.Ssz.Binding

/-!
# Roots of consensus objects bind the objects

For each object the pairs that are hashed for its root (`inputs`), as its root
is computed; where the root fails, those of the parts before.

* `BlockHeader.root_inj`, `AttestationData.root_inj` — equal roots are of equal
  objects;
* `computeSigningRoot_inj`, `computeDomain_inj` — a signing root binds object
  and domain, and a domain its purpose, by its first four bytes.
-/

namespace RemoteSigner

open Ssz

variable {hash : Compression}

/-! ## The pairs that are hashed -/

/-- The pairs that make the root of the object. -/
def Checkpoint.inputs (hash : Compression) (x : Checkpoint) : List (Root × Root) :=
  containerInputs hash [uint64Root x.epoch, x.blockRoot]

/-- The pairs that make the root of the object. -/
def AttestationData.inputs (hash : Compression) (x : AttestationData) : List (Root × Root) :=
  x.source.inputs hash ++ x.target.inputs hash ++
    containerInputs hash [uint64Root x.slot, uint64Root x.index, x.blockRoot, x.source.root hash,
      x.target.root hash]

/-- The pairs that make the root of the object. -/
def Attestation.inputs (hash : Compression) (x : Attestation) : List (Root × Root) :=
  bitlistInputs hash x.aggregationBits.bytes maxValidatorsPerCommittee ++
    match bitlistRoot hash x.aggregationBits.bytes maxValidatorsPerCommittee with
    | .error _ => []
    | .ok bits =>
        x.data.inputs hash ++ bytesInputs hash x.signature.bytes ++
          containerInputs hash [bits, x.data.root hash, bytesRoot hash x.signature.bytes]

/-- The pairs that make the root of the object. -/
def AggregateAndProof.inputs (hash : Compression) (x : AggregateAndProof) : List (Root × Root) :=
  x.aggregate.inputs hash ++
    match x.aggregate.root hash with
    | .error _ => []
    | .ok aggregate =>
        bytesInputs hash x.selectionProof.bytes ++
          containerInputs hash
            [uint64Root x.aggregatorIndex, aggregate, bytesRoot hash x.selectionProof.bytes]

/-- The pairs that make the root of the object. -/
def BlockHeader.inputs (hash : Compression) (x : BlockHeader) : List (Root × Root) :=
  containerInputs hash [uint64Root x.slot, uint64Root x.proposerIndex, x.parentRoot, x.stateRoot,
    x.bodyRoot]

/-- The pairs that make the root of the object. -/
def SyncSelectionData.inputs (hash : Compression) (x : SyncSelectionData) : List (Root × Root) :=
  containerInputs hash [uint64Root x.slot, uint64Root x.subcommitteeIndex]

/-- The pairs that make the root of the object. -/
def SyncContribution.inputs (hash : Compression) (x : SyncContribution) : List (Root × Root) :=
  bitvectorInputs hash x.aggregationBits.bytes syncSubcommitteeSize ++
    match bitvectorRoot hash x.aggregationBits.bytes syncSubcommitteeSize with
    | .error _ => []
    | .ok bits =>
        bytesInputs hash x.signature.bytes ++
          containerInputs hash [uint64Root x.slot, x.blockRoot, uint64Root x.subcommitteeIndex,
            bits, bytesRoot hash x.signature.bytes]

/-- The pairs that make the root of the object. -/
def ContributionAndProof.inputs (hash : Compression) (x : ContributionAndProof) :
    List (Root × Root) :=
  x.contribution.inputs hash ++
    match x.contribution.root hash with
    | .error _ => []
    | .ok contribution =>
        bytesInputs hash x.selectionProof.bytes ++
          containerInputs hash
            [uint64Root x.aggregatorIndex, contribution, bytesRoot hash x.selectionProof.bytes]

/-- The pairs that make the root of the object. -/
def VoluntaryExit.inputs (hash : Compression) (x : VoluntaryExit) : List (Root × Root) :=
  containerInputs hash [uint64Root x.epoch, uint64Root x.validatorIndex]

/-- The pairs that make the root of the object. -/
def DepositMessage.inputs (hash : Compression) (x : DepositMessage) : List (Root × Root) :=
  bytesInputs hash x.publicKey.bytes ++
    containerInputs hash [bytesRoot hash x.publicKey.bytes, x.withdrawalCredentials,
      uint64Root x.amount]

/-- The pairs that make the root of the object. -/
def ValidatorRegistration.inputs (hash : Compression) (x : ValidatorRegistration) :
    List (Root × Root) :=
  bytesInputs hash x.feeRecipient.bytes ++ bytesInputs hash x.publicKey.bytes ++
    containerInputs hash [bytesRoot hash x.feeRecipient.bytes, uint64Root x.gasLimit,
      uint64Root x.timestamp, bytesRoot hash x.publicKey.bytes]

/-- The pairs that make the root of the object. -/
def ProxyDelegation.inputs (hash : Compression) (x : ProxyDelegation) : List (Root × Root) :=
  bytesInputs hash x.delegator.key ++ bytesInputs hash x.proxy.key ++
    containerInputs hash [bytesRoot hash x.delegator.key, bytesRoot hash x.proxy.key]

/-- The pairs that make a domain. -/
def Ssz.domainInputs (hash : Compression) (version : Version) (genesisRoot : Root) :
    List (Root × Root) :=
  bytesInputs hash version.bytes ++
    containerInputs hash [bytesRoot hash version.bytes, genesisRoot]

/-- The pairs that make a signing root of an object and a domain. -/
def Ssz.signingInputs (hash : Compression) (objectRoot domain : Root) : List (Root × Root) :=
  containerInputs hash [objectRoot, domain]

/-! ## Objects -/

theorem Checkpoint.root_inj {x y : Checkpoint}
    (hfree : CollisionFree hash (x.inputs hash ++ y.inputs hash))
    (h : x.root hash = y.root hash) : x = y := by
  have hfields := containerRoot_inj h hfree rfl
  simp only [List.cons.injEq] at hfields
  obtain ⟨hepoch, hblock, _⟩ := hfields
  cases x
  cases y
  simp only [Checkpoint.mk.injEq]
  exact ⟨uint64Root_inj hepoch, hblock⟩

/-- Equal roots are of equal headers. -/
theorem BlockHeader.root_inj {x y : BlockHeader}
    (hfree : CollisionFree hash (x.inputs hash ++ y.inputs hash))
    (h : x.root hash = y.root hash) : x = y := by
  have hfields := containerRoot_inj h hfree rfl
  simp only [List.cons.injEq] at hfields
  obtain ⟨hslot, hproposer, hparent, hstate, hbody, _⟩ := hfields
  cases x
  cases y
  simp only [BlockHeader.mk.injEq]
  exact ⟨uint64Root_inj hslot, uint64Root_inj hproposer, hparent, hstate, hbody⟩

/-- Equal roots are of equal votes, down to their checkpoints. -/
theorem AttestationData.root_inj {x y : AttestationData}
    (hfree : CollisionFree hash (x.inputs hash ++ y.inputs hash))
    (h : x.root hash = y.root hash) : x = y := by
  have hfields := containerRoot_inj h (hfree.mono fun p hp => by
    rcases List.mem_append.mp hp with hp | hp <;> simp [inputs, hp]) rfl
  simp only [List.cons.injEq] at hfields
  obtain ⟨hslot, hindex, hblock, hsource, htarget, _⟩ := hfields
  have hs := Checkpoint.root_inj (hfree.mono fun p hp => by
    rcases List.mem_append.mp hp with hp | hp <;> simp [inputs, hp]) hsource
  have ht := Checkpoint.root_inj (hfree.mono fun p hp => by
    rcases List.mem_append.mp hp with hp | hp <;> simp [inputs, hp]) htarget
  cases x
  cases y
  simp only [AttestationData.mk.injEq]
  exact ⟨uint64Root_inj hslot, uint64Root_inj hindex, hblock, hs, ht⟩

/-! ## Domains -/

namespace Ssz

/-- A signing root binds the object and the domain. -/
theorem computeSigningRoot_inj {o₁ d₁ o₂ d₂ : Root}
    (hfree : CollisionFree hash (signingInputs hash o₁ d₁ ++ signingInputs hash o₂ d₂))
    (h : computeSigningRoot hash o₁ d₁ = computeSigningRoot hash o₂ d₂) :
    o₁ = o₂ ∧ d₁ = d₂ := by
  have hfields := containerRoot_inj h hfree rfl
  simpa using hfields

/-- The first four bytes of a domain are its purpose. -/
theorem take_computeDomain (hash : Compression) (purpose : DomainType) (version : Version)
    (genesisRoot : Root) :
    (computeDomain hash purpose version genesisRoot).bytes.take 4 = purpose.bytes.bytes := by
  have hlen : purpose.bytes.bytes.length = 4 := purpose.bytes.length_eq
  simp only [computeDomain, FixedBytes.fit, List.take_take, List.append_assoc]
  rw [Nat.min_eq_left (by omega), List.take_left' hlen]

/-- Domains of different purposes are different, on whatever chains. -/
theorem computeDomain_inj {p q : DomainType} {v w : Version} {r s : Root}
    (h : computeDomain hash p v r = computeDomain hash q w s) : p = q := by
  have hp := take_computeDomain hash p v r
  rw [h, take_computeDomain] at hp
  cases p
  cases q
  simpa using FixedBytes.eq_of_bytes hp.symm

end Ssz

end RemoteSigner
