import RemoteSigner.Proofs.Chain.Schema
import RemoteSigner.Signing.SigningRoot

/-!
# Signing roots by the specification

One rule for each kind of artifact: the schema of what is signed, the objects the artifact
stands for, the purpose, and the fork version and genesis root of its domain (`Artifact.rule`).
Epochs are natural numbers in the rules, slots divided by the slots of an epoch.

* `objectRoot_eq_ok_iff` — an object root is computed for the object an artifact stands for;
* `domain_eq_rule` — in the domain of its rule;
* `signingRoot_by_rule` — so the signing root is that of the rule, and there is one exactly
  if the bits of an aggregate are an encoding.
-/

namespace RemoteSigner

open Ssz

/-- What is signed by specification: an object of a schema, in a domain. -/
structure Rule where
  schema : Schema
  /-- Whether the artifact stands for an object. -/
  Means : schema.Object → Prop
  purpose : Bytes
  version : Version
  genesisRoot : Root

/-- The fork version in force at an epoch. -/
def ForkInfo.versionIn (info : ForkInfo) (epoch : Nat) : Version :=
  if epoch < info.fork.epoch.toNat then info.fork.previous else info.fork.current

namespace Rule

/-- The rule of an artifact that belongs to a chain, for the epoch that counts. -/
def onChain (schema : Schema) (Means : schema.Object → Prop) (purpose : Bytes) (info : ForkInfo)
    (epoch : Nat) : Rule :=
  ⟨schema, Means, purpose, info.versionIn epoch, info.genesisRoot⟩

/-- The domain by a rule. -/
def domain (hash : Compression) (rule : Rule) : Root :=
  domainOf hash rule.purpose rule.version rule.genesisRoot

/-- The signing root of an object by a rule. -/
def signingRoot (hash : Compression) (rule : Rule) (object : rule.schema.Object) : Root :=
  hash (rule.schema.root hash object) (rule.domain hash)

end Rule

namespace Artifact

/-- The rule of each kind of artifact. -/
def rule (net : Network) : Artifact → Rule :=
  let epochOf (slot : Slot) : Nat := slot.toNat / net.slotsPerEpoch.toNat
  fun
  | .block info x => .onChain BlockHeader.schema (· = x.object) [0, 0, 0, 0] info (epochOf x.slot)
  | .versionedBlock info x =>
      .onChain BlockHeader.schema (· = x.header.object) [0, 0, 0, 0] info (epochOf x.header.slot)
  | .attestation info x =>
      .onChain AttestationData.schema (· = x.object) [1, 0, 0, 0] info x.target.epoch.toNat
  | .aggregationSlot info x => .onChain .uint64 (· = x.slot) [5, 0, 0, 0] info (epochOf x.slot)
  | .aggregateAndProof info x =>
      .onChain AggregateAndProof.schema
        (fun object => ∃ bits, x.aggregate.Carries bits ∧ x.object bits = object) [6, 0, 0, 0] info
        (epochOf x.aggregate.data.slot)
  | .syncCommitteeMessage info x =>
      .onChain (.bytes 32) (· = x.blockRoot) [7, 0, 0, 0] info (epochOf x.slot)
  | .syncSelectionProof info x =>
      .onChain SyncSelectionData.schema (· = x.object) [8, 0, 0, 0] info (epochOf x.slot)
  | .contributionAndProof info x =>
      .onChain ContributionAndProof.schema
        (fun object => ∃ bits, x.contribution.Carries bits ∧ x.object bits = object) [9, 0, 0, 0]
        info (epochOf x.contribution.slot)
  | .voluntaryExit info x =>
      .onChain VoluntaryExit.schema (· = x.object) [4, 0, 0, 0] info x.epoch.toNat
  | .randaoReveal info x => .onChain .uint64 (· = x.epoch) [2, 0, 0, 0] info x.epoch.toNat
  | .deposit x =>
      ⟨DepositMessage.schema, (· = x.object), [3, 0, 0, 0], x.genesisForkVersion, .zero 32⟩
  | .validatorRegistration x =>
      ⟨ValidatorRegistration.schema, (· = x.object), [0, 0, 0, 1], net.genesisForkVersion,
        .zero 32⟩

/-- Whether the bits that an aggregate or a contribution carries are an encoding. -/
def BitsEncoded : Artifact → Prop
  | .aggregateAndProof _ x => ∃ bits, x.aggregate.Carries bits
  | .contributionAndProof _ x => ∃ bits, x.contribution.Carries bits
  | _ => True

variable {hash : Compression} {net : Network} {a : Artifact} {root : Root}

/-! ## Objects -/

/-- An artifact stands for at most one object. -/
theorem means_unique {object object' : (a.rule net).schema.Object}
    (h : (a.rule net).Means object) (h' : (a.rule net).Means object') : object = object' := by
  -- only encoded bits leave the object open, and bytes encode at most one list of bits
  cases a with
  | aggregateAndProof info x =>
      obtain ⟨bits, hbits, rfl⟩ := h
      obtain ⟨bits', hbits', rfl⟩ := h'
      rw [Attestation.carries_unique hbits hbits']
  | contributionAndProof info x =>
      obtain ⟨bits, hbits, rfl⟩ := h
      obtain ⟨bits', hbits', rfl⟩ := h'
      rw [SyncContribution.carries_unique hbits hbits']
  | _ => exact Eq.trans h (Eq.symm h')

/-- An artifact stands for an object exactly if its bits are an encoding. -/
theorem exists_means_iff (net : Network) (a : Artifact) :
    (∃ object, (a.rule net).Means object) ↔ a.BitsEncoded := by
  cases a with
  | aggregateAndProof info x =>
      exact ⟨fun ⟨_, bits, hbits, _⟩ => ⟨bits, hbits⟩, fun ⟨bits, hbits⟩ => ⟨_, bits, hbits, rfl⟩⟩
  | contributionAndProof info x =>
      exact ⟨fun ⟨_, bits, hbits, _⟩ => ⟨bits, hbits⟩, fun ⟨bits, hbits⟩ => ⟨_, bits, hbits, rfl⟩⟩
  | _ => exact ⟨fun _ => trivial, fun _ => ⟨_, rfl⟩⟩

/-- The root of an object that is known. -/
theorem ok_eq_ok_iff {s : Schema} {object : s.Object} {r : Root} (h : r = s.root hash object) :
    (Except.ok r : Except BitsError Root) = .ok root ↔ ∃ o, o = object ∧ s.root hash o = root := by
  rw [h]
  exact ⟨fun hok => ⟨object, rfl, Except.ok.inj hok⟩, fun ⟨_, ho, hroot⟩ => by rw [← hroot, ho]⟩

/-- The root of a body is that of an object with the bits it carries. -/
theorem root_eq_ok_iff {s b : Schema} {Carries : b.Object → Prop} {object : b.Object → s.Object}
    {x : Except BitsError Root}
    (h : x = .ok root ↔ ∃ bits, Carries bits ∧ s.root hash (object bits) = root) :
    x = .ok root ↔ ∃ o, (∃ bits, Carries bits ∧ object bits = o) ∧ s.root hash o = root := by
  rw [h]
  constructor
  · rintro ⟨bits, hbits, rfl⟩
    exact ⟨_, ⟨bits, hbits, rfl⟩, rfl⟩
  · rintro ⟨_, ⟨bits, hbits, rfl⟩, rfl⟩
    exact ⟨bits, hbits, rfl⟩

/-- The root that is computed for an artifact is that of the object it stands for. -/
theorem objectRoot_eq_ok_iff (net : Network) :
    a.objectRoot hash = .ok root ↔
      ∃ object, (a.rule net).Means object ∧ (a.rule net).schema.root hash object = root := by
  cases a with
  | block info x => exact ok_eq_ok_iff x.root_eq
  | versionedBlock info x => exact ok_eq_ok_iff x.header.root_eq
  | attestation info x => exact ok_eq_ok_iff x.root_eq
  | aggregationSlot info x => exact ok_eq_ok_iff (uint64Root_eq_root hash x.slot)
  | aggregateAndProof info x => exact root_eq_ok_iff x.root_eq_ok_iff
  | syncCommitteeMessage info x => exact ok_eq_ok_iff (eq_root hash x.blockRoot)
  | syncSelectionProof info x => exact ok_eq_ok_iff x.root_eq
  | contributionAndProof info x => exact root_eq_ok_iff x.root_eq_ok_iff
  | voluntaryExit info x => exact ok_eq_ok_iff x.root_eq
  | randaoReveal info x => exact ok_eq_ok_iff (uint64Root_eq_root hash x.epoch)
  | deposit x => exact ok_eq_ok_iff x.root_eq
  | validatorRegistration x => exact ok_eq_ok_iff x.root_eq

/-! ## Domains -/

theorem versionAt_eq (info : ForkInfo) (epoch : Epoch) :
    info.fork.versionAt epoch = info.versionIn epoch.toNat := by
  simp only [Fork.versionAt, ForkInfo.versionIn, UInt64.lt_iff_toNat_lt]

theorem versionAt_epochAt (net : Network) (info : ForkInfo) (slot : Slot) :
    info.fork.versionAt (net.epochAt slot) =
      info.versionIn (slot.toNat / net.slotsPerEpoch.toNat) := by
  rw [versionAt_eq, Network.epochAt, UInt64.toNat_div]

theorem purpose_eq_rule (net : Network) (a : Artifact) :
    a.purpose.bytes.bytes = (a.rule net).purpose := by
  cases a <;> rfl

theorem chain_eq_rule (net : Network) (a : Artifact) :
    a.chain net = ((a.rule net).version, (a.rule net).genesisRoot) := by
  -- three kinds name the epoch themselves, and the others a slot of it
  cases a with
  | attestation info x => exact congrArg (·, _) (versionAt_eq info x.target.epoch)
  | voluntaryExit info x => exact congrArg (·, _) (versionAt_eq info x.epoch)
  | randaoReveal info x => exact congrArg (·, _) (versionAt_eq info x.epoch)
  | deposit x => rfl
  | validatorRegistration x => rfl
  | _ => exact congrArg (·, _) (versionAt_epochAt net ..)

/-- An artifact is signed in the domain of its rule. -/
theorem domain_eq_rule (hash : Compression) (net : Network) (a : Artifact) :
    a.domain hash net = (a.rule net).domain hash := by
  have hdomain : a.domain hash net = computeDomain hash a.purpose (a.chain net).1 (a.chain net).2 :=
    rfl
  rw [hdomain, computeDomain_eq, purpose_eq_rule net, chain_eq_rule]
  rfl

/-! ## Signing roots -/

theorem signingRoot_eq_ok_iff {m : Root} :
    a.signingRoot hash net = .ok m ↔
      ∃ object, (a.rule net).Means object ∧ (a.rule net).signingRoot hash object = m := by
  -- the root over two chunks is their hash
  have hpair : ∀ objectRoot, computeSigningRoot hash objectRoot (a.domain hash net) =
      hash objectRoot ((a.rule net).domain hash) := fun _ => by
    rw [domain_eq_rule]
    rfl
  exact bind_pure_eq_ok_iff (fun _ => objectRoot_eq_ok_iff net) fun _ => hpair _

/-- The signing root of an artifact, whatever the hash and the network: there is one exactly
if the bits it carries are an encoding, and it is the signing root by its rule of the one
object that it stands for. The root a signer signs is this one, with SHA-256 as the hash. -/
theorem signingRoot_by_rule (net : Network) (a : Artifact) :
    (∀ hash : Compression,
      ((∃ m, a.signingRoot hash net = .ok m) ↔ a.BitsEncoded) ∧
      ∀ m, a.signingRoot hash net = .ok m ↔
        ∃ object, (∀ o, (a.rule net).Means o ↔ o = object) ∧
          (a.rule net).signingRoot hash object = m) ∧
    ∀ m, a.rootToSign net = .ok m ↔ a.signingRoot sha256Pair net = .ok m := by
  refine ⟨fun hash => ⟨?_, fun m => ?_⟩, fun m => ?_⟩
  · simp only [signingRoot_eq_ok_iff, ← exists_means_iff net a]
    exact ⟨fun ⟨_, object, hmeans, _⟩ => ⟨object, hmeans⟩,
      fun ⟨object, hmeans⟩ => ⟨_, object, hmeans, rfl⟩⟩
  · rw [signingRoot_eq_ok_iff]
    refine exists_congr fun object => and_congr_left fun _ => ?_
    exact ⟨fun hmeans o => ⟨fun ho => means_unique ho hmeans, fun ho => ho ▸ hmeans⟩,
      fun hunique => (hunique object).mpr rfl⟩
  · refine ⟨mapError_ok, fun h => ?_⟩
    rw [rootToSign, h]
    rfl

end Artifact

end RemoteSigner
