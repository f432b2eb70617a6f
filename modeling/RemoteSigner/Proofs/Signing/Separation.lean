import RemoteSigner.CommitBoost.Signing
import RemoteSigner.Proofs.Chain.Binding
import RemoteSigner.Proofs.Outcome
import RemoteSigner.Signing.SigningRoot

/-!
# Signing roots are separated by purpose

A signing root hashes the root of an object with a domain whose first bytes are
the purpose. Where the pairs that were hashed do not collide:

* `signingRoot_inj` — artifacts with one signing root have one purpose and one
  object root;
* `header_of_signingRoot`, `vote_of_signingRoot` — the signing root of a block
  or a vote is that of no other artifact, but a block sent as the other kind;
* `signingRoot_ne_commitBoost` — and never one that a module can ask for;
* `signingRoot_separates` — so two signing roots are equal only for one purpose and
  one message, or the pairs that were hashed for them exhibit a collision.
-/

namespace RemoteSigner

open Ssz

/-- The pairs that make a signing root for a module. -/
def CommitBoost.inputs (hash : Compression) (genesisForkVersion : Version) (objectRoot : Root) :
    List (Root × Root) :=
  domainInputs hash genesisForkVersion (.zero 32) ++
    signingInputs hash objectRoot (domain hash genesisForkVersion)

namespace Artifact

/-- The pairs that make the root of the object. -/
def objectInputs (hash : Compression) : Artifact → List (Root × Root)
  | .block _ x => x.inputs hash
  | .versionedBlock _ x => x.header.inputs hash
  | .attestation _ x => x.inputs hash
  | .aggregationSlot .. => []
  | .aggregateAndProof _ x => x.inputs hash
  | .syncCommitteeMessage .. => []
  | .syncSelectionProof _ x => x.inputs hash
  | .contributionAndProof _ x => x.inputs hash
  | .voluntaryExit _ x => x.inputs hash
  | .randaoReveal .. => []
  | .deposit x => x.inputs hash
  | .validatorRegistration x => x.inputs hash

/-- The pairs that make the signing root. -/
def inputs (hash : Compression) (net : Network) (a : Artifact) : List (Root × Root) :=
  a.objectInputs hash ++
    match a.objectRoot hash with
    | .error _ => []
    | .ok root =>
        domainInputs hash (a.chain net).1 (a.chain net).2 ++
          signingInputs hash root (a.domain hash net)

/-- The header of a block, under either kind. -/
def header? : Artifact → Option BlockHeader
  | .block _ x => some x
  | .versionedBlock _ x => some x.header
  | _ => none

/-- The vote of an attestation. -/
def vote? : Artifact → Option AttestationData
  | .attestation _ x => some x
  | _ => none

variable {hash : Compression} {net₁ net₂ net : Network} {a b : Artifact} {m : Root}

/-! ## What a signing root is made of -/

theorem signingRoot_ok (h : a.signingRoot hash net = .ok m) :
    ∃ root, a.objectRoot hash = .ok root ∧
      m = computeSigningRoot hash root (a.domain hash net) := by
  obtain ⟨root, hroot, h⟩ := bind_eq_ok.mp h
  exact ⟨root, hroot, (pure_eq_ok.mp h).symm⟩

theorem rootToSign_ok (h : a.rootToSign net = .ok m) : a.signingRoot sha256Pair net = .ok m :=
  mapError_ok h

theorem signingInputs_subset {root : Root} (h : a.objectRoot hash = .ok root) :
    signingInputs hash root (a.domain hash net) ⊆ a.inputs hash net := by
  intro p hp
  unfold inputs
  rw [h]
  exact List.mem_append_right _ (List.mem_append_right _ hp)

theorem objectInputs_subset : a.objectInputs hash ⊆ a.inputs hash net :=
  fun _ hp => List.mem_append_left _ hp

/-- Artifacts with one signing root have one purpose and one object root. -/
theorem signingRoot_inj (h₁ : a.signingRoot hash net₁ = .ok m)
    (h₂ : b.signingRoot hash net₂ = .ok m)
    (hfree : CollisionFree hash (a.inputs hash net₁ ++ b.inputs hash net₂)) :
    a.purpose = b.purpose ∧ a.objectRoot hash = b.objectRoot hash := by
  obtain ⟨o₁, ho₁, rfl⟩ := signingRoot_ok h₁
  obtain ⟨o₂, ho₂, heq⟩ := signingRoot_ok h₂
  obtain ⟨rfl, hdomain⟩ := computeSigningRoot_inj (hfree.mono fun p hp => by
    rcases List.mem_append.mp hp with hp | hp
    · exact List.mem_append_left _ (signingInputs_subset ho₁ hp)
    · exact List.mem_append_right _ (signingInputs_subset ho₂ hp)) heq
  exact ⟨computeDomain_inj hdomain, ho₁.trans ho₂.symm⟩

theorem purpose_ne_commitBoost (a : Artifact) : a.purpose ≠ .commitBoost := by
  cases a <;> simp only [purpose] <;> decide

/-- No module can ask for the signing root of an artifact, whatever object root
it names. -/
theorem signingRoot_ne_commitBoost {version : Version} {objectRoot : Root}
    (h : a.signingRoot hash net = .ok m)
    (hfree : CollisionFree hash (a.inputs hash net ++ CommitBoost.inputs hash version objectRoot)) :
    m ≠ CommitBoost.signingRoot hash version objectRoot := by
  obtain ⟨o, ho, rfl⟩ := signingRoot_ok h
  intro heq
  obtain ⟨_, hdomain⟩ := computeSigningRoot_inj (hfree.mono fun p hp => by
    rcases List.mem_append.mp hp with hp | hp
    · exact List.mem_append_left _ (signingInputs_subset ho hp)
    · exact List.mem_append_right _ (List.mem_append_right _ hp)) heq
  exact purpose_ne_commitBoost a (computeDomain_inj hdomain)

/-! ## Blocks and votes -/

theorem objectRoot_of_header (hash : Compression) {x : BlockHeader} (h : a.header? = some x) :
    a.objectRoot hash = .ok (x.root hash) ∧ a.objectInputs hash = x.inputs hash ∧
      a.purpose = .beaconProposer := by
  unfold header? at h
  split at h <;> simp_all [objectRoot, objectInputs, purpose]

theorem objectRoot_of_vote (hash : Compression) {x : AttestationData} (h : a.vote? = some x) :
    a.objectRoot hash = .ok (x.root hash) ∧ a.objectInputs hash = x.inputs hash ∧
      a.purpose = .beaconAttester := by
  unfold vote? at h
  split at h <;> simp_all [objectRoot, objectInputs, purpose]

theorem header_of_purpose (h : a.purpose = .beaconProposer) : ∃ x, a.header? = some x := by
  cases a with
  | block fork x => exact ⟨x, rfl⟩
  | versionedBlock fork x => exact ⟨x.header, rfl⟩
  | _ =>
      simp only [purpose] at h
      exact absurd h (by decide)

theorem vote_of_purpose (h : a.purpose = .beaconAttester) : ∃ x, a.vote? = some x := by
  cases a with
  | attestation fork x => exact ⟨x, rfl⟩
  | _ =>
      simp only [purpose] at h
      exact absurd h (by decide)

/-- An artifact with the signing root of a block is a block with its header. -/
theorem header_of_signingRoot {x : BlockHeader} (hx : a.header? = some x)
    (h₁ : a.signingRoot hash net₁ = .ok m) (h₂ : b.signingRoot hash net₂ = .ok m)
    (hfree : CollisionFree hash (a.inputs hash net₁ ++ b.inputs hash net₂)) :
    b.header? = some x := by
  obtain ⟨hpurpose, hobject⟩ := signingRoot_inj h₁ h₂ hfree
  obtain ⟨hroot, hinputs, hproposer⟩ := objectRoot_of_header hash hx
  obtain ⟨y, hy⟩ := header_of_purpose (hpurpose.symm.trans hproposer)
  obtain ⟨hroot', hinputs', _⟩ := objectRoot_of_header hash hy
  rw [hroot, hroot'] at hobject
  obtain rfl : x = y := by
    refine BlockHeader.root_inj (hfree.mono fun p hp => ?_) (Except.ok.inj hobject)
    rcases List.mem_append.mp hp with hp | hp
    · exact List.mem_append_left _ (objectInputs_subset (hinputs ▸ hp))
    · exact List.mem_append_right _ (objectInputs_subset (hinputs' ▸ hp))
  exact hy

/-- An artifact with the signing root of a vote is that vote. -/
theorem vote_of_signingRoot {x : AttestationData} (hx : a.vote? = some x)
    (h₁ : a.signingRoot hash net₁ = .ok m) (h₂ : b.signingRoot hash net₂ = .ok m)
    (hfree : CollisionFree hash (a.inputs hash net₁ ++ b.inputs hash net₂)) :
    b.vote? = some x := by
  obtain ⟨hpurpose, hobject⟩ := signingRoot_inj h₁ h₂ hfree
  obtain ⟨hroot, hinputs, hattester⟩ := objectRoot_of_vote hash hx
  obtain ⟨y, hy⟩ := vote_of_purpose (hpurpose.symm.trans hattester)
  obtain ⟨hroot', hinputs', _⟩ := objectRoot_of_vote hash hy
  rw [hroot, hroot'] at hobject
  obtain rfl : x = y := by
    refine AttestationData.root_inj (hfree.mono fun p hp => ?_) (Except.ok.inj hobject)
    rcases List.mem_append.mp hp with hp | hp
    · exact List.mem_append_left _ (objectInputs_subset (hinputs ▸ hp))
    · exact List.mem_append_right _ (objectInputs_subset (hinputs' ▸ hp))
  exact hy

/-- Artifacts of one purpose that have one signing root carry one header, if they are
blocks, and one vote, if they are attestations. -/
theorem messages_eq_of_signingRoot (h₁ : a.signingRoot hash net₁ = .ok m)
    (h₂ : b.signingRoot hash net₂ = .ok m)
    (hfree : CollisionFree hash (a.inputs hash net₁ ++ b.inputs hash net₂)) :
    a.header? = b.header? ∧ a.vote? = b.vote? := by
  have hback : CollisionFree hash (b.inputs hash net₂ ++ a.inputs hash net₁) :=
    hfree.mono fun p hp => List.mem_append.mpr (List.mem_append.mp hp).symm
  constructor
  · cases ha : a.header? with
    | some x => exact (header_of_signingRoot ha h₁ h₂ hfree).symm
    | none =>
        cases hb : b.header? with
        | none => rfl
        | some y => exact ha.symm.trans (header_of_signingRoot hb h₂ h₁ hback)
  · cases ha : a.vote? with
    | some x => exact (vote_of_signingRoot ha h₁ h₂ hfree).symm
    | none =>
        cases hb : b.vote? with
        | none => rfl
        | some y => exact ha.symm.trans (vote_of_signingRoot hb h₂ h₁ hback)

/-! ## The whole separation -/

/-- Whatever the hash, the fork infos and the networks: an artifact shares its signing
root only with artifacts of its purpose that carry its header or its vote, and with no
object root of a module. Otherwise two different pairs have one hash among those that
were hashed for the two roots. -/
theorem signingRoot_separates (hash : Compression) (net₁ net₂ : Network) (a b : Artifact) (m : Root)
    (h : a.signingRoot hash net₁ = .ok m) :
    (b.signingRoot hash net₂ = .ok m →
      Collides hash (a.inputs hash net₁ ++ b.inputs hash net₂) ∨
        (a.purpose = b.purpose ∧ a.header? = b.header? ∧ a.vote? = b.vote?)) ∧
    ∀ version objectRoot, CommitBoost.signingRoot hash version objectRoot = m →
      Collides hash (a.inputs hash net₁ ++ CommitBoost.inputs hash version objectRoot) := by
  constructor
  · intro h₂
    rcases collisionFree_or_collides hash (a.inputs hash net₁ ++ b.inputs hash net₂) with
      hfree | hcollides
    · exact .inr ⟨(signingRoot_inj h h₂ hfree).1, messages_eq_of_signingRoot h h₂ hfree⟩
    · exact .inl hcollides
  · intro version objectRoot hmodule
    refine (collisionFree_or_collides hash _).resolve_left fun hfree => ?_
    exact signingRoot_ne_commitBoost h hfree hmodule.symm

/-- A hash under which everything collides. -/
def constantHash : Compression :=
  fun _ _ => .zero 32

/-- The block of the first slot on a chain of zeros, sent as either kind. -/
def firstBlock (versioned : Bool) : Artifact :=
  let fork : ForkInfo := ⟨⟨.zero 4, .zero 4, 0⟩, .zero 32⟩
  let header : BlockHeader := ⟨0, 0, .zero 32, .zero 32, .zero 32⟩
  if versioned then .versionedBlock fork ⟨"DENEB", header⟩ else .block fork header

/-- A network with epochs of 32 slots. -/
def firstNetwork : Network :=
  ⟨.zero 4, 32, by decide⟩

/-- The kinds of one block share their signing root under any hash; under the constant
one it is that of a module as well. -/
theorem firstBlock_separates :
    let a := firstBlock false
    let b := firstBlock true
    let inputs := a.inputs constantHash firstNetwork
    (Collides constantHash (inputs ++ b.inputs constantHash firstNetwork) ∨
      (a.purpose = b.purpose ∧ a.header? = b.header? ∧ a.vote? = b.vote?)) ∧
    Collides constantHash (inputs ++ CommitBoost.inputs constantHash (.zero 4) (.zero 32)) := by
  intro a b inputs
  have h := signingRoot_separates constantHash firstNetwork firstNetwork a b (.zero 32) rfl
  exact ⟨h.1 rfl, h.2 (.zero 4) (.zero 32) rfl⟩

end Artifact

end RemoteSigner
