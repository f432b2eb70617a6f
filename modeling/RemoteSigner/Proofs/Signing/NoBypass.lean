import RemoteSigner.Proofs.Signing.Custody

/-!
# No signing path bypasses slashing protection

Among the messages that a key was asked to sign in a run, those that are signing
roots of blocks or votes were accepted by slashing protection for that key
(`accepted_of_block`, `accepted_of_vote`): an artifact with the same signing root
has the same header or vote, and no object root of a module gives one. Accepted
requests are compatible and signing roots bind their objects, hence
`asked_unslashable`. What the run hands out is what the keys answered to these
messages, so no other signature leaves it. The hypothesis is that the pairs
hashed in the run do not collide.
-/

namespace RemoteSigner

open Ssz

namespace Custody

variable {t : List Engine.Entry} {inputs : List (Root × Root)} {key : SignerId} {m : Root}
variable {net : Network} {a : Artifact}

/-- A message that is the signing root of a block was accepted as that block. -/
theorem accepted_of_block {x : BlockHeader} (ho : Origin t inputs key m)
    (hfree : CollisionFree sha256Pair inputs) (hx : a.header? = some x)
    (hroot : a.signingRoot sha256Pair net = .ok m) (ha : a.inputs sha256Pair net ⊆ inputs) :
    Engine.AcceptedBlock t key ⟨x.slot, m⟩ := by
  cases ho with
  | artifact net' b hroot' hb hblock _ =>
      refine hblock x (Artifact.header_of_signingRoot hx hroot hroot' (hfree.mono ?_))
      exact List.append_subset.mpr ⟨ha, hb⟩
  | commitBoost version objectRoot hroot' hb =>
      refine absurd hroot' (Artifact.signingRoot_ne_commitBoost hroot (hfree.mono ?_))
      exact List.append_subset.mpr ⟨ha, hb⟩

/-- A message that is the signing root of a vote was accepted as that vote. -/
theorem accepted_of_vote {x : AttestationData} (ho : Origin t inputs key m)
    (hfree : CollisionFree sha256Pair inputs) (hx : a.vote? = some x)
    (hroot : a.signingRoot sha256Pair net = .ok m) (ha : a.inputs sha256Pair net ⊆ inputs) :
    Engine.AcceptedVote t key ⟨x.source.epoch, x.target.epoch, m⟩ := by
  cases ho with
  | artifact net' b hroot' hb _ hvote =>
      refine hvote x (Artifact.vote_of_signingRoot hx hroot hroot' (hfree.mono ?_))
      exact List.append_subset.mpr ⟨ha, hb⟩
  | commitBoost version objectRoot hroot' hb =>
      refine absurd hroot' (Artifact.signingRoot_ne_commitBoost hroot (hfree.mono ?_))
      exact List.append_subset.mpr ⟨ha, hb⟩

/-- In no run is a key asked to sign the signing roots of two different blocks of
one slot, or of two different votes that have one target or of which one
surrounds the other; and the signatures that the run hands out are exactly what
the keys answered that were asked. The run starts with any keys and files and
with empty slashing protection. -/
theorem asked_unslashable (registry : Registry) (maxAttempts : Nat) (disk : Disk)
    (acts : List Act)
    (hfree : CollisionFree sha256Pair
      (hashed ⟨registry, some (Engine.fresh maxAttempts), disk⟩ acts)) (key : SignerId) :
    let messages := asked ⟨registry, some (Engine.fresh maxAttempts), disk⟩ acts
    (∀ m₁ m₂ x₁ x₂, (key, m₁) ∈ messages → (key, m₂) ∈ messages →
      SentBlock acts m₁ x₁ → SentBlock acts m₂ x₂ → x₁.slot = x₂.slot → x₁ = x₂) ∧
    (∀ m₁ m₂ x₁ x₂, (key, m₁) ∈ messages → (key, m₂) ∈ messages →
      SentVote acts m₁ x₁ → SentVote acts m₂ x₂ → x₁ ≠ x₂ →
      x₁.target.epoch ≠ x₂.target.epoch ∧
        ¬ (x₁.source.epoch < x₂.source.epoch ∧ x₂.target.epoch < x₁.target.epoch) ∧
        ¬ (x₂.source.epoch < x₁.source.epoch ∧ x₁.target.epoch < x₂.target.epoch)) ∧
    signatures ⟨registry, some (Engine.fresh maxAttempts), disk⟩ acts =
      (askings ⟨registry, some (Engine.fresh maxAttempts), disk⟩ acts).filterMap answer? := by
  intro messages
  let c : Custody := ⟨registry, some (Engine.fresh maxAttempts), disk⟩
  have hsafe := Engine.unslashable_trace maxAttempts (c.calls acts)
  have horigin : ∀ m, (key, m) ∈ messages →
      Origin ((Engine.fresh maxAttempts).trace (c.calls acts)) (c.hashed acts) key m :=
    fun m hm => asked_origin rfl hm
  refine ⟨?_, ?_, signatures_eq c acts⟩
  · intro m₁ m₂ x₁ x₂ hm₁ hm₂ hs₁ hs₂ hslot
    obtain ⟨net₁, a₁, hsent₁, hx₁, hroot₁⟩ := hs₁
    obtain ⟨net₂, a₂, hsent₂, hx₂, hroot₂⟩ := hs₂
    have hroot₁ := Artifact.rootToSign_ok hroot₁
    have hroot₂ := Artifact.rootToSign_ok hroot₂
    have hin₁ := rooted_hashed (c := c) hsent₁
    have hin₂ := rooted_hashed (c := c) hsent₂
    have hacc₁ := accepted_of_block (horigin m₁ hm₁) hfree hx₁ hroot₁ hin₁
    have hacc₂ := accepted_of_block (horigin m₂ hm₂) hfree hx₂ hroot₂ hin₂
    obtain rfl : m₁ = m₂ := hsafe.blocks hacc₁ hacc₂ hslot
    have hsame := Artifact.header_of_signingRoot hx₁ hroot₁ hroot₂
      (hfree.mono (List.append_subset.mpr ⟨hin₁, hin₂⟩))
    exact Option.some.inj (hsame.symm.trans hx₂)
  · intro m₁ m₂ x₁ x₂ hm₁ hm₂ hs₁ hs₂ hne
    obtain ⟨net₁, a₁, hsent₁, hx₁, hroot₁⟩ := hs₁
    obtain ⟨net₂, a₂, hsent₂, hx₂, hroot₂⟩ := hs₂
    have hroot₁ := Artifact.rootToSign_ok hroot₁
    have hroot₂ := Artifact.rootToSign_ok hroot₂
    have hin₁ := rooted_hashed (c := c) hsent₁
    have hin₂ := rooted_hashed (c := c) hsent₂
    have hacc₁ := accepted_of_vote (horigin m₁ hm₁) hfree hx₁ hroot₁ hin₁
    have hacc₂ := accepted_of_vote (horigin m₂ hm₂) hfree hx₂ hroot₂ hin₂
    refine hsafe.votes hacc₁ hacc₂ fun heq => hne ?_
    -- one request for two votes would be one signing root for both
    obtain rfl : m₁ = m₂ := (AttestationRequest.mk.inj heq).2.2
    have hsame := Artifact.vote_of_signingRoot hx₁ hroot₁ hroot₂
      (hfree.mono (List.append_subset.mpr ⟨hin₁, hin₂⟩))
    exact Option.some.inj (hsame.symm.trans hx₂)

/-! ## A run of one request -/

/-- A key that is asked for the block of the first slot. -/
def genesisSigner : Signer :=
  ⟨⟨[1]⟩, .bls, fun _ => .ok ⟨[]⟩⟩

/-- That key alone. -/
def genesisRegistry : Registry :=
  ⟨⟨[genesisSigner], [], []⟩, [], 0, false⟩

/-- The block that it is asked for. -/
def genesisBlock : BlockHeader :=
  ⟨0, 0, .zero 32, .zero 32, .zero 32⟩

/-- The request. -/
def genesisActs : List Act :=
  [.sign Artifact.firstNetwork "01"
    ⟨none, .block ⟨⟨.zero 4, .zero 4, 0⟩, .zero 32⟩ genesisBlock⟩]

/-- A node over zeros only, by its height. -/
def zeroNode : Nat → Root
  | 0 => .zero 32
  | height + 1 => sha256Pair (zeroNode height) (zeroNode height)

/-- The domain of the block. -/
def genesisDomain : Root :=
  computeDomain sha256Pair .beaconProposer (.zero 4) (.zero 32)

/-- The different pairs among those that are hashed for the request. -/
def genesisInputs : List (Root × Root) :=
  [(zeroNode 0, zeroNode 0), (zeroNode 1, zeroNode 1), (zeroNode 2, zeroNode 2),
    (zeroNode 3, genesisDomain)]

set_option maxRecDepth 10000 in
theorem genesis_collisionFree : CollisionFree sha256Pair
    (hashed ⟨genesisRegistry, some (Engine.fresh 1), Disk.empty⟩ genesisActs) := by
  have hfree : CollisionFree sha256Pair genesisInputs := by
    refine .of_nodup ?_
    show [zeroNode 1, zeroNode 2, zeroNode 3, sha256Pair (zeroNode 3) genesisDomain].Nodup
    decide +kernel
  -- the tree has three layers; the domain is over zeros like a pair of its leaves
  have hhashed : hashed ⟨genesisRegistry, some (Engine.fresh 1), Disk.empty⟩ genesisActs =
      List.replicate 4 (zeroNode 0, zeroNode 0) ++ List.replicate 2 (zeroNode 1, zeroNode 1) ++
        [(zeroNode 2, zeroNode 2), (zeroNode 0, zeroNode 0), (zeroNode 3, genesisDomain)] := rfl
  refine hfree.mono ?_
  rw [hhashed]
  simp [genesisInputs]

theorem genesisBlock_only :
    let messages := asked ⟨genesisRegistry, some (Engine.fresh 1), Disk.empty⟩ genesisActs
    ∃ m, (genesisSigner.identifier, m) ∈ messages ∧ SentBlock genesisActs m genesisBlock ∧
      ∀ m' x, (genesisSigner.identifier, m') ∈ messages → SentBlock genesisActs m' x →
        genesisBlock.slot = x.slot → genesisBlock = x := by
  let m := computeSigningRoot sha256Pair (genesisBlock.root sha256Pair) genesisDomain
  have hasked : asked ⟨genesisRegistry, some (Engine.fresh 1), Disk.empty⟩ genesisActs =
      [(genesisSigner.identifier, m)] := rfl
  have hmem := hasked ▸ List.mem_singleton_self (genesisSigner.identifier, m)
  have hsent : SentBlock genesisActs m genesisBlock :=
    ⟨_, _, List.mem_singleton_self _, rfl, rfl⟩
  exact ⟨m, hmem, hsent, fun m' x hm' hx =>
    (asked_unslashable genesisRegistry 1 Disk.empty genesisActs genesis_collisionFree
      genesisSigner.identifier).1 m m' genesisBlock x hmem hm' hsent hx⟩

end Custody

end RemoteSigner
