import RemoteSigner.Proofs.Protection.Run

/-!
# No slashable pair is accepted

An accepted message closes its slot, or its target, for every other message
(`Settled`), and a closed one stays closed in every run. So whatever is accepted
later is compatible with it (`BlockRequest.Compatible`,
`AttestationRequest.Compatible`), though its record may have been pruned.

`settled_after` carries this through a run by induction; `accepted_unslashable`
is what it says about the answers.
-/

namespace RemoteSigner

/-- Two blocks that may both be signed. -/
def BlockRequest.Compatible (r₁ r₂ : BlockRequest) : Prop :=
  r₁.slot = r₂.slot → r₁.root = r₂.root

/-- One vote spans another on both sides. -/
def AttestationRequest.Surrounds (r₁ r₂ : AttestationRequest) : Prop :=
  r₁.source < r₂.source ∧ r₂.target < r₁.target

/-- Two votes that may both be signed. -/
def AttestationRequest.Compatible (r₁ r₂ : AttestationRequest) : Prop :=
  r₁ ≠ r₂ → r₁.target ≠ r₂.target ∧ ¬ r₁.Surrounds r₂ ∧ ¬ r₂.Surrounds r₁

theorem BlockRequest.Compatible.symm {r₁ r₂ : BlockRequest} (h : r₁.Compatible r₂) :
    r₂.Compatible r₁ :=
  fun hs => (h hs.symm).symm

theorem AttestationRequest.Compatible.symm {r₁ r₂ : AttestationRequest} (h : r₁.Compatible r₂) :
    r₂.Compatible r₁ := by
  intro hne
  obtain ⟨ht, h₁, h₂⟩ := h hne.symm
  exact ⟨ht.symm, h₂, h₁⟩

namespace Validator

variable {v v' : Validator} {high : HighWatermark} {record : Bool}

/-- What one accepted block leaves behind. -/
def Settles (v : Validator) (r : BlockRequest) : Prop :=
  ∃ slot, Stored.ofUInt64 r.slot = .ok slot ∧
    v.ClosedSlot (·.root = some r.root.bytes) slot

/-- What one accepted vote leaves behind. -/
def SettlesVote (v : Validator) (r : AttestationRequest) : Prop :=
  ∃ source target, Stored.ofUInt64 r.source = .ok source ∧
    Stored.ofUInt64 r.target = .ok target ∧ v.Reached source target ∧
    v.ClosedTarget (· = ⟨source, target, some r.root.bytes⟩) target

theorem Settles.advance {r : BlockRequest} (h : v.Advances v') (hs : v.Settles r) :
    v'.Settles r := by
  obtain ⟨slot, hslot, hc⟩ := hs
  exact ⟨slot, hslot, hc.advance h⟩

theorem SettlesVote.advance {r : AttestationRequest} (h : v.Advances v') (hs : v.SettlesVote r) :
    v'.SettlesVote r := by
  obtain ⟨source, target, hsource, htarget, hr, hc⟩ := hs
  exact ⟨source, target, hsource, htarget, hr.advance h, hc.advance h⟩

theorem slot_unique (h : v.Consistent) {b b' : StoredBlock} (hb : b ∈ v.blocks)
    (hb' : b' ∈ v.blocks) (hs : b.slot = b'.slot) : b = b' :=
  List.inj_on_of_nodup_map h.slots_distinct hb hb' hs

theorem target_unique (h : v.Consistent) {a a' : StoredAttestation} (ha : a ∈ v.attestations)
    (ha' : a' ∈ v.attestations) (ht : a.target = a'.target) : a = a' :=
  List.inj_on_of_nodup_map h.votes_free.targets_distinct ha ha' ht

/-- A block accepted after another is compatible with it. -/
theorem Settles.compatible {r₁ r₂ : BlockRequest} (h : v.Sound) (hs : v.Settles r₁)
    (hr : v.signBlock high r₂ = .ok (.accept record, v')) : r₁.Compatible r₂ := by
  intro hslot
  obtain ⟨slot, hslot₁, w, hw, _, hor⟩ := hs
  obtain ⟨slot', hslot₂, hlow, hnew, hold, _⟩ := h.signBlock_accept hr
  obtain rfl : slot = slot' := by
    rw [hslot, hslot₂] at hslot₁
    exact (Except.ok.inj hslot₁).symm
  have hle := hlow w hw
  -- the mark may not have passed the slot, so the record is there, and it is the one found
  rcases hor with hlt | ⟨b, hb, hbs, hroot⟩
  · omega
  · cases record with
    | true => exact absurd hbs (hnew rfl b hb)
    | false =>
        obtain rfl := slot_unique h.toConsistent hb (hold rfl) hbs
        exact FixedBytes.eq_of_bytes (Option.some.inj hroot).symm

/-- A vote accepted after another is compatible with it. -/
theorem SettlesVote.compatible {r₁ r₂ : AttestationRequest} (h : v.Sound) (hs : v.SettlesVote r₁)
    (hr : v.signAttestation high r₂ = .ok (.accept record, v')) : r₁.Compatible r₂ := by
  intro hne
  obtain ⟨s₁, t₁, hs₁, ht₁, ⟨⟨ms, hms, hsle⟩, mt, hmt, htle⟩, w, hw, _, hor⟩ := hs
  obtain ⟨s₂, t₂, hs₂, ht₂, hlows, hlowt, hnew, hold, _⟩ := h.signAttestation_accept hr
  have hms' := hlows ms hms
  have hmt' := hlowt mt hmt
  -- both epochs of the later vote are at least those of the earlier one
  have hsource : r₁.source ≤ r₂.source := (Stored.stored_le hs₁ hs₂).mp (by omega)
  have htarget : r₁.target ≤ r₂.target := (Stored.stored_le ht₁ ht₂).mp (by omega)
  refine ⟨?_, ?_, ?_⟩
  · intro heq
    obtain rfl : t₁ = t₂ := by
      rw [heq, ht₂] at ht₁
      exact (Except.ok.inj ht₁).symm
    have hle := hlowt w hw
    rcases hor with hlt | ⟨a, ha, hat, rfl⟩
    · omega
    · cases record with
      | true => exact target_ne_of_not_conflicts (hnew rfl _ ha) hat
      | false =>
          have hsame := target_unique h.toConsistent ha (hold rfl) rfl
          obtain ⟨rfl, _, hroot⟩ := StoredAttestation.mk.inj hsame
          apply hne
          cases r₁
          cases r₂
          simp only [AttestationRequest.mk.injEq]
          exact ⟨Stored.stored_inj hs₁ hs₂, heq, FixedBytes.eq_of_bytes (Option.some.inj hroot)⟩
  · exact fun hsurround => UInt64.not_lt.mpr htarget hsurround.2
  · exact fun hsurround => UInt64.not_lt.mpr hsource hsurround.1

end Validator

namespace Engine

/-! ## Accepted requests of a run -/

/-- A request for a block was accepted. -/
def AcceptedBlock (t : List Entry) (key : SignerId) (r : BlockRequest) : Prop :=
  ∃ root record, (Call.block key r root, .ok (.decision (.accept record))) ∈ t

/-- A request for a vote was accepted. -/
def AcceptedVote (t : List Entry) (key : SignerId) (r : AttestationRequest) : Prop :=
  ∃ root record, (Call.attest key r root, .ok (.decision (.accept record))) ∈ t

/-- The accepted requests of each key are compatible with each other. -/
structure Unslashable (t : List Entry) : Prop where
  blocks : ∀ {key r₁ r₂}, AcceptedBlock t key r₁ → AcceptedBlock t key r₂ → r₁.Compatible r₂
  votes : ∀ {key r₁ r₂}, AcceptedVote t key r₁ → AcceptedVote t key r₂ → r₁.Compatible r₂

/-- What was accepted is compatible with each other and still closed. -/
structure Settled (e : Engine) (past : List Entry) : Prop extends Unslashable past where
  sound : e.database.Sound
  blocks_settled : ∀ {key r}, AcceptedBlock past key r → (e.database.row key).Settles r
  votes_settled : ∀ {key r}, AcceptedVote past key r → (e.database.row key).SettlesVote r

variable {e e' : Engine} {key : SignerId} {record : Bool} {past : List Entry}

theorem perform_block_accept (h : e.database.Sound) {r : BlockRequest} {root : Root}
    (hr : (e.perform (.block key r root)).1 = .ok (.decision (.accept record))) :
    ∃ high, (e.database.row key).signBlock high r =
      .ok (.accept record, (e.perform (.block key r root)).2.database.row key) := by
  obtain ⟨d, db, hd, hbody, he⟩ := answer_transact_ok (f := .decision) hr
  obtain rfl := Answer.decision.inj hd
  rw [perform, mayBlock, he]
  exact Database.mayBlock_accept h hbody

theorem perform_attest_accept (h : e.database.Sound) {r : AttestationRequest} {root : Root}
    (hr : (e.perform (.attest key r root)).1 = .ok (.decision (.accept record))) :
    ∃ high, (e.database.row key).signAttestation high r =
      .ok (.accept record, (e.perform (.attest key r root)).2.database.row key) := by
  obtain ⟨d, db, hd, hbody, he⟩ := answer_transact_ok (f := .decision) hr
  obtain rfl := Answer.decision.inj hd
  rw [perform, mayAttest, he]
  exact Database.mayAttest_accept h hbody

theorem acceptedBlock_concat {x : Entry} {r : BlockRequest} :
    AcceptedBlock (past ++ [x]) key r ↔ AcceptedBlock past key r ∨
      ∃ root record, x = (Call.block key r root, .ok (.decision (.accept record))) := by
  simp [AcceptedBlock, exists_or, eq_comm]

theorem acceptedVote_concat {x : Entry} {r : AttestationRequest} :
    AcceptedVote (past ++ [x]) key r ↔ AcceptedVote past key r ∨
      ∃ root record, x = (Call.attest key r root, .ok (.decision (.accept record))) := by
  simp [AcceptedVote, exists_or, eq_comm]

/-- One call keeps what was accepted closed, and adds at most one request. -/
theorem Settled.perform (h : e.Settled past) (c : Call) :
    (e.perform c).2.Settled (past ++ [(c, (e.perform c).1)]) := by
  obtain ⟨hsound, hadv⟩ := perform_step h.sound c
  refine ⟨⟨?_, ?_⟩, hsound, ?_, ?_⟩
  -- of two accepted requests, the call is neither, the later one or both
  · intro key r₁ r₂ h₁ h₂
    rcases acceptedBlock_concat.mp h₁ with hp₁ | ⟨root₁, record₁, he₁⟩
    · rcases acceptedBlock_concat.mp h₂ with hp₂ | ⟨root₂, record₂, he₂⟩
      · exact h.blocks hp₁ hp₂
      · obtain ⟨rfl, hans⟩ := Prod.mk.inj he₂
        obtain ⟨high, hsign⟩ := perform_block_accept h.sound hans
        exact (h.blocks_settled hp₁).compatible (h.sound.row key) hsign
    · obtain ⟨rfl, hans⟩ := Prod.mk.inj he₁
      rcases acceptedBlock_concat.mp h₂ with hp₂ | ⟨root₂, record₂, he₂⟩
      · obtain ⟨high, hsign⟩ := perform_block_accept h.sound hans
        exact ((h.blocks_settled hp₂).compatible (h.sound.row key) hsign).symm
      · obtain ⟨_, rfl, _⟩ := Call.block.inj (Prod.mk.inj he₂).1
        exact fun _ => rfl
  · intro key r₁ r₂ h₁ h₂
    rcases acceptedVote_concat.mp h₁ with hp₁ | ⟨root₁, record₁, he₁⟩
    · rcases acceptedVote_concat.mp h₂ with hp₂ | ⟨root₂, record₂, he₂⟩
      · exact h.votes hp₁ hp₂
      · obtain ⟨rfl, hans⟩ := Prod.mk.inj he₂
        obtain ⟨high, hsign⟩ := perform_attest_accept h.sound hans
        exact (h.votes_settled hp₁).compatible (h.sound.row key) hsign
    · obtain ⟨rfl, hans⟩ := Prod.mk.inj he₁
      rcases acceptedVote_concat.mp h₂ with hp₂ | ⟨root₂, record₂, he₂⟩
      · obtain ⟨high, hsign⟩ := perform_attest_accept h.sound hans
        exact ((h.votes_settled hp₂).compatible (h.sound.row key) hsign).symm
      · obtain ⟨_, rfl, _⟩ := Call.attest.inj (Prod.mk.inj he₂).1
        exact fun hne => absurd rfl hne
  · intro key r hr
    rcases acceptedBlock_concat.mp hr with hr | ⟨root, record, he⟩
    · exact (h.blocks_settled hr).advance (hadv.rows key)
    · obtain ⟨rfl, hans⟩ := Prod.mk.inj he
      obtain ⟨high, hsign⟩ := perform_block_accept h.sound hans
      obtain ⟨slot, hslot, _, _, _, hclosed⟩ := (h.sound.row key).signBlock_accept hsign
      exact ⟨slot, hslot, hclosed⟩
  · intro key r hr
    rcases acceptedVote_concat.mp hr with hr | ⟨root, record, he⟩
    · exact (h.votes_settled hr).advance (hadv.rows key)
    · obtain ⟨rfl, hans⟩ := Prod.mk.inj he
      obtain ⟨high, hsign⟩ := perform_attest_accept h.sound hans
      obtain ⟨s, t, hs, ht, _, _, _, _, hreached, hclosed⟩ :=
        (h.sound.row key).signAttestation_accept hsign
      exact ⟨s, t, hs, ht, hreached, hclosed⟩

theorem settled_after {cs : List Call} (h : e.Settled past) :
    (e.after cs).Settled (past ++ e.trace cs) := by
  induction cs generalizing e past with
  | nil => rwa [trace, List.append_nil]
  | cons c rest ih =>
      have hrest := ih (h.perform c)
      rwa [List.append_assoc] at hrest

theorem settled_fresh (maxAttempts : Nat) : (fresh maxAttempts).Settled [] :=
  ⟨⟨by simp [AcceptedBlock], by simp [AcceptedVote]⟩, Database.sound_empty,
    by simp [AcceptedBlock], by simp [AcceptedVote]⟩

theorem unslashable_trace (maxAttempts : Nat) (calls : List Call) :
    Unslashable ((fresh maxAttempts).trace calls) :=
  (settled_after (settled_fresh maxAttempts)).toUnslashable

/-- In no run are two blocks of one key accepted that have the same slot and
different roots, nor two different votes of one key that have the same target
or of which one surrounds the other. -/
theorem accepted_unslashable (maxAttempts : Nat) (calls : List Call) (key : SignerId) :
    (∀ r₁ r₂, AcceptedBlock ((fresh maxAttempts).trace calls) key r₁ →
      AcceptedBlock ((fresh maxAttempts).trace calls) key r₂ →
      r₁.slot = r₂.slot → r₁.root = r₂.root) ∧
    ∀ r₁ r₂, AcceptedVote ((fresh maxAttempts).trace calls) key r₁ →
      AcceptedVote ((fresh maxAttempts).trace calls) key r₂ → r₁ ≠ r₂ →
      r₁.target ≠ r₂.target ∧ ¬ (r₁.source < r₂.source ∧ r₂.target < r₁.target) ∧
        ¬ (r₂.source < r₁.source ∧ r₁.target < r₂.target) :=
  ⟨fun _ _ h₁ h₂ => (unslashable_trace maxAttempts calls).blocks h₁ h₂,
    fun _ _ h₁ h₂ => (unslashable_trace maxAttempts calls).votes h₁ h₂⟩

end Engine

end RemoteSigner
