import RemoteSigner.Proofs.Protection.Signing
import RemoteSigner.Protection.Pruning

/-!
# What pruning does to a validator

On columns that can be read pruning is a function of the records
(`Readable.pruneBlocks_eq`, `Readable.pruneAttestations_eq`). Records below a cutoff
go, and some record reaches the cutoff; before that the watermark may rise to a
record (`Readable.pruneBlocks_cases`, `Readable.pruneAttestations_cases`). Fewer
records are still sound (`Sound.keep`).
What goes lies below a record, and the watermark of a sound validator is no
lower than that: so a pruned validator advances (`Sound.prune`), whatever the
configuration.
-/

namespace RemoteSigner

namespace Validator

theorem ConflictFree.sublist {as bs : List StoredAttestation} (h : ConflictFree bs)
    (hs : as.Sublist bs) : ConflictFree as where
  targets_distinct := h.targets_distinct.sublist (hs.map _)
  forward := fun a ha => h.forward a (hs.subset ha)
  no_surround := fun a ha b hb => h.no_surround a (hs.subset ha) b (hs.subset hb)

/-- Some of the records of a sound validator make a sound validator. -/
theorem Sound.keep {v : Validator} (h : v.Sound) {bs : List StoredBlock}
    {as : List StoredAttestation} (hbs : bs.Sublist v.blocks) (has : as.Sublist v.attestations) :
    ({ v with blocks := bs, attestations := as } : Validator).Sound where
  slots_distinct := h.slots_distinct.sublist (hbs.map _)
  votes_free := h.votes_free.sublist has
  blocks_marked := fun b hb => h.blocks_marked b (hbs.subset hb)
  votes_marked := fun a ha => h.votes_marked a (has.subset ha)
  blocks_readable := fun b hb => h.blocks_readable b (hbs.subset hb)
  votes_readable := fun a ha => h.votes_readable a (has.subset ha)
  slotMark_inRange := h.slotMark_inRange
  sourceMark_inRange := h.sourceMark_inRange
  targetMark_inRange := h.targetMark_inRange
  epochs_ordered := h.epochs_ordered

variable {v v' : Validator} {keep removed : Nat}

/-! ## All that pruning can do -/

/-- The number from which on records are kept, `keep` behind the newest one: a
difference that stops at zero. -/
def cutoff (numbers : List Int) (keep : Nat) : Nat :=
  ((Stored.largest numbers).getD 0).toNat - keep

section Cutoff

variable {numbers : List Int}

theorem cutoff_of_read {newest : Int} (hmax : Stored.largest numbers = some newest)
    (hrange : Stored.InRange newest) (keep : Nat) :
    (Stored.read newest).toNat - keep = cutoff numbers keep := by
  have := Stored.toNat_read hrange
  rw [cutoff, hmax, Option.getD_some]
  omega

/-- A record reaches the cutoff, unless nothing lies below it. -/
theorem exists_cutoff_le (h : cutoff numbers keep ≠ 0) :
    ∃ i ∈ numbers, (cutoff numbers keep : Int) ≤ i := by
  unfold cutoff at h ⊢
  cases hmax : Stored.largest numbers with
  | none => simp [hmax] at h
  | some newest =>
      refine ⟨newest, (Stored.largest_spec hmax).1, ?_⟩
      simp only [hmax, Option.getD_some] at h ⊢
      omega

/-- The cutoff can be bound in a query. -/
theorem ofUInt64_cutoff (hrange : ∀ i ∈ numbers, Stored.InRange i) (keep : Nat) :
    Stored.ofUInt64 (UInt64.ofNat (cutoff numbers keep)) = .ok (cutoff numbers keep : Int) := by
  have hle : cutoff numbers keep ≤ Stored.bound := by
    by_cases hzero : cutoff numbers keep = 0
    · simp [hzero]
    · obtain ⟨i, hi, hcut⟩ := exists_cutoff_le hzero
      have hbound := (hrange i hi).2
      omega
  have hnat : (UInt64.ofNat (cutoff numbers keep)).toNat = cutoff numbers keep :=
    UInt64.toNat_ofNat_of_lt' (Nat.lt_of_le_of_lt hle (by decide))
  exact Stored.ofUInt64_eq_ok.mpr ⟨hnat.symm ▸ hle, by rw [hnat]⟩

end Cutoff

theorem oldestBlock_spec {n : Int} {b : StoredBlock} (h : v.oldestBlock n = some b) :
    b ∈ v.blocks ∧ n ≤ b.slot :=
  ⟨List.mem_mergeSort.mp (List.mem_of_find?_eq_some h), by simpa using List.find?_some h⟩

theorem oldestAttestation_spec {n : Int} {a : StoredAttestation}
    (h : v.oldestAttestation n = some a) : a ∈ v.attestations ∧ n ≤ a.target :=
  ⟨List.mem_mergeSort.mp (List.mem_of_find?_eq_some h), by simpa using List.find?_some h⟩

/-- Where votes are recorded in order, the first of them from a cutoff on is the oldest. -/
theorem oldestAttestation_of_ordered {n : Int}
    (h : v.attestations.Pairwise (·.target ≤ ·.target)) :
    v.oldestAttestation n = v.attestations.find? (n ≤ ·.target) := by
  rw [oldestAttestation, attestationsInOrder, List.mergeSort_of_pairwise]
  simpa using h

/-- The slot of the watermark raised to the oldest block from a cutoff on. -/
def raiseToBlock (cutoff : Nat) (v : Validator) : Validator :=
  if cutoff = 0 then v else (v.oldestBlock cutoff).elim v (v.raiseSlot ·.slot)

/-- The epochs of the watermark raised to the oldest vote from a cutoff on. -/
def raiseToVote (cutoff : Nat) (v : Validator) : Validator :=
  if cutoff = 0 then v
  else (v.oldestAttestation cutoff).elim v fun a => v.raiseEpochs a.source a.target

/-- A validator without the blocks below a cutoff. -/
def dropBlocks (cutoff : Int) (v : Validator) : Validator :=
  { v with blocks := v.blocks.filter (cutoff ≤ ·.slot) }

/-- A validator without the votes below a cutoff. -/
def dropVotes (cutoff : Int) (v : Validator) : Validator :=
  { v with attestations := v.attestations.filter (cutoff ≤ ·.target) }

theorem Readable.slots_inRange (h : v.Readable) :
    ∀ i ∈ v.blocks.map (·.slot), Stored.InRange i := by
  intro i hi
  obtain ⟨b, hb, rfl⟩ := List.mem_map.mp hi
  exact (h.blocks_readable b hb).1

theorem Readable.targets_inRange (h : v.Readable) :
    ∀ i ∈ v.attestations.map (·.target), Stored.InRange i := by
  intro i hi
  obtain ⟨a, ha, rfl⟩ := List.mem_map.mp hi
  exact (h.votes_readable a ha).2.1

/-- Nothing lies below a cutoff of zero. -/
theorem Readable.dropBlocks_zero (h : v.Readable) : v.dropBlocks 0 = v := by
  rw [dropBlocks, List.filter_eq_self.mpr fun b hb => decide_eq_true (h.blocks_readable b hb).1.1]

theorem Readable.dropVotes_zero (h : v.Readable) : v.dropVotes 0 = v := by
  rw [dropVotes, List.filter_eq_self.mpr fun a ha => decide_eq_true (h.votes_readable a ha).2.1.1]

/-- What pruning does to the blocks of a validator that can be read. -/
theorem Readable.pruneBlocks_eq (h : v.Readable) (keep : Nat) :
    let cut := cutoff (v.blocks.map (·.slot)) keep
    v.pruneBlocks keep = .ok (v.blocks.length - (v.dropBlocks cut).blocks.length,
      (v.raiseToBlock cut).dropBlocks cut) := by
  intro cut
  have hzero (hcut : cut = 0) : .ok (0, v) = (.ok (v.blocks.length -
      (v.dropBlocks cut).blocks.length, (v.raiseToBlock cut).dropBlocks cut) :
        Protected (Nat × Validator)) := by
    rw [raiseToBlock, if_pos hcut, hcut, Int.natCast_zero, h.dropBlocks_zero, Nat.sub_self]
  unfold Validator.pruneBlocks
  cases hmax : Stored.largest (v.blocks.map (·.slot)) with
  | none => exact hzero (by simp [cut, cutoff, hmax])
  | some newest =>
      have hin := h.slots_inRange newest (Stored.largest_spec hmax).1
      have hread : (Stored.read newest).toNat - keep = cut := cutoff_of_read hmax hin keep
      have hbind : Stored.ofUInt64 (UInt64.ofNat cut) = .ok (cut : Int) :=
        ofUInt64_cutoff h.slots_inRange keep
      simp only [Stored.toUInt64_eq hin, hread, bind, Except.bind]
      by_cases hcut : cut = 0
      · rw [if_pos hcut]
        exact hzero hcut
      · simp only [if_neg hcut, hbind, raiseToBlock]
        cases hold : v.oldestBlock cut with
        | none => rfl
        | some b =>
            obtain ⟨hslot, hroot⟩ := h.blocks_readable b (oldestBlock_spec hold).1
            -- the slot written back is that of the record
            simp only [StoredBlock.toRecord_eq hslot hroot, StoredBlock.record,
              Stored.stored_read hslot]
            rfl

/-- What pruning does to the votes of a validator that can be read. -/
theorem Readable.pruneAttestations_eq (h : v.Readable) (keep : Nat) :
    let cut := cutoff (v.attestations.map (·.target)) keep
    v.pruneAttestations keep = .ok
      (v.attestations.length - (v.dropVotes cut).attestations.length,
        (v.raiseToVote cut).dropVotes cut) := by
  intro cut
  have hzero (hcut : cut = 0) : .ok (0, v) = (.ok (v.attestations.length -
      (v.dropVotes cut).attestations.length, (v.raiseToVote cut).dropVotes cut) :
        Protected (Nat × Validator)) := by
    rw [raiseToVote, if_pos hcut, hcut, Int.natCast_zero, h.dropVotes_zero, Nat.sub_self]
  unfold Validator.pruneAttestations
  cases hmax : Stored.largest (v.attestations.map (·.target)) with
  | none => exact hzero (by simp [cut, cutoff, hmax])
  | some newest =>
      have hin := h.targets_inRange newest (Stored.largest_spec hmax).1
      have hread : (Stored.read newest).toNat - keep = cut := cutoff_of_read hmax hin keep
      have hbind : Stored.ofUInt64 (UInt64.ofNat cut) = .ok (cut : Int) :=
        ofUInt64_cutoff h.targets_inRange keep
      simp only [Stored.toUInt64_eq hin, hread, bind, Except.bind]
      by_cases hcut : cut = 0
      · rw [if_pos hcut]
        exact hzero hcut
      · simp only [if_neg hcut, hbind, raiseToVote]
        cases hold : v.oldestAttestation cut with
        | none => rfl
        | some a =>
            obtain ⟨hsource, htarget, hroot⟩ := h.votes_readable a (oldestAttestation_spec hold).1
            simp only [StoredAttestation.toRecord_eq hsource htarget hroot,
              StoredAttestation.record, Stored.stored_read hsource, Stored.stored_read htarget]
            rfl

/-- The validator after its watermark may have risen to a block on record. -/
def SlotRaised (v u : Validator) : Prop :=
  u = v ∨ ∃ b ∈ v.blocks, u = v.raiseSlot b.slot

/-- The validator after its watermark may have risen to a vote on record. -/
def EpochsRaised (v u : Validator) : Prop :=
  u = v ∨ ∃ a ∈ v.attestations, u = v.raiseEpochs a.source a.target

theorem slotRaised_raiseToBlock (v : Validator) (cutoff : Nat) :
    v.SlotRaised (v.raiseToBlock cutoff) := by
  unfold raiseToBlock
  split
  · exact .inl rfl
  · cases hold : v.oldestBlock cutoff with
    | none => exact .inl rfl
    | some b => exact .inr ⟨b, (oldestBlock_spec hold).1, rfl⟩

theorem epochsRaised_raiseToVote (v : Validator) (cutoff : Nat) :
    v.EpochsRaised (v.raiseToVote cutoff) := by
  unfold raiseToVote
  split
  · exact .inl rfl
  · cases hold : v.oldestAttestation cutoff with
    | none => exact .inl rfl
    | some a => exact .inr ⟨a, (oldestAttestation_spec hold).1, rfl⟩

/-- Nothing changes, or blocks below a cutoff that some block reaches go. -/
theorem Readable.pruneBlocks_cases (h : v.Readable)
    (hr : v.pruneBlocks keep = .ok (removed, v')) :
    v' = v ∨ ∃ cutoff u, (∃ b ∈ v.blocks, cutoff ≤ b.slot) ∧ v.SlotRaised u ∧
      v' = { u with blocks := u.blocks.filter (cutoff ≤ ·.slot) } := by
  rw [h.pruneBlocks_eq] at hr
  obtain ⟨_, rfl⟩ := Prod.mk.inj (Except.ok.inj hr)
  by_cases hcut : cutoff (v.blocks.map (·.slot)) keep = 0
  · left
    rw [raiseToBlock, if_pos hcut, hcut, Int.natCast_zero, h.dropBlocks_zero]
  · obtain ⟨_, hi, hle⟩ := exists_cutoff_le hcut
    obtain ⟨b, hb, rfl⟩ := List.mem_map.mp hi
    exact .inr ⟨_, _, ⟨b, hb, hle⟩, slotRaised_raiseToBlock v _, rfl⟩

/-- Nothing changes, or votes below a cutoff that the target of some vote reaches
go. -/
theorem Readable.pruneAttestations_cases (h : v.Readable)
    (hr : v.pruneAttestations keep = .ok (removed, v')) :
    v' = v ∨ ∃ cutoff u, (∃ a ∈ v.attestations, cutoff ≤ a.target) ∧ v.EpochsRaised u ∧
      v' = { u with attestations := u.attestations.filter (cutoff ≤ ·.target) } := by
  rw [h.pruneAttestations_eq] at hr
  obtain ⟨_, rfl⟩ := Prod.mk.inj (Except.ok.inj hr)
  by_cases hcut : cutoff (v.attestations.map (·.target)) keep = 0
  · left
    rw [raiseToVote, if_pos hcut, hcut, Int.natCast_zero, h.dropVotes_zero]
  · obtain ⟨_, hi, hle⟩ := exists_cutoff_le hcut
    obtain ⟨a, ha, rfl⟩ := List.mem_map.mp hi
    exact .inr ⟨_, _, ⟨a, ha, hle⟩, epochsRaised_raiseToVote v _, rfl⟩

/-! ## Pruned validators are sound -/

/-- Block records below a cutoff that some block reaches may go. -/
theorem Sound.dropBlocks {cutoff : Int} (h : v.Sound) (hreach : ∃ b ∈ v.blocks, cutoff ≤ b.slot) :
    ({ v with blocks := v.blocks.filter (cutoff ≤ ·.slot) } : Validator).Sound ∧
      v.Advances { v with blocks := v.blocks.filter (cutoff ≤ ·.slot) } := by
  refine ⟨h.keep List.filter_sublist (List.Sublist.refl _),
    advances_withRecords (fun b hb => ?_) fun a ha => .inl ha⟩
  by_cases hkeep : cutoff ≤ b.slot
  · exact .inl (List.mem_filter.mpr ⟨hb, by simpa using hkeep⟩)
  · obtain ⟨x, hx, hle⟩ := hreach
    obtain ⟨w, hw, hxw⟩ := h.blocks_marked x hx
    exact .inr ⟨w, hw, by omega⟩

/-- Attestation records below a cutoff that the target of some vote reaches may
go. -/
theorem Sound.dropVotes {cutoff : Int} (h : v.Sound)
    (hreach : ∃ a ∈ v.attestations, cutoff ≤ a.target) :
    ({ v with attestations := v.attestations.filter (cutoff ≤ ·.target) } : Validator).Sound ∧
      v.Advances { v with attestations := v.attestations.filter (cutoff ≤ ·.target) } := by
  refine ⟨h.keep (List.Sublist.refl _) List.filter_sublist,
    advances_withRecords (fun b hb => .inl hb) fun a ha => ?_⟩
  by_cases hkeep : cutoff ≤ a.target
  · exact .inl (List.mem_filter.mpr ⟨ha, by simpa using hkeep⟩)
  · obtain ⟨x, hx, hle⟩ := hreach
    obtain ⟨_, w, hw, hxw⟩ := h.votes_marked x hx
    exact .inr ⟨w, hw, by omega⟩

theorem Sound.pruneBlocks (h : v.Sound) (hr : v.pruneBlocks keep = .ok (removed, v')) :
    v'.Sound ∧ v.Advances v' := by
  rcases h.pruneBlocks_cases hr with rfl | ⟨cutoff, u, hreach, rfl | ⟨b, hb, rfl⟩, rfl⟩
  · exact ⟨h, .refl _⟩
  · exact h.dropBlocks hreach
  · obtain ⟨hsound, hadv⟩ := (h.raiseSlot (h.blocks_readable b hb).1).dropBlocks hreach
    exact ⟨hsound, (advances_raiseSlot v b.slot).trans hadv⟩

theorem Sound.pruneAttestations (h : v.Sound)
    (hr : v.pruneAttestations keep = .ok (removed, v')) : v'.Sound ∧ v.Advances v' := by
  rcases h.pruneAttestations_cases hr with rfl | ⟨cutoff, u, hreach, rfl | ⟨a, ha, rfl⟩, rfl⟩
  · exact ⟨h, .refl _⟩
  · exact h.dropVotes hreach
  · obtain ⟨hs, ht, _⟩ := h.votes_readable a ha
    obtain ⟨hsound, hadv⟩ :=
      (h.raiseEpochs hs ht (h.votes_free.forward a ha)).dropVotes hreach
    exact ⟨hsound, (advances_raiseEpochs v a.source a.target).trans hadv⟩

/-- Pruning removes old blocks first, then old votes. -/
theorem prune_steps {c : PruningConfig} {counts : Nat × Nat} (hr : v.prune c = .ok (counts, v')) :
    ∃ m n u, v.pruneBlocks c.slotsToKeep = .ok (m, u) ∧
      u.pruneAttestations c.epochsToKeep.toNat = .ok (n, v') := by
  obtain ⟨⟨m, u⟩, hu, hr⟩ := bind_eq_ok.mp hr
  obtain ⟨⟨n, w⟩, hw, hr⟩ := bind_eq_ok.mp hr
  obtain ⟨_, rfl⟩ := Prod.mk.inj (pure_eq_ok.mp hr)
  exact ⟨m, n, u, hu, hw⟩

/-- Pruning keeps a validator sound and only moves it forward. -/
theorem Sound.prune {c : PruningConfig} {counts : Nat × Nat} (h : v.Sound)
    (hr : v.prune c = .ok (counts, v')) : v'.Sound ∧ v.Advances v' := by
  obtain ⟨m, n, u, hu, hw⟩ := prune_steps hr
  obtain ⟨hsu, hadvu⟩ := h.pruneBlocks hu
  obtain ⟨hsw, hadvw⟩ := hsu.pruneAttestations hw
  exact ⟨hsw, hadvu.trans hadvw⟩

end Validator

end RemoteSigner
