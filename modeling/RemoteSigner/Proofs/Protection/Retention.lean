import Mathlib.Data.List.Pairwise
import RemoteSigner.Proofs.Lists
import RemoteSigner.Proofs.Protection.Edits
import RemoteSigner.Proofs.Protection.Newest
import RemoteSigner.Proofs.Protection.Slashing
import RemoteSigner.Protection.Pruner

/-!
# What a pruning run leaves

On a database that can be read, whatever else it holds, a run is a function of its rows
(`Engine.prune_eq`), and the row that is left is `Validator.Pruned`: the records from a cutoff on
stay, among them the newest, and nothing else changes but that the watermark may rise.

* `Readable.pruned_pruned` — pruning again finds the same cutoff and the same oldest record, so
  it does nothing;
* `Readable.slot_above`, `Readable.vote_above` — the watermark afterwards is no lower than the
  oldest record that stays. Where votes were free of conflicts, that record vouches for every vote
  that went: none of them had a later source;
* `acceptedBlock_above`, `acceptedVote_above` — what is accepted in any run is no lower than the
  watermark was before it.

`prune_exact_protecting` puts them together. Runs of a pruner are such runs, one at a time
(`withPruner_prune`, `withPruner_pruneTwice`).
-/

namespace RemoteSigner

namespace Validator

variable {v v' : Validator} {c : PruningConfig}

/-! ## Rows as they are left -/

/-- The slot from which on blocks are kept. -/
def slotCutoff (c : PruningConfig) (v : Validator) : Nat :=
  cutoff (v.blocks.map (·.slot)) c.slotsToKeep

/-- The target from which on votes are kept. -/
def targetCutoff (c : PruningConfig) (v : Validator) : Nat :=
  cutoff (v.attestations.map (·.target)) c.epochsToKeep.toNat

/-- A validator without its old blocks. -/
def prunedBlocks (c : PruningConfig) (v : Validator) : Validator :=
  (v.raiseToBlock (v.slotCutoff c)).dropBlocks (v.slotCutoff c)

/-- A validator without its old blocks and then without its old votes. -/
def pruned (c : PruningConfig) (v : Validator) : Validator :=
  ((v.prunedBlocks c).raiseToVote (v.targetCutoff c)).dropVotes (v.targetCutoff c)

theorem SlotRaised.eq (h : v.SlotRaised v') : v' = { v with watermark := v'.watermark } := by
  rcases h with rfl | ⟨b, _, rfl⟩
  · rfl
  · rfl

theorem EpochsRaised.eq (h : v.EpochsRaised v') : v' = { v with watermark := v'.watermark } := by
  rcases h with rfl | ⟨a, _, rfl⟩
  · rfl
  · rfl

theorem SlotRaised.epochs (h : v.SlotRaised v') :
    v'.sourceMark = v.sourceMark ∧ v'.targetMark = v.targetMark := by
  rcases h with rfl | ⟨b, _, rfl⟩
  · exact ⟨rfl, rfl⟩
  · exact ⟨sourceMark_raiseSlot v b.slot, targetMark_raiseSlot v b.slot⟩

theorem EpochsRaised.slot (h : v.EpochsRaised v') : v'.slotMark = v.slotMark := by
  rcases h with rfl | ⟨a, _, rfl⟩
  · rfl
  · exact slotMark_raiseEpochs v a.source a.target

/-- The watermark rises to the oldest block that stays, where one has to. -/
theorem exists_raiseToBlock {n : Nat} (hcut : n ≠ 0) (hreach : ∃ b ∈ v.blocks, (n : Int) ≤ b.slot) :
    ∃ b ∈ v.blocks, (n : Int) ≤ b.slot ∧ v.oldestBlock n = some b ∧
      v.raiseToBlock n = v.raiseSlot b.slot := by
  obtain ⟨x, hx, hle⟩ := hreach
  have hsome : (v.oldestBlock n).isSome :=
    List.find?_isSome.mpr ⟨x, List.mem_mergeSort.mpr hx, decide_eq_true hle⟩
  obtain ⟨b, hold⟩ := Option.isSome_iff_exists.mp hsome
  obtain ⟨hb, hn⟩ := oldestBlock_spec hold
  refine ⟨b, hb, hn, hold, ?_⟩
  rw [raiseToBlock, if_neg hcut, hold, Option.elim_some]

/-- The watermark rises to the oldest vote that stays, where one has to. -/
theorem exists_raiseToVote {n : Nat} (hcut : n ≠ 0)
    (hreach : ∃ a ∈ v.attestations, (n : Int) ≤ a.target) :
    ∃ a ∈ v.attestations, (n : Int) ≤ a.target ∧ v.oldestAttestation n = some a ∧
      v.raiseToVote n = v.raiseEpochs a.source a.target := by
  obtain ⟨x, hx, hle⟩ := hreach
  have hsome : (v.oldestAttestation n).isSome :=
    List.find?_isSome.mpr ⟨x, List.mem_mergeSort.mpr hx, decide_eq_true hle⟩
  obtain ⟨a, hold⟩ := Option.isSome_iff_exists.mp hsome
  obtain ⟨ha, hn⟩ := oldestAttestation_spec hold
  refine ⟨a, ha, hn, hold, ?_⟩
  rw [raiseToVote, if_neg hcut, hold, Option.elim_some]

theorem exists_slotCutoff_le (h : v.slotCutoff c ≠ 0) :
    ∃ b ∈ v.blocks, (v.slotCutoff c : Int) ≤ b.slot := by
  obtain ⟨_, hi, hle⟩ := exists_cutoff_le h
  obtain ⟨b, hb, rfl⟩ := List.mem_map.mp hi
  exact ⟨b, hb, hle⟩

theorem exists_targetCutoff_le (h : v.targetCutoff c ≠ 0) :
    ∃ a ∈ v.attestations, (v.targetCutoff c : Int) ≤ a.target := by
  obtain ⟨_, hi, hle⟩ := exists_cutoff_le h
  obtain ⟨a, ha, rfl⟩ := List.mem_map.mp hi
  exact ⟨a, ha, hle⟩

theorem attestations_prunedBlocks (c : PruningConfig) (v : Validator) :
    (v.prunedBlocks c).attestations = v.attestations := by
  rw [prunedBlocks, dropBlocks, (slotRaised_raiseToBlock v (v.slotCutoff c)).eq]

/-- What is left of a validator, but for its watermark. -/
theorem pruned_eq (c : PruningConfig) (v : Validator) :
    v.pruned c = { v with
      watermark := (v.pruned c).watermark
      blocks := v.blocks.filter ((v.slotCutoff c : Int) ≤ ·.slot)
      attestations := v.attestations.filter ((v.targetCutoff c : Int) ≤ ·.target) } := by
  have hvotes := (epochsRaised_raiseToVote (v.prunedBlocks c) (v.targetCutoff c)).eq
  have hblocks := (slotRaised_raiseToBlock v (v.slotCutoff c)).eq
  rw [pruned, hvotes, dropVotes, prunedBlocks, dropBlocks, hblocks]

/-- Where votes are recorded in order, the watermark rises to the first that stays. -/
theorem pruned_of_ordered (h : v.attestations.Pairwise (·.target ≤ ·.target)) :
    let u := v.prunedBlocks c
    v.pruned c = (if v.targetCutoff c = 0 then u
      else (v.attestations.find? ((v.targetCutoff c : Int) ≤ ·.target)).elim u
        fun a => u.raiseEpochs a.source a.target).dropVotes (v.targetCutoff c) := by
  have hordered : (v.prunedBlocks c).attestations.Pairwise (·.target ≤ ·.target) := by
    rwa [attestations_prunedBlocks]
  simp only
  rw [pruned, raiseToVote, oldestAttestation_of_ordered hordered, attestations_prunedBlocks]

/-- The slot of the watermark rose to a block that stays. -/
theorem exists_slotMark_pruned (h : v.slotCutoff c ≠ 0) :
    ∃ b, v.oldestBlock (v.slotCutoff c) = some b ∧
      ∃ w ∈ (v.pruned c).slotMark, b.slot ≤ w := by
  obtain ⟨b, _, _, hold, hraise⟩ := exists_raiseToBlock h (exists_slotCutoff_le h)
  have hmark : (v.pruned c).slotMark = (v.raiseToBlock (v.slotCutoff c)).slotMark :=
    (epochsRaised_raiseToVote _ (v.targetCutoff c)).slot
  rw [hmark, hraise, slotMark_raiseSlot]
  exact ⟨b, hold, _, rfl, Stored.le_raise _ _⟩

/-- The epochs of the watermark rose to a vote that stays. -/
theorem exists_epochMarks_pruned (h : v.targetCutoff c ≠ 0) :
    ∃ a, v.oldestAttestation (v.targetCutoff c) = some a ∧
      (∃ w ∈ (v.pruned c).sourceMark, a.source ≤ w) ∧
      ∃ w ∈ (v.pruned c).targetMark, a.target ≤ w := by
  let u := v.prunedBlocks c
  have hvotes : u.attestations = v.attestations := attestations_prunedBlocks c v
  obtain ⟨a, _, _, hold, hraise⟩ := exists_raiseToVote h (hvotes ▸ exists_targetCutoff_le h)
  have hmarks : (v.pruned c).watermark = (u.raiseEpochs a.source a.target).watermark := by
    show (u.raiseToVote (v.targetCutoff c)).watermark = _
    rw [hraise]
  refine ⟨a, ?_, ⟨_, ?_, Stored.le_raise u.sourceMark _⟩, _, ?_, Stored.le_raise u.targetMark _⟩
  · rwa [oldestAttestation, attestationsInOrder, hvotes] at hold
  · rw [sourceMark, hmarks]
    exact sourceMark_raiseEpochs u a.source a.target
  · rw [targetMark, hmarks]
    exact targetMark_raiseEpochs u a.source a.target

/-! ## Pruning again -/

/-- Numbers below a cutoff that some number reaches may go without changing the largest. -/
theorem largest_filter {numbers : List Int} {n : Int} (h : ∃ i ∈ numbers, n ≤ i) :
    Stored.largest (numbers.filter (n ≤ ·)) = Stored.largest numbers := by
  obtain ⟨i, hi, hle⟩ := h
  have hkept : i ∈ numbers.filter (n ≤ ·) := List.mem_filter.mpr ⟨hi, decide_eq_true hle⟩
  cases hold : Stored.largest numbers with
  | none => exact absurd (Stored.largest_eq_none.mp hold) (List.ne_nil_of_mem hi)
  | some m =>
      cases hnew : Stored.largest (numbers.filter (n ≤ ·)) with
      | none => exact absurd (Stored.largest_eq_none.mp hnew) (List.ne_nil_of_mem hkept)
      | some m' =>
          obtain ⟨hm, hmax⟩ := Stored.largest_spec hold
          obtain ⟨hm', hmax'⟩ := Stored.largest_spec hnew
          have hge : n ≤ m := Int.le_trans hle (hmax i hi)
          have hle₁ := hmax m' (List.mem_filter.mp hm').1
          have hle₂ := hmax' m (List.mem_filter.mpr ⟨hm, decide_eq_true hge⟩)
          rw [Int.le_antisymm hle₁ hle₂]

theorem cutoff_filter {numbers : List Int} {keep : Nat}
    (hrange : ∀ i ∈ numbers, Stored.InRange i) :
    cutoff (numbers.filter ((cutoff numbers keep : Int) ≤ ·)) keep = cutoff numbers keep := by
  by_cases hzero : cutoff numbers keep = 0
  · have hall : numbers.filter ((cutoff numbers keep : Int) ≤ ·) = numbers := by
      rw [List.filter_eq_self, hzero]
      exact fun i hi => decide_eq_true (hrange i hi).1
    rw [hall]
  · have hsame := largest_filter (exists_cutoff_le hzero)
    rw [cutoff, hsame, ← cutoff]

section Fields

variable (c : PruningConfig) (v : Validator)

theorem blocks_pruned :
    (v.pruned c).blocks = v.blocks.filter ((v.slotCutoff c : Int) ≤ ·.slot) := by
  rw [pruned_eq]

theorem attestations_pruned : (v.pruned c).attestations =
    v.attestations.filter ((v.targetCutoff c : Int) ≤ ·.target) := by
  rw [pruned_eq]

theorem oldestBlock_pruned :
    (v.pruned c).oldestBlock (v.slotCutoff c) = v.oldestBlock (v.slotCutoff c) := by
  rw [oldestBlock, blocksInOrder, blocks_pruned]
  exact find?_mergeSort_filter StoredBlock.slot _ _

theorem oldestAttestation_pruned :
    (v.pruned c).oldestAttestation (v.targetCutoff c) =
      v.oldestAttestation (v.targetCutoff c) := by
  rw [oldestAttestation, attestationsInOrder, attestations_pruned]
  exact find?_mergeSort_filter StoredAttestation.target _ _

theorem raiseToBlock_pruned : (v.pruned c).raiseToBlock (v.slotCutoff c) = v.pruned c := by
  by_cases hcut : v.slotCutoff c = 0
  · rw [raiseToBlock, if_pos hcut]
  · obtain ⟨b, hold, hreached⟩ := exists_slotMark_pruned hcut
    rw [raiseToBlock, if_neg hcut, oldestBlock_pruned, hold, Option.elim_some,
      raiseSlot_of_reached hreached]

theorem raiseToVote_pruned : (v.pruned c).raiseToVote (v.targetCutoff c) = v.pruned c := by
  by_cases hcut : v.targetCutoff c = 0
  · rw [raiseToVote, if_pos hcut]
  · obtain ⟨a, hold, hsource, htarget⟩ := exists_epochMarks_pruned hcut
    rw [raiseToVote, if_neg hcut, oldestAttestation_pruned, hold, Option.elim_some,
      raiseEpochs_of_reached hsource htarget]

theorem dropBlocks_pruned : (v.pruned c).dropBlocks (v.slotCutoff c) = v.pruned c := by
  rw [dropBlocks, blocks_pruned, List.filter_filter]
  simp only [Bool.and_self]
  rw [← blocks_pruned]

theorem dropVotes_pruned : (v.pruned c).dropVotes (v.targetCutoff c) = v.pruned c := by
  rw [dropVotes, attestations_pruned, List.filter_filter]
  simp only [Bool.and_self]
  rw [← attestations_pruned]

end Fields

theorem Readable.slotCutoff_pruned (h : v.Readable) (c : PruningConfig) :
    (v.pruned c).slotCutoff c = v.slotCutoff c := by
  have hslots : (v.pruned c).blocks.map (·.slot) =
      (v.blocks.map (·.slot)).filter ((v.slotCutoff c : Int) ≤ ·) := by
    rw [blocks_pruned, List.filter_map]
    rfl
  rw [slotCutoff, hslots]
  exact cutoff_filter h.slots_inRange

theorem Readable.targetCutoff_pruned (h : v.Readable) (c : PruningConfig) :
    (v.pruned c).targetCutoff c = v.targetCutoff c := by
  have htargets : (v.pruned c).attestations.map (·.target) =
      (v.attestations.map (·.target)).filter ((v.targetCutoff c : Int) ≤ ·) := by
    rw [attestations_pruned, List.filter_map]
    rfl
  rw [targetCutoff, htargets]
  exact cutoff_filter h.targets_inRange

/-- Pruning again does nothing. -/
theorem Readable.pruned_pruned (h : v.Readable) (c : PruningConfig) :
    (v.pruned c).pruned c = v.pruned c := by
  have hblocks : (v.pruned c).prunedBlocks c = v.pruned c := by
    rw [prunedBlocks, h.slotCutoff_pruned, raiseToBlock_pruned, dropBlocks_pruned]
  rw [pruned, hblocks, h.targetCutoff_pruned, raiseToVote_pruned, dropVotes_pruned]

/-! ## Pruning as it is specified -/

/-- What a pruning run leaves of a validator. -/
structure Pruned (c : PruningConfig) (v v' : Validator) : Prop extends Onward v v' where
  enabled_eq : v'.enabled = v.enabled
  blocks_eq : v'.blocks = v.blocks.filter ((v.slotCutoff c : Int) ≤ ·.slot)
  votes_eq : v'.attestations = v.attestations.filter ((v.targetCutoff c : Int) ≤ ·.target)
  newest_block : SameNewest (·.slot) v.blocks v'.blocks
  newest_vote : SameNewest (·.target) v.attestations v'.attestations

theorem Readable.prune_eq (h : v.Readable) (c : PruningConfig) :
    v.prune c = .ok ((v.blocks.length - (v.pruned c).blocks.length,
      v.attestations.length - (v.pruned c).attestations.length), v.pruned c) := by
  have hblocks : v.pruneBlocks c.slotsToKeep =
      .ok (v.blocks.length - (v.pruned c).blocks.length, v.prunedBlocks c) := by
    rw [blocks_pruned]
    exact h.pruneBlocks_eq c.slotsToKeep
  have hvotes : (v.prunedBlocks c).pruneAttestations c.epochsToKeep.toNat =
      .ok (v.attestations.length - (v.pruned c).attestations.length, v.pruned c) := by
    have hrun :=
      ((edits_pruneBlocks hblocks).readable h).pruneAttestations_eq c.epochsToKeep.toNat
    have hdropped : ((v.prunedBlocks c).dropVotes (v.targetCutoff c)).attestations =
        v.attestations.filter ((v.targetCutoff c : Int) ≤ ·.target) := by
      rw [dropVotes, attestations_prunedBlocks]
    rw [attestations_prunedBlocks] at hrun
    rw [attestations_pruned, ← hdropped]
    exact hrun
  simp only [Validator.prune, hblocks, hvotes, bind, Except.bind]
  rfl

/-- Records below a cutoff may go where some record reaches it or nothing lies below it. -/
theorem sameNewest_cutoff {α : Type} {key : α → Int} {xs : List α} {n : Nat}
    (hrange : ∀ x ∈ xs, Stored.InRange (key x)) (hreach : n ≠ 0 → ∃ x ∈ xs, (n : Int) ≤ key x) :
    SameNewest key xs (xs.filter ((n : Int) ≤ key ·)) := by
  by_cases hzero : n = 0
  · rw [List.filter_eq_self.mpr fun x hx => decide_eq_true (hzero ▸ (hrange x hx).1)]
    exact .refl key xs
  · exact .of_filter (hreach hzero)

theorem pruned_fresh (c : PruningConfig) (key : SignerId) : (fresh key).pruned c = fresh key := by
  have hslots : (fresh key).slotCutoff c = 0 := Nat.zero_sub _
  have htargets : (fresh key).targetCutoff c = 0 := Nat.zero_sub _
  rw [pruned, prunedBlocks, hslots, htargets]
  rfl

/-- What is left of a validator is as specified. -/
theorem Readable.pruned_spec (h : v.Readable) (c : PruningConfig) : Pruned c v (v.pruned c) where
  toOnward := (edits_prune (h.prune_eq c)).onward
  enabled_eq := by rw [pruned_eq]
  blocks_eq := blocks_pruned c v
  votes_eq := attestations_pruned c v
  newest_block := by
    rw [blocks_pruned]
    exact sameNewest_cutoff (fun b hb => (h.blocks_readable b hb).1) exists_slotCutoff_le
  newest_vote := by
    rw [attestations_pruned]
    exact sameNewest_cutoff (fun a ha => (h.votes_readable a ha).2.1) exists_targetCutoff_le

/-! ## What went stays refused -/

/-- Votes no two of which share a target or surround each other. -/
def Apart (as : List StoredAttestation) : Prop :=
  as.Pairwise fun a b => a.conflicts b.source b.target = false

theorem conflicts_comm (a b : StoredAttestation) :
    a.conflicts b.source b.target = b.conflicts a.source a.target := by
  rw [Bool.eq_iff_iff, conflicts_iff, conflicts_iff]
  omega

theorem Apart.not_conflicts {as : List StoredAttestation} (h : Apart as) {a b : StoredAttestation}
    (ha : a ∈ as) (hb : b ∈ as) (hne : a ≠ b) : a.conflicts b.source b.target = false := by
  have : Std.Symm fun a b : StoredAttestation => a.conflicts b.source b.target = false :=
    ⟨fun a b hab => (conflicts_comm b a).trans hab⟩
  exact List.Pairwise.forall h ha hb hne

/-- The watermark passed the slot of every block that went. -/
theorem Readable.slot_above (h : v.Readable) {b : StoredBlock} (hb : b ∈ v.blocks)
    (hgone : b ∉ (v.pruned c).blocks) : ∃ w ∈ (v.pruned c).slotMark, b.slot < w := by
  have hlt : b.slot < v.slotCutoff c := by
    rw [blocks_pruned, List.mem_filter] at hgone
    simpa [hb] using hgone
  have hpos := (h.blocks_readable b hb).1.1
  obtain ⟨o, hold, w, hw, hle⟩ := exists_slotMark_pruned (v := v) (c := c) (by omega)
  have hcut := (oldestBlock_spec hold).2
  exact ⟨w, hw, by omega⟩

/-- The watermark passed the target of every vote that went. It reached its source, for the
oldest vote that stays does not surround it. -/
theorem Readable.vote_above (h : v.Readable) (hapart : Apart v.attestations)
    {a : StoredAttestation} (ha : a ∈ v.attestations) (hgone : a ∉ (v.pruned c).attestations) :
    (∃ w ∈ (v.pruned c).sourceMark, a.source ≤ w) ∧
      ∃ w ∈ (v.pruned c).targetMark, a.target < w := by
  have hlt : a.target < v.targetCutoff c := by
    rw [attestations_pruned, List.mem_filter] at hgone
    simpa [ha] using hgone
  have hpos := (h.votes_readable a ha).2.1.1
  obtain ⟨o, hold, ⟨s, hs, hles⟩, t, ht, hlet⟩ :=
    exists_epochMarks_pruned (v := v) (c := c) (by omega)
  obtain ⟨ho, hcut⟩ := oldestAttestation_spec hold
  have hfree := hapart.not_conflicts ha ho fun heq => by
    rw [heq] at hlt
    omega
  have hsource : a.source ≤ o.source := by
    rw [← Bool.not_eq_true, conflicts_iff] at hfree
    omega
  exact ⟨⟨s, hs, by omega⟩, t, ht, by omega⟩

/-- A vote that is no lower than what was reached conflicts with nothing below. -/
theorem not_conflicts_above {a : StoredAttestation} {source target : Int} (hs : a.source ≤ source)
    (ht : a.target < target) : a.conflicts source target = false := by
  rw [← Bool.not_eq_true, conflicts_iff]
  omega

end Validator

namespace Database

variable {db : Database} {c : PruningConfig}

/-! ## Runs -/

/-- A database with some of its rows pruned. -/
def prunedRows (c : PruningConfig) (keys : List SignerId) (db : Database) : Database :=
  { db with validators := db.validators.map fun v => if v.key ∈ keys then v.pruned c else v }

theorem key_pruned (c : PruningConfig) (v : Validator) : (v.pruned c).key = v.key := by
  rw [Validator.pruned_eq]

/-- One after another is all at once. -/
theorem prunedRows_cons {key : SignerId} {rest : List SignerId} (hnew : key ∉ rest) :
    (db.prunedRows c [key]).prunedRows c rest = db.prunedRows c (key :: rest) := by
  unfold prunedRows
  rw [List.map_map]
  congr 1
  refine List.map_congr_left fun v _ => ?_
  by_cases hkey : v.key = key
  · have hrest : (v.pruned c).key ∉ rest := by rwa [key_pruned, hkey]
    simp [hkey, hrest]
  · simp [hkey]

theorem prunedRows_unknown {key : SignerId} (h : db.find? key = none) :
    db.prunedRows c [key] = db := by
  unfold prunedRows
  have hsame : (db.validators.map fun v => if v.key ∈ [key] then v.pruned c else v) =
      db.validators.map id := by
    refine List.map_congr_left fun v hv => ?_
    have hne : ¬ v.key = key := by simpa using List.find?_eq_none.mp h v hv
    simp [hne]
  rw [hsame, List.map_id]

theorem prunedRows_known (h : db.KeysDistinct) {key : SignerId} {v : Validator}
    (hv : db.find? key = some v) : db.put key (v.pruned c) = db.prunedRows c [key] := by
  rw [put_eq_update hv, update, prunedRows]
  congr 1
  refine List.map_congr_left fun x hx => ?_
  by_cases hkey : x.key = key
  · have hrow : x = v := by
      have hfound := h.find?_eq hx
      rw [hkey, hv] at hfound
      exact (Option.some.inj hfound).symm
    simp [hrow, (find?_mem hv).2]
  · simp [hkey]

/-- A database all of whose rows are pruned. -/
def pruned (c : PruningConfig) (db : Database) : Database :=
  { db with validators := db.validators.map (·.pruned c) }

theorem prunedRows_keys (c : PruningConfig) (db : Database) :
    db.prunedRows c (db.validators.map (·.key)) = db.pruned c := by
  unfold prunedRows pruned
  congr 1
  exact List.map_congr_left fun v hv => if_pos (List.mem_map_of_mem hv)

theorem row_pruned (c : PruningConfig) (db : Database) (key : SignerId) :
    (db.pruned c).row key = (db.row key).pruned c := by
  have hfind : (db.pruned c).find? key = (db.find? key).map (·.pruned c) :=
    find?_map (fun v _ => key_pruned c v) key
  rw [row, row, hfind]
  cases db.find? key with
  | none => exact (Validator.pruned_fresh c key).symm
  | some v => rfl

/-- Pruning again does nothing. -/
theorem Readable.pruned_pruned (h : db.Readable) (c : PruningConfig) :
    (db.pruned c).pruned c = db.pruned c := by
  unfold pruned
  rw [List.map_map]
  congr 1
  exact List.map_congr_left fun v hv => (h.rows v hv).pruned_pruned c

theorem Readable.pruned (h : db.Readable) (c : PruningConfig) : (db.pruned c).Readable :=
  (Edit.change _ fun v hv => Validator.edits_prune ((h.rows v hv).prune_eq c)).readable h

/-- What a pruning run leaves of a database. -/
structure Pruned (c : PruningConfig) (db db' : Database) : Prop where
  version_eq : db'.version = db.version
  metadata_eq : db'.metadata = db.metadata
  keys_eq : db'.validators.map (·.key) = db.validators.map (·.key)
  rows : ∀ key, (db.row key).Pruned c (db'.row key)

theorem Readable.pruned_spec (h : db.Readable) (c : PruningConfig) : Pruned c db (db.pruned c) where
  version_eq := rfl
  metadata_eq := rfl
  keys_eq := by
    rw [Database.pruned, List.map_map]
    exact List.map_congr_left fun v _ => key_pruned c v
  rows := fun key => by
    rw [row_pruned]
    exact (h.row key).pruned_spec c

/-- Pruning one validator succeeds, and reports what went. -/
theorem pruneOne_eq (h : db.Readable) (c : PruningConfig) (key : SignerId) :
    ∃ blocks votes, pruneOne c key db = .ok ((blocks, votes), db.prunedRows c [key]) ∧
      blocks + (db.prunedRows c [key]).total (·.blocks.length) = db.total (·.blocks.length) ∧
      votes + (db.prunedRows c [key]).total (·.attestations.length) =
        db.total (·.attestations.length) := by
  unfold pruneOne
  cases hv : db.find? key with
  | none => exact ⟨0, 0, by rw [prunedRows_unknown hv], by rw [prunedRows_unknown hv, Nat.zero_add],
      by rw [prunedRows_unknown hv, Nat.zero_add]⟩
  | some v =>
      have hput := prunedRows_known (c := c) h.keys_distinct hv
      have hblocks := total_put h.keys_distinct key (·.blocks.length) rfl
        (v.pruned c)
      have hvotes := total_put h.keys_distinct key (·.attestations.length) rfl
        (v.pruned c)
      rw [hput, row_eq hv] at hblocks hvotes
      have hle : (v.pruned c).blocks.length ≤ v.blocks.length := by
        rw [Validator.blocks_pruned]
        exact List.length_filter_le _ _
      have hle' : (v.pruned c).attestations.length ≤ v.attestations.length := by
        rw [Validator.attestations_pruned]
        exact List.length_filter_le _ _
      have hrun := (h.rows v (find?_mem hv).1).prune_eq c
      simp only [hrun, bind, Except.bind]
      refine ⟨v.blocks.length - (v.pruned c).blocks.length,
        v.attestations.length - (v.pruned c).attestations.length, ?_, by omega, by omega⟩
      rw [← hput, put_eq_update hv]
      rfl

end Database

namespace Engine

open Database

variable {e : Engine} {c : PruningConfig}

theorem pruneEach_eq (h : e.database.Readable) (hfree : e.locked = false) {keys : List SignerId}
    (hkeys : keys.Nodup) (report : PruneReport) :
    let db := e.database.prunedRows c keys
    ∃ blocks votes, pruneEach c keys report e = (.ok ⟨report.validators, blocks, votes⟩,
        { e with database := db }) ∧
      blocks + db.total (·.blocks.length) =
        report.blocksDeleted + e.database.total (·.blocks.length) ∧
      votes + db.total (·.attestations.length) =
        report.attestationsDeleted + e.database.total (·.attestations.length) := by
  induction keys generalizing e report with
  | nil =>
      have hsame : e.database.prunedRows c [] = e.database := by simp [prunedRows]
      simp only [hsame]
      exact ⟨_, _, rfl, rfl, rfl⟩
  | cons key rest ih =>
      obtain ⟨hnew, hrest⟩ := List.nodup_cons.mp hkeys
      obtain ⟨m, n, hone, hm, hn⟩ := pruneOne_eq h c key
      have hreadable := (edits_pruneOne c key h.keys_distinct hone).readable h
      obtain ⟨blocks, votes, hrun, hblocks, hvotes⟩ :=
        ih (e := { e with database := e.database.prunedRows c [key] }) hreadable hfree hrest
          { report with
            blocksDeleted := report.blocksDeleted + m
            attestationsDeleted := report.attestationsDeleted + n }
      simp only [prunedRows_cons hnew] at hrun hblocks hvotes
      refine ⟨blocks, votes, ?_, by omega, by omega⟩
      simp only [pruneEach, transact_of_ok (pruneOne c key) hfree hone, hrun]

/-- A pruning run is a function of the rows, and reports what went. -/
theorem prune_eq (h : e.database.Readable) (hfree : e.locked = false) (hc : c.fault? = none) :
    ∃ blocks votes, e.prune c = (.ok ⟨e.database.validators.length, blocks, votes⟩,
        { e with database := e.database.pruned c }) ∧
      blocks + (e.database.pruned c).total (·.blocks.length) =
        e.database.total (·.blocks.length) ∧
      votes + (e.database.pruned c).total (·.attestations.length) =
        e.database.total (·.attestations.length) := by
  obtain ⟨blocks, votes, hrun, hblocks, hvotes⟩ := pruneEach_eq (c := c) h hfree h.keys_distinct
    ⟨e.database.validators.length, 0, 0⟩
  rw [prunedRows_keys] at hrun hblocks hvotes
  refine ⟨blocks, votes, ?_, hblocks.trans (Nat.zero_add _), hvotes.trans (Nat.zero_add _)⟩
  have hread := transact_of_ok readKeys hfree rfl
  simp only [prune, hc, hread, List.length_map]
  exact hrun

/-- A run over a single row. -/
theorem prune_row {v : Validator} (h : e.database.Readable) (hfree : e.locked = false)
    (hc : c.fault? = none) (hv : e.database.validators = [v]) :
    e.prune c = (.ok ⟨1, v.blocks.length - (v.pruned c).blocks.length,
        v.attestations.length - (v.pruned c).attestations.length⟩,
      { e with database := { e.database with validators := [v.pruned c] } }) := by
  obtain ⟨blocks, votes, hrun, hblocks, hvotes⟩ := prune_eq h hfree hc
  simp only [total, Database.pruned, hv, List.map_cons, List.map_nil, List.sum_cons, List.sum_nil,
    Nat.add_zero] at hblocks hvotes
  obtain rfl : blocks = v.blocks.length - (v.pruned c).blocks.length := by omega
  obtain rfl : votes = v.attestations.length - (v.pruned c).attestations.length := by omega
  rw [hrun, Database.pruned, hv]
  rfl

/-! ## Runs of a pruner -/

theorem prune_refused {fault : ProtectionError} (hc : c.fault? = some fault) :
    e.prune c = (.error fault, e) := by
  simp only [prune, hc]

/-- A pruner of its own runs as the engine prunes. -/
theorem withPruner_prune (c : PruningConfig) (e : Engine) :
    e.withPruner c Pruner.prune = ((e.prune c).1.map some, (e.prune c).2) := by
  unfold withPruner Pruner.of
  cases hc : c.fault? with
  | some fault =>
      rw [prune_refused hc]
      rfl
  | none => rfl

/-- Of two runs at once the second is passed over, and the first runs as if alone. -/
theorem withPruner_pruneTwice (c : PruningConfig) (e : Engine) :
    e.withPruner c Pruner.pruneTwice =
      ((e.prune c).1.map fun report => (some report, none), (e.prune c).2) := by
  unfold withPruner Pruner.of
  cases hc : c.fault? with
  | some fault =>
      rw [prune_refused hc]
      rfl
  | none => rfl

/-! ## Whatever is done afterwards -/

variable {key : SignerId} {root : Root}

theorem accepted_check (check : HighWatermark → Validator → Protected (Decision × Validator))
    {record : Bool} (hr : (answer .decision (e.transact (checked key root check))).1 =
      .ok (.decision (.accept record))) :
    ∃ high v, check high (e.database.row key) = .ok (.accept record, v) := by
  obtain ⟨d, db, hd, hbody, _⟩ := answer_transact_ok hr
  obtain rfl := Answer.decision.inj hd
  exact check_of_accepted hbody

/-- No block below the watermark is accepted in any run. -/
theorem acceptedBlock_above (h : e.database.Readable) {calls : List Call} {r : BlockRequest}
    (ha : AcceptedBlock (e.trace calls) key r) :
    ∀ w ∈ (e.database.row key).slotMark, w ≤ r.slot.toNat := by
  obtain ⟨root, record, hmem⟩ := ha
  obtain ⟨before, c, hx⟩ := mem_trace hmem
  obtain ⟨rfl, hans⟩ := Prod.mk.inj hx
  have hedits := after_edits h.keys_distinct before
  obtain ⟨high, v, hv⟩ := accepted_check (fun high v => v.signBlock high r) hans.symm
  rcases ((hedits.readable h).row key).signBlock_cases hv with
    ⟨⟨_, hd⟩, _⟩ | ⟨slot, hslot, hlow, _⟩
  · cases hd
  · intro w hw
    obtain ⟨w', hw', hle⟩ := (hedits.onward.rows key).slot w hw
    obtain ⟨_, rfl⟩ := Stored.ofUInt64_eq_ok.mp hslot
    exact Int.le_trans hle (hlow w' hw')

/-- No vote below the watermark is accepted in any run. -/
theorem acceptedVote_above (h : e.database.Readable) {calls : List Call} {r : AttestationRequest}
    (ha : AcceptedVote (e.trace calls) key r) :
    (∀ w ∈ (e.database.row key).sourceMark, w ≤ r.source.toNat) ∧
      ∀ w ∈ (e.database.row key).targetMark, w ≤ r.target.toNat := by
  obtain ⟨root, record, hmem⟩ := ha
  obtain ⟨before, c, hx⟩ := mem_trace hmem
  obtain ⟨rfl, hans⟩ := Prod.mk.inj hx
  have hedits := after_edits h.keys_distinct before
  obtain ⟨high, v, hv⟩ := accepted_check (fun high v => v.signAttestation high r) hans.symm
  rcases ((hedits.readable h).row key).signAttestation_cases hv with
    ⟨⟨_, hd⟩, _⟩ | ⟨source, target, hs, ht, _, hlows, hlowt, _⟩
  · cases hd
  · have honward := hedits.onward.rows key
    obtain ⟨_, rfl⟩ := Stored.ofUInt64_eq_ok.mp hs
    obtain ⟨_, rfl⟩ := Stored.ofUInt64_eq_ok.mp ht
    refine ⟨fun w hw => ?_, fun w hw => ?_⟩
    · obtain ⟨w', hw', hle⟩ := honward.source w hw
      exact Int.le_trans hle (hlows w' hw')
    · obtain ⟨w', hw', hle⟩ := honward.target w hw
      exact Int.le_trans hle (hlowt w' hw')

/-- On any database that can be read, and with any valid configuration, a pruning run removes
exactly the records below the cutoffs, keeps the newest, and changes nothing else but that it may
raise watermarks; it reports how many went, and a second run finds nothing to do. Whatever is done
afterwards, and wherever the watermarks stood before, no block is accepted at the slot of one that
went, and no vote that conflicts with one that went, if no two votes of the validator were in
conflict. -/
theorem prune_exact_protecting (h : e.database.Readable) (hfree : e.locked = false)
    (hc : c.fault? = none) :
    ∃ report e', e.prune c = (.ok report, e') ∧ e' = { e with database := e'.database } ∧
      e.database.Pruned c e'.database ∧
      report.validators = e.database.validators.length ∧
      report.blocksDeleted + e'.database.total (·.blocks.length) =
        e.database.total (·.blocks.length) ∧
      report.attestationsDeleted + e'.database.total (·.attestations.length) =
        e.database.total (·.attestations.length) ∧
      e'.prune c = (.ok ⟨e.database.validators.length, 0, 0⟩, e') ∧
      ∀ key calls,
        (∀ b ∈ (e.database.row key).blocks, b ∉ (e'.database.row key).blocks →
          ∀ r, AcceptedBlock (e'.trace calls) key r → b.slot ≠ r.slot.toNat) ∧
        (Validator.Apart (e.database.row key).attestations →
          ∀ a ∈ (e.database.row key).attestations, a ∉ (e'.database.row key).attestations →
            ∀ r, AcceptedVote (e'.trace calls) key r →
              a.conflicts r.source.toNat r.target.toNat = false) := by
  obtain ⟨blocks, votes, hrun, hblocks, hvotes⟩ := prune_eq h hfree hc
  let e' : Engine := { e with database := e.database.pruned c }
  have h' : e'.database.Readable := h.pruned c
  refine ⟨⟨e.database.validators.length, blocks, votes⟩, e', hrun, rfl, h.pruned_spec c, rfl,
    hblocks, hvotes, ?_, fun key calls => ⟨fun b hb hgone r hr => ?_,
      fun hapart a ha hgone r hr => ?_⟩⟩
  · obtain ⟨blocks', votes', hagain, hnone, hnone'⟩ := prune_eq h' hfree hc
    have hsame : e'.database.pruned c = e'.database := h.pruned_pruned c
    have hlength : e'.database.validators.length = e.database.validators.length :=
      List.length_map _
    rw [hsame] at hagain hnone hnone'
    obtain rfl : blocks' = 0 := by omega
    obtain rfl : votes' = 0 := by omega
    rw [hagain, hlength]
  · have hrow : e'.database.row key = (e.database.row key).pruned c := row_pruned c _ key
    rw [hrow] at hgone
    obtain ⟨w, hw, hlt⟩ := (h.row key).slot_above hb hgone
    have hle := acceptedBlock_above h' hr w (hrow ▸ hw)
    omega
  · have hrow : e'.database.row key = (e.database.row key).pruned c := row_pruned c _ key
    rw [hrow] at hgone
    obtain ⟨⟨s, hs, hles⟩, t, ht, hlt⟩ := (h.row key).vote_above hapart ha hgone
    obtain ⟨hsource, htarget⟩ := acceptedVote_above h' hr
    have hles' := hsource s (hrow ▸ hs)
    have hlet' := htarget t (hrow ▸ ht)
    exact Validator.not_conflicts_above (by omega) (by omega)

/-- A validator with four blocks and four votes, out of order, and little of a watermark. -/
def staleStore : Engine :=
  ⟨1, false, ⟨some 1, none, [⟨⟨List.replicate 48 1⟩, true, some ⟨none, some 1, none⟩,
    [⟨20, none⟩, ⟨3, none⟩, ⟨25, none⟩, ⟨12, none⟩],
    [⟨6, 9, none⟩, ⟨3, 5, none⟩, ⟨8, 10, none⟩, ⟨1, 2, none⟩]⟩]⟩⟩

/-- Two epochs of four slots are kept. -/
def shortRetention : PruningConfig :=
  ⟨2, 4, 0, false⟩

theorem staleStore_pruned : staleStore.database.Readable ∧ staleStore.locked = false ∧
    shortRetention.fault? = none ∧
    ∃ e', staleStore.prune shortRetention = (.ok ⟨1, 2, 2⟩, e') ∧
      e'.prune shortRetention = (.ok ⟨1, 0, 0⟩, e') ∧
      ∀ calls r, AcceptedVote (e'.trace calls) ⟨List.replicate 48 1⟩ r →
        (⟨3, 5, none⟩ : StoredAttestation).conflicts r.source.toNat r.target.toNat = false := by
  have hreadable : staleStore.database.Readable := by
    refine ⟨by unfold KeysDistinct; decide, fun v hv => ?_, by simp [staleStore]⟩
    obtain rfl := List.mem_singleton.mp hv
    constructor <;> simp [Stored.InRange, Stored.RootOk, Stored.bound, Validator.slotMark,
      Validator.sourceMark, Validator.targetMark]
  have hvalid : shortRetention.fault? = none := by decide
  obtain ⟨report, e', hrun, _, hpruned, _, _, _, hagain, hafter⟩ :=
    prune_exact_protecting hreadable rfl hvalid
  have hreport : report = ⟨1, 2, 2⟩ := by
    have hdone := prune_row hreadable rfl hvalid rfl
    rw [hrun, Validator.blocks_pruned, Validator.attestations_pruned] at hdone
    exact (Except.ok.inj (Prod.mk.inj hdone).1).trans (by decide)
  refine ⟨hreadable, rfl, hvalid, e', hreport ▸ hrun, hagain, fun calls => ?_⟩
  have hrow : staleStore.database.row ⟨List.replicate 48 1⟩ = ⟨⟨List.replicate 48 1⟩, true,
      some ⟨none, some 1, none⟩, [⟨20, none⟩, ⟨3, none⟩, ⟨25, none⟩, ⟨12, none⟩],
      [⟨6, 9, none⟩, ⟨3, 5, none⟩, ⟨8, 10, none⟩, ⟨1, 2, none⟩]⟩ := rfl
  refine (hafter ⟨List.replicate 48 1⟩ calls).2 ?_ ⟨3, 5, none⟩ ?_ ?_
  · rw [hrow]
    unfold Validator.Apart
    decide
  · rw [hrow]
    simp
  · rw [(hpruned.rows _).votes_eq, hrow]
    decide

end Engine

end RemoteSigner
