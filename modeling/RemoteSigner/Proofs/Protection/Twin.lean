import RemoteSigner.Proofs.Protection.Importing
import RemoteSigner.Proofs.Protection.Newest
import RemoteSigner.Proofs.Protection.Pruning

/-!
# Validators that no check tells apart

A message within the watermark is after every record or at the newest one, so of
all records only the newest can decide about it. `Twin`s have the same watermark
and the same newest records, whatever else is on record:

* `Twin.signBlock`, `Twin.signAttestation` — checks of twins answer alike and
  leave twins;
* `Twin.importTo` — so do imports, though one twin may write a listed record
  that the other passes over;
* `Sound.prune_twin` — pruning leaves a twin.
-/

namespace RemoteSigner

namespace Validator

variable {v v' : Validator} {high : HighWatermark}

/-- The same watermark and the same newest records. -/
structure Twin (v v' : Validator) : Prop where
  key_eq : v.key = v'.key
  enabled_eq : v.enabled = v'.enabled
  slotMark_eq : v.slotMark = v'.slotMark
  sourceMark_eq : v.sourceMark = v'.sourceMark
  targetMark_eq : v.targetMark = v'.targetMark
  blocks : SameNewest (·.slot) v.blocks v'.blocks
  votes : SameNewest (·.target) v.attestations v'.attestations

/-- The same answer, with twins after it. -/
def TwinAfter {α : Type} (r r' : α × Validator) : Prop :=
  r.1 = r'.1 ∧ r.2.Twin r'.2

namespace Twin

theorem refl (v : Validator) : v.Twin v :=
  ⟨rfl, rfl, rfl, rfl, rfl, .refl _ _, .refl _ _⟩

theorem symm (h : v.Twin v') : v'.Twin v :=
  ⟨h.key_eq.symm, h.enabled_eq.symm, h.slotMark_eq.symm, h.sourceMark_eq.symm,
    h.targetMark_eq.symm, h.blocks.symm, h.votes.symm⟩

theorem trans {u : Validator} (h : u.Twin v) (h' : v.Twin v') : u.Twin v' :=
  ⟨h.key_eq.trans h'.key_eq, h.enabled_eq.trans h'.enabled_eq,
    h.slotMark_eq.trans h'.slotMark_eq, h.sourceMark_eq.trans h'.sourceMark_eq,
    h.targetMark_eq.trans h'.targetMark_eq, h.blocks.trans h'.blocks, h.votes.trans h'.votes⟩

/-! ## Changes that keep twins -/

theorem raiseSlot (h : v.Twin v') (m : Int) : (v.raiseSlot m).Twin (v'.raiseSlot m) where
  key_eq := h.key_eq
  enabled_eq := h.enabled_eq
  slotMark_eq := by rw [slotMark_raiseSlot, slotMark_raiseSlot, h.slotMark_eq]
  sourceMark_eq := by rw [sourceMark_raiseSlot, sourceMark_raiseSlot, h.sourceMark_eq]
  targetMark_eq := by rw [targetMark_raiseSlot, targetMark_raiseSlot, h.targetMark_eq]
  blocks := h.blocks
  votes := h.votes

theorem raiseEpochs (h : v.Twin v') (s t : Int) :
    (v.raiseEpochs s t).Twin (v'.raiseEpochs s t) where
  key_eq := h.key_eq
  enabled_eq := h.enabled_eq
  slotMark_eq := by rw [slotMark_raiseEpochs, slotMark_raiseEpochs, h.slotMark_eq]
  sourceMark_eq := by rw [sourceMark_raiseEpochs, sourceMark_raiseEpochs, h.sourceMark_eq]
  targetMark_eq := by rw [targetMark_raiseEpochs, targetMark_raiseEpochs, h.targetMark_eq]
  blocks := h.blocks
  votes := h.votes

theorem withBlocks (h : v.Twin v') {bs bs' : List StoredBlock}
    (hbs : SameNewest (·.slot) bs bs') :
    ({ v with blocks := bs } : Validator).Twin { v' with blocks := bs' } :=
  ⟨h.key_eq, h.enabled_eq, h.slotMark_eq, h.sourceMark_eq, h.targetMark_eq, hbs, h.votes⟩

theorem withVotes (h : v.Twin v') {as as' : List StoredAttestation}
    (has : SameNewest (·.target) as as') :
    ({ v with attestations := as } : Validator).Twin { v' with attestations := as' } :=
  ⟨h.key_eq, h.enabled_eq, h.slotMark_eq, h.sourceMark_eq, h.targetMark_eq, h.blocks, has⟩

theorem withEnabled (h : v.Twin v') (enabled : Bool) :
    ({ v with enabled := enabled } : Validator).Twin { v' with enabled := enabled } :=
  ⟨h.key_eq, rfl, h.slotMark_eq, h.sourceMark_eq, h.targetMark_eq, h.blocks, h.votes⟩

/-! ## Checks -/

theorem lowWatermark_eq (h : v.Twin v') (hv : v.Sound) (hv' : v'.Sound) :
    v.lowWatermark = v'.lowWatermark := by
  rw [hv.lowWatermark_eq, hv'.lowWatermark_eq, h.slotMark_eq, h.sourceMark_eq, h.targetMark_eq]

end Twin

theorem Sound.slotMark_le (h : v.Sound) {watermark : Watermark}
    (hw : v.lowWatermark = .ok watermark) {n : UInt64} {i : Int} (hn : Stored.ofUInt64 n = .ok i)
    (hlow : ∀ low ∈ watermark.slot, low ≤ n) : ∀ w ∈ v.slotMark, w ≤ i := by
  rw [h.lowWatermark_eq] at hw
  obtain rfl := Except.ok.inj hw
  exact mark_le_of_read_le h.slotMark_inRange hn hlow

theorem Sound.sourceMark_le (h : v.Sound) {watermark : Watermark}
    (hw : v.lowWatermark = .ok watermark) {n : UInt64} {i : Int} (hn : Stored.ofUInt64 n = .ok i)
    (hlow : ∀ low ∈ watermark.source, low ≤ n) : ∀ w ∈ v.sourceMark, w ≤ i := by
  rw [h.lowWatermark_eq] at hw
  obtain rfl := Except.ok.inj hw
  exact mark_le_of_read_le h.sourceMark_inRange hn hlow

theorem Sound.targetMark_le (h : v.Sound) {watermark : Watermark}
    (hw : v.lowWatermark = .ok watermark) {n : UInt64} {i : Int} (hn : Stored.ofUInt64 n = .ok i)
    (hlow : ∀ low ∈ watermark.target, low ≤ n) : ∀ w ∈ v.targetMark, w ≤ i := by
  rw [h.lowWatermark_eq] at hw
  obtain rfl := Except.ok.inj hw
  exact mark_le_of_read_le h.targetMark_inRange hn hlow

/-- No block is on record above a slot that the watermark does not exceed. -/
theorem Sound.slot_le (h : v.Sound) {slot : Int} (hlow : ∀ w ∈ v.slotMark, w ≤ slot) :
    ∀ b ∈ v.blocks, b.slot ≤ slot := by
  intro b hb
  obtain ⟨w, hw, hle⟩ := h.blocks_marked b hb
  exact Int.le_trans hle (hlow w hw)

theorem Sound.source_le (h : v.Sound) {source : Int} (hlow : ∀ w ∈ v.sourceMark, w ≤ source) :
    ∀ a ∈ v.attestations, a.source ≤ source := by
  intro a ha
  obtain ⟨⟨w, hw, hle⟩, _⟩ := h.votes_marked a ha
  exact Int.le_trans hle (hlow w hw)

theorem Sound.target_le (h : v.Sound) {target : Int} (hlow : ∀ w ∈ v.targetMark, w ≤ target) :
    ∀ a ∈ v.attestations, a.target ≤ target := by
  intro a ha
  obtain ⟨_, w, hw, hle⟩ := h.votes_marked a ha
  exact Int.le_trans hle (hlow w hw)

/-- A block that is accepted as new comes after every block on record. -/
theorem Sound.block_new_above (h : v.Sound) {watermark : Watermark} {request : BlockRequest}
    {slot : Int} {existing : Option SignedBlock} (hw : v.lowWatermark = .ok watermark)
    (hslot : Stored.ofUInt64 request.slot = .ok slot) (hfound : v.findBlock slot = .ok existing)
    (hdec : Decision.block watermark high existing request = .accept true) :
    ∀ b ∈ v.blocks, b.slot < slot := by
  obtain ⟨hlow, _, hnew⟩ := Decision.block_eq_accept.mp hdec
  obtain rfl : existing = none := by simpa using hnew
  have hle := h.slot_le (h.slotMark_le hw hslot hlow)
  have hfree := findBlock_none hfound
  exact fun b hb => Int.lt_iff_le_and_ne.mpr ⟨hle b hb, hfree b hb⟩

/-- The target of a vote that is accepted as new comes after every target on record. -/
theorem Sound.vote_new_above (h : v.Sound) {watermark : Watermark} {request : AttestationRequest}
    {source target : Int} {history : List SignedAttestation}
    (hw : v.lowWatermark = .ok watermark) (hsource : Stored.ofUInt64 request.source = .ok source)
    (htarget : Stored.ofUInt64 request.target = .ok target)
    (hfound : v.findConflicts source target = .ok history)
    (hdec : Decision.attestation watermark high history request = .accept true) :
    ∀ a ∈ v.attestations, a.target < target := by
  obtain ⟨hlow, hnone⟩ := Decision.attestation_new hdec
  have hle := h.target_le (h.targetMark_le hw htarget hlow)
  have hfree := h.free_of_conflict?_none hsource htarget hfound hnone
  exact fun a ha =>
    Int.lt_iff_le_and_ne.mpr ⟨hle a ha, target_ne_of_not_conflicts (hfree a ha)⟩

/-- A vote within the watermark conflicts with the record of its target alone. -/
theorem Sound.conflicting_eq (h : v.Sound) {source target : Int}
    (hlows : ∀ w ∈ v.sourceMark, w ≤ source) (hlowt : ∀ w ∈ v.targetMark, w ≤ target) :
    v.attestations.filter (·.conflicts source target) =
      v.attestations.filter (·.target == target) := by
  refine List.filter_congr fun a ha => ?_
  have hs := h.source_le hlows a ha
  have ht := h.target_le hlowt a ha
  rw [Bool.eq_iff_iff, conflicts_iff, beq_iff_eq]
  omega

namespace Twin

theorem findBlock_eq (h : v.Twin v') (hv : v.Sound) (hv' : v'.Sound) {slot : Int}
    (hlow : ∀ w ∈ v.slotMark, w ≤ slot) :
    v.blocks.find? (·.slot == slot) = v'.blocks.find? (·.slot == slot) :=
  h.blocks.find?_eq hv.slots_distinct hv'.slots_distinct (hv.slot_le hlow)
    (hv'.slot_le (h.slotMark_eq ▸ hlow))

theorem conflicting_eq (h : v.Twin v') (hv : v.Sound) (hv' : v'.Sound) {source target : Int}
    (hlows : ∀ w ∈ v.sourceMark, w ≤ source) (hlowt : ∀ w ∈ v.targetMark, w ≤ target) :
    v.attestations.filter (·.conflicts source target) =
      v'.attestations.filter (·.conflicts source target) := by
  have hlowt' : ∀ w ∈ v'.targetMark, w ≤ target := h.targetMark_eq ▸ hlowt
  rw [hv.conflicting_eq hlows hlowt, hv'.conflicting_eq (h.sourceMark_eq ▸ hlows) hlowt']
  exact h.votes.filter_eq hv.votes_free.targets_distinct hv'.votes_free.targets_distinct
    (hv.target_le hlowt) (hv'.target_le hlowt')

/-- A check of a block answers alike for twins, and leaves twins. -/
theorem signBlock (h : v.Twin v') (hv : v.Sound) (hv' : v'.Sound) (request : BlockRequest) :
    Agree TwinAfter (v.signBlock high request) (v'.signBlock high request) := by
  have hwatermarks := h.lowWatermark_eq hv hv'
  unfold Validator.signBlock
  rw [hwatermarks]
  refine .bind (.refl (r := Eq) fun _ _ => rfl) ?_
  rintro watermark _ hwatermark - rfl
  refine .bind (.refl (r := Eq) fun _ _ => rfl) ?_
  rintro slot _ hslot - rfl
  refine .bind (r := fun existing existing' => Decision.block watermark high existing request =
    Decision.block watermark high existing' request) ?_ ?_
  · rw [hv.findBlock_eq, hv'.findBlock_eq]
    refine .ok ?_
    -- within the watermark the records are the same, below it they do not matter
    by_cases hlow : ∀ low ∈ watermark.slot, low ≤ request.slot
    · have hmark := hv.slotMark_le (hwatermarks.trans hwatermark) hslot hlow
      rw [h.findBlock_eq hv hv' hmark]
    · exact Decision.block_of_below hlow _ _
  · intro existing existing' hfound hfound' hsame
    simp only [hsame]
    cases hdec : Decision.block watermark high existing' request with
    | reject reason => exact .ok ⟨rfl, h⟩
    | accept record =>
        cases record with
        | false => exact .ok ⟨rfl, h.raiseSlot slot⟩
        | true =>
            have habove := hv.block_new_above (hwatermarks.trans hwatermark) hslot hfound
              (hsame.trans hdec)
            have habove' := hv'.block_new_above hwatermark hslot hfound' hdec
            simp only [insertBlock_eq (b := ⟨slot, some request.root.bytes⟩)
                fun b hb => Int.ne_of_lt (habove b hb),
              insertBlock_eq (b := ⟨slot, some request.root.bytes⟩)
                fun b hb => Int.ne_of_lt (habove' b hb)]
            exact .ok ⟨rfl, (h.withBlocks (.append_above habove habove')).raiseSlot slot⟩

/-- A check of an attestation answers alike for twins, and leaves twins. -/
theorem signAttestation (h : v.Twin v') (hv : v.Sound) (hv' : v'.Sound)
    (request : AttestationRequest) :
    Agree TwinAfter (v.signAttestation high request) (v'.signAttestation high request) := by
  have hwatermarks := h.lowWatermark_eq hv hv'
  unfold Validator.signAttestation
  rw [hwatermarks]
  refine .bind (.refl (r := Eq) fun _ _ => rfl) ?_
  rintro watermark _ hwatermark - rfl
  split
  · exact .ok ⟨rfl, h⟩
  refine .bind (.refl (r := Eq) fun _ _ => rfl) ?_
  rintro source _ hsource - rfl
  refine .bind (.refl (r := Eq) fun _ _ => rfl) ?_
  rintro target _ htarget - rfl
  refine .bind (r := fun history history' =>
    Decision.attestation watermark high history request =
      Decision.attestation watermark high history' request) ?_ ?_
  · rw [hv.findConflicts_eq, hv'.findConflicts_eq]
    refine .ok ?_
    by_cases hlow : (∀ low ∈ watermark.source, low ≤ request.source) ∧
        ∀ low ∈ watermark.target, low ≤ request.target
    · have hsourceMark := hv.sourceMark_le (hwatermarks.trans hwatermark) hsource hlow.1
      have htargetMark := hv.targetMark_le (hwatermarks.trans hwatermark) htarget hlow.2
      rw [h.conflicting_eq hv hv' hsourceMark htargetMark]
    · exact Decision.attestation_of_below hlow _ _
  · intro history history' hfound hfound' hsame
    simp only [hsame]
    cases hdec : Decision.attestation watermark high history' request with
    | reject reason => exact .ok ⟨rfl, h⟩
    | accept record =>
        cases record with
        | false => exact .ok ⟨rfl, h.raiseEpochs source target⟩
        | true =>
            have habove := hv.vote_new_above (hwatermarks.trans hwatermark) hsource htarget
              hfound (hsame.trans hdec)
            have habove' := hv'.vote_new_above hwatermark hsource htarget hfound' hdec
            simp only [insertAttestation_eq (a := ⟨source, target, some request.root.bytes⟩)
                fun a ha => Int.ne_of_lt (habove a ha),
              insertAttestation_eq (a := ⟨source, target, some request.root.bytes⟩)
                fun a ha => Int.ne_of_lt (habove' a ha)]
            exact .ok ⟨rfl, (h.withVotes (.append_above habove habove')).raiseEpochs source target⟩

end Twin

/-! ## Pruning -/

theorem twin_of_slotRaised (h : v.Sound) (hr : v.SlotRaised v') : v.Twin v' := by
  rcases hr with rfl | ⟨b, hb, rfl⟩
  · exact .refl _
  · -- the watermark has reached the record already
    obtain ⟨w, hw, hle⟩ := h.blocks_marked b hb
    have hmark : v.slotMark = (v.raiseSlot b.slot).slotMark := by
      rw [slotMark_raiseSlot, Stored.raise_of_le hw hle, hw]
    exact { Twin.refl v with
      slotMark_eq := hmark
      sourceMark_eq := (sourceMark_raiseSlot v b.slot).symm
      targetMark_eq := (targetMark_raiseSlot v b.slot).symm }

theorem twin_of_epochsRaised (h : v.Sound) (hr : v.EpochsRaised v') : v.Twin v' := by
  rcases hr with rfl | ⟨a, ha, rfl⟩
  · exact .refl _
  · obtain ⟨⟨s, hs, hles⟩, t, ht, hlet⟩ := h.votes_marked a ha
    have hsource : v.sourceMark = (v.raiseEpochs a.source a.target).sourceMark := by
      rw [sourceMark_raiseEpochs, Stored.raise_of_le hs hles, hs]
    have htarget : v.targetMark = (v.raiseEpochs a.source a.target).targetMark := by
      rw [targetMark_raiseEpochs, Stored.raise_of_le ht hlet, ht]
    exact { Twin.refl v with
      slotMark_eq := (slotMark_raiseEpochs v a.source a.target).symm
      sourceMark_eq := hsource
      targetMark_eq := htarget }

theorem Sound.pruneBlocks_twin {keep removed : Nat} (h : v.Sound)
    (hr : v.pruneBlocks keep = .ok (removed, v')) : v.Twin v' := by
  rcases h.pruneBlocks_cases hr with rfl | ⟨cutoff, u, ⟨b, hb, hreach⟩, hraised, rfl⟩
  · exact .refl _
  · have hu := twin_of_slotRaised h hraised
    have hblocks : u.blocks = v.blocks := by
      rcases hraised with rfl | ⟨_, _, rfl⟩ <;> rfl
    exact hu.trans ((Twin.refl u).withBlocks (.of_filter ⟨b, hblocks ▸ hb, hreach⟩))

theorem Sound.pruneAttestations_twin {keep removed : Nat} (h : v.Sound)
    (hr : v.pruneAttestations keep = .ok (removed, v')) : v.Twin v' := by
  rcases h.pruneAttestations_cases hr with rfl | ⟨cutoff, u, ⟨a, ha, hreach⟩, hraised, rfl⟩
  · exact .refl _
  · have hu := twin_of_epochsRaised h hraised
    have hvotes : u.attestations = v.attestations := by
      rcases hraised with rfl | ⟨_, _, rfl⟩ <;> rfl
    exact hu.trans ((Twin.refl u).withVotes (.of_filter ⟨a, hvotes ▸ ha, hreach⟩))

/-- Pruning leaves a twin. -/
theorem Sound.prune_twin {c : PruningConfig} {counts : Nat × Nat} (h : v.Sound)
    (hr : v.prune c = .ok (counts, v')) : v.Twin v' := by
  obtain ⟨m, n, u, hu, hw⟩ := prune_steps hr
  exact (h.pruneBlocks_twin hu).trans ((h.pruneBlocks hu).1.pruneAttestations_twin hw)

/-! ## Conflicts with the newest vote -/

/-- Among votes free of surrounds, a later target comes with a later source. -/
theorem ConflictFree.source_le {as : List StoredAttestation} (h : ConflictFree as)
    {a b : StoredAttestation} (ha : a ∈ as) (hb : b ∈ as) (hle : a.target ≤ b.target) :
    a.source ≤ b.source := by
  by_cases heq : a.target = b.target
  · exact Int.le_of_eq (congrArg (·.source)
      (List.inj_on_of_nodup_map h.targets_distinct ha hb heq))
  · have hsurround := h.no_surround b hb a ha
    omega

/-- A vote for a target after all others conflicts with some record exactly if it
conflicts with the newest. -/
theorem ConflictFree.conflicts_newest {as : List StoredAttestation} (h : ConflictFree as)
    {source target : Int} (hlt : ∀ a ∈ as, a.target < target) :
    (∃ a ∈ as, a.conflicts source target = true) ↔
      ∃ a, Newest (·.target) as a ∧ a.conflicts source target = true := by
  constructor
  · rintro ⟨a, ha, hc⟩
    obtain ⟨n, hn⟩ := exists_newest (·.target) (List.ne_nil_of_mem ha)
    have hsource := h.source_le ha hn.1 (hn.2 a ha)
    have hafter := hlt n hn.1
    have ha' := hlt a ha
    refine ⟨n, hn, conflicts_iff.mpr (.inr (.inr ⟨?_, hafter⟩))⟩
    rcases conflicts_iff.mp hc with heq | hsurround | hsurround <;> omega
  · rintro ⟨a, ha, hc⟩
    exact ⟨a, ha.1, hc⟩

/-- A vote that is passed over beside a conflict leaves votes free of conflicts. -/
theorem ConflictFree.offered {as as' : List StoredAttestation} {a : StoredAttestation}
    (h : ConflictFree as) (ho : SameNewest.Offered (·.target) a as as')
    (hforward : a.source ≤ a.target)
    (htaken : as' = as ↔ ∃ x ∈ as, x.conflicts a.source a.target = true) : ConflictFree as' := by
  rcases ho with rfl | ⟨rfl, _⟩
  · exact h
  · refine h.concat hforward fun x hx => ?_
    have hnone := mt htaken.mpr (by simp)
    simpa using fun hc => hnone ⟨x, hx, hc⟩

end Validator

namespace History

open Validator

variable {v v' : Validator}

/-! ## Importing -/

/-- A listed block is offered to the records, and passed over if its slot is
taken. -/
theorem importBlocks_cons {l : SignedBlock} (rest : List SignedBlock) {slot : Int}
    (hread : ∀ b ∈ v.blocks, Stored.InRange b.slot ∧ Stored.RootOk b.root)
    (hslot : Stored.ofUInt64 l.slot = .ok slot) :
    ∃ bs, SameNewest.Offered (·.slot) ⟨slot, l.root.map (·.bytes)⟩ v.blocks bs ∧
      (bs = v.blocks ↔ ∃ b ∈ v.blocks, b.slot = slot) ∧
      (importBlocks (l :: rest) v).map (·.2.2) =
        (importBlocks rest { v with blocks := bs }).map (·.2.2) := by
  have hfind := findBlock_eq hread slot
  cases hf : v.blocks.find? (·.slot == slot) with
  | none =>
      have hfree : ∀ b ∈ v.blocks, b.slot ≠ slot := by
        simpa [List.find?_eq_none] using hf
      refine ⟨v.blocks ++ [⟨slot, l.root.map (·.bytes)⟩], .inr ⟨rfl, hfree⟩,
        ⟨fun h => absurd h (by simp), fun ⟨b, hb, heq⟩ => absurd heq (hfree b hb)⟩, ?_⟩
      have hinsert := insertBlock_eq (b := ⟨slot, l.root.map (·.bytes)⟩) hfree
      rw [hf] at hfind
      simp only [importBlocks, hslot, hfind, hinsert, bind, Except.bind, Option.map_none]
      cases importBlocks rest _ <;> rfl
  | some b =>
      have hb := List.mem_of_find?_eq_some hf
      have heq : b.slot = slot := by simpa using List.find?_some hf
      refine ⟨v.blocks, .inl rfl, ⟨fun _ => ⟨b, hb, heq⟩, fun _ => rfl⟩, ?_⟩
      rw [hf] at hfind
      simp only [importBlocks, hslot, hfind, bind, Except.bind, Option.map_some]
      cases importBlocks rest v <;> rfl

/-- A listed vote is offered to the records, and passed over if it conflicts with
one. -/
theorem importAttestations_cons (key : SignerId) (index : Nat) {l : SignedAttestation}
    (rest : List SignedAttestation) {source target : Int}
    (hread : ∀ a ∈ v.attestations,
      Stored.InRange a.source ∧ Stored.InRange a.target ∧ Stored.RootOk a.root)
    (hforward : ¬ l.target < l.source) (hsource : Stored.ofUInt64 l.source = .ok source)
    (htarget : Stored.ofUInt64 l.target = .ok target) :
    ∃ as, SameNewest.Offered (·.target) ⟨source, target, l.root.map (·.bytes)⟩ v.attestations as ∧
      (as = v.attestations ↔ ∃ a ∈ v.attestations, a.conflicts source target = true) ∧
      (importAttestations key index (l :: rest) v).map (·.2.2) =
        (importAttestations key (index + 1) rest { v with attestations := as }).map (·.2.2) := by
  have hfound := findConflicts_eq hread source target
  have hnil := findConflicts_nil_iff hfound
  generalize List.map StoredAttestation.record _ = found at hfound hnil
  cases found with
  | nil =>
      have hfree := hnil.mp rfl
      have hnew : ∀ a ∈ v.attestations, a.target ≠ target := fun a ha =>
        target_ne_of_not_conflicts (hfree a ha)
      refine ⟨v.attestations ++ [⟨source, target, l.root.map (·.bytes)⟩], .inr ⟨rfl, hnew⟩,
        ⟨fun h => absurd h (by simp), fun ⟨a, ha, hc⟩ => absurd hc (by simp [hfree a ha])⟩, ?_⟩
      have hinsert := insertAttestation_eq (a := ⟨source, target, l.root.map (·.bytes)⟩) hnew
      simp only [importAttestations, if_neg hforward, hsource, htarget, hfound, hinsert, bind,
        Except.bind]
      cases importAttestations key (index + 1) rest _ <;> rfl
  | cons c cs =>
      have hmet : ∃ a ∈ v.attestations, a.conflicts source target = true := by
        have hnot := mt hnil.mpr (by simp)
        simpa using hnot
      refine ⟨v.attestations, .inl rfl, ⟨fun _ => hmet, fun _ => rfl⟩, ?_⟩
      simp only [importAttestations, if_neg hforward, hsource, htarget, hfound, bind, Except.bind]
      cases importAttestations key (index + 1) rest v <;> rfl

/-- Twins take in a list of blocks alike. -/
theorem importBlocks_twin {listed : List SignedBlock} (h : v.Twin v')
    (hread : ∀ b ∈ v.blocks, Stored.InRange b.slot ∧ Stored.RootOk b.root)
    (hread' : ∀ b ∈ v'.blocks, Stored.InRange b.slot ∧ Stored.RootOk b.root) :
    Agree Twin ((importBlocks listed v).map (·.2.2)) ((importBlocks listed v').map (·.2.2)) := by
  induction listed generalizing v v' with
  | nil => exact .ok h
  | cons l rest ih =>
      cases hslot : Stored.ofUInt64 l.slot with
      | error fault =>
          simp only [importBlocks, hslot, bind, Except.bind]
          exact .error fault
      | ok slot =>
          obtain ⟨bs, hoffered, htaken, hrest⟩ := importBlocks_cons rest hread hslot
          obtain ⟨bs', hoffered', htaken', hrest'⟩ := importBlocks_cons rest hread' hslot
          have hok := Stored.inRange_of_stored hslot
          have hroot := Stored.rootOk_of_root l.root
          rw [hrest, hrest']
          refine ih (h.withBlocks (h.blocks.offer hoffered hoffered' ?_)) ?_ ?_
          · intro hlt hlt'
            -- a slot after all others is free for both
            have hfree : ¬ ∃ b ∈ v.blocks, b.slot = slot := by
              rintro ⟨b, hb, heq⟩
              exact absurd heq (Int.ne_of_lt (hlt b hb))
            have hfree' : ¬ ∃ b ∈ v'.blocks, b.slot = slot := by
              rintro ⟨b, hb, heq⟩
              exact absurd heq (Int.ne_of_lt (hlt' b hb))
            rw [htaken, htaken']
            exact iff_of_false hfree hfree'
          · exact fun b hb => (hoffered.mem hb).elim (hread b) fun heq => heq ▸ ⟨hok, hroot⟩
          · exact fun b hb => (hoffered'.mem hb).elim (hread' b) fun heq => heq ▸ ⟨hok, hroot⟩

/-- Twins take in a list of votes alike. -/
theorem importAttestations_twin {key : SignerId} {index : Nat} {listed : List SignedAttestation}
    (h : v.Twin v') (hfree : ConflictFree v.attestations) (hfree' : ConflictFree v'.attestations)
    (hread : ∀ a ∈ v.attestations,
      Stored.InRange a.source ∧ Stored.InRange a.target ∧ Stored.RootOk a.root)
    (hread' : ∀ a ∈ v'.attestations,
      Stored.InRange a.source ∧ Stored.InRange a.target ∧ Stored.RootOk a.root) :
    Agree Twin ((importAttestations key index listed v).map (·.2.2))
      ((importAttestations key index listed v').map (·.2.2)) := by
  induction listed generalizing v v' index with
  | nil => exact .ok h
  | cons l rest ih =>
      by_cases hback : l.target < l.source
      · simp only [importAttestations, if_pos hback]
        exact .error _
      cases hsource : Stored.ofUInt64 l.source with
      | error fault =>
          simp only [importAttestations, if_neg hback, hsource, bind, Except.bind]
          exact .error fault
      | ok source =>
          cases htarget : Stored.ofUInt64 l.target with
          | error fault =>
              simp only [importAttestations, if_neg hback, hsource, htarget, bind, Except.bind]
              exact .error fault
          | ok target =>
              obtain ⟨as, hoffered, htaken, hrest⟩ := importAttestations_cons key index
                rest hread hback hsource htarget
              obtain ⟨as', hoffered', htaken', hrest'⟩ := importAttestations_cons key index
                rest hread' hback hsource htarget
              have hok : Stored.InRange source ∧ Stored.InRange target ∧
                  Stored.RootOk (l.root.map (·.bytes)) :=
                ⟨Stored.inRange_of_stored hsource, Stored.inRange_of_stored htarget,
                  Stored.rootOk_of_root l.root⟩
              have hforward : source ≤ target :=
                (Stored.stored_le hsource htarget).mpr (UInt64.not_lt.mp hback)
              rw [hrest, hrest']
              refine ih (h.withVotes (h.votes.offer hoffered hoffered' ?_))
                (hfree.offered hoffered hforward htaken) (hfree'.offered hoffered' hforward htaken')
                ?_ ?_
              · intro hlt hlt'
                -- after all others only the newest vote counts, and both have the same
                rw [htaken, htaken', hfree.conflicts_newest hlt, hfree'.conflicts_newest hlt']
                simp only [h.votes _]
              · exact fun a ha => (hoffered.mem ha).elim (hread a) fun heq => heq ▸ hok
              · exact fun a ha => (hoffered'.mem ha).elim (hread' a) fun heq => heq ▸ hok

theorem raiseSlot_twin {h : History} (ht : v.Twin v') :
    Agree Twin (h.raiseSlot v) (h.raiseSlot v') := by
  unfold raiseSlot
  cases maximum? (h.blocks.map (·.slot)) with
  | none => exact .ok ht
  | some top =>
      refine .bind (.refl (r := Eq) fun _ _ => rfl) ?_
      rintro m _ - - rfl
      exact .ok (ht.raiseSlot m)

theorem raiseEpochs_twin {h : History} (ht : v.Twin v') :
    Agree Twin (h.raiseEpochs v) (h.raiseEpochs v') := by
  unfold raiseEpochs
  cases maximum? (h.attestations.map (·.source)) with
  | none => exact .ok ht
  | some source =>
      cases maximum? (h.attestations.map (·.target)) with
      | none => exact .ok ht
      | some target =>
          refine .bind (.refl (r := Eq) fun _ _ => rfl) ?_
          rintro s _ - - rfl
          refine .bind (.refl (r := Eq) fun _ _ => rfl) ?_
          rintro t _ - - rfl
          exact .ok (ht.raiseEpochs s t)

/-- Twins take in a history alike, and stay twins. -/
theorem importTo_twin {h : History} (ht : v.Twin v') (hv : v.Sound) (hv' : v'.Sound) :
    Agree (fun r r' => r.2.Twin r'.2) (h.importTo v) (h.importTo v') := by
  refine .bind (.of_map (importBlocks_twin ht hv.blocks_readable hv'.blocks_readable)) ?_
  rintro ⟨m, n, u⟩ ⟨m', n', u'⟩ hu hu' htu
  refine .bind (raiseSlot_twin htu) ?_
  rintro w w' hw hw' htw
  obtain ⟨hsound, _⟩ := blocks_step hv hu hw
  obtain ⟨hsound', _⟩ := blocks_step hv' hu' hw'
  refine .bind (.of_map (importAttestations_twin htw hsound.votes_free hsound'.votes_free
    hsound.votes_readable hsound'.votes_readable)) ?_
  rintro ⟨i, j, x⟩ ⟨i', j', x'⟩ - - htx
  refine .bind (raiseEpochs_twin htx) ?_
  rintro y y' - - hty
  exact .ok hty

end History

end RemoteSigner
