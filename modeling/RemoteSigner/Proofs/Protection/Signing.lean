import RemoteSigner.Proofs.Protection.Decision
import RemoteSigner.Proofs.Protection.Validator

/-!
# What a check does to a validator

On a row that can be read a check is a matter of the rules alone.
`Readable.signBlock_cases` and `Readable.signAttestation_cases` say all that it
can do: a refusal leaves the validator as it was; an acceptance
respects the watermark, adds the record that was missing, and raises the
watermark to the message.
-/

namespace RemoteSigner

/-- The record that a stored one stands for. -/
def StoredBlock.record (b : StoredBlock) : SignedBlock :=
  ⟨Stored.read b.slot, Stored.readRoot b.root⟩

/-- The record that a stored one stands for. -/
def StoredAttestation.record (a : StoredAttestation) : SignedAttestation :=
  ⟨Stored.read a.source, Stored.read a.target, Stored.readRoot a.root⟩

theorem StoredBlock.toRecord_eq {b : StoredBlock} (hs : Stored.InRange b.slot)
    (hr : Stored.RootOk b.root) : b.toRecord = .ok b.record := by
  simp only [toRecord, Stored.toUInt64_eq hs, Stored.toRoot?_eq hr]
  rfl

theorem StoredAttestation.toRecord_eq {a : StoredAttestation} (hs : Stored.InRange a.source)
    (ht : Stored.InRange a.target) (hr : Stored.RootOk a.root) : a.toRecord = .ok a.record := by
  simp only [toRecord, Stored.toUInt64_eq hs, Stored.toUInt64_eq ht, Stored.toRoot?_eq hr]
  rfl

namespace Validator

variable {v v' : Validator} {high : HighWatermark}

theorem Readable.lowWatermark_eq (h : v.Readable) :
    v.lowWatermark = .ok
      ⟨v.slotMark.map Stored.read, v.sourceMark.map Stored.read, v.targetMark.map Stored.read⟩ := by
  have hslot := Stored.toUInt64?_eq h.slotMark_inRange
  have hsource := Stored.toUInt64?_eq h.sourceMark_inRange
  have htarget := Stored.toUInt64?_eq h.targetMark_inRange
  unfold lowWatermark
  unfold slotMark at hslot
  unfold sourceMark at hsource
  unfold targetMark at htarget
  cases hw : v.watermark with
  | none => simp [slotMark, sourceMark, targetMark, hw]
  | some w =>
      simp only [hw, Option.bind_some] at hslot hsource htarget
      simp only [hslot, hsource, htarget, slotMark, sourceMark, targetMark, hw, Option.bind_some]
      rfl

theorem findBlock_eq (h : ∀ b ∈ v.blocks, Stored.InRange b.slot ∧ Stored.RootOk b.root)
    (slot : Int) :
    v.findBlock slot = .ok ((v.blocks.find? (·.slot == slot)).map StoredBlock.record) := by
  unfold findBlock
  cases hb : v.blocks.find? (·.slot == slot) with
  | none => rfl
  | some b =>
      obtain ⟨hs, hr⟩ := h b (List.mem_of_find?_eq_some hb)
      simp only [StoredBlock.toRecord_eq hs hr]
      rfl

theorem findConflicts_eq
    (h : ∀ a ∈ v.attestations,
      Stored.InRange a.source ∧ Stored.InRange a.target ∧ Stored.RootOk a.root)
    (source target : Int) :
    v.findConflicts source target = .ok
      (((v.attestations.filter (·.conflicts source target)).mergeSort
        fun a b => a.source ≤ b.source).map StoredAttestation.record) := by
  refine mapM_eq_ok fun a ha => ?_
  obtain ⟨hs, ht, hr⟩ := h a (List.mem_filter.mp (List.mem_mergeSort.mp ha)).1
  exact StoredAttestation.toRecord_eq hs ht hr

theorem Readable.findBlock_eq (h : v.Readable) (slot : Int) :
    v.findBlock slot = .ok ((v.blocks.find? (·.slot == slot)).map StoredBlock.record) :=
  Validator.findBlock_eq h.blocks_readable slot

theorem Readable.findConflicts_eq (h : v.Readable) (source target : Int) :
    v.findConflicts source target = .ok
      (((v.attestations.filter (·.conflicts source target)).mergeSort
        fun a b => a.source ≤ b.source).map StoredAttestation.record) :=
  Validator.findConflicts_eq h.votes_readable source target

/-- No part of the watermark is above the request, in stored numbers. -/
theorem mark_le_of_read_le {mark : Option Int} {n : UInt64} {i : Int}
    (hmark : ∀ w ∈ mark, Stored.InRange w) (hn : Stored.ofUInt64 n = .ok i)
    (hle : ∀ low ∈ mark.map Stored.read, low ≤ n) : ∀ w ∈ mark, w ≤ i := by
  intro w hw
  have hread : Stored.read w ≤ n := hle _ (Option.mem_map_of_mem _ hw)
  have hnot : ¬ i < w := fun hlt =>
    UInt64.not_lt.mpr hread ((Stored.lt_read_iff hn (hmark w hw)).mpr hlt)
  omega

theorem read_le_of_mark_le {mark : Option Int} {n : UInt64} {i : Int}
    (hmark : ∀ w ∈ mark, Stored.InRange w) (hn : Stored.ofUInt64 n = .ok i)
    (hle : ∀ w ∈ mark, w ≤ i) : ∀ low ∈ mark.map Stored.read, low ≤ n := by
  intro low hlow
  obtain ⟨w, hw, rfl⟩ := Option.map_eq_some_iff.mp hlow
  have hnot : ¬ n < Stored.read w := fun hlt =>
    Int.not_lt.mpr (hle w hw) ((Stored.lt_read_iff hn (hmark w hw)).mp hlt)
  exact UInt64.not_lt.mp hnot

theorem insertBlock_eq {b : StoredBlock} (h : ∀ x ∈ v.blocks, x.slot ≠ b.slot) :
    v.insertBlock b = .ok { v with blocks := v.blocks ++ [b] } := by
  have hany : ¬ v.blocks.any (·.slot == b.slot) = true := by
    simpa using h
  rw [insertBlock, if_neg hany]

theorem insertAttestation_eq {a : StoredAttestation}
    (h : ∀ x ∈ v.attestations, x.target ≠ a.target) :
    v.insertAttestation a = .ok { v with attestations := v.attestations ++ [a] } := by
  have hany : ¬ v.attestations.any (·.target == a.target) = true := by
    simpa using h
  rw [insertAttestation, if_neg hany]

/-- All that a check of a block can do. -/
theorem Readable.signBlock_cases (h : v.Readable) {request : BlockRequest} {d : Decision}
    (hr : v.signBlock high request = .ok (d, v')) :
    (∃ reason, d = .reject reason) ∧ v' = v ∨
    ∃ slot, Stored.ofUInt64 request.slot = .ok slot ∧
      (∀ w ∈ v.slotMark, w ≤ slot) ∧ (∀ top ∈ high.slot, request.slot < top) ∧
      (d = .accept false ∧ (⟨slot, some request.root.bytes⟩ : StoredBlock) ∈ v.blocks ∧
          v' = v.raiseSlot slot ∨
        d = .accept true ∧ (∀ b ∈ v.blocks, b.slot ≠ slot) ∧
          v' = { v with
            blocks := v.blocks ++ [(⟨slot, some request.root.bytes⟩ : StoredBlock)] }.raiseSlot
              slot) := by
  simp only [signBlock, h.lowWatermark_eq, h.findBlock_eq, bind_eq_ok, Except.ok.injEq,
    exists_eq_left'] at hr
  obtain ⟨slot, hslot, hr⟩ := hr
  generalize hdec : Decision.block _ _ _ _ = decision at hr
  cases decision with
  | reject reason =>
      obtain ⟨rfl, rfl⟩ := Prod.mk.inj (pure_eq_ok.mp hr)
      exact .inl ⟨⟨reason, rfl⟩, rfl⟩
  | accept record =>
      obtain ⟨hlow, hhigh, hrecord⟩ := Decision.block_eq_accept.mp hdec
      refine .inr ⟨slot, hslot, mark_le_of_read_le h.slotMark_inRange hslot hlow, hhigh, ?_⟩
      rcases hrecord with ⟨hnone, rfl⟩ | ⟨⟨r, hfound, hroot⟩, rfl⟩
      · have hfree : ∀ b ∈ v.blocks, b.slot ≠ slot := by
          simpa [List.find?_eq_none] using hnone
        have hnew := insertBlock_eq (b := ⟨slot, some request.root.bytes⟩) hfree
        simp only [hnew] at hr
        obtain ⟨rfl, rfl⟩ := Prod.mk.inj (Except.ok.inj hr)
        exact .inr ⟨rfl, hfree, rfl⟩
      · obtain ⟨b, hb, rfl⟩ := Option.map_eq_some_iff.mp hfound
        have hbs : b.slot = slot := by simpa using List.find?_some hb
        have hbr : b.root = some request.root.bytes := Stored.readRoot_eq_some.mp hroot
        have hmem := List.mem_of_find?_eq_some hb
        obtain ⟨rfl, rfl⟩ := Prod.mk.inj (pure_eq_ok.mp hr)
        refine .inl ⟨rfl, ?_, rfl⟩
        rwa [← hbs, ← hbr]

/-! ## Attestations -/

section Stored

variable {request : AttestationRequest} {source target : Int} {a : StoredAttestation}

/-- The rules see a conflict exactly where the store does. -/
theorem Readable.conflict?_record (h : v.Readable) (ha : a ∈ v.attestations)
    (hs : Stored.ofUInt64 request.source = .ok source)
    (ht : Stored.ofUInt64 request.target = .ok target) :
    Decision.conflict? request a.record = none ↔ a.conflicts source target = false := by
  obtain ⟨has, hat, _⟩ := h.votes_readable a ha
  rw [← Bool.not_eq_true, conflicts_iff, Decision.conflict?_eq_none]
  simp only [StoredAttestation.record, Stored.read_lt_iff hs has, Stored.lt_read_iff hs has,
    Stored.read_lt_iff ht hat, Stored.lt_read_iff ht hat, ne_eq, Stored.read_eq_iff ht hat]
  simp only [not_or]

theorem Readable.isSame_record (h : v.Readable) (ha : a ∈ v.attestations)
    (hs : Stored.ofUInt64 request.source = .ok source)
    (ht : Stored.ofUInt64 request.target = .ok target) :
    Decision.isSame request a.record = true ↔ a = ⟨source, target, some request.root.bytes⟩ := by
  obtain ⟨has, hat, _⟩ := h.votes_readable a ha
  rw [Decision.isSame_iff]
  simp only [StoredAttestation.record, Stored.read_eq_iff hs has, Stored.read_eq_iff ht hat,
    Stored.readRoot_eq_some]
  cases a
  simp

end Stored

/-- Where no record that was looked up is a reason against a vote, none
conflicts with it. -/
theorem Readable.free_of_conflict?_none (h : v.Readable) {request : AttestationRequest}
    {source target : Int} (hs : Stored.ofUInt64 request.source = .ok source)
    (ht : Stored.ofUInt64 request.target = .ok target) {history : List SignedAttestation}
    (hfound : v.findConflicts source target = .ok history)
    (hnone : ∀ r ∈ history, Decision.conflict? request r = none) :
    ∀ a ∈ v.attestations, a.conflicts source target = false := by
  rw [h.findConflicts_eq] at hfound
  obtain rfl := Except.ok.inj hfound
  intro a ha
  rw [← Bool.not_eq_true]
  intro hc
  have hmem : a ∈ (v.attestations.filter (·.conflicts source target)).mergeSort
      fun a b => a.source ≤ b.source := List.mem_mergeSort.mpr (List.mem_filter.mpr ⟨ha, hc⟩)
  have hfree := (h.conflict?_record ha hs ht).mp (hnone _ (List.mem_map_of_mem hmem))
  exact absurd (hc.symm.trans hfree) (by simp)

/-- All that a check of an attestation can do. -/
theorem Readable.signAttestation_cases (h : v.Readable) {request : AttestationRequest}
    {d : Decision} (hr : v.signAttestation high request = .ok (d, v')) :
    (∃ reason, d = .reject reason) ∧ v' = v ∨
    ∃ source target, Stored.ofUInt64 request.source = .ok source ∧
      Stored.ofUInt64 request.target = .ok target ∧ source ≤ target ∧
      (∀ w ∈ v.sourceMark, w ≤ source) ∧ (∀ w ∈ v.targetMark, w ≤ target) ∧
      (∀ top ∈ high.epoch, request.source < top ∧ request.target < top) ∧
      (d = .accept false ∧
          (⟨source, target, some request.root.bytes⟩ : StoredAttestation) ∈ v.attestations ∧
          v' = v.raiseEpochs source target ∨
        d = .accept true ∧ (∀ a ∈ v.attestations, a.conflicts source target = false) ∧
          v' = { v with
            attestations := v.attestations ++
              [(⟨source, target, some request.root.bytes⟩ : StoredAttestation)] }.raiseEpochs
                source target) := by
  simp only [signAttestation, h.lowWatermark_eq, bind_eq_ok, Except.ok.injEq,
    exists_eq_left'] at hr
  by_cases hback : request.target < request.source
  · rw [if_pos hback] at hr
    obtain ⟨rfl, rfl⟩ := Prod.mk.inj (pure_eq_ok.mp hr)
    refine .inl ⟨⟨.sourceAfterTarget request.source request.target, ?_⟩, rfl⟩
    rw [Decision.attestation, if_pos hback]
  · rw [if_neg hback] at hr
    simp only [h.findConflicts_eq, bind_eq_ok, Except.ok.injEq, exists_eq_left'] at hr
    obtain ⟨source, hsource, target, htarget, hr⟩ := hr
    generalize hdec : Decision.attestation _ _ _ _ = decision at hr
    cases decision with
    | reject reason =>
        obtain ⟨rfl, rfl⟩ := Prod.mk.inj (pure_eq_ok.mp hr)
        exact .inl ⟨⟨reason, rfl⟩, rfl⟩
    | accept record =>
        obtain ⟨hforth, hlows, hlowt, hhigh, hrecord⟩ := Decision.attestation_eq_accept.mp hdec
        refine .inr ⟨source, target, hsource, htarget,
          (Stored.stored_le hsource htarget).mpr hforth,
          mark_le_of_read_le h.sourceMark_inRange hsource hlows,
          mark_le_of_read_le h.targetMark_inRange htarget hlowt, hhigh, ?_⟩
        simp only [List.mem_map, List.mem_mergeSort, List.mem_filter] at hrecord
        rcases hrecord with ⟨⟨_, ⟨a, ⟨ha, _⟩, rfl⟩, hsame⟩, rfl⟩ | ⟨hnone, rfl⟩
        · obtain rfl := (h.isSame_record ha hsource htarget).mp hsame
          obtain ⟨rfl, rfl⟩ := Prod.mk.inj (pure_eq_ok.mp hr)
          exact .inl ⟨rfl, ha, rfl⟩
        · have hfree := h.free_of_conflict?_none hsource htarget (h.findConflicts_eq source target)
            (by simpa using fun r a ha hc hr => (hnone r ⟨a, ⟨ha, hc⟩, hr⟩).2)
          -- without conflicts the target is free, so the record goes in
          have hnew := insertAttestation_eq (v := v)
            (a := ⟨source, target, some request.root.bytes⟩)
            fun a ha => target_ne_of_not_conflicts (hfree a ha)
          simp only [hnew] at hr
          obtain ⟨rfl, rfl⟩ := Prod.mk.inj (Except.ok.inj hr)
          exact .inr ⟨rfl, hfree, rfl⟩

/-- A vote within the bounds that conflicts with nothing on record is accepted
as new. -/
theorem Readable.signAttestation_new (h : v.Readable) (high : HighWatermark)
    (request : AttestationRequest) {source target : Int}
    (hs : Stored.ofUInt64 request.source = .ok source)
    (ht : Stored.ofUInt64 request.target = .ok target) (hst : source ≤ target)
    (hlows : ∀ w ∈ v.sourceMark, w ≤ source) (hlowt : ∀ w ∈ v.targetMark, w ≤ target)
    (hhigh : ∀ top ∈ high.epoch, request.source < top ∧ request.target < top)
    (hfree : ∀ a ∈ v.attestations, a.conflicts source target = false) :
    v.signAttestation high request = .ok (.accept true,
      { v with
        attestations := v.attestations ++
          [(⟨source, target, some request.root.bytes⟩ : StoredAttestation)] }.raiseEpochs
            source target) := by
  have hforth : request.source ≤ request.target := (Stored.stored_le hs ht).mp hst
  have hempty : v.attestations.filter (·.conflicts source target) = [] := by
    simpa [List.filter_eq_nil_iff] using hfree
  have hdec : Decision.attestation
      ⟨v.slotMark.map Stored.read, v.sourceMark.map Stored.read, v.targetMark.map Stored.read⟩
      high [] request = .accept true := by
    refine Decision.attestation_eq_accept.mpr ⟨hforth,
      read_le_of_mark_le h.sourceMark_inRange hs hlows,
      read_le_of_mark_le h.targetMark_inRange ht hlowt, hhigh, .inr ⟨by simp, rfl⟩⟩
  have hnew := insertAttestation_eq (v := v) (a := ⟨source, target, some request.root.bytes⟩)
    fun a ha => target_ne_of_not_conflicts (hfree a ha)
  simp only [Validator.signAttestation, h.lowWatermark_eq, h.findConflicts_eq, hempty, hs, ht,
    List.mergeSort_nil, List.map_nil, bind, Except.bind, if_neg (UInt64.not_lt.mpr hforth), hdec,
    hnew]
  rfl

/-! ## What a check keeps and what an acceptance means -/

/-- A check keeps a validator sound and only moves it forward. -/
theorem Sound.signBlock (h : v.Sound) {request : BlockRequest} {d : Decision}
    (hr : v.signBlock high request = .ok (d, v')) : v'.Sound ∧ v.Advances v' := by
  rcases h.signBlock_cases hr with ⟨_, rfl⟩ | ⟨slot, hslot, _, _, hcase⟩
  · exact ⟨h, .refl _⟩
  · have hm := Stored.inRange_of_stored hslot
    rcases hcase with ⟨_, _, rfl⟩ | ⟨_, hfree, rfl⟩
    · exact ⟨h.raiseSlot hm, advances_raiseSlot v slot⟩
    · constructor
      · refine h.withBlocks (distinct_concat h.slots_distinct hfree) ?_ ?_ hm
        · intro b hb
          rcases List.mem_append.mp hb with hb | hb
          · exact h.blocks_readable b hb
          · obtain rfl := List.mem_singleton.mp hb
            exact ⟨hm, Stored.rootOk_of_root (some request.root)⟩
        · intro b hb
          rcases List.mem_append.mp hb with hb | hb
          · exact .inl hb
          · obtain rfl := List.mem_singleton.mp hb
            exact .inr (Int.le_refl slot)
      · exact (advances_withRecords (fun b hb => .inl (List.mem_append_left _ hb))
          fun a ha => .inl ha).trans (advances_raiseSlot _ slot)

/-- An accepted block respects the watermark, is written exactly if nothing was
on record at its slot, and closes its slot for every other block. -/
theorem Sound.signBlock_accept (h : v.Sound) {request : BlockRequest} {record : Bool}
    (hr : v.signBlock high request = .ok (.accept record, v')) :
    ∃ slot, Stored.ofUInt64 request.slot = .ok slot ∧ (∀ w ∈ v.slotMark, w ≤ slot) ∧
      (record = true → ∀ b ∈ v.blocks, b.slot ≠ slot) ∧
      (record = false → (⟨slot, some request.root.bytes⟩ : StoredBlock) ∈ v.blocks) ∧
      v'.ClosedSlot (·.root = some request.root.bytes) slot := by
  rcases h.signBlock_cases hr with ⟨⟨_, hd⟩, _⟩ | ⟨slot, hslot, hlow, _, hcase⟩
  · exact absurd hd (by simp)
  · refine ⟨slot, hslot, hlow, ?_⟩
    rcases hcase with ⟨hd, hmem, rfl⟩ | ⟨hd, hfree, rfl⟩
    · obtain rfl : record = false := by simpa using hd
      refine ⟨by simp, fun _ => hmem, _, slotMark_raiseSlot v slot, Stored.le_raise _ _, ?_⟩
      exact .inr ⟨_, hmem, rfl, rfl⟩
    · obtain rfl : record = true := by simpa using hd
      refine ⟨fun _ => hfree, by simp, _, slotMark_raiseSlot _ slot, Stored.le_raise _ _, ?_⟩
      exact .inr ⟨_, List.mem_append_right _ List.mem_cons_self, rfl, rfl⟩

/-- Votes that do not conflict with a new one stay free of double votes and
surrounds beside it. -/
theorem Sound.withVote (h : v.Sound) {a : StoredAttestation}
    (hreadable : Stored.InRange a.source ∧ Stored.InRange a.target ∧ Stored.RootOk a.root)
    (hforward : a.source ≤ a.target)
    (hfree : ∀ x ∈ v.attestations, x.conflicts a.source a.target = false) :
    ({ v with attestations := v.attestations ++ [a] }.raiseEpochs a.source a.target).Sound := by
  refine h.withVotes (h.votes_free.concat hforward hfree) ?_ ?_ hreadable.1 hreadable.2.1
    hforward
  · intro x hx
    rcases List.mem_append.mp hx with hx | hx
    · exact h.votes_readable x hx
    · obtain rfl := List.mem_singleton.mp hx
      exact hreadable
  · intro x hx
    rcases List.mem_append.mp hx with hx | hx
    · exact .inl hx
    · obtain rfl := List.mem_singleton.mp hx
      exact .inr ⟨Int.le_refl _, Int.le_refl _⟩

/-- A check keeps a validator sound and only moves it forward. -/
theorem Sound.signAttestation (h : v.Sound) {request : AttestationRequest} {d : Decision}
    (hr : v.signAttestation high request = .ok (d, v')) : v'.Sound ∧ v.Advances v' := by
  rcases h.signAttestation_cases hr with
    ⟨_, rfl⟩ | ⟨source, target, hsource, htarget, hforward, _, _, _, hcase⟩
  · exact ⟨h, .refl _⟩
  · have hs := Stored.inRange_of_stored hsource
    have ht := Stored.inRange_of_stored htarget
    rcases hcase with ⟨_, _, rfl⟩ | ⟨_, hfree, rfl⟩
    · exact ⟨h.raiseEpochs hs ht hforward, advances_raiseEpochs v source target⟩
    · exact ⟨h.withVote ⟨hs, ht, Stored.rootOk_of_root (some request.root)⟩ hforward hfree,
        (advances_withRecords (fun b hb => .inl hb)
          fun a ha => .inl (List.mem_append_left _ ha)).trans
            (advances_raiseEpochs _ source target)⟩

/-- An accepted vote respects the watermark, is written exactly if nothing on
record conflicts with it, and closes its target for every other vote. -/
theorem Sound.signAttestation_accept (h : v.Sound) {request : AttestationRequest} {record : Bool}
    (hr : v.signAttestation high request = .ok (.accept record, v')) :
    ∃ source target, Stored.ofUInt64 request.source = .ok source ∧
      Stored.ofUInt64 request.target = .ok target ∧
      (∀ w ∈ v.sourceMark, w ≤ source) ∧ (∀ w ∈ v.targetMark, w ≤ target) ∧
      (record = true → ∀ a ∈ v.attestations, a.conflicts source target = false) ∧
      (record = false →
        (⟨source, target, some request.root.bytes⟩ : StoredAttestation) ∈ v.attestations) ∧
      v'.Reached source target ∧
      v'.ClosedTarget (· = ⟨source, target, some request.root.bytes⟩) target := by
  rcases h.signAttestation_cases hr with
    ⟨⟨_, hd⟩, _⟩ | ⟨source, target, hsource, htarget, _, hlows, hlowt, _, hcase⟩
  · exact absurd hd (by simp)
  · refine ⟨source, target, hsource, htarget, hlows, hlowt, ?_⟩
    rcases hcase with ⟨hd, hmem, rfl⟩ | ⟨hd, hfree, rfl⟩
    · obtain rfl : record = false := by simpa using hd
      refine ⟨by simp, fun _ => hmem,
        ⟨⟨_, sourceMark_raiseEpochs v source target, Stored.le_raise _ _⟩,
          _, targetMark_raiseEpochs v source target, Stored.le_raise _ _⟩,
        _, targetMark_raiseEpochs v source target, Stored.le_raise _ _, ?_⟩
      exact .inr ⟨_, hmem, rfl, rfl⟩
    · obtain rfl : record = true := by simpa using hd
      refine ⟨fun _ => hfree, by simp,
        ⟨⟨_, sourceMark_raiseEpochs _ source target, Stored.le_raise _ _⟩,
          _, targetMark_raiseEpochs _ source target, Stored.le_raise _ _⟩,
        _, targetMark_raiseEpochs _ source target, Stored.le_raise _ _, ?_⟩
      exact .inr ⟨_, List.mem_append_right _ List.mem_cons_self, rfl, rfl⟩

end Validator

end RemoteSigner
