import RemoteSigner.Proofs.Protection.Faults
import RemoteSigner.Proofs.Protection.Settings

/-!
# Taking in a document twice

A document is taken in as a whole or not at all. What it may do to a row is
`Extends`: new records come after those on record, and the watermark rises. What
it leaves behind on the row of a listed validator is `Absorbed`: each listed
record finds its slot taken, or votes to conflict with, and the watermark has
reached it. Whatever is taken in later leaves it so, and a history that is
absorbed is passed over as a whole:

* `importTo_absorbed`, `Absorbed.extend`, `Absorbed.again` — for one history;
* `importHistories_merged`, `importHistories_again` — for all of a document;
* `import_atomic_idempotent` — an import on any database, and the same one again.

Nothing is asked of the columns of the database but that keys are distinct.
-/

namespace RemoteSigner

namespace Validator

variable {v v' : Validator}

/-! ## Rows that grow -/

/-- The row of a validator after history was taken in. -/
structure Extends (v v' : Validator) : Prop extends Onward v v' where
  enabled_eq : v'.enabled = v.enabled
  blocks : v.blocks <+: v'.blocks
  votes : v.attestations <+: v'.attestations
  votes_readable : ∀ a ∈ v'.attestations, a ∈ v.attestations ∨
    Stored.InRange a.source ∧ Stored.InRange a.target ∧ Stored.RootOk a.root

theorem Extends.refl (v : Validator) : v.Extends v :=
  ⟨.refl v, rfl, List.prefix_rfl, List.prefix_rfl, fun _ ha => .inl ha⟩

theorem Extends.trans {u v w : Validator} (huv : u.Extends v) (hvw : v.Extends w) :
    u.Extends w where
  toOnward := huv.toOnward.trans hvw.toOnward
  enabled_eq := hvw.enabled_eq.trans huv.enabled_eq
  blocks := huv.blocks.trans hvw.blocks
  votes := huv.votes.trans hvw.votes
  votes_readable := fun a ha => (hvw.votes_readable a ha).elim (huv.votes_readable a) .inr

theorem extends_withBlocks (v : Validator) (bs : List StoredBlock) :
    v.Extends { v with blocks := v.blocks ++ bs } :=
  ⟨⟨rfl, .refl _, .refl _, .refl _⟩, rfl, List.prefix_append _ _, List.prefix_rfl,
    fun _ ha => .inl ha⟩

theorem extends_withVotes (v : Validator) {as : List StoredAttestation}
    (has : ∀ a ∈ as, Stored.InRange a.source ∧ Stored.InRange a.target ∧ Stored.RootOk a.root) :
    v.Extends { v with attestations := v.attestations ++ as } :=
  ⟨⟨rfl, .refl _, .refl _, .refl _⟩, rfl, List.prefix_rfl, List.prefix_append _ _,
    fun a ha => (List.mem_append.mp ha).imp_right (has a)⟩

theorem extends_raiseSlot (v : Validator) (m : Int) : v.Extends (v.raiseSlot m) :=
  ⟨(advances_raiseSlot v m).onward, rfl, List.prefix_rfl, List.prefix_rfl, fun _ ha => .inl ha⟩

theorem extends_raiseEpochs (v : Validator) (s t : Int) : v.Extends (v.raiseEpochs s t) :=
  ⟨(advances_raiseEpochs v s t).onward, rfl, List.prefix_rfl, List.prefix_rfl,
    fun _ ha => .inl ha⟩

/-! ## Records that are passed over -/

/-- A listed block finds its slot taken. -/
def HeldBlock (v : Validator) (l : SignedBlock) : Prop :=
  ∃ slot r, Stored.ofUInt64 l.slot = .ok slot ∧ v.findBlock slot = .ok (some r)

theorem HeldBlock.extend {l : SignedBlock} (h : v.HeldBlock l) (hv : v.blocks <+: v'.blocks) :
    v'.HeldBlock l := by
  obtain ⟨slot, r, hslot, hfound⟩ := h
  obtain ⟨added, hadded⟩ := hv
  refine ⟨slot, r, hslot, ?_⟩
  unfold findBlock at hfound ⊢
  cases hb : v.blocks.find? (·.slot == slot) with
  | none =>
      rw [hb] at hfound
      cases hfound
  | some b =>
      rw [hb] at hfound
      rw [← hadded, List.find?_append, hb]
      exact hfound

/-- A block just written is the first at its slot. -/
theorem heldBlock_insert {l : SignedBlock} {slot : Int}
    (hslot : Stored.ofUInt64 l.slot = .ok slot) (hfree : v.findBlock slot = .ok none) :
    HeldBlock { v with blocks :=
      v.blocks ++ [(⟨slot, l.root.map (·.bytes)⟩ : StoredBlock)] } l := by
  have hnone : v.blocks.find? (·.slot == slot) = none := by
    simpa [List.find?_eq_none] using findBlock_none hfree
  have hread := StoredBlock.toRecord_eq (b := ⟨slot, l.root.map (·.bytes)⟩)
    (Stored.inRange_of_stored hslot) (Stored.rootOk_of_root l.root)
  refine ⟨slot, StoredBlock.record ⟨slot, l.root.map (·.bytes)⟩, hslot, ?_⟩
  rw [findBlock, List.find?_append, hnone, Option.none_or, List.find?_cons, beq_self_eq_true]
  exact congrArg (Except.map some) hread

/-- A listed vote finds votes it conflicts with, and they can be read. -/
def MetVote (v : Validator) (l : SignedAttestation) : Prop :=
  l.source ≤ l.target ∧ ∃ source target, Stored.ofUInt64 l.source = .ok source ∧
    Stored.ofUInt64 l.target = .ok target ∧
    (∃ a ∈ v.attestations, a.conflicts source target = true) ∧
    ∀ a ∈ v.attestations, a.conflicts source target = true → ∃ r, a.toRecord = .ok r

/-- Votes are looked up successfully exactly if those that conflict can be read. -/
theorem exists_findConflicts_iff {source target : Int} :
    (∃ r, v.findConflicts source target = .ok r) ↔
      ∀ a ∈ v.attestations, a.conflicts source target = true → ∃ r, a.toRecord = .ok r := by
  rw [findConflicts, exists_mapM_eq_ok_iff]
  simp only [List.mem_mergeSort, List.mem_filter, and_imp]

theorem MetVote.extend {l : SignedAttestation} (h : v.MetVote l) (hv : v.Extends v') :
    v'.MetVote l := by
  obtain ⟨hforward, source, target, hsource, htarget, ⟨a, ha, hc⟩, hread⟩ := h
  refine ⟨hforward, source, target, hsource, htarget, ⟨a, hv.votes.subset ha, hc⟩,
    fun x hx hxc => ?_⟩
  rcases hv.votes_readable x hx with hold | ⟨hs, ht, hr⟩
  · exact hread x hold hxc
  · exact ⟨x.record, StoredAttestation.toRecord_eq hs ht hr⟩

/-- A vote just written is the only one to conflict with. -/
theorem metVote_insert {l : SignedAttestation} {source target : Int}
    (hforward : l.source ≤ l.target) (hsource : Stored.ofUInt64 l.source = .ok source)
    (htarget : Stored.ofUInt64 l.target = .ok target)
    (hfree : ∀ a ∈ v.attestations, a.conflicts source target = false) :
    MetVote { v with attestations :=
      v.attestations ++ [(⟨source, target, l.root.map (·.bytes)⟩ : StoredAttestation)] } l := by
  refine ⟨hforward, source, target, hsource, htarget,
    ⟨_, List.mem_append_right _ List.mem_cons_self, conflicts_iff.mpr (.inl rfl)⟩,
    fun a ha hc => ?_⟩
  rcases List.mem_append.mp ha with ha | ha
  · exact absurd hc (by simp [hfree a ha])
  · rw [List.mem_singleton.mp ha]
    exact ⟨_, StoredAttestation.toRecord_eq (Stored.inRange_of_stored hsource)
      (Stored.inRange_of_stored htarget) (Stored.rootOk_of_root l.root)⟩

end Validator

namespace History

open Validator

variable {h : History} {v v' : Validator} {m n : Nat} {summary : ImportSummary}

/-- What a history leaves behind on the row of its validator. -/
structure Absorbed (h : History) (v : Validator) : Prop where
  held : ∀ l ∈ h.blocks, v.HeldBlock l
  met : ∀ l ∈ h.attestations, v.MetVote l
  slot : ∀ l ∈ h.blocks, ∀ slot, Stored.ofUInt64 l.slot = .ok slot → ∃ w ∈ v.slotMark, slot ≤ w
  epochs : ∀ l ∈ h.attestations, ∀ source target, Stored.ofUInt64 l.source = .ok source →
    Stored.ofUInt64 l.target = .ok target →
      (∃ w ∈ v.sourceMark, source ≤ w) ∧ ∃ w ∈ v.targetMark, target ≤ w

/-- The watermark was raised over a number, and stays so. -/
theorem reached_of_raised {old new : Option Int} {i : Int} (h : Raised old new)
    (hi : ∃ w ∈ old, i ≤ w) : ∃ w ∈ new, i ≤ w := by
  obtain ⟨w, hw, hle⟩ := hi
  obtain ⟨x, hx, hle'⟩ := h w hw
  exact ⟨x, hx, Int.le_trans hle hle'⟩

theorem Absorbed.extend (ha : h.Absorbed v) (hv : v.Extends v') : h.Absorbed v' where
  held := fun l hl => (ha.held l hl).extend hv.blocks
  met := fun l hl => (ha.met l hl).extend hv
  slot := fun l hl slot hslot => reached_of_raised hv.slot (ha.slot l hl slot hslot)
  epochs := fun l hl source target hs ht =>
    ⟨reached_of_raised hv.source (ha.epochs l hl source target hs ht).1,
      reached_of_raised hv.target (ha.epochs l hl source target hs ht).2⟩

/-! ## The first time -/

/-- The blocks written come after those on record, and every listed block finds
its slot taken afterwards. -/
theorem importBlocks_held {listed : List SignedBlock}
    (hr : importBlocks listed v = .ok (m, n, v')) :
    ∃ bs, v' = { v with blocks := v.blocks ++ bs } ∧ m = bs.length ∧ m + n = listed.length ∧
      ∀ l ∈ listed, v'.HeldBlock l := by
  induction listed generalizing v m n with
  | nil =>
      obtain ⟨rfl, rfl, rfl⟩ : 0 = m ∧ 0 = n ∧ v = v' := by simpa [importBlocks] using hr
      exact ⟨[], by simp, rfl, rfl, by simp⟩
  | cons l rest ih =>
      obtain ⟨slot, hslot, hr⟩ := bind_eq_ok.mp hr
      obtain ⟨found, hfound, hr⟩ := bind_eq_ok.mp hr
      cases found with
      | some r =>
          obtain ⟨⟨m', n', u⟩, hrest, hr⟩ := bind_eq_ok.mp hr
          obtain ⟨rfl, rfl, rfl⟩ : m' = m ∧ n' + 1 = n ∧ u = v' := by simpa using pure_eq_ok.mp hr
          obtain ⟨bs, rfl, hm, hcount, hheld⟩ := ih hrest
          refine ⟨bs, rfl, hm, by rw [List.length_cons]; omega, ?_⟩
          have hfirst : v.HeldBlock l := ⟨slot, r, hslot, hfound⟩
          exact List.forall_mem_cons.mpr ⟨hfirst.extend (List.prefix_append _ _), hheld⟩
      | none =>
          obtain ⟨u, hu, hr⟩ := bind_eq_ok.mp hr
          obtain rfl := insertBlock_ok hu
          obtain ⟨⟨m', n', u⟩, hrest, hr⟩ := bind_eq_ok.mp hr
          obtain ⟨rfl, rfl, rfl⟩ : m' + 1 = m ∧ n' = n ∧ u = v' := by simpa using pure_eq_ok.mp hr
          obtain ⟨bs, rfl, hm, hcount, hheld⟩ := ih hrest
          have hfirst := heldBlock_insert hslot hfound
          refine ⟨⟨slot, l.root.map (·.bytes)⟩ :: bs, by simp, by rw [hm, List.length_cons],
            by rw [List.length_cons]; omega, ?_⟩
          exact List.forall_mem_cons.mpr ⟨hfirst.extend (List.prefix_append _ _), hheld⟩

/-- The votes written come after those on record, and every listed vote finds
votes to conflict with afterwards. -/
theorem importAttestations_met {key : SignerId} {listed : List SignedAttestation} {index : Nat}
    (hr : importAttestations key index listed v = .ok (m, n, v')) :
    ∃ as, v' = { v with attestations := v.attestations ++ as } ∧
      (∀ a ∈ as, Stored.InRange a.source ∧ Stored.InRange a.target ∧ Stored.RootOk a.root) ∧
      m = as.length ∧ m + n = listed.length ∧ ∀ l ∈ listed, v'.MetVote l := by
  induction listed generalizing v index m n with
  | nil =>
      obtain ⟨rfl, rfl, rfl⟩ : 0 = m ∧ 0 = n ∧ v = v' := by simpa [importAttestations] using hr
      exact ⟨[], by simp, by simp, rfl, rfl, by simp⟩
  | cons l rest ih =>
      rw [importAttestations] at hr
      split at hr
      · cases hr
      rename_i hforth
      have hforward : l.source ≤ l.target := UInt64.not_lt.mp hforth
      obtain ⟨source, hsource, hr⟩ := bind_eq_ok.mp hr
      obtain ⟨target, htarget, hr⟩ := bind_eq_ok.mp hr
      obtain ⟨found, hfound, hr⟩ := bind_eq_ok.mp hr
      have hread := exists_findConflicts_iff.mp ⟨found, hfound⟩
      have hnil := findConflicts_nil_iff hfound
      cases found with
      | nil =>
          obtain ⟨u, hu, hr⟩ := bind_eq_ok.mp hr
          obtain rfl := insertAttestation_ok hu
          obtain ⟨⟨m', n', u⟩, hrest, hr⟩ := bind_eq_ok.mp hr
          obtain ⟨rfl, rfl, rfl⟩ : m' + 1 = m ∧ n' = n ∧ u = v' := by simpa using pure_eq_ok.mp hr
          obtain ⟨as, rfl, has, hm, hcount, hmet⟩ := ih hrest
          have hin : Stored.InRange source ∧ Stored.InRange target ∧
              Stored.RootOk (l.root.map (·.bytes)) :=
            ⟨Stored.inRange_of_stored hsource, Stored.inRange_of_stored htarget,
              Stored.rootOk_of_root l.root⟩
          have hfirst := metVote_insert hforward hsource htarget (hnil.mp rfl)
          refine ⟨⟨source, target, l.root.map (·.bytes)⟩ :: as, by simp,
            List.forall_mem_cons.mpr ⟨hin, has⟩, by rw [hm, List.length_cons],
            by rw [List.length_cons]; omega, ?_⟩
          exact List.forall_mem_cons.mpr ⟨hfirst.extend (extends_withVotes _ has), hmet⟩
      | cons c cs =>
          obtain ⟨⟨m', n', u⟩, hrest, hr⟩ := bind_eq_ok.mp hr
          obtain ⟨rfl, rfl, rfl⟩ : m' = m ∧ n' + 1 = n ∧ u = v' := by simpa using pure_eq_ok.mp hr
          obtain ⟨as, rfl, has, hm, hcount, hmet⟩ := ih hrest
          have hany : ∃ a ∈ v.attestations, a.conflicts source target = true := by
            simpa using mt hnil.mpr (by simp)
          have hfirst : v.MetVote l := ⟨hforward, source, target, hsource, htarget, hany, hread⟩
          refine ⟨as, rfl, has, hm, by rw [List.length_cons]; omega, ?_⟩
          exact List.forall_mem_cons.mpr ⟨hfirst.extend (extends_withVotes _ has), hmet⟩

/-- The watermark is raised over every listed slot. -/
theorem raiseSlot_extends (hr : h.raiseSlot v = .ok v') :
    v.Extends v' ∧ v'.blocks = v.blocks ∧ v'.attestations = v.attestations ∧
      ∀ l ∈ h.blocks, ∀ slot, Stored.ofUInt64 l.slot = .ok slot → ∃ w ∈ v'.slotMark, slot ≤ w := by
  rcases raiseSlot_ok hr with ⟨hnil, rfl⟩ | ⟨top, _, rfl, hmax⟩
  · exact ⟨.refl _, rfl, rfl, by simp [hnil]⟩
  · exact ⟨extends_raiseSlot v top, rfl, rfl, fun l hl slot hslot =>
      ⟨_, slotMark_raiseSlot v top, Int.le_trans (hmax l hl slot hslot) (Stored.le_raise _ top)⟩⟩

/-- The watermark is raised over every listed vote. -/
theorem raiseEpochs_extends (hr : h.raiseEpochs v = .ok v')
    (hforward : ∀ l ∈ h.attestations, l.source ≤ l.target) :
    v.Extends v' ∧ v'.blocks = v.blocks ∧ v'.attestations = v.attestations ∧
      ∀ l ∈ h.attestations, ∀ source target,
        Stored.ofUInt64 l.source = .ok source → Stored.ofUInt64 l.target = .ok target →
          (∃ w ∈ v'.sourceMark, source ≤ w) ∧ ∃ w ∈ v'.targetMark, target ≤ w := by
  rcases raiseEpochs_ok hr hforward with ⟨hnil, rfl⟩ | ⟨s, t, _, _, _, rfl, hmax⟩
  · exact ⟨.refl _, rfl, rfl, by simp [hnil]⟩
  · refine ⟨extends_raiseEpochs v s t, rfl, rfl, fun l hl source target hs ht => ?_⟩
    obtain ⟨hles, hlet⟩ := hmax l hl source target hs ht
    exact ⟨⟨_, sourceMark_raiseEpochs v s t, Int.le_trans hles (Stored.le_raise _ s)⟩,
      ⟨_, targetMark_raiseEpochs v s t, Int.le_trans hlet (Stored.le_raise _ t)⟩⟩

/-- What is reported of some histories that were taken in: every listed record
is written or passed over. -/
structure Counted (hs : List History) (summary : ImportSummary) : Prop where
  validators : summary.validators = hs.length
  blocks : summary.blocksImported + summary.blocksSkipped = (hs.map (·.blocks.length)).sum
  votes : summary.attestationsImported + summary.attestationsSkipped =
    (hs.map (·.attestations.length)).sum

/-- Taking in a history extends the row by as many records as are reported, and
absorbs the history. -/
theorem importTo_absorbed (hr : h.importTo v = .ok (summary, v')) :
    v.Extends v' ∧ h.Absorbed v' ∧ Counted [h] summary ∧
      v'.blocks.length = v.blocks.length + summary.blocksImported ∧
      v'.attestations.length = v.attestations.length + summary.attestationsImported := by
  obtain ⟨⟨m, n, v₁⟩, hblocks, hr⟩ := bind_eq_ok.mp hr
  obtain ⟨v₂, hslot, hr⟩ := bind_eq_ok.mp hr
  obtain ⟨⟨m', n', v₃⟩, hvotes, hr⟩ := bind_eq_ok.mp hr
  obtain ⟨v₄, hepochs, hr⟩ := bind_eq_ok.mp hr
  obtain ⟨rfl, rfl⟩ := Prod.mk.inj (pure_eq_ok.mp hr)
  obtain ⟨bs, rfl, hm, hblockCount, hheld⟩ := importBlocks_held hblocks
  obtain ⟨as, rfl, has, hm', hvoteCount, hmet⟩ := importAttestations_met hvotes
  obtain ⟨h₂, hblocks₂, hvotes₂, hslots⟩ := raiseSlot_extends hslot
  obtain ⟨h₄, hblocks₄, hvotes₄, hreached⟩ := raiseEpochs_extends hepochs fun l hl => (hmet l hl).1
  have hlater := (extends_withVotes v₂ has).trans h₄
  refine ⟨((extends_withBlocks v bs).trans h₂).trans hlater, ⟨?_, ?_, ?_, hreached⟩,
    ⟨rfl, by simpa using hblockCount, by simpa using hvoteCount⟩, ?_, ?_⟩
  · exact fun l hl => (hheld l hl).extend (h₂.trans hlater).blocks
  · exact fun l hl => (hmet l hl).extend h₄
  · exact fun l hl slot hslot => reached_of_raised hlater.slot (hslots l hl slot hslot)
  · rw [hblocks₄, hblocks₂, List.length_append, hm]
  · rw [hvotes₄, List.length_append, hvotes₂, hm']

/-! ## Again -/

theorem importBlocks_again {listed : List SignedBlock} (hheld : ∀ l ∈ listed, v.HeldBlock l) :
    importBlocks listed v = .ok (0, listed.length, v) := by
  induction listed with
  | nil => rfl
  | cons l rest ih =>
      obtain ⟨⟨slot, r, hslot, hfound⟩, hrest⟩ := List.forall_mem_cons.mp hheld
      simp only [importBlocks, hslot, hfound, ih hrest, bind, Except.bind]
      rfl

theorem importAttestations_again {key : SignerId} {listed : List SignedAttestation} (index : Nat)
    (hmet : ∀ l ∈ listed, v.MetVote l) :
    importAttestations key index listed v = .ok (0, listed.length, v) := by
  induction listed generalizing index with
  | nil => rfl
  | cons l rest ih =>
      obtain ⟨⟨hforward, source, target, hsource, htarget, hany, hread⟩, hrest⟩ :=
        List.forall_mem_cons.mp hmet
      obtain ⟨found, hfound⟩ := exists_findConflicts_iff.mpr hread
      have hsome : found ≠ [] := by
        rw [ne_eq, findConflicts_nil_iff hfound]
        simpa using hany
      obtain ⟨c, cs, rfl⟩ := List.exists_cons_of_ne_nil hsome
      simp only [importAttestations, if_neg (UInt64.not_lt.mpr hforward), hsource, htarget, hfound,
        ih (index + 1) hrest, bind, Except.bind]
      rfl

theorem Absorbed.raiseSlot (ha : h.Absorbed v) : h.raiseSlot v = .ok v := by
  unfold History.raiseSlot
  cases hmax : maximum? (h.blocks.map (·.slot)) with
  | none => rfl
  | some top =>
      -- the largest slot is that of a listed block, which the watermark has reached
      obtain ⟨l, hl, rfl⟩ := List.mem_map.mp (maximum?_spec hmax).1
      obtain ⟨slot, _, hslot, _⟩ := ha.held l hl
      simp only [hslot, bind, Except.bind, raiseSlot_of_reached (ha.slot l hl slot hslot)]
      rfl

theorem Absorbed.raiseEpochs (ha : h.Absorbed v) : h.raiseEpochs v = .ok v := by
  unfold History.raiseEpochs
  cases hs : maximum? (h.attestations.map (·.source)) with
  | none => rfl
  | some topSource =>
      cases ht : maximum? (h.attestations.map (·.target)) with
      | none => rfl
      | some topTarget =>
          -- the two may be of different votes
          obtain ⟨l, hl, rfl⟩ := List.mem_map.mp (maximum?_spec hs).1
          obtain ⟨l', hl', rfl⟩ := List.mem_map.mp (maximum?_spec ht).1
          obtain ⟨_, source, target, hsource, htarget, _⟩ := ha.met l hl
          obtain ⟨_, source', target', hsource', htarget', _⟩ := ha.met l' hl'
          have hraised := raiseEpochs_of_reached (ha.epochs l hl source target hsource htarget).1
            (ha.epochs l' hl' source' target' hsource' htarget').2
          simp only [hsource, htarget', bind, Except.bind, hraised]
          rfl

/-- A history that is absorbed is passed over and leaves the row as it is. -/
theorem Absorbed.again (ha : h.Absorbed v) :
    h.importTo v = .ok (⟨1, 0, h.blocks.length, 0, h.attestations.length⟩, v) := by
  simp only [importTo, importBlocks_again ha.held, ha.raiseSlot, importAttestations_again 0 ha.met,
    ha.raiseEpochs, bind, Except.bind]
  rfl

end History

namespace History

/-- Histories reported one after another. -/
theorem Counted.cons {h : History} {rest : List History} {first others : ImportSummary}
    (hfirst : Counted [h] first) (hothers : Counted rest others) :
    Counted (h :: rest) (first.add others) := by
  obtain ⟨hv, hb, ha⟩ := hfirst
  obtain ⟨hv', hb', ha'⟩ := hothers
  simp only [List.length_cons, List.length_nil, List.map_cons, List.map_nil, List.sum_cons,
    List.sum_nil, Nat.add_zero] at hv hb ha
  refine ⟨?_, ?_, ?_⟩
  · simp only [ImportSummary.add, List.length_cons]
    omega
  · simp only [ImportSummary.add, List.map_cons, List.sum_cons]
    omega
  · simp only [ImportSummary.add, List.map_cons, List.sum_cons]
    omega

end History

namespace Interchange

open Database

variable {db db' : Database} {hs : List History} {d : Interchange} {summary : ImportSummary}

/-- What taking in some histories does to a database. -/
structure Merged (hs : List History) (summary : ImportSummary) (db db' : Database) : Prop where
  version_eq : db'.version = db.version
  keys : db.validators.map (·.key) <+: db'.validators.map (·.key)
  rows : ∀ key, (db.row key).Extends (db'.row key)
  unlisted : ∀ key, (∀ h ∈ hs, h.key ≠ key) → db'.find? key = db.find? key
  blocks_written : db'.total (·.blocks.length) =
    db.total (·.blocks.length) + summary.blocksImported
  votes_written : db'.total (·.attestations.length) =
    db.total (·.attestations.length) + summary.attestationsImported
  counted : History.Counted hs summary

theorem importHistories_merged (h : db.KeysDistinct)
    (hr : importHistories hs db = .ok (summary, db')) :
    Merged hs summary db db' ∧
      ∀ x ∈ hs, (db'.find? x.key).isSome ∧ x.Absorbed (db'.row x.key) := by
  induction hs generalizing db summary with
  | nil =>
      obtain ⟨rfl, rfl⟩ := Prod.mk.inj (Except.ok.inj hr)
      exact ⟨⟨rfl, List.prefix_rfl, fun _ => .refl _, fun _ _ => rfl, rfl, rfl, ⟨rfl, rfl, rfl⟩⟩,
        by simp⟩
  | cons x rest ih =>
      obtain ⟨⟨first, db₁⟩, hfirst, hr⟩ := bind_eq_ok.mp hr
      obtain ⟨⟨others, db₂⟩, hrest, hr⟩ := bind_eq_ok.mp hr
      obtain ⟨rfl, rfl⟩ := Prod.mk.inj (pure_eq_ok.mp hr)
      obtain ⟨v, hv, rfl⟩ := withValidator_ok hfirst
      obtain ⟨hextends, habsorbed, hcount, hblocks, hvotes⟩ := History.importTo_absorbed hv
      have hkey : v.key = x.key := hextends.key_eq.trans (row_key db x.key)
      have hkeys₁ := (edits_put h (History.edits_importTo hv)).keysDistinct h
      obtain ⟨hmerged, hlater⟩ := ih hkeys₁ hrest
      have hkeys : db.validators.map (·.key) <+: (db.put x.key v).validators.map (·.key) := by
        rw [keys_put hkey]
        rcases keys_ensure db x.key with hsame | ⟨_, hnew⟩
        · exact hsame ▸ List.prefix_rfl
        · rw [hnew]
          exact List.prefix_append _ _
      refine ⟨⟨?_, hkeys.trans hmerged.keys, fun key => ?_, fun key hkey' => ?_, ?_, ?_,
        hcount.cons hmerged.counted⟩, ?_⟩
      · rw [hmerged.version_eq, version_put]
      · refine Validator.Extends.trans ?_ (hmerged.rows key)
        rw [row_put hkey]
        split
        · rename_i heq
          rw [heq]
          exact hextends
        · exact .refl _
      · obtain ⟨hne, hothers⟩ := List.forall_mem_cons.mp hkey'
        rw [hmerged.unlisted key hothers, find?_put hkey, if_neg (Ne.symm hne)]
      · have hput := total_put h x.key (·.blocks.length) rfl v
        have hwritten := hmerged.blocks_written
        simp only [ImportSummary.add]
        omega
      · have hput := total_put h x.key (·.attestations.length) rfl v
        have hwritten := hmerged.votes_written
        simp only [ImportSummary.add]
        omega
      · refine List.forall_mem_cons.mpr ⟨⟨?_, ?_⟩, hlater⟩
        · have hfound : ((db.put x.key v).find? x.key).isSome := by
            rw [find?_put hkey, if_pos rfl]
            rfl
          exact isSome_find?_iff.mpr (hmerged.keys.subset (isSome_find?_iff.mp hfound))
        · refine habsorbed.extend ?_
          have hrow := hmerged.rows x.key
          rwa [row_put hkey, if_pos rfl] at hrow

/-- The report of histories of which nothing is written. -/
def passedOver (hs : List History) : ImportSummary :=
  ⟨hs.length, 0, (hs.map (·.blocks.length)).sum, 0, (hs.map (·.attestations.length)).sum⟩

/-- Histories that are absorbed are passed over and leave the database as it is. -/
theorem importHistories_again (h : db.KeysDistinct)
    (habsorbed : ∀ x ∈ hs, (db.find? x.key).isSome ∧ x.Absorbed (db.row x.key)) :
    importHistories hs db = .ok (passedOver hs, db) := by
  induction hs with
  | nil => rfl
  | cons x rest ih =>
      obtain ⟨⟨hknown, hfirst⟩, hrest⟩ := List.forall_mem_cons.mp habsorbed
      have hone : withValidator x.key x.importTo db = _ := withValidator_eq hfirst.again
      rw [put_row h hknown] at hone
      simp only [importHistories, hone, ih hrest, bind, Except.bind]
      simp [pure, Except.pure, passedOver, ImportSummary.add, Nat.add_comm 1]

/-- Storing a first genesis root writes nothing else that taking in histories reads
or writes. -/
theorem Merged.of_admitted {root : Root} {db₁ : Database}
    (hchain : db.admitGenesisRoot root = (true, db₁)) (h : Merged hs summary db₁ db') :
    Merged hs summary db db' := by
  unfold admitGenesisRoot at hchain
  split at hchain
  · obtain ⟨_, rfl⟩ := Prod.mk.inj hchain
    exact h
  · obtain ⟨_, rfl⟩ := Prod.mk.inj hchain
    exact ⟨h.version_eq, h.keys, h.rows, h.unlisted, h.blocks_written, h.votes_written, h.counted⟩

theorem importTo_merged (h : db.KeysDistinct) (hr : d.importTo db = .ok (summary, db')) :
    Admitted d.genesisRoot db db' ∧ Merged d.data summary db db' := by
  obtain ⟨db₁, hchain, hr⟩ := importTo_ok hr
  have hkeys := (edits_admitGenesisRoot hchain).keysDistinct h
  exact ⟨(admitted_admitGenesisRoot hchain).of_metadata_eq (metadata_importHistories hr),
    .of_admitted hchain (importHistories_merged hkeys hr).1⟩

/-- A document that was taken in is passed over when it comes again. -/
theorem importTo_again (h : db.KeysDistinct) (hr : d.importTo db = .ok (summary, db')) :
    d.importTo db' = .ok (passedOver d.data, db') := by
  have hkeys := (edits_importTo d h hr).keysDistinct h
  have hversion : ¬ d.version ≠ formatVersion := fun hne => importTo_not_faulty hr (.version hne)
  obtain ⟨db₁, hchain, hr⟩ := importTo_ok hr
  have habsorbed :=
    (importHistories_merged ((edits_admitGenesisRoot hchain).keysDistinct h) hr).2
  have hroot : db'.genesisRoot? = some d.genesisRoot := by
    rw [genesisRoot?_congr (metadata_importHistories hr), genesisRoot_admitted hchain]
  have hagain : db'.admitGenesisRoot d.genesisRoot = (true, db') := by
    simp [admitGenesisRoot, hroot]
  simp only [importTo, if_neg hversion, hagain, importHistories_again hkeys habsorbed]

end Interchange

namespace Engine

open Database Interchange

variable {e : Engine}

/-- Whatever a database holds, as long as its keys are distinct: a document with a
fault anywhere is refused, and a refused one leaves everything as it was. One that
is taken in stores a genesis root only where there was none, adds as many records
as it reports behind those on record, lowers no watermark, leaves alone whom it
does not list, and reports every listed record as written or passed over. The same
document is then taken in again, with nothing written. Where the columns can be
read and the write lock is free, only a fault stands in the way. -/
theorem import_atomic_idempotent (hkeys : e.database.KeysDistinct) (d : Interchange) :
    (d.Faulty e.database → ∃ fault, (e.importHistory d).1 = .error fault) ∧
    (∀ fault, (e.importHistory d).1 = .error fault → (e.importHistory d).2 = e) ∧
    (e.database.Readable → e.locked = false → ¬ d.Faulty e.database →
      ∃ summary, (e.importHistory d).1 = .ok summary) ∧
    ∀ summary e', e.importHistory d = (.ok summary, e') →
      e' = { e with database := e'.database } ∧
      Admitted d.genesisRoot e.database e'.database ∧
      Merged d.data summary e.database e'.database ∧
      e'.importHistory d = (.ok (passedOver d.data), e') := by
  refine ⟨fun hfaulty => ?_, fun fault hf => transact_error hf, fun hreadable hfree hfine => ?_,
    fun summary e' hr => ?_⟩
  · rcases transact_cases e d.importTo with ⟨fault, hf⟩ | ⟨summary, db, hr, _⟩
    · exact ⟨fault, congrArg Prod.fst hf⟩
    · exact absurd hfaulty (importTo_not_faulty hr)
  · obtain ⟨⟨summary, db⟩, hr⟩ := (exists_importTo_iff hreadable).mpr hfine
    exact ⟨summary, congrArg Prod.fst (transact_of_ok d.importTo hfree hr)⟩
  · obtain ⟨hfree, db, hbody⟩ := transact_ok_iff.mp (congrArg Prod.fst hr)
    have hdone := transact_of_ok d.importTo hfree hbody
    obtain rfl : { e with database := db } = e' :=
      congrArg Prod.snd (hdone.symm.trans hr)
    obtain ⟨hadmitted, hmerged⟩ := importTo_merged hkeys hbody
    exact ⟨rfl, hadmitted, hmerged, transact_of_ok d.importTo hfree (importTo_again hkeys hbody)⟩

/-- A validator that is disabled, with a block, and with another that cannot be read. -/
def damagedStore : Engine :=
  ⟨1, false, ⟨some 1, none, [⟨⟨List.replicate 48 1⟩, false, none,
    [⟨7, some (FixedBytes.fit 32 [2]).bytes⟩, ⟨-3, some [1]⟩], []⟩]⟩⟩

/-- Two entries for that validator, with another block for its slot, a new block twice and a
vote around another, and one for a validator without a row. -/
def mixedDocument : Interchange :=
  ⟨formatVersion, .fit 32 [9],
    [⟨⟨List.replicate 48 1⟩, [⟨7, none⟩, ⟨9, none⟩], [⟨2, 3, none⟩, ⟨1, 4, none⟩]⟩,
      ⟨⟨List.replicate 48 2⟩, [⟨5, none⟩], []⟩,
      ⟨⟨List.replicate 48 1⟩, [⟨9, none⟩], []⟩]⟩

/-- The block that cannot be read is in nobody's way: three records are written and three
passed over, and all six the second time. -/
theorem damagedStore_import : damagedStore.database.KeysDistinct ∧
    ∃ e', damagedStore.importHistory mixedDocument = (.ok ⟨3, 2, 2, 1, 1⟩, e') ∧
      e'.importHistory mixedDocument = (.ok ⟨3, 0, 4, 0, 2⟩, e') := by
  have hkeys : damagedStore.database.KeysDistinct := by
    unfold KeysDistinct
    decide
  have hdone : (damagedStore.importHistory mixedDocument).1 = .ok ⟨3, 2, 2, 1, 1⟩ := by
    decide +kernel
  refine ⟨hkeys, _, Prod.ext hdone rfl, ?_⟩
  exact ((import_atomic_idempotent hkeys mixedDocument).2.2.2 _ _ (Prod.ext hdone rfl)).2.2.2

end Engine

end RemoteSigner
