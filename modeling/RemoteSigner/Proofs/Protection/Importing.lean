import RemoteSigner.Proofs.Protection.Validator
import RemoteSigner.Protection.Interchange

/-!
# Taking in a history

A listed record is written unless the store holds one it conflicts with, and
the watermark rises to the largest values listed:

* `BlocksTaken`, `VotesTaken` — the records before and after a list of them;
* `importBlocks_taken`, `importAttestations_taken` — by induction on the list;
* `Taken` — what is left of a history: every listed slot is closed and every
  listed vote was reached; its target is closed unless it surrounds a record;
* `importTo_step` — a validator stays sound, keeps its records, and the history
  is taken.
-/

namespace RemoteSigner

namespace Validator

variable {v v' : Validator}

/-- What a listed slot is looked up for does not depend on what is found. -/
theorem findBlock_none {slot : Int} (h : v.findBlock slot = .ok none) :
    ∀ b ∈ v.blocks, b.slot ≠ slot := by
  unfold findBlock at h
  cases hb : v.blocks.find? (·.slot == slot) with
  | none => simpa [List.find?_eq_none] using hb
  | some b =>
      rw [hb] at h
      cases hr : b.toRecord <;> simp [hr, Except.map] at h

theorem findBlock_some {slot : Int} {r : SignedBlock} (h : v.findBlock slot = .ok (some r)) :
    ∃ b ∈ v.blocks, b.slot = slot := by
  unfold findBlock at h
  cases hb : v.blocks.find? (·.slot == slot) with
  | none =>
      rw [hb] at h
      exact absurd h (by simp)
  | some b =>
      exact ⟨b, List.mem_of_find?_eq_some hb, by simpa using List.find?_some hb⟩

theorem insertBlock_ok {b : StoredBlock} (h : v.insertBlock b = .ok v') :
    v' = { v with blocks := v.blocks ++ [b] } := by
  unfold insertBlock at h
  split at h
  · exact absurd h (by simp)
  · exact (Except.ok.inj h).symm

theorem insertAttestation_ok {a : StoredAttestation} (h : v.insertAttestation a = .ok v') :
    v' = { v with attestations := v.attestations ++ [a] } := by
  unfold insertAttestation at h
  split at h
  · exact absurd h (by simp)
  · exact (Except.ok.inj h).symm

/-- Votes are found to conflict with something exactly if they do. -/
theorem findConflicts_nil_iff {source target : Int} {r : List SignedAttestation}
    (h : v.findConflicts source target = .ok r) :
    r = [] ↔ ∀ a ∈ v.attestations, a.conflicts source target = false := by
  rw [mapM_ok_nil_iff h, ← List.length_eq_zero_iff, List.length_mergeSort,
    List.length_eq_zero_iff, List.filter_eq_nil_iff]
  simp only [Bool.not_eq_true]

end Validator

namespace History

/-! ## The records -/

/-- The block records after a list of them was taken in. -/
structure BlocksTaken (listed : List SignedBlock) (old new : List StoredBlock) : Prop where
  kept : ∀ b ∈ old, b ∈ new
  added : ∀ b ∈ new, b ∈ old ∨
    ∃ l ∈ listed, Stored.ofUInt64 l.slot = .ok b.slot ∧ b.root = l.root.map (·.bytes)
  held : ∀ l ∈ listed, ∃ b ∈ new, Stored.ofUInt64 l.slot = .ok b.slot
  distinct : (old.map (·.slot)).Nodup → (new.map (·.slot)).Nodup

/-- The attestation records after a list of them was taken in. -/
structure VotesTaken (listed : List SignedAttestation) (old new : List StoredAttestation) :
    Prop where
  kept : ∀ a ∈ old, a ∈ new
  added : ∀ a ∈ new, a ∈ old ∨ ∃ l ∈ listed, Stored.ofUInt64 l.source = .ok a.source ∧
    Stored.ofUInt64 l.target = .ok a.target ∧ a.root = l.root.map (·.bytes)
  forward : ∀ l ∈ listed, l.source ≤ l.target
  met : ∀ l ∈ listed, ∃ source target, Stored.ofUInt64 l.source = .ok source ∧
    Stored.ofUInt64 l.target = .ok target ∧ ∃ a ∈ new, a.conflicts source target = true
  free : Validator.ConflictFree old → Validator.ConflictFree new

theorem BlocksTaken.nil (old : List StoredBlock) : BlocksTaken [] old old :=
  ⟨fun _ h => h, fun _ h => .inl h, by simp, fun h => h⟩

/-- A listed record is passed over where its slot is taken. -/
theorem BlocksTaken.skip {l : SignedBlock} {rest : List SignedBlock} {old new : List StoredBlock}
    (h : BlocksTaken rest old new) {b : StoredBlock} (hb : b ∈ old)
    (hslot : Stored.ofUInt64 l.slot = .ok b.slot) : BlocksTaken (l :: rest) old new where
  kept := h.kept
  added := by
    intro x hx
    rcases h.added x hx with hold | ⟨k, hk, hrec⟩
    · exact .inl hold
    · exact .inr ⟨k, List.mem_cons_of_mem _ hk, hrec⟩
  held := by
    intro k hk
    rcases List.mem_cons.mp hk with rfl | hk
    · exact ⟨b, h.kept b hb, hslot⟩
    · exact h.held k hk
  distinct := h.distinct

/-- A listed record is written where its slot is free. -/
theorem BlocksTaken.write {l : SignedBlock} {rest : List SignedBlock} {old new : List StoredBlock}
    {b : StoredBlock} (h : BlocksTaken rest (old ++ [b]) new)
    (hslot : Stored.ofUInt64 l.slot = .ok b.slot) (hroot : b.root = l.root.map (·.bytes))
    (hfree : ∀ x ∈ old, x.slot ≠ b.slot) : BlocksTaken (l :: rest) old new where
  kept := fun x hx => h.kept x (List.mem_append_left _ hx)
  added := by
    intro x hx
    rcases h.added x hx with hold | ⟨k, hk, hrec⟩
    · rcases List.mem_append.mp hold with hold | hnew
      · exact .inl hold
      · rw [List.mem_singleton.mp hnew]
        exact .inr ⟨l, List.mem_cons_self, hslot, hroot⟩
    · exact .inr ⟨k, List.mem_cons_of_mem _ hk, hrec⟩
  held := by
    intro k hk
    rcases List.mem_cons.mp hk with rfl | hk
    · exact ⟨b, h.kept b (List.mem_append_right _ List.mem_cons_self), hslot⟩
    · exact h.held k hk
  distinct := fun hd => h.distinct (Validator.distinct_concat hd hfree)

theorem importBlocks_taken {listed : List SignedBlock} {v v' : Validator} {m n : Nat}
    (h : importBlocks listed v = .ok (m, n, v')) :
    ∃ bs, v' = { v with blocks := bs } ∧ BlocksTaken listed v.blocks bs := by
  -- what a written record joins is the old part for the rest of the list
  induction listed generalizing v m n with
  | nil =>
      obtain ⟨_, _, rfl⟩ : 0 = m ∧ 0 = n ∧ v = v' := by simpa [importBlocks] using h
      exact ⟨v.blocks, rfl, .nil _⟩
  | cons l rest ih =>
      obtain ⟨slot, hslot, h⟩ := bind_eq_ok.mp h
      obtain ⟨found, hfound, h⟩ := bind_eq_ok.mp h
      cases found with
      | some r =>
          obtain ⟨⟨m', n', u⟩, hrest, h⟩ := bind_eq_ok.mp h
          obtain ⟨_, _, rfl⟩ : m' = m ∧ n' + 1 = n ∧ u = v' := by
            simpa using pure_eq_ok.mp h
          obtain ⟨bs, rfl, htaken⟩ := ih hrest
          obtain ⟨b, hb, rfl⟩ := Validator.findBlock_some hfound
          exact ⟨bs, rfl, htaken.skip hb hslot⟩
      | none =>
          obtain ⟨u, hu, h⟩ := bind_eq_ok.mp h
          obtain rfl := Validator.insertBlock_ok hu
          obtain ⟨⟨m', n', u⟩, hrest, h⟩ := bind_eq_ok.mp h
          obtain ⟨_, _, rfl⟩ : m' + 1 = m ∧ n' = n ∧ u = v' := by
            simpa using pure_eq_ok.mp h
          obtain ⟨bs, rfl, htaken⟩ := ih hrest
          exact ⟨bs, rfl, htaken.write hslot rfl (Validator.findBlock_none hfound)⟩

theorem VotesTaken.nil (old : List StoredAttestation) : VotesTaken [] old old :=
  ⟨fun _ h => h, fun _ h => .inl h, by simp, by simp, fun h => h⟩

section Vote

variable {l : SignedAttestation} {rest : List SignedAttestation}
variable {old new : List StoredAttestation} {source target : Int}

/-- A listed record is passed over beside one that it conflicts with. -/
theorem VotesTaken.skip (h : VotesTaken rest old new) (hforward : l.source ≤ l.target)
    (hsource : Stored.ofUInt64 l.source = .ok source)
    (htarget : Stored.ofUInt64 l.target = .ok target)
    (hmet : ∃ a ∈ old, a.conflicts source target = true) : VotesTaken (l :: rest) old new where
  kept := h.kept
  added := by
    intro x hx
    rcases h.added x hx with hold | ⟨k, hk, hrec⟩
    · exact .inl hold
    · exact .inr ⟨k, List.mem_cons_of_mem _ hk, hrec⟩
  forward := by
    intro k hk
    rcases List.mem_cons.mp hk with rfl | hk
    · exact hforward
    · exact h.forward k hk
  met := by
    intro k hk
    rcases List.mem_cons.mp hk with rfl | hk
    · obtain ⟨a, ha, hc⟩ := hmet
      exact ⟨source, target, hsource, htarget, a, h.kept a ha, hc⟩
    · exact h.met k hk
  free := h.free

/-- A listed record is written where it conflicts with none. -/
theorem VotesTaken.write {root : Option Bytes}
    (h : VotesTaken rest (old ++ [⟨source, target, root⟩]) new) (hforward : l.source ≤ l.target)
    (hsource : Stored.ofUInt64 l.source = .ok source)
    (htarget : Stored.ofUInt64 l.target = .ok target) (hroot : root = l.root.map (·.bytes))
    (hfree : ∀ a ∈ old, a.conflicts source target = false) : VotesTaken (l :: rest) old new where
  kept := fun x hx => h.kept x (List.mem_append_left _ hx)
  added := by
    intro x hx
    rcases h.added x hx with hold | ⟨k, hk, hrec⟩
    · rcases List.mem_append.mp hold with hold | hnew
      · exact .inl hold
      · rw [List.mem_singleton.mp hnew]
        exact .inr ⟨l, List.mem_cons_self, hsource, htarget, hroot⟩
    · exact .inr ⟨k, List.mem_cons_of_mem _ hk, hrec⟩
  forward := by
    intro k hk
    rcases List.mem_cons.mp hk with rfl | hk
    · exact hforward
    · exact h.forward k hk
  met := by
    intro k hk
    rcases List.mem_cons.mp hk with rfl | hk
    · exact ⟨source, target, hsource, htarget, _,
        h.kept _ (List.mem_append_right _ List.mem_cons_self),
        Validator.conflicts_iff.mpr (.inl rfl)⟩
    · exact h.met k hk
  free := fun ho => h.free (ho.concat
    ((Stored.stored_le hsource htarget).mpr hforward) hfree)

end Vote

theorem importAttestations_taken {key : SignerId} {listed : List SignedAttestation}
    {v v' : Validator} {index m n : Nat}
    (h : importAttestations key index listed v = .ok (m, n, v')) :
    ∃ as, v' = { v with attestations := as } ∧ VotesTaken listed v.attestations as := by
  induction listed generalizing v index m n with
  | nil =>
      obtain ⟨_, _, rfl⟩ : 0 = m ∧ 0 = n ∧ v = v' := by simpa [importAttestations] using h
      exact ⟨v.attestations, rfl, .nil _⟩
  | cons l rest ih =>
      rw [importAttestations] at h
      by_cases hback : l.target < l.source
      · rw [if_pos hback] at h
        exact absurd h (by simp)
      · rw [if_neg hback] at h
        have hforward : l.source ≤ l.target := UInt64.not_lt.mp hback
        obtain ⟨source, hsource, h⟩ := bind_eq_ok.mp h
        obtain ⟨target, htarget, h⟩ := bind_eq_ok.mp h
        obtain ⟨found, hfound, h⟩ := bind_eq_ok.mp h
        have hnil := Validator.findConflicts_nil_iff hfound
        cases found with
        | nil =>
            obtain ⟨u, hu, h⟩ := bind_eq_ok.mp h
            obtain rfl := Validator.insertAttestation_ok hu
            obtain ⟨⟨m', n', u⟩, hrest, h⟩ := bind_eq_ok.mp h
            obtain ⟨_, _, rfl⟩ : m' + 1 = m ∧ n' = n ∧ u = v' := by
              simpa using pure_eq_ok.mp h
            obtain ⟨as, rfl, htaken⟩ := ih hrest
            exact ⟨as, rfl, htaken.write hforward hsource htarget rfl (hnil.mp rfl)⟩
        | cons c cs =>
            obtain ⟨⟨m', n', u⟩, hrest, h⟩ := bind_eq_ok.mp h
            obtain ⟨_, _, rfl⟩ : m' = m ∧ n' + 1 = n ∧ u = v' := by
              simpa using pure_eq_ok.mp h
            obtain ⟨as, rfl, htaken⟩ := ih hrest
            have hmet : ∃ a ∈ v.attestations, a.conflicts source target = true := by
              have hnot := mt hnil.mpr (by simp)
              simpa using hnot
            exact ⟨as, rfl, htaken.skip hforward hsource htarget hmet⟩

/-! ## The watermark -/

/-- The largest of several numbers is one of them and none is larger. -/
theorem maximum?_spec {ns : List UInt64} {m : UInt64} (h : maximum? ns = some m) :
    m ∈ ns ∧ ∀ n ∈ ns, n ≤ m := by
  induction ns generalizing m with
  | nil => exact absurd h (by simp [maximum?])
  | cons n rest ih =>
      cases hr : maximum? rest with
      | none =>
          obtain rfl : rest = [] := by
            cases rest with
            | nil => rfl
            | cons k ks => exact absurd hr (by simp [maximum?])
          obtain rfl : n = m := by simpa [maximum?] using h
          simp
      | some k =>
          obtain ⟨hk, hmax⟩ := ih hr
          by_cases hlt : n < k
          · obtain rfl : k = m := by simpa [maximum?, hr, hlt] using h
            refine ⟨List.mem_cons_of_mem _ hk, fun x hx => ?_⟩
            rcases List.mem_cons.mp hx with rfl | hx
            · exact UInt64.le_of_lt hlt
            · exact hmax x hx
          · obtain rfl : n = m := by simpa [maximum?, hr, hlt] using h
            refine ⟨List.mem_cons_self, fun x hx => ?_⟩
            rcases List.mem_cons.mp hx with rfl | hx
            · exact UInt64.le_refl _
            · exact UInt64.le_trans (hmax x hx) (UInt64.not_lt.mp hlt)

theorem maximum?_eq_none {ns : List UInt64} (h : maximum? ns = none) : ns = [] := by
  cases ns with
  | nil => rfl
  | cons n rest => exact absurd h (by simp [maximum?])

/-- The slot rises to at least every listed one. -/
theorem raiseSlot_ok {h : History} {v v' : Validator} (hr : h.raiseSlot v = .ok v') :
    h.blocks = [] ∧ v' = v ∨
    ∃ m, Stored.InRange m ∧ v' = v.raiseSlot m ∧
      ∀ l ∈ h.blocks, ∀ slot, Stored.ofUInt64 l.slot = .ok slot → slot ≤ m := by
  unfold raiseSlot at hr
  cases hmax : maximum? (h.blocks.map (·.slot)) with
  | none =>
      rw [hmax] at hr
      exact .inl ⟨List.map_eq_nil_iff.mp (maximum?_eq_none hmax), (Except.ok.inj hr).symm⟩
  | some top =>
      rw [hmax] at hr
      obtain ⟨m, hm, hr⟩ := bind_eq_ok.mp hr
      refine .inr ⟨m, Stored.inRange_of_stored hm, (pure_eq_ok.mp hr).symm, ?_⟩
      intro l hl slot hslot
      exact (Stored.stored_le hslot hm).mpr
        ((maximum?_spec hmax).2 _ (List.mem_map_of_mem hl))

/-- The epochs rise to at least every listed one. -/
theorem raiseEpochs_ok {h : History} {v v' : Validator} (hr : h.raiseEpochs v = .ok v')
    (hforward : ∀ l ∈ h.attestations, l.source ≤ l.target) :
    h.attestations = [] ∧ v' = v ∨
    ∃ s t, Stored.InRange s ∧ Stored.InRange t ∧ s ≤ t ∧ v' = v.raiseEpochs s t ∧
      ∀ l ∈ h.attestations, ∀ source target, Stored.ofUInt64 l.source = .ok source →
        Stored.ofUInt64 l.target = .ok target → source ≤ s ∧ target ≤ t := by
  unfold raiseEpochs at hr
  cases hs : maximum? (h.attestations.map (·.source)) with
  | none =>
      rw [hs] at hr
      exact .inl ⟨List.map_eq_nil_iff.mp (maximum?_eq_none hs), (Except.ok.inj hr).symm⟩
  | some topSource =>
      cases ht : maximum? (h.attestations.map (·.target)) with
      | none =>
          rw [hs, ht] at hr
          exact .inl ⟨List.map_eq_nil_iff.mp (maximum?_eq_none ht), (Except.ok.inj hr).symm⟩
      | some topTarget =>
          rw [hs, ht] at hr
          obtain ⟨s, hs', hr⟩ := bind_eq_ok.mp hr
          obtain ⟨t, ht', hr⟩ := bind_eq_ok.mp hr
          -- the largest source is of some listed vote, which does not run backwards
          have hordered : topSource ≤ topTarget := by
            obtain ⟨l, hl, rfl⟩ := List.mem_map.mp (maximum?_spec hs).1
            exact UInt64.le_trans (hforward l hl)
              ((maximum?_spec ht).2 _ (List.mem_map_of_mem hl))
          refine .inr ⟨s, t, Stored.inRange_of_stored hs', Stored.inRange_of_stored ht',
            (Stored.stored_le hs' ht').mpr hordered, (pure_eq_ok.mp hr).symm, ?_⟩
          intro l hl source target hsource htarget
          exact ⟨(Stored.stored_le hsource hs').mpr
              ((maximum?_spec hs).2 _ (List.mem_map_of_mem hl)),
            (Stored.stored_le htarget ht').mpr
              ((maximum?_spec ht).2 _ (List.mem_map_of_mem hl))⟩

/-! ## The whole history -/

section Step

variable {h : History} {v u v' : Validator} {m n : Nat}

theorem blocks_step (hv : v.Sound) (hblocks : importBlocks h.blocks v = .ok (m, n, u))
    (hraise : h.raiseSlot u = .ok v') :
    v'.Sound ∧ v.Keeps v' ∧
    ∀ l ∈ h.blocks, ∃ slot, Stored.ofUInt64 l.slot = .ok slot ∧
      v'.ClosedSlot (fun _ => True) slot := by
  -- nothing listed, nothing to do; else the mark rises over all that was written
  rcases raiseSlot_ok hraise with ⟨hnil, rfl⟩ | ⟨top, htop, rfl, hmax⟩
  · rw [hnil] at hblocks ⊢
    obtain ⟨_, _, rfl⟩ : 0 = m ∧ 0 = n ∧ v = v' := by simpa [importBlocks] using hblocks
    exact ⟨hv, .refl v, by simp⟩
  · obtain ⟨bs, rfl, htaken⟩ := importBlocks_taken hblocks
    refine ⟨hv.withBlocks (htaken.distinct hv.slots_distinct) ?_ ?_ htop,
      ⟨(Validator.advances_withRecords (fun b hb => .inl (htaken.kept b hb))
        fun a ha => .inl ha).trans (Validator.advances_raiseSlot _ top), fun a ha => ha⟩, ?_⟩
    · intro b hb
      rcases htaken.added b hb with hold | ⟨l, _, hslot, hroot⟩
      · exact hv.blocks_readable b hold
      · exact ⟨Stored.inRange_of_stored hslot, hroot ▸ Stored.rootOk_of_root l.root⟩
    · intro b hb
      rcases htaken.added b hb with hold | ⟨l, hl, hslot, _⟩
      · exact .inl hold
      · exact .inr (hmax l hl b.slot hslot)
    · intro l hl
      obtain ⟨b, hb, hslot⟩ := htaken.held l hl
      exact ⟨b.slot, hslot, _, Validator.slotMark_raiseSlot _ top,
        Int.le_trans (hmax l hl _ hslot) (Stored.le_raise _ top), .inr ⟨b, hb, rfl, trivial⟩⟩

theorem votes_step {index : Nat} (hv : v.Sound)
    (hvotes : importAttestations h.key index h.attestations v = .ok (m, n, u))
    (hraise : h.raiseEpochs u = .ok v') :
    v'.Sound ∧ v.Keeps v' ∧
    ∀ l ∈ h.attestations, ∃ source target, Stored.ofUInt64 l.source = .ok source ∧
      Stored.ofUInt64 l.target = .ok target ∧ v'.Reached source target ∧
      ∃ a ∈ v'.attestations, a.conflicts source target = true := by
  obtain ⟨as, hu, htaken⟩ := importAttestations_taken hvotes
  rcases raiseEpochs_ok hraise htaken.forward with ⟨hnil, rfl⟩ | ⟨s, t, hs, ht, hst, rfl, hmax⟩
  · rw [hnil] at hvotes ⊢
    obtain ⟨_, _, rfl⟩ : 0 = m ∧ 0 = n ∧ v = v' := by simpa [importAttestations] using hvotes
    exact ⟨hv, .refl v, by simp⟩
  · subst hu
    refine ⟨hv.withVotes (htaken.free hv.votes_free) ?_ ?_ hs ht hst,
      ⟨(Validator.advances_withRecords (fun b hb => .inl hb)
        fun a ha => .inl (htaken.kept a ha)).trans (Validator.advances_raiseEpochs _ s t),
        htaken.kept⟩, ?_⟩
    · intro a ha
      rcases htaken.added a ha with hold | ⟨l, _, hsource, htarget, hroot⟩
      · exact hv.votes_readable a hold
      · exact ⟨Stored.inRange_of_stored hsource, Stored.inRange_of_stored htarget,
          hroot ▸ Stored.rootOk_of_root l.root⟩
    · intro a ha
      rcases htaken.added a ha with hold | ⟨l, hl, hsource, htarget, _⟩
      · exact .inl hold
      · exact .inr (hmax l hl _ _ hsource htarget)
    · intro l hl
      obtain ⟨source, target, hsource, htarget, hmet⟩ := htaken.met l hl
      obtain ⟨hs', ht'⟩ := hmax l hl _ _ hsource htarget
      exact ⟨source, target, hsource, htarget,
        ⟨⟨_, Validator.sourceMark_raiseEpochs _ s t, Int.le_trans hs' (Stored.le_raise _ s)⟩,
          _, Validator.targetMark_raiseEpochs _ s t, Int.le_trans ht' (Stored.le_raise _ t)⟩,
        hmet⟩

end Step

/-- What a history leaves behind on the row of its validator. -/
structure Taken (h : History) (v : Validator) : Prop where
  blocks : ∀ l ∈ h.blocks, ∃ slot, Stored.ofUInt64 l.slot = .ok slot ∧
    v.ClosedSlot (fun _ => True) slot
  votes : ∀ l ∈ h.attestations, ∃ source target, Stored.ofUInt64 l.source = .ok source ∧
    Stored.ofUInt64 l.target = .ok target ∧ v.Reached source target ∧
    (v.ClosedTarget (fun _ => True) target ∨
      ∃ a ∈ v.attestations, source < a.source ∧ a.target < target)

/-- A record that a listed vote conflicts with closes its target, unless the
vote surrounds the record. -/
theorem closed_of_conflicts {v : Validator} (hv : v.Consistent) {source target : Int}
    (hr : v.Reached source target) {a : StoredAttestation} (ha : a ∈ v.attestations)
    (hc : a.conflicts source target = true) :
    v.ClosedTarget (fun _ => True) target ∨
      ∃ a ∈ v.attestations, source < a.source ∧ a.target < target := by
  obtain ⟨_, t, ht, hle⟩ := hr
  rcases Validator.conflicts_iff.mp hc with heq | ⟨_, hlt⟩ | hsurround
  · exact .inl ⟨t, ht, hle, .inr ⟨a, ha, heq, trivial⟩⟩
  · -- the record surrounds the vote, so its own target is marked, further up
    obtain ⟨_, t', ht', hle'⟩ := hv.votes_marked a ha
    obtain rfl : t = t' := Option.some.inj (ht.symm.trans ht')
    exact .inl ⟨t, ht, hle, .inl (Int.lt_of_lt_of_le hlt hle')⟩
  · exact .inr ⟨a, ha, hsurround⟩

theorem Taken.keep {h : History} {v v' : Validator} (hk : v.Keeps v') (ht : h.Taken v) :
    h.Taken v' where
  blocks := by
    intro l hl
    obtain ⟨slot, hslot, hc⟩ := ht.blocks l hl
    exact ⟨slot, hslot, hc.advance hk.toAdvances⟩
  votes := by
    intro l hl
    obtain ⟨source, target, hsource, htarget, hreached, hor⟩ := ht.votes l hl
    refine ⟨source, target, hsource, htarget, hreached.advance hk.toAdvances, ?_⟩
    rcases hor with hc | ⟨a, ha, hsurround⟩
    · exact .inl (hc.advance hk.toAdvances)
    · exact .inr ⟨a, hk.kept a ha, hsurround⟩

/-- Taking in a history keeps a validator sound, removes nothing, and leaves
every listed record behind. -/
theorem importTo_step {h : History} {v v' : Validator} {summary : ImportSummary} (hv : v.Sound)
    (hr : h.importTo v = .ok (summary, v')) : v'.Sound ∧ v.Keeps v' ∧ h.Taken v' := by
  obtain ⟨⟨m, n, v₁⟩, hblocks, hr⟩ := bind_eq_ok.mp hr
  obtain ⟨v₂, hslot, hr⟩ := bind_eq_ok.mp hr
  obtain ⟨⟨m', n', v₃⟩, hvotes, hr⟩ := bind_eq_ok.mp hr
  obtain ⟨v₄, hepochs, hr⟩ := bind_eq_ok.mp hr
  obtain ⟨_, rfl⟩ := Prod.mk.inj (pure_eq_ok.mp hr)
  obtain ⟨hv₂, hkeep₂, hclosed⟩ := blocks_step hv hblocks hslot
  obtain ⟨hv₄, hkeep₄, hmet⟩ := votes_step hv₂ hvotes hepochs
  refine ⟨hv₄, hkeep₂.trans hkeep₄, ⟨?_, ?_⟩⟩
  · intro l hl
    obtain ⟨slot, hslot, hc⟩ := hclosed l hl
    exact ⟨slot, hslot, hc.advance hkeep₄.toAdvances⟩
  · intro l hl
    obtain ⟨source, target, hsource, htarget, hreached, a, ha, hc⟩ := hmet l hl
    exact ⟨source, target, hsource, htarget, hreached,
      closed_of_conflicts hv₄.toConsistent hreached ha hc⟩

end History

end RemoteSigner
