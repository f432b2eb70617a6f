import RemoteSigner.Proofs.Protection.Stored

/-!
# Consistent validators

What the store keeps true of one validator, and how its row may change:

* `Consistent` — one block for a slot, one attestation for a target, no vote
  that runs backwards or surrounds another, and watermarks that are set and no
  lower than anything on record;
* `Readable` — every number and root can be read;
* `Sound` — both of these, and the source of the watermark is never ahead of its
  target;
* `Advances` — watermarks are only raised, and a record only goes if its slot
  or target is strictly below the watermark afterwards;
* `ClosedSlot`, `Reached`, `ClosedTarget` — what a signed message leaves behind.
  They survive every advance, which is why history may be pruned.
-/

namespace RemoteSigner

namespace Validator

/-! ## The three parts of the watermark -/

/-- The slot of the watermark. -/
def slotMark (v : Validator) : Option Int :=
  v.watermark.bind (·.slot)

/-- The source epoch of the watermark. -/
def sourceMark (v : Validator) : Option Int :=
  v.watermark.bind (·.source)

/-- The target epoch of the watermark. -/
def targetMark (v : Validator) : Option Int :=
  v.watermark.bind (·.target)

section Marks

variable (v : Validator) (m s t : Int)

@[simp] theorem slotMark_raiseSlot :
    (v.raiseSlot m).slotMark = some (Stored.raise v.slotMark m) := by
  cases h : v.watermark <;> simp [raiseSlot, slotMark, h]

@[simp] theorem sourceMark_raiseSlot : (v.raiseSlot m).sourceMark = v.sourceMark := by
  cases h : v.watermark <;> simp [raiseSlot, sourceMark, h]

@[simp] theorem targetMark_raiseSlot : (v.raiseSlot m).targetMark = v.targetMark := by
  cases h : v.watermark <;> simp [raiseSlot, targetMark, h]

@[simp] theorem slotMark_raiseEpochs : (v.raiseEpochs s t).slotMark = v.slotMark := by
  cases h : v.watermark <;> simp [raiseEpochs, slotMark, h]

@[simp] theorem sourceMark_raiseEpochs :
    (v.raiseEpochs s t).sourceMark = some (Stored.raise v.sourceMark s) := by
  cases h : v.watermark <;> simp [raiseEpochs, sourceMark, h]

@[simp] theorem targetMark_raiseEpochs :
    (v.raiseEpochs s t).targetMark = some (Stored.raise v.targetMark t) := by
  cases h : v.watermark <;> simp [raiseEpochs, targetMark, h]

theorem raiseSlot_of_reached {v : Validator} {m : Int} (h : ∃ w ∈ v.slotMark, m ≤ w) :
    v.raiseSlot m = v := by
  obtain ⟨w, hw, hle⟩ := h
  obtain ⟨⟨_, source, target⟩, hmarks, rfl⟩ := Option.bind_eq_some_iff.mp hw
  cases v
  cases hmarks
  simp [raiseSlot, Stored.raise_of_le rfl hle]

theorem raiseEpochs_of_reached {v : Validator} {s t : Int} (hs : ∃ w ∈ v.sourceMark, s ≤ w)
    (ht : ∃ w ∈ v.targetMark, t ≤ w) : v.raiseEpochs s t = v := by
  obtain ⟨w, hw, hle⟩ := hs
  obtain ⟨x, hx, hle'⟩ := ht
  obtain ⟨⟨slot, _, target⟩, hmarks, rfl⟩ := Option.bind_eq_some_iff.mp hw
  obtain rfl : target = some x := by simpa [targetMark, hmarks] using hx
  cases v
  cases hmarks
  simp [raiseEpochs, Stored.raise_of_le rfl hle, Stored.raise_of_le rfl hle']

end Marks

/-! ## The invariant -/

/-- Votes none of which runs backwards and no two of which share a target or
surround each other. -/
structure ConflictFree (as : List StoredAttestation) : Prop where
  targets_distinct : (as.map (·.target)).Nodup
  forward : ∀ a ∈ as, a.source ≤ a.target
  no_surround : ∀ a ∈ as, ∀ b ∈ as, ¬ (a.source < b.source ∧ b.target < a.target)

/-- What holds of a validator between any two operations. -/
structure Consistent (v : Validator) : Prop where
  slots_distinct : (v.blocks.map (·.slot)).Nodup
  votes_free : ConflictFree v.attestations
  blocks_marked : ∀ b ∈ v.blocks, ∃ w ∈ v.slotMark, b.slot ≤ w
  votes_marked : ∀ a ∈ v.attestations,
    (∃ s ∈ v.sourceMark, a.source ≤ s) ∧ ∃ t ∈ v.targetMark, a.target ≤ t

/-- A validator all of whose columns can be read: every number is one that a
column holds and that is not negative, every root has its length. -/
structure Readable (v : Validator) : Prop where
  blocks_readable : ∀ b ∈ v.blocks, Stored.InRange b.slot ∧ Stored.RootOk b.root
  votes_readable : ∀ a ∈ v.attestations,
    Stored.InRange a.source ∧ Stored.InRange a.target ∧ Stored.RootOk a.root
  slotMark_inRange : ∀ w ∈ v.slotMark, Stored.InRange w
  sourceMark_inRange : ∀ s ∈ v.sourceMark, Stored.InRange s
  targetMark_inRange : ∀ t ∈ v.targetMark, Stored.InRange t

theorem Readable.raiseSlot {v : Validator} (h : v.Readable) {slot : Int}
    (hslot : Stored.InRange slot) :
    (v.raiseSlot slot).Readable where
  blocks_readable := h.blocks_readable
  votes_readable := h.votes_readable
  slotMark_inRange := by
    intro w hw
    rw [slotMark_raiseSlot] at hw
    cases hw
    exact Stored.raise_inRange h.slotMark_inRange hslot
  sourceMark_inRange := by
    rw [sourceMark_raiseSlot]
    exact h.sourceMark_inRange
  targetMark_inRange := by
    rw [targetMark_raiseSlot]
    exact h.targetMark_inRange

theorem Readable.raiseEpochs {v : Validator} (h : v.Readable) {source target : Int}
    (hsource : Stored.InRange source) (htarget : Stored.InRange target) :
    (v.raiseEpochs source target).Readable where
  blocks_readable := h.blocks_readable
  votes_readable := h.votes_readable
  slotMark_inRange := by
    rw [slotMark_raiseEpochs]
    exact h.slotMark_inRange
  sourceMark_inRange := by
    intro w hw
    rw [sourceMark_raiseEpochs] at hw
    cases hw
    exact Stored.raise_inRange h.sourceMark_inRange hsource
  targetMark_inRange := by
    intro w hw
    rw [targetMark_raiseEpochs] at hw
    cases hw
    exact Stored.raise_inRange h.targetMark_inRange htarget

/-- Other records that can be read leave a validator readable. -/
theorem Readable.withRecords {v : Validator} (h : v.Readable) {bs : List StoredBlock}
    {as : List StoredAttestation} {enabled : Bool}
    (hbs : ∀ b ∈ bs, b ∈ v.blocks ∨ Stored.InRange b.slot ∧ Stored.RootOk b.root)
    (has : ∀ a ∈ as, a ∈ v.attestations ∨
      Stored.InRange a.source ∧ Stored.InRange a.target ∧ Stored.RootOk a.root) :
    ({ v with blocks := bs, attestations := as, enabled := enabled } : Validator).Readable where
  blocks_readable := fun b hb => (hbs b hb).elim (h.blocks_readable b) id
  votes_readable := fun a ha => (has a ha).elim (h.votes_readable a) id
  slotMark_inRange := h.slotMark_inRange
  sourceMark_inRange := h.sourceMark_inRange
  targetMark_inRange := h.targetMark_inRange

/-- A consistent validator all of whose columns can be read, and whose epochs
were raised together. -/
structure Sound (v : Validator) : Prop extends Consistent v, Readable v where
  epochs_ordered : v.sourceMark = none ∧ v.targetMark = none ∨
    ∃ s ∈ v.sourceMark, ∃ t ∈ v.targetMark, s ≤ t

theorem sound_fresh (key : SignerId) : (fresh key).Sound where
  slots_distinct := List.nodup_nil
  votes_free := ⟨List.nodup_nil, by simp [fresh], by simp [fresh]⟩
  blocks_marked := by simp [fresh]
  votes_marked := by simp [fresh]
  blocks_readable := by simp [fresh]
  votes_readable := by simp [fresh]
  slotMark_inRange := by simp [fresh, slotMark]
  sourceMark_inRange := by simp [fresh, sourceMark]
  targetMark_inRange := by simp [fresh, targetMark]
  epochs_ordered := .inl ⟨rfl, rfl⟩

/-- Replace the block records and raise the slot of the watermark over those
that are new. -/
theorem Sound.withBlocks {v : Validator} (h : v.Sound) {bs : List StoredBlock} {m : Int}
    (hdistinct : (bs.map (·.slot)).Nodup)
    (hreadable : ∀ b ∈ bs, Stored.InRange b.slot ∧ Stored.RootOk b.root)
    (hnew : ∀ b ∈ bs, b ∈ v.blocks ∨ b.slot ≤ m) (hm : Stored.InRange m) :
    ({ v with blocks := bs }.raiseSlot m).Sound where
  slots_distinct := hdistinct
  votes_free := h.votes_free
  blocks_marked := by
    intro b hb
    rw [slotMark_raiseSlot]
    refine ⟨_, rfl, ?_⟩
    -- an old record is below the mark as it was, a new one below `m`
    rcases hnew b hb with hold | hle
    · obtain ⟨w, hw, hle⟩ := h.blocks_marked b hold
      exact Int.le_trans hle (Stored.old_le_raise hw m)
    · exact Int.le_trans hle (Stored.le_raise _ m)
  votes_marked := by
    intro a ha
    rw [sourceMark_raiseSlot, targetMark_raiseSlot]
    exact h.votes_marked a ha
  toReadable :=
    (h.toReadable.withRecords (fun b hb => .inr (hreadable b hb)) fun _ ha => .inl ha).raiseSlot hm
  epochs_ordered := by
    rw [sourceMark_raiseSlot, targetMark_raiseSlot]
    exact h.epochs_ordered

theorem Sound.raiseSlot {v : Validator} (h : v.Sound) {m : Int} (hm : Stored.InRange m) :
    (v.raiseSlot m).Sound :=
  h.withBlocks h.slots_distinct h.blocks_readable (fun _ hb => .inl hb) hm

/-- Epochs raised together stay in order. -/
theorem raise_le_raise {old₁ old₂ : Option Int} {s t : Int} (hst : s ≤ t)
    (h : old₁ = none ∧ old₂ = none ∨ ∃ i ∈ old₁, ∃ j ∈ old₂, i ≤ j) :
    Stored.raise old₁ s ≤ Stored.raise old₂ t := by
  rcases h with ⟨rfl, rfl⟩ | ⟨i, hi, j, hj, hij⟩
  · exact hst
  · have hs := Stored.raise_eq old₁ s
    have ht := Stored.le_raise old₂ t
    have hj' := Stored.old_le_raise hj t
    cases hi
    rcases hs with hs | hs
    · omega
    · have := Option.some.inj hs
      omega

/-- Replace the attestation records and raise the epochs of the watermark over
those that are new. -/
theorem Sound.withVotes {v : Validator} (h : v.Sound) {as : List StoredAttestation} {s t : Int}
    (hfree : ConflictFree as)
    (hreadable : ∀ a ∈ as,
      Stored.InRange a.source ∧ Stored.InRange a.target ∧ Stored.RootOk a.root)
    (hnew : ∀ a ∈ as, a ∈ v.attestations ∨ a.source ≤ s ∧ a.target ≤ t)
    (hs : Stored.InRange s) (ht : Stored.InRange t) (hst : s ≤ t) :
    ({ v with attestations := as }.raiseEpochs s t).Sound where
  slots_distinct := h.slots_distinct
  votes_free := hfree
  blocks_marked := by
    intro b hb
    rw [slotMark_raiseEpochs]
    exact h.blocks_marked b hb
  votes_marked := by
    intro a ha
    rw [sourceMark_raiseEpochs, targetMark_raiseEpochs]
    refine ⟨⟨_, rfl, ?_⟩, ⟨_, rfl, ?_⟩⟩
    · rcases hnew a ha with hold | ⟨hle, _⟩
      · obtain ⟨⟨w, hw, hle⟩, _⟩ := h.votes_marked a hold
        exact Int.le_trans hle (Stored.old_le_raise hw s)
      · exact Int.le_trans hle (Stored.le_raise _ s)
    · rcases hnew a ha with hold | ⟨_, hle⟩
      · obtain ⟨_, w, hw, hle⟩ := h.votes_marked a hold
        exact Int.le_trans hle (Stored.old_le_raise hw t)
      · exact Int.le_trans hle (Stored.le_raise _ t)
  toReadable :=
    (h.toReadable.withRecords (fun _ hb => .inl hb) fun a ha => .inr (hreadable a ha)).raiseEpochs
      hs ht
  epochs_ordered := by
    rw [sourceMark_raiseEpochs, targetMark_raiseEpochs]
    exact .inr ⟨_, rfl, _, rfl, raise_le_raise hst h.epochs_ordered⟩

theorem Sound.raiseEpochs {v : Validator} (h : v.Sound) {s t : Int} (hs : Stored.InRange s)
    (ht : Stored.InRange t) (hst : s ≤ t) : (v.raiseEpochs s t).Sound :=
  h.withVotes h.votes_free h.votes_readable (fun _ ha => .inl ha) hs ht hst

/-- Nothing that has to hold of a validator depends on its being enabled. -/
theorem Sound.withEnabled {v : Validator} (h : v.Sound) (enabled : Bool) :
    ({ v with enabled := enabled } : Validator).Sound :=
  ⟨⟨h.slots_distinct, h.votes_free, h.blocks_marked, h.votes_marked⟩,
    h.toReadable.withRecords (fun _ hb => .inl hb) fun _ ha => .inl ha, h.epochs_ordered⟩

/-! ## New records -/

theorem conflicts_iff {source target : Int} {a : StoredAttestation} :
    a.conflicts source target = true ↔
      a.target = target ∨ (a.source < source ∧ target < a.target) ∨
        (source < a.source ∧ a.target < target) := by
  simp [StoredAttestation.conflicts, or_assoc]

theorem target_ne_of_not_conflicts {source target : Int} {a : StoredAttestation}
    (h : a.conflicts source target = false) : a.target ≠ target := by
  intro heq
  rw [conflicts_iff.mpr (.inl heq)] at h
  exact absurd h (by simp)

/-- A record whose key is new may join records of different keys. -/
theorem distinct_concat {α β : Type} {key : α → β} {xs : List α} (h : (xs.map key).Nodup) {a : α}
    (hfree : ∀ x ∈ xs, key x ≠ key a) : ((xs ++ [a]).map key).Nodup := by
  rw [List.map_append, List.nodup_append]
  refine ⟨h, by simp, ?_⟩
  intro i hi j hj
  obtain ⟨x, hx, rfl⟩ := List.mem_map.mp hi
  obtain rfl : j = key a := by simpa using hj
  exact hfree x hx

/-- A vote that conflicts with none of the others may join them. -/
theorem ConflictFree.concat {as : List StoredAttestation} (h : ConflictFree as)
    {a : StoredAttestation} (hforward : a.source ≤ a.target)
    (hfree : ∀ x ∈ as, x.conflicts a.source a.target = false) : ConflictFree (as ++ [a]) where
  targets_distinct := distinct_concat h.targets_distinct fun x hx =>
    target_ne_of_not_conflicts (hfree x hx)
  forward := by
    intro x hx
    rcases List.mem_append.mp hx with hx | hx
    · exact h.forward x hx
    · rw [List.mem_singleton.mp hx]
      exact hforward
  no_surround := by
    -- a vote that surrounds the new one, or is surrounded by it, conflicts with it
    intro x hx y hy hsurround
    rcases List.mem_append.mp hx with hx | hx
    · rcases List.mem_append.mp hy with hy | hy
      · exact h.no_surround x hx y hy hsurround
      · rw [List.mem_singleton.mp hy] at hsurround
        exact absurd (conflicts_iff.mpr (.inr (.inl hsurround))) (by simp [hfree x hx])
    · rw [List.mem_singleton.mp hx] at hsurround
      rcases List.mem_append.mp hy with hy | hy
      · exact absurd (conflicts_iff.mpr (.inr (.inr hsurround))) (by simp [hfree y hy])
      · rw [List.mem_singleton.mp hy] at hsurround
        omega

/-! ## Advances -/

/-- How the row of a validator may change from one operation to the next. -/
structure Advances (v v' : Validator) : Prop where
  key_eq : v'.key = v.key
  slot : Raised v.slotMark v'.slotMark
  source : Raised v.sourceMark v'.sourceMark
  target : Raised v.targetMark v'.targetMark
  blocks : ∀ b ∈ v.blocks, b ∈ v'.blocks ∨ ∃ w ∈ v'.slotMark, b.slot < w
  votes : ∀ a ∈ v.attestations, a ∈ v'.attestations ∨ ∃ w ∈ v'.targetMark, a.target < w

theorem Advances.refl (v : Validator) : v.Advances v :=
  ⟨rfl, .refl _, .refl _, .refl _, fun _ hb => .inl hb, fun _ ha => .inl ha⟩

theorem Advances.trans {u v w : Validator} (huv : u.Advances v) (hvw : v.Advances w) :
    u.Advances w where
  key_eq := hvw.key_eq.trans huv.key_eq
  slot := huv.slot.trans hvw.slot
  source := huv.source.trans hvw.source
  target := huv.target.trans hvw.target
  blocks := by
    intro b hb
    rcases huv.blocks b hb with hb' | ⟨m, hm, hlt⟩
    · exact hvw.blocks b hb'
    · obtain ⟨n, hn, hle⟩ := hvw.slot m hm
      exact .inr ⟨n, hn, Int.lt_of_lt_of_le hlt hle⟩
  votes := by
    intro a ha
    rcases huv.votes a ha with ha' | ⟨m, hm, hlt⟩
    · exact hvw.votes a ha'
    · obtain ⟨n, hn, hle⟩ := hvw.target m hm
      exact .inr ⟨n, hn, Int.lt_of_lt_of_le hlt hle⟩

theorem advances_raiseSlot (v : Validator) (m : Int) : v.Advances (v.raiseSlot m) where
  key_eq := rfl
  slot := by rw [slotMark_raiseSlot]; exact .raise _ m
  source := by rw [sourceMark_raiseSlot]; exact .refl _
  target := by rw [targetMark_raiseSlot]; exact .refl _
  blocks := fun _ hb => .inl hb
  votes := fun _ ha => .inl ha

theorem advances_raiseEpochs (v : Validator) (s t : Int) : v.Advances (v.raiseEpochs s t) where
  key_eq := rfl
  slot := by rw [slotMark_raiseEpochs]; exact .refl _
  source := by rw [sourceMark_raiseEpochs]; exact .raise _ s
  target := by rw [targetMark_raiseEpochs]; exact .raise _ t
  blocks := fun _ hb => .inl hb
  votes := fun _ ha => .inl ha

theorem advances_withEnabled (v : Validator) (enabled : Bool) :
    v.Advances { v with enabled := enabled } :=
  ⟨rfl, .refl _, .refl _, .refl _, fun _ hb => .inl hb, fun _ ha => .inl ha⟩

/-- Records may be added, and removed below the watermark. -/
theorem advances_withRecords {v : Validator} {bs : List StoredBlock}
    {as : List StoredAttestation}
    (hb : ∀ b ∈ v.blocks, b ∈ bs ∨ ∃ w ∈ v.slotMark, b.slot < w)
    (ha : ∀ a ∈ v.attestations, a ∈ as ∨ ∃ w ∈ v.targetMark, a.target < w) :
    v.Advances { v with blocks := bs, attestations := as } :=
  ⟨rfl, .refl _, .refl _, .refl _, hb, ha⟩

/-- An advance that removes no vote. -/
structure Keeps (v v' : Validator) : Prop extends Advances v v' where
  kept : ∀ a ∈ v.attestations, a ∈ v'.attestations

theorem Keeps.refl (v : Validator) : v.Keeps v :=
  ⟨.refl v, fun _ ha => ha⟩

theorem Keeps.trans {u v w : Validator} (huv : u.Keeps v) (hvw : v.Keeps w) : u.Keeps w :=
  ⟨huv.toAdvances.trans hvw.toAdvances, fun a ha => hvw.kept a (huv.kept a ha)⟩

/-! ## What signed messages leave behind -/

/-- Nothing is signed at a slot any more but the record there, if it satisfies
`p`: the watermark has reached the slot, and passed it if there is no such
record. -/
def ClosedSlot (v : Validator) (p : StoredBlock → Prop) (slot : Int) : Prop :=
  ∃ w ∈ v.slotMark, slot ≤ w ∧ (slot < w ∨ ∃ b ∈ v.blocks, b.slot = slot ∧ p b)

/-- The watermark has reached both epochs of a vote. -/
def Reached (v : Validator) (source target : Int) : Prop :=
  (∃ s ∈ v.sourceMark, source ≤ s) ∧ ∃ t ∈ v.targetMark, target ≤ t

/-- Nothing is signed for a target any more but the record there, if it
satisfies `p`. -/
def ClosedTarget (v : Validator) (p : StoredAttestation → Prop) (target : Int) : Prop :=
  ∃ t ∈ v.targetMark, target ≤ t ∧
    (target < t ∨ ∃ a ∈ v.attestations, a.target = target ∧ p a)

theorem ClosedSlot.advance {v v' : Validator} (h : v.Advances v') {p : StoredBlock → Prop}
    {slot : Int} (hc : v.ClosedSlot p slot) : v'.ClosedSlot p slot := by
  obtain ⟨w, hw, hle, hor⟩ := hc
  obtain ⟨w', hw', hww'⟩ := h.slot w hw
  refine ⟨w', hw', Int.le_trans hle hww', ?_⟩
  -- the record may be gone by then, but not before the watermark passed its slot
  rcases hor with hlt | ⟨b, hb, rfl, hp⟩
  · exact .inl (Int.lt_of_lt_of_le hlt hww')
  · rcases h.blocks b hb with hb' | ⟨m, hm, hlt⟩
    · exact .inr ⟨b, hb', rfl, hp⟩
    · obtain rfl : w' = m := Option.some.inj (hw'.symm.trans hm)
      exact .inl hlt

theorem Reached.advance {v v' : Validator} (h : v.Advances v') {source target : Int}
    (hr : v.Reached source target) : v'.Reached source target := by
  obtain ⟨⟨s, hs, hsle⟩, t, ht, htle⟩ := hr
  obtain ⟨s', hs', hss'⟩ := h.source s hs
  obtain ⟨t', ht', htt'⟩ := h.target t ht
  exact ⟨⟨s', hs', Int.le_trans hsle hss'⟩, t', ht', Int.le_trans htle htt'⟩

theorem ClosedTarget.advance {v v' : Validator} (h : v.Advances v')
    {p : StoredAttestation → Prop} {target : Int} (hc : v.ClosedTarget p target) :
    v'.ClosedTarget p target := by
  obtain ⟨w, hw, hle, hor⟩ := hc
  obtain ⟨w', hw', hww'⟩ := h.target w hw
  refine ⟨w', hw', Int.le_trans hle hww', ?_⟩
  rcases hor with hlt | ⟨a, ha, rfl, hp⟩
  · exact .inl (Int.lt_of_lt_of_le hlt hww')
  · rcases h.votes a ha with ha' | ⟨m, hm, hlt⟩
    · exact .inr ⟨a, ha', rfl, hp⟩
    · obtain rfl : w' = m := Option.some.inj (hw'.symm.trans hm)
      exact .inl hlt

end Validator

end RemoteSigner
