import RemoteSigner.Proofs.Protection.TwinRun

/-!
# Watermarks no higher than the records

The watermark of a sound validator is no lower than its records. It is `Exact`
if it is no higher either: each part of it is that of a record. Checks and
pruning keep it so, imports do if the votes they list are all on record
afterwards, and only a repair of the watermark may not. A watermark that is
exact can be told from the records.

* `MarkedBy` — the watermark is that of some of the given records;
* `Sound.signBlock_exact`, `Sound.signAttestation_exact`, `Twin.exact` — checks
  and pruning;
* `Interchange.importTo_exact` — imports, against the records at their end;
* `Engine.lossless_exact` — along every `Lossless` run;
* `Exact.twin` — exact validators of the same records are twins.
-/

namespace RemoteSigner

namespace Validator

variable {v v' : Validator} {high : HighWatermark} {bs bs' : List StoredBlock}
  {as as' : List StoredAttestation}

/-- Each part of the watermark is that of one of the given records. -/
structure MarkedBy (v : Validator) (bs : List StoredBlock) (as : List StoredAttestation) :
    Prop where
  slot : ∀ w ∈ v.slotMark, ∃ b ∈ bs, b.slot = w
  source : ∀ s ∈ v.sourceMark, ∃ a ∈ as, a.source = s
  target : ∀ t ∈ v.targetMark, ∃ a ∈ as, a.target = t

/-- Each part of the watermark is that of a record. -/
def Exact (v : Validator) : Prop :=
  v.MarkedBy v.blocks v.attestations

theorem markedBy_fresh (key : SignerId) : (fresh key).MarkedBy bs as :=
  ⟨by simp [fresh, slotMark], by simp [fresh, sourceMark], by simp [fresh, targetMark]⟩

namespace MarkedBy

theorem mono (h : v.MarkedBy bs as) (hb : ∀ b ∈ bs, b ∈ bs') (ha : ∀ a ∈ as, a ∈ as') :
    v.MarkedBy bs' as' where
  slot w hw := by
    obtain ⟨b, hmem, heq⟩ := h.slot w hw
    exact ⟨b, hb b hmem, heq⟩
  source s hs := by
    obtain ⟨a, hmem, heq⟩ := h.source s hs
    exact ⟨a, ha a hmem, heq⟩
  target t ht := by
    obtain ⟨a, hmem, heq⟩ := h.target t ht
    exact ⟨a, ha a hmem, heq⟩

theorem raiseSlot {m : Int} (h : v.MarkedBy bs as) (hm : ∃ b ∈ bs, b.slot = m) :
    (v.raiseSlot m).MarkedBy bs as where
  slot w hw := by
    rw [slotMark_raiseSlot] at hw
    obtain rfl := Option.some.inj hw
    rcases Stored.raise_eq v.slotMark m with heq | hold
    · rwa [heq]
    · exact h.slot _ hold
  source s hs := h.source s (sourceMark_raiseSlot v m ▸ hs)
  target t ht := h.target t (targetMark_raiseSlot v m ▸ ht)

theorem raiseEpochs {s t : Int} (h : v.MarkedBy bs as) (hs : ∃ a ∈ as, a.source = s)
    (ht : ∃ a ∈ as, a.target = t) : (v.raiseEpochs s t).MarkedBy bs as where
  slot w hw := h.slot w (slotMark_raiseEpochs v s t ▸ hw)
  source w hw := by
    rw [sourceMark_raiseEpochs] at hw
    obtain rfl := Option.some.inj hw
    rcases Stored.raise_eq v.sourceMark s with heq | hold
    · rwa [heq]
    · exact h.source _ hold
  target w hw := by
    rw [targetMark_raiseEpochs] at hw
    obtain rfl := Option.some.inj hw
    rcases Stored.raise_eq v.targetMark t with heq | hold
    · rwa [heq]
    · exact h.target _ hold

end MarkedBy

theorem exact_fresh (key : SignerId) : (fresh key).Exact :=
  markedBy_fresh key

/-- Records may be added without raising the watermark. -/
theorem Exact.grow (h : v.Exact) (hb : ∀ b ∈ v.blocks, b ∈ bs)
    (ha : ∀ a ∈ v.attestations, a ∈ as) :
    ({ v with blocks := bs, attestations := as } : Validator).Exact := by
  have hmono := h.mono hb ha
  exact ⟨hmono.slot, hmono.source, hmono.target⟩

/-! ## Checks -/

theorem Sound.signBlock_exact (h : v.Sound) (hx : v.Exact) {request : BlockRequest} {d : Decision}
    (hr : v.signBlock high request = .ok (d, v')) : v'.Exact := by
  rcases h.signBlock_cases hr with ⟨_, rfl⟩ | ⟨slot, _, _, _, ⟨_, hmem, rfl⟩ | ⟨_, _, rfl⟩⟩
  · exact hx
  · exact hx.raiseSlot ⟨_, hmem, rfl⟩
  · have hgrown := hx.grow (fun b hb => List.mem_append_left [⟨slot, some request.root.bytes⟩] hb)
      fun a ha => ha
    exact hgrown.raiseSlot ⟨_, List.mem_append_right _ List.mem_cons_self, rfl⟩

theorem Sound.signAttestation_exact (h : v.Sound) (hx : v.Exact) {request : AttestationRequest}
    {d : Decision} (hr : v.signAttestation high request = .ok (d, v')) : v'.Exact := by
  rcases h.signAttestation_cases hr with
    ⟨_, rfl⟩ | ⟨source, target, _, _, _, _, _, _, ⟨_, hmem, rfl⟩ | ⟨_, _, rfl⟩⟩
  · exact hx
  · exact hx.raiseEpochs ⟨_, hmem, rfl⟩ ⟨_, hmem, rfl⟩
  · have hgrown := hx.grow (fun b hb => hb) fun a ha =>
      List.mem_append_left [⟨source, target, some request.root.bytes⟩] ha
    have hnew : (⟨source, target, some request.root.bytes⟩ : StoredAttestation) ∈
        v.attestations ++ [⟨source, target, some request.root.bytes⟩] :=
      List.mem_append_right _ List.mem_cons_self
    exact hgrown.raiseEpochs ⟨_, hnew, rfl⟩ ⟨_, hnew, rfl⟩

/-! ## Twins -/

/-- An exact watermark is that of the newest records, as a later target comes
with a later source. -/
theorem Sound.newest_of_exact (h : v.Sound) (hx : v.Exact) :
    (∀ w ∈ v.slotMark, ∃ b, Newest (·.slot) v.blocks b ∧ b.slot = w) ∧
    (∀ s ∈ v.sourceMark, ∃ a, Newest (·.target) v.attestations a ∧ a.source = s) ∧
    ∀ t ∈ v.targetMark, ∃ a, Newest (·.target) v.attestations a ∧ a.target = t := by
  refine ⟨?_, ?_, ?_⟩
  · intro w hw
    obtain ⟨b, hb, rfl⟩ := hx.slot w hw
    exact ⟨b, ⟨hb, h.slot_le fun w' hw' => by cases hw.symm.trans hw'; exact Int.le_refl _⟩, rfl⟩
  · intro s hs
    obtain ⟨a, ha, rfl⟩ := hx.source s hs
    obtain ⟨n, hn⟩ := exists_newest (·.target) (List.ne_nil_of_mem ha)
    have hle := h.votes_free.source_le ha hn.1 (hn.2 a ha)
    have hmark : ∀ w ∈ v.sourceMark, w ≤ a.source := fun w hw => by
      cases hs.symm.trans hw
      exact Int.le_refl _
    have hge := h.source_le hmark n hn.1
    exact ⟨n, hn, Int.le_antisymm hge hle⟩
  · intro t ht
    obtain ⟨a, ha, rfl⟩ := hx.target t ht
    exact ⟨a, ⟨ha, h.target_le fun t' ht' => by cases ht.symm.trans ht'; exact Int.le_refl _⟩, rfl⟩

/-- Of two twins, if the watermark of one is exact, that of the other is. -/
theorem Twin.exact (h : v.Twin v') (hv : v.Sound) (hx : v.Exact) : v'.Exact := by
  obtain ⟨hslot, hsource, htarget⟩ := hv.newest_of_exact hx
  refine ⟨fun w hw => ?_, fun s hs => ?_, fun t ht => ?_⟩
  · obtain ⟨b, hb, heq⟩ := hslot w (h.slotMark_eq ▸ hw)
    exact ⟨b, ((h.blocks b).mp hb).1, heq⟩
  · obtain ⟨a, ha, heq⟩ := hsource s (h.sourceMark_eq ▸ hs)
    exact ⟨a, ((h.votes a).mp ha).1, heq⟩
  · obtain ⟨a, ha, heq⟩ := htarget t (h.targetMark_eq ▸ ht)
    exact ⟨a, ((h.votes a).mp ha).1, heq⟩

/-- Two nullable numbers each of which is reached by the other are the same. -/
theorem mark_eq {m m' : Option Int} (h : ∀ w ∈ m, ∃ w' ∈ m', w ≤ w')
    (h' : ∀ w ∈ m', ∃ w' ∈ m, w ≤ w') : m = m' := by
  cases m with
  | none =>
      cases m' with
      | none => rfl
      | some w' =>
          obtain ⟨w, hw, _⟩ := h' w' rfl
          cases hw
  | some w =>
      obtain ⟨w', hw', hle⟩ := h w rfl
      obtain ⟨x, hx, hge⟩ := h' w' hw'
      cases hx
      rw [hw', Int.le_antisymm hle hge]

/-- Sound and exact validators of the same records are twins. -/
theorem Exact.twin (hx : v.Exact) (hx' : v'.Exact) (hv : v.Sound) (hv' : v'.Sound)
    (hkey : v.key = v'.key) (henabled : v.enabled = v'.enabled)
    (hblocks : ∀ b, b ∈ v.blocks ↔ b ∈ v'.blocks)
    (hvotes : ∀ a, a ∈ v.attestations ↔ a ∈ v'.attestations) : v.Twin v' where
  key_eq := hkey
  enabled_eq := henabled
  slotMark_eq := by
    refine mark_eq (fun w hw => ?_) fun w hw => ?_
    · obtain ⟨b, hb, rfl⟩ := hx.slot w hw
      exact hv'.blocks_marked b ((hblocks b).mp hb)
    · obtain ⟨b, hb, rfl⟩ := hx'.slot w hw
      exact hv.blocks_marked b ((hblocks b).mpr hb)
  sourceMark_eq := by
    refine mark_eq (fun s hs => ?_) fun s hs => ?_
    · obtain ⟨a, ha, rfl⟩ := hx.source s hs
      exact (hv'.votes_marked a ((hvotes a).mp ha)).1
    · obtain ⟨a, ha, rfl⟩ := hx'.source s hs
      exact (hv.votes_marked a ((hvotes a).mpr ha)).1
  targetMark_eq := by
    refine mark_eq (fun t ht => ?_) fun t ht => ?_
    · obtain ⟨a, ha, rfl⟩ := hx.target t ht
      exact (hv'.votes_marked a ((hvotes a).mp ha)).2
    · obtain ⟨a, ha, rfl⟩ := hx'.target t ht
      exact (hv.votes_marked a ((hvotes a).mpr ha)).2
  blocks := .of_mem_iff hblocks
  votes := .of_mem_iff hvotes

end Validator

/-! ## Imports -/

namespace History

open Validator

variable {h : History} {v v' : Validator} {bs : List StoredBlock} {as : List StoredAttestation}
  {summary : ImportSummary}

/-- What a history lists is among the given records, blocks by their slots and
votes by their epochs. -/
structure Listed (h : History) (bs : List StoredBlock) (as : List StoredAttestation) : Prop where
  blocks : ∀ l ∈ h.blocks, ∃ b ∈ bs, b.slot = l.slot.toNat
  votes : ∀ l ∈ h.attestations, ∃ a ∈ as, a.source = l.source.toNat ∧ a.target = l.target.toNat

theorem raiseSlot_markedBy (hr : h.raiseSlot v = .ok v') (hm : v.MarkedBy bs as)
    (hl : h.Listed bs as) : v'.MarkedBy bs as := by
  unfold raiseSlot at hr
  cases hmax : maximum? (h.blocks.map (·.slot)) with
  | none =>
      rw [hmax] at hr
      obtain rfl := Except.ok.inj hr
      exact hm
  | some top =>
      rw [hmax] at hr
      obtain ⟨m, htop, hr⟩ := bind_eq_ok.mp hr
      obtain rfl := pure_eq_ok.mp hr
      obtain ⟨l, hmem, rfl⟩ := List.mem_map.mp (maximum?_spec hmax).1
      obtain ⟨_, rfl⟩ := Stored.ofUInt64_eq_ok.mp htop
      exact hm.raiseSlot (hl.blocks l hmem)

theorem raiseEpochs_markedBy (hr : h.raiseEpochs v = .ok v') (hm : v.MarkedBy bs as)
    (hl : h.Listed bs as) : v'.MarkedBy bs as := by
  unfold raiseEpochs at hr
  cases hs : maximum? (h.attestations.map (·.source)) with
  | none =>
      rw [hs] at hr
      obtain rfl := Except.ok.inj hr
      exact hm
  | some topSource =>
      cases ht : maximum? (h.attestations.map (·.target)) with
      | none =>
          rw [hs, ht] at hr
          obtain rfl := Except.ok.inj hr
          exact hm
      | some topTarget =>
          rw [hs, ht] at hr
          obtain ⟨s, hsource, hr⟩ := bind_eq_ok.mp hr
          obtain ⟨t, htarget, hr⟩ := bind_eq_ok.mp hr
          obtain rfl := pure_eq_ok.mp hr
          -- the two may be of different votes
          obtain ⟨l, hmem, rfl⟩ := List.mem_map.mp (maximum?_spec hs).1
          obtain ⟨l', hmem', rfl⟩ := List.mem_map.mp (maximum?_spec ht).1
          obtain ⟨_, rfl⟩ := Stored.ofUInt64_eq_ok.mp hsource
          obtain ⟨_, rfl⟩ := Stored.ofUInt64_eq_ok.mp htarget
          obtain ⟨a, ha, heq, _⟩ := hl.votes l hmem
          obtain ⟨a', ha', _, heq'⟩ := hl.votes l' hmem'
          exact hm.raiseEpochs ⟨a, ha, heq⟩ ⟨a', ha', heq'⟩

/-- The watermark rises to listed values only. -/
theorem importTo_markedBy (hr : h.importTo v = .ok (summary, v')) (hm : v.MarkedBy bs as)
    (hl : h.Listed bs as) : v'.MarkedBy bs as := by
  obtain ⟨⟨m, n, v₁⟩, hblocks, hr⟩ := bind_eq_ok.mp hr
  obtain ⟨v₂, hslot, hr⟩ := bind_eq_ok.mp hr
  obtain ⟨⟨m', n', v₃⟩, hvotes, hr⟩ := bind_eq_ok.mp hr
  obtain ⟨v₄, hepochs, hr⟩ := bind_eq_ok.mp hr
  obtain ⟨_, rfl⟩ := Prod.mk.inj (pure_eq_ok.mp hr)
  obtain ⟨bs₁, rfl, _⟩ := importBlocks_taken hblocks
  have hm₂ := raiseSlot_markedBy hslot ⟨hm.slot, hm.source, hm.target⟩ hl
  obtain ⟨as₁, rfl, _⟩ := importAttestations_taken hvotes
  exact raiseEpochs_markedBy hepochs ⟨hm₂.slot, hm₂.source, hm₂.target⟩ hl

/-- The row of a validator after some of its records were added. -/
structure Grown (v v' : Validator) : Prop where
  key_eq : v'.key = v.key
  enabled_eq : v'.enabled = v.enabled
  blocks : ∀ b ∈ v.blocks, b ∈ v'.blocks
  votes : ∀ a ∈ v.attestations, a ∈ v'.attestations

theorem Grown.refl (v : Validator) : Grown v v :=
  ⟨rfl, rfl, fun _ h => h, fun _ h => h⟩

theorem Grown.trans {u : Validator} (h : Grown u v) (h' : Grown v v') : Grown u v' :=
  ⟨h'.key_eq.trans h.key_eq, h'.enabled_eq.trans h.enabled_eq,
    fun b hb => h'.blocks b (h.blocks b hb), fun a ha => h'.votes a (h.votes a ha)⟩

theorem raiseSlot_grown (hr : h.raiseSlot v = .ok v') : Grown v v' := by
  rcases raiseSlot_ok hr with ⟨_, rfl⟩ | ⟨m, _, rfl, _⟩
  · exact .refl _
  · exact ⟨rfl, rfl, fun _ hb => hb, fun _ ha => ha⟩

theorem raiseEpochs_grown (hr : h.raiseEpochs v = .ok v')
    (hforward : ∀ l ∈ h.attestations, l.source ≤ l.target) : Grown v v' := by
  rcases raiseEpochs_ok hr hforward with ⟨_, rfl⟩ | ⟨s, t, _, _, _, rfl, _⟩
  · exact .refl _
  · exact ⟨rfl, rfl, fun _ hb => hb, fun _ ha => ha⟩

/-- Records are only added, and some block is on record at each listed slot. -/
theorem importTo_grown (hr : h.importTo v = .ok (summary, v')) :
    Grown v v' ∧ ∀ l ∈ h.blocks, ∃ b ∈ v'.blocks, b.slot = l.slot.toNat := by
  obtain ⟨⟨m, n, v₁⟩, hblocks, hr⟩ := bind_eq_ok.mp hr
  obtain ⟨v₂, hslot, hr⟩ := bind_eq_ok.mp hr
  obtain ⟨⟨m', n', v₃⟩, hvotes, hr⟩ := bind_eq_ok.mp hr
  obtain ⟨v₄, hepochs, hr⟩ := bind_eq_ok.mp hr
  obtain ⟨_, rfl⟩ := Prod.mk.inj (pure_eq_ok.mp hr)
  obtain ⟨bs₁, rfl, htaken⟩ := importBlocks_taken hblocks
  have h₂ := raiseSlot_grown hslot
  obtain ⟨as₁, rfl, hvoted⟩ := importAttestations_taken hvotes
  have h₃ : Grown v₂ { v₂ with attestations := as₁ } := ⟨rfl, rfl, fun _ hb => hb, hvoted.kept⟩
  have h₄ := h₃.trans (raiseEpochs_grown hepochs hvoted.forward)
  have h₁ : Grown v { v with blocks := bs₁ } := ⟨rfl, rfl, htaken.kept, fun _ ha => ha⟩
  refine ⟨h₁.trans (h₂.trans h₄), fun l hl => ?_⟩
  obtain ⟨b, hb, hslot⟩ := htaken.held l hl
  exact ⟨b, h₄.blocks b (h₂.blocks b hb), (Stored.ofUInt64_eq_ok.mp hslot).2⟩

end History

namespace Interchange

open Database

variable {db db' : Database} {summary : ImportSummary} {hs : List History}

theorem importHistories_grown (hr : importHistories hs db = .ok (summary, db')) :
    (∀ key, History.Grown (db.row key) (db'.row key)) ∧
    ∀ x ∈ hs, ∀ l ∈ x.blocks, ∃ b ∈ (db'.row x.key).blocks, b.slot = l.slot.toNat := by
  induction hs generalizing db summary with
  | nil =>
      obtain ⟨_, rfl⟩ := Prod.mk.inj (Except.ok.inj hr)
      exact ⟨fun _ => .refl _, by simp⟩
  | cons x rest ih =>
      obtain ⟨⟨first, db₁⟩, hfirst, hr⟩ := bind_eq_ok.mp hr
      obtain ⟨⟨others, db₂⟩, hrest, hr⟩ := bind_eq_ok.mp hr
      obtain ⟨_, rfl⟩ := Prod.mk.inj (pure_eq_ok.mp hr)
      obtain ⟨v, hv, rfl⟩ := withValidator_ok hfirst
      obtain ⟨hgrown, hheld⟩ := History.importTo_grown hv
      obtain ⟨hgrownRest, hheldRest⟩ := ih hrest
      have hrow : ∀ key, (db.put x.key v).row key = if key = x.key then v else db.row key :=
        row_put (hgrown.key_eq.trans (row_key db x.key))
      refine ⟨fun key => ?_, fun y hy => ?_⟩
      · refine History.Grown.trans ?_ (hgrownRest key)
        rw [hrow]
        split
        · rename_i heq
          exact heq ▸ hgrown
        · exact .refl _
      · rcases List.mem_cons.mp hy with rfl | hy
        · intro l hl
          obtain ⟨b, hb, heq⟩ := hheld l hl
          refine ⟨b, (hgrownRest y.key).blocks b ?_, heq⟩
          rwa [hrow, if_pos rfl]
        · exact hheldRest y hy

theorem importHistories_markedBy {key : SignerId} {bs : List StoredBlock}
    {as : List StoredAttestation} (hr : importHistories hs db = .ok (summary, db'))
    (hm : (db.row key).MarkedBy bs as) (hl : ∀ x ∈ hs, x.key = key → x.Listed bs as) :
    (db'.row key).MarkedBy bs as := by
  induction hs generalizing db summary with
  | nil =>
      obtain ⟨_, rfl⟩ := Prod.mk.inj (Except.ok.inj hr)
      exact hm
  | cons x rest ih =>
      obtain ⟨⟨first, db₁⟩, hfirst, hr⟩ := bind_eq_ok.mp hr
      obtain ⟨⟨others, db₂⟩, hrest, hr⟩ := bind_eq_ok.mp hr
      obtain ⟨_, rfl⟩ := Prod.mk.inj (pure_eq_ok.mp hr)
      obtain ⟨v, hv, rfl⟩ := withValidator_ok hfirst
      refine ih hrest ?_ fun y hy => hl y (List.mem_cons_of_mem _ hy)
      rw [row_put ((History.importTo_grown hv).1.key_eq.trans (row_key db x.key))]
      split
      · rename_i heq
        exact History.importTo_markedBy hv (heq ▸ hm) (hl x List.mem_cons_self heq.symm)
      · exact hm

/-- An import leaves the watermarks exact if the votes it lists are all on record
afterwards. -/
theorem importTo_exact {d : Interchange} (hr : d.importTo db = .ok (summary, db'))
    (hx : ∀ key, (db.row key).Exact)
    (hvotes : ∀ x ∈ d.data, ∀ l ∈ x.attestations, ∃ a ∈ (db'.row x.key).attestations,
      a.source = l.source.toNat ∧ a.target = l.target.toNat) (key : SignerId) :
    (db'.row key).Exact := by
  obtain ⟨db₁, hchain, hr⟩ := importTo_ok hr
  obtain ⟨hgrown, hheld⟩ := importHistories_grown hr
  have hrow := row_admitGenesisRoot hchain key
  have hold : (db₁.row key).MarkedBy (db'.row key).blocks (db'.row key).attestations := by
    rw [hrow]
    have hkeep := hrow ▸ hgrown key
    exact (hx key).mono hkeep.blocks hkeep.votes
  refine importHistories_markedBy hr hold fun x hmem heq => ?_
  subst heq
  exact ⟨hheld x hmem, hvotes x hmem⟩

end Interchange

/-! ## Operations -/

namespace Database

variable {db db' : Database} {key : SignerId}

/-- The watermark of every validator is that of its records. -/
def Exact (db : Database) : Prop :=
  ∀ key, (db.row key).Exact

theorem exact_empty : empty.Exact :=
  fun key => Validator.exact_fresh key

theorem Exact.put (hx : db.Exact) {v : Validator} (hkey : v.key = key) (hv : v.Exact) :
    (db.put key v).Exact := by
  intro other
  rw [row_put hkey]
  split
  · exact hv
  · exact hx other

theorem Exact.of_twins {db' : Database} (hx : db.Exact) (h : db.Sound)
    (ht : db.Twins anyKey db') : db'.Exact :=
  fun key => (ht.rows key trivial).exact (h.row key) (hx key)

theorem Exact.checked {root : Root} {d : Decision}
    {check : HighWatermark → Validator → Protected (Decision × Validator)} (hx : db.Exact)
    (hcheck : ∀ high v, check high (db.row key) = .ok (d, v) → v.key = key ∧ v.Exact)
    (hr : Database.checked key root check db = .ok (d, db')) : db'.Exact := by
  have hadmitted : ∀ {admitted db₁}, db.admitGenesisRoot root = (admitted, db₁) → db₁.Exact :=
    fun hchain other => row_admitGenesisRoot hchain other ▸ hx other
  rcases checked_ok hr with ⟨_, hchain | ⟨db₁, hchain, rfl⟩⟩ |
    ⟨db₁, high, v, hchain, _, _, hv, rfl⟩
  · exact hadmitted hchain
  · exact (hadmitted hchain).put (row_key db₁ key) (hadmitted hchain key)
  · exact (hadmitted hchain).put (hcheck high v hv).1 (hcheck high v hv).2

theorem Exact.register (hx : db.Exact) (keys : List SignerId) :
    (keys.foldl (fun db key => db.ensure key) db).Exact := by
  intro other
  rw [row_register]
  exact hx other

theorem Exact.setEnabled (hx : db.Exact) (key : SignerId) (enabled : Bool) :
    (db.update key fun v => { v with enabled := enabled }).Exact := by
  intro other
  have hrow := hx other
  unfold row at hrow ⊢
  rw [find?_setEnabled]
  cases hf : db.find? other with
  | none => exact Validator.exact_fresh other
  | some v =>
      rw [hf] at hrow
      show Validator.Exact (if v.key == key then { v with enabled := enabled } else v)
      split
      · exact ⟨hrow.slot, hrow.source, hrow.target⟩
      · exact hrow

end Database

/-! ## Runs -/

namespace Engine

open Database

variable {e : Engine}

/-- A call that raises no watermark above the records: no repair of the
watermark, and no import that passes over a vote while no record has its epochs. -/
def Lossless (e : Engine) : Call → Prop
  | .raiseLow slot epoch => ∃ fault, (e.raiseLow slot epoch).1 = .error fault
  | .importHistory d => ∀ summary, (e.importHistory d).1 = .ok summary →
      ∀ x ∈ d.data, ∀ l ∈ x.attestations,
        ∃ a ∈ ((e.importHistory d).2.database.row x.key).attestations,
          a.source = l.source.toNat ∧ a.target = l.target.toNat
  | _ => True

/-- A run of such calls. -/
def LosslessRun : Engine → List Call → Prop
  | _, [] => True
  | e, c :: rest => e.Lossless c ∧ (e.perform c).2.LosslessRun rest

theorem transact_exact {α : Type} {body : Operation α} (hx : e.database.Exact)
    (hbody : ∀ a db, body e.database = .ok (a, db) → db.Exact) :
    (e.transact body).2.database.Exact := by
  rcases transact_cases e body with ⟨fault, hf⟩ | ⟨a, db, hr, hok⟩
  · rw [hf]
    exact hx
  · rw [hok]
    exact hbody a db hr

theorem perform_exact (h : e.database.Sound) (hx : e.database.Exact) {c : Call}
    (hc : e.Lossless c) : (e.perform c).2.database.Exact := by
  cases c with
  | block key request root =>
      refine transact_exact hx fun d db hr => hx.checked (fun high v hv => ?_) hr
      exact ⟨((h.row key).signBlock hv).2.key_eq.trans (row_key _ key),
        (h.row key).signBlock_exact (hx key) hv⟩
  | attest key request root =>
      refine transact_exact hx fun d db hr => hx.checked (fun high v hv => ?_) hr
      exact ⟨((h.row key).signAttestation hv).2.key_eq.trans (row_key _ key),
        (h.row key).signAttestation_exact (hx key) hv⟩
  | register keys =>
      show (e.register keys).2.database.Exact
      unfold Engine.register
      split
      · exact hx
      · refine transact_exact hx fun _ db hr => ?_
        obtain ⟨_, rfl⟩ := Prod.mk.inj (Except.ok.inj hr)
        exact hx.register keys
  | setEnabled key enabled =>
      refine transact_exact hx fun _ db hr => ?_
      obtain ⟨_, rfl⟩ := Prod.mk.inj (Except.ok.inj hr)
      exact hx.setEnabled key enabled
  | raiseLow slot epoch =>
      obtain ⟨fault, hfault⟩ := hc
      show (e.raiseLow slot epoch).2.database.Exact
      unfold Engine.raiseLow at hfault ⊢
      split
      · exact hx
      · rename_i hgiven
        rw [if_neg hgiven] at hfault
        rw [transact_error hfault]
        exact hx
  | highWatermark => exact transact_exact hx fun _ db hr => reads_readHigh hr ▸ hx
  | setHighWatermark high =>
      show (e.setHighWatermark high).2.database.Exact
      unfold Engine.setHighWatermark
      split
      · exact hx
      · exact transact_exact hx fun _ db hr key => row_replaceHigh hr key ▸ hx key
  | removeHighWatermark =>
      exact transact_exact hx fun _ db hr key => row_replaceHigh hr key ▸ hx key
  | exportHistory filter => exact transact_exact hx fun _ db hr => reads_readHistory filter hr ▸ hx
  | importHistory d =>
      rcases transact_cases e d.importTo with ⟨fault, hf⟩ | ⟨summary, db, hr, hok⟩
      · show (e.transact d.importTo).2.database.Exact
        rw [hf]
        exact hx
      · show (e.transact d.importTo).2.database.Exact
        have hkept := hc summary (congrArg (·.1) hok)
        unfold Engine.importHistory at hkept
        rw [hok] at hkept ⊢
        exact Interchange.importTo_exact hr hx hkept
  | prune c => exact hx.of_twins h (prune_twins h c).database
  | pruneOne c key => exact hx.of_twins h (transact_pruneOne_twins h c key).database
  | lock held => exact hx

/-- Along a run without such calls, watermarks stay those of the records. -/
theorem lossless_exact (h : e.database.Sound) (hx : e.database.Exact) {calls : List Call}
    (hc : e.LosslessRun calls) : (e.after calls).database.Exact := by
  induction calls generalizing e with
  | nil => exact hx
  | cons c rest ih => exact ih (perform_step h c).1 (perform_exact h hx hc.1) hc.2

end Engine

end RemoteSigner
