import RemoteSigner.Proofs.Protection.Settings

/-!
# Exactly what the engine accepts

A check looks a few records up, tries one refusal after another, and may yet
fail to write what it accepted. On a sound database none of this shows: for
numbers that fit there is always an answer (`Readable.signBlock_answer`,
`Readable.signAttestation_answer`), and it is an acceptance exactly under the
conditions that `AllowsBlock` and `AllowsVote` list.

* `Sound.signAttestation_reason` — a vote within the watermark meets no record
  but that of its own target, so a surround is never the reason of a refusal;
* `Sound.checked_eq` — the chain and the validator come first, and then the
  check alone decides;
* `accepts_exactly` — what the engine accepts in every reachable state.
-/

namespace RemoteSigner

/-- Whether a vote was refused because it surrounds another or is surrounded. -/
def Rejection.isSurround : Rejection → Bool
  | .surroundingVote _ _ | .surroundedVote _ _ => true
  | _ => false

namespace Decision

/-- A vote is refused for a surround only within the watermark, and for the first
record that speaks against it. -/
theorem attestation_eq_surround {watermark : Watermark} {high : HighWatermark}
    {history : List SignedAttestation} {request : AttestationRequest} {reason : Rejection}
    (h : attestation watermark high history request = .reject reason)
    (hsurround : reason.isSurround = true) :
    (∀ low ∈ watermark.source, low ≤ request.source) ∧
      (∀ low ∈ watermark.target, low ≤ request.target) ∧
      history.findSome? (conflict? request) = some reason := by
  -- every refusal before the records are gone through has another reason
  unfold attestation at h
  split at h
  · cases h
    cases hsurround
  · split at h
    · cases h
      cases hsurround
    · rename_i hsource
      split at h
      · cases h
        cases hsurround
      · rename_i htarget
        split at h
        · cases h
          cases hsurround
        · split at h
          · cases h
          · split at h
            · rename_i hfound
              cases h
              exact ⟨filter_lt_eq_none.mp hsource, filter_lt_eq_none.mp htarget, hfound⟩
            · cases h

/-- A record of the target of a vote is no reason to speak of a surround. -/
theorem isSurround_of_target {request : AttestationRequest} {a : SignedAttestation}
    {reason : Rejection} (htarget : a.target = request.target)
    (h : conflict? request a = some reason) : reason.isSurround = false := by
  rw [conflict?, if_pos htarget] at h
  cases h
  rfl

end Decision

namespace Validator

variable {v : Validator} {high : HighWatermark}

/-! ## Blocks -/

/-- The answer to a block is that of the rules on the record of its slot. -/
theorem Readable.signBlock_answer (h : v.Readable) (high : HighWatermark) {request : BlockRequest}
    {slot : Int} (hslot : Stored.ofUInt64 request.slot = .ok slot) :
    ∃ v', v.signBlock high request = .ok (Decision.block
      ⟨v.slotMark.map Stored.read, v.sourceMark.map Stored.read, v.targetMark.map Stored.read⟩
      high ((v.blocks.find? (·.slot == slot)).map StoredBlock.record) request, v') := by
  simp only [Validator.signBlock, h.lowWatermark_eq, h.findBlock_eq, hslot, bind, Except.bind]
  generalize hdec : Decision.block _ _ _ _ = decision
  cases decision with
  | reject reason => exact ⟨v, rfl⟩
  | accept record =>
      cases record with
      | false => exact ⟨v.raiseSlot slot, rfl⟩
      | true =>
          -- what is new finds its slot free, so the record goes in
          obtain ⟨_, _, ⟨hnone, _⟩ | ⟨_, hno⟩⟩ := Decision.block_eq_accept.mp hdec
          · have hfree : ∀ b ∈ v.blocks, b.slot ≠ slot := by
              simpa [List.find?_eq_none] using hnone
            simp only [insertBlock_eq (b := ⟨slot, some request.root.bytes⟩) hfree]
            exact ⟨_, rfl⟩
          · cases hno

/-- A block on record is accepted again within the bounds. -/
theorem Sound.signBlock_held (h : v.Sound) {request : BlockRequest} {slot : Int}
    (hslot : Stored.ofUInt64 request.slot = .ok slot) (hlow : ∀ w ∈ v.slotMark, w ≤ slot)
    (hhigh : ∀ top ∈ high.slot, request.slot < top)
    (hmem : (⟨slot, some request.root.bytes⟩ : StoredBlock) ∈ v.blocks) :
    v.signBlock high request = .ok (.accept false, v.raiseSlot slot) := by
  have hfound : v.blocks.find? (·.slot == slot) = some ⟨slot, some request.root.bytes⟩ :=
    (SameNewest.find?_key_eq_some h.slots_distinct).mpr ⟨hmem, rfl⟩
  obtain ⟨v', hr⟩ := h.signBlock_answer high hslot
  rw [hfound, Option.map_some, Decision.block_eq_accept.mpr
    ⟨read_le_of_mark_le h.slotMark_inRange hslot hlow, hhigh,
      .inr ⟨⟨_, rfl, Stored.readRoot_eq_some.mpr rfl⟩, rfl⟩⟩] at hr
  rcases h.signBlock_cases hr with ⟨⟨_, hd⟩, _⟩ | ⟨slot', hslot', _, _, ⟨_, _, rfl⟩ | ⟨hd, _⟩⟩
  · cases hd
  · obtain rfl := Except.ok.inj (hslot.symm.trans hslot')
    exact hr
  · cases hd

/-- A block that fits is accepted exactly within the bounds and beside no other
block of its slot. -/
theorem Sound.signBlock_accept_iff (h : v.Sound) {request : BlockRequest} {slot : Int}
    (hslot : Stored.ofUInt64 request.slot = .ok slot) :
    (∃ record v', v.signBlock high request = .ok (.accept record, v')) ↔
      (∀ w ∈ v.slotMark, w ≤ slot) ∧ (∀ top ∈ high.slot, request.slot < top) ∧
        ∀ b ∈ v.blocks, b.slot = slot → b.root = some request.root.bytes := by
  constructor
  · rintro ⟨record, v', hr⟩
    rcases h.signBlock_cases hr with ⟨⟨_, hd⟩, _⟩ | ⟨slot', hslot', hlow, hhigh, hcase⟩
    · cases hd
    · obtain rfl := Except.ok.inj (hslot.symm.trans hslot')
      refine ⟨hlow, hhigh, fun b hb hbs => ?_⟩
      rcases hcase with ⟨_, hmem, _⟩ | ⟨_, hfree, _⟩
      · rw [slot_unique h.toConsistent hb hmem hbs]
      · exact absurd hbs (hfree b hb)
  · rintro ⟨hlow, hhigh, hroot⟩
    by_cases hheld : ∃ b ∈ v.blocks, b.slot = slot
    · obtain ⟨⟨_, root⟩, hb, rfl⟩ := hheld
      obtain rfl : root = _ := hroot _ hb rfl
      exact ⟨false, _, h.signBlock_held hslot hlow hhigh hb⟩
    · have hnone : v.blocks.find? (·.slot == slot) = none := by
        simpa [List.find?_eq_none] using hheld
      obtain ⟨v', hr⟩ := h.signBlock_answer high hslot
      rw [hnone, Option.map_none, Decision.block_eq_accept.mpr
        ⟨read_le_of_mark_le h.slotMark_inRange hslot hlow, hhigh, .inl ⟨rfl, rfl⟩⟩] at hr
      exact ⟨true, v', hr⟩

/-! ## Attestations -/

/-- The answer to a vote is that of the rules on the records that conflict with
it. -/
theorem Readable.signAttestation_answer (h : v.Readable) (high : HighWatermark)
    {request : AttestationRequest} {source target : Int}
    (hs : Stored.ofUInt64 request.source = .ok source)
    (ht : Stored.ofUInt64 request.target = .ok target) :
    ∃ v', v.signAttestation high request = .ok (Decision.attestation
      ⟨v.slotMark.map Stored.read, v.sourceMark.map Stored.read, v.targetMark.map Stored.read⟩
      high (((v.attestations.filter (·.conflicts source target)).mergeSort
        fun a b => a.source ≤ b.source).map StoredAttestation.record) request, v') := by
  simp only [Validator.signAttestation, h.lowWatermark_eq, bind, Except.bind]
  by_cases hback : request.target < request.source
  · rw [if_pos hback]
    refine ⟨v, ?_⟩
    rw [Decision.attestation, Decision.attestation, if_pos hback, if_pos hback]
    rfl
  · rw [if_neg hback]
    simp only [h.findConflicts_eq, hs, ht]
    generalize hdec : Decision.attestation _ _ _ _ = decision
    cases decision with
    | reject reason => exact ⟨v, rfl⟩
    | accept record =>
        cases record with
        | false => exact ⟨v.raiseEpochs source target, rfl⟩
        | true =>
            have hfree := h.free_of_conflict?_none hs ht (h.findConflicts_eq source target)
              (Decision.attestation_new hdec).2
            simp only [insertAttestation_eq (v := v)
              (a := ⟨source, target, some request.root.bytes⟩)
              fun a ha => target_ne_of_not_conflicts (hfree a ha)]
            exact ⟨_, rfl⟩

/-- A vote on record is accepted again within the bounds. -/
theorem Sound.signAttestation_held (h : v.Sound) {request : AttestationRequest}
    {source target : Int} (hs : Stored.ofUInt64 request.source = .ok source)
    (ht : Stored.ofUInt64 request.target = .ok target)
    (hlows : ∀ w ∈ v.sourceMark, w ≤ source) (hlowt : ∀ w ∈ v.targetMark, w ≤ target)
    (hhigh : ∀ top ∈ high.epoch, request.source < top ∧ request.target < top)
    (hmem : (⟨source, target, some request.root.bytes⟩ : StoredAttestation) ∈ v.attestations) :
    v.signAttestation high request = .ok (.accept false, v.raiseEpochs source target) := by
  have hforth := (Stored.stored_le hs ht).mp (h.votes_free.forward _ hmem)
  obtain ⟨v', hr⟩ := h.signAttestation_answer high hs ht
  rw [Decision.attestation_eq_accept.mpr ⟨hforth, read_le_of_mark_le h.sourceMark_inRange hs hlows,
    read_le_of_mark_le h.targetMark_inRange ht hlowt, hhigh, .inl ⟨⟨_,
      List.mem_map_of_mem (List.mem_mergeSort.mpr
        (List.mem_filter.mpr ⟨hmem, conflicts_iff.mpr (.inl rfl)⟩)),
      (h.isSame_record hmem hs ht).mpr rfl⟩, rfl⟩⟩] at hr
  rcases h.signAttestation_cases hr with
    ⟨⟨_, hd⟩, _⟩ | ⟨source', target', hs', ht', _, _, _, _, ⟨_, _, rfl⟩ | ⟨hd, _⟩⟩
  · cases hd
  · obtain rfl := Except.ok.inj (hs.symm.trans hs')
    obtain rfl := Except.ok.inj (ht.symm.trans ht')
    exact hr
  · cases hd

/-- A vote that fits is accepted exactly forward, within the bounds and beside
no other vote for its target. -/
theorem Sound.signAttestation_accept_iff (h : v.Sound) {request : AttestationRequest}
    {source target : Int} (hs : Stored.ofUInt64 request.source = .ok source)
    (ht : Stored.ofUInt64 request.target = .ok target) :
    (∃ record v', v.signAttestation high request = .ok (.accept record, v')) ↔
      source ≤ target ∧ (∀ w ∈ v.sourceMark, w ≤ source) ∧ (∀ w ∈ v.targetMark, w ≤ target) ∧
        (∀ top ∈ high.epoch, request.source < top ∧ request.target < top) ∧
        ∀ a ∈ v.attestations, a.target = target →
          a = ⟨source, target, some request.root.bytes⟩ := by
  constructor
  · rintro ⟨record, v', hr⟩
    rcases h.signAttestation_cases hr with
      ⟨⟨_, hd⟩, _⟩ | ⟨source', target', hs', ht', hforth, hlows, hlowt, hhigh, hcase⟩
    · cases hd
    · obtain rfl := Except.ok.inj (hs.symm.trans hs')
      obtain rfl := Except.ok.inj (ht.symm.trans ht')
      refine ⟨hforth, hlows, hlowt, hhigh, fun a ha hat => ?_⟩
      rcases hcase with ⟨_, hmem, _⟩ | ⟨_, hfree, _⟩
      · exact target_unique h.toConsistent ha hmem hat
      · exact absurd hat (target_ne_of_not_conflicts (hfree a ha))
  · rintro ⟨hforth, hlows, hlowt, hhigh, hsame⟩
    by_cases hheld : ∃ a ∈ v.attestations, a.target = target
    · obtain ⟨a, ha, hat⟩ := hheld
      exact ⟨false, _, h.signAttestation_held hs ht hlows hlowt hhigh (hsame a ha hat ▸ ha)⟩
    · -- no record of the target, and within the watermark no other can conflict
      have hfree : ∀ a ∈ v.attestations, a.conflicts source target = false := by
        have hnil : v.attestations.filter (·.target == target) = [] := by
          simpa [List.filter_eq_nil_iff] using hheld
        rw [← h.conflicting_eq hlows hlowt] at hnil
        simpa [List.filter_eq_nil_iff] using hnil
      exact ⟨true, _, h.signAttestation_new high request hs ht hforth hlows hlowt hhigh hfree⟩

/-- No vote is refused for a surround. -/
theorem Sound.signAttestation_reason (h : v.Sound) {v' : Validator}
    {request : AttestationRequest} {reason : Rejection}
    (hr : v.signAttestation high request = .ok (.reject reason, v')) :
    reason.isSurround = false := by
  have hanswer := hr
  simp only [Validator.signAttestation, h.lowWatermark_eq, bind_eq_ok, Except.ok.injEq,
    exists_eq_left'] at hanswer
  by_cases hback : request.target < request.source
  · rw [if_pos hback, Decision.attestation, if_pos hback] at hanswer
    cases hanswer
    rfl
  · rw [if_neg hback] at hanswer
    simp only [bind_eq_ok] at hanswer
    obtain ⟨source, hs, target, ht, -⟩ := hanswer
    obtain ⟨_, hrules⟩ := h.signAttestation_answer high hs ht
    have hdec := (Prod.mk.inj (Except.ok.inj (hrules.symm.trans hr))).1
    rw [← Bool.not_eq_true]
    intro hsurround
    obtain ⟨hlows, hlowt, hfound⟩ := Decision.attestation_eq_surround hdec hsurround
    obtain ⟨_, hmem, hconflict⟩ := List.exists_of_findSome?_eq_some hfound
    obtain ⟨a, ha, rfl⟩ := List.mem_map.mp hmem
    -- within the watermark the lookup finds nothing but the record of the target
    rw [List.mem_mergeSort, h.conflicting_eq (mark_le_of_read_le h.sourceMark_inRange hs hlows)
      (mark_le_of_read_le h.targetMark_inRange ht hlowt), List.mem_filter, beq_iff_eq] at ha
    have htarget := (Stored.read_eq_iff ht (h.votes_readable a ha.1).2.1).mpr ha.2
    rw [Decision.isSurround_of_target htarget hconflict] at hsurround
    cases hsurround

end Validator

/-- A number is below a ceiling that is read exactly if it is below the stored one. -/
theorem Stored.lt_ceiling_iff {ceiling : Option Int} (h : ∀ top ∈ ceiling, InRange top)
    {n : UInt64} {i : Int} (hn : ofUInt64 n = .ok i) :
    (∀ top ∈ ceiling.map read, n < top) ↔ ∀ top ∈ ceiling, i < top := by
  constructor
  · intro hlt top htop
    exact (lt_read_iff hn (h top htop)).mp (hlt _ (Option.mem_map_of_mem _ htop))
  · intro hlt top htop
    obtain ⟨j, hj, rfl⟩ := Option.map_eq_some_iff.mp htop
    exact (lt_read_iff hn (h j hj)).mpr (hlt j hj)

namespace Database

variable {db db' : Database} {key : SignerId} {root : Root} {d : Decision} {reason : Rejection}
  {check : HighWatermark → Validator → Protected (Decision × Validator)}

/-! ## What the database allows -/

/-- The ceiling of slots. -/
def slotCeiling (db : Database) : Option Int :=
  db.metadata.bind (·.highSlot)

/-- The ceiling of epochs. -/
def epochCeiling (db : Database) : Option Int :=
  db.metadata.bind (·.highEpoch)

/-- The ceiling as it is read. -/
def ceiling (db : Database) : HighWatermark :=
  ⟨db.slotCeiling.map Stored.read, db.epochCeiling.map Stored.read⟩

/-- A request is meant for the chain of the database, if it has one yet, and for
a validator that is enabled, as new ones are. -/
structure Serves (db : Database) (key : SignerId) (root : Root) : Prop where
  chain : ∀ stored ∈ db.genesisRoot?, stored = root
  enabled : (db.row key).enabled = true

/-- The conditions on a block. -/
structure AllowsBlock (db : Database) (key : SignerId) (root : Root) (r : BlockRequest) : Prop
    extends db.Serves key root where
  above : ∀ w ∈ (db.row key).slotMark, w ≤ r.slot.toNat
  below : ∀ top ∈ db.slotCeiling, r.slot.toNat < top
  alone : ∀ b ∈ (db.row key).blocks, b.slot = r.slot.toNat → b.root = some r.root.bytes

/-- The conditions on an attestation. -/
structure AllowsVote (db : Database) (key : SignerId) (root : Root) (r : AttestationRequest) : Prop
    extends db.Serves key root where
  forward : r.source ≤ r.target
  source_above : ∀ w ∈ (db.row key).sourceMark, w ≤ r.source.toNat
  target_above : ∀ w ∈ (db.row key).targetMark, w ≤ r.target.toNat
  source_below : ∀ top ∈ db.epochCeiling, r.source.toNat < top
  target_below : ∀ top ∈ db.epochCeiling, r.target.toNat < top
  alone : ∀ a ∈ (db.row key).attestations, a.target = r.target.toNat →
    a = ⟨r.source.toNat, r.target.toNat, some r.root.bytes⟩

theorem Readable.slotCeiling_inRange (h : db.Readable) :
    ∀ top ∈ db.slotCeiling, Stored.InRange top := by
  intro top htop
  obtain ⟨m, hm, hslot⟩ := Option.bind_eq_some_iff.mp htop
  exact (h.ceiling_inRange m hm).1 top hslot

theorem Readable.epochCeiling_inRange (h : db.Readable) :
    ∀ top ∈ db.epochCeiling, Stored.InRange top := by
  intro top htop
  obtain ⟨m, hm, hepoch⟩ := Option.bind_eq_some_iff.mp htop
  exact (h.ceiling_inRange m hm).2 top hepoch

/-- The ceiling as it is read. -/
theorem Readable.highWatermark_eq (h : db.Readable) : db.highWatermark = .ok db.ceiling := by
  unfold highWatermark ceiling slotCeiling epochCeiling
  cases hm : db.metadata with
  | none => rfl
  | some m =>
      obtain ⟨hslot, hepoch⟩ := h.ceiling_inRange m hm
      simp only [Stored.toUInt64?_eq hslot, Stored.toUInt64?_eq hepoch, Option.bind_some]
      rfl

/-! ## Checks of a database -/

/-- A request that the database serves is decided by the check on the row. -/
theorem Sound.checked_eq (h : db.Sound) (hserves : db.Serves key root) :
    checked key root check db = (check db.ceiling (db.row key)).map
      fun r => (r.1, (db.admitGenesisRoot root).2.put key r.2) := by
  obtain ⟨db₁, hchain, hhigh⟩ : ∃ db₁, db.admitGenesisRoot root = (true, db₁) ∧
      db₁.highWatermark = db.highWatermark := by
    unfold Database.admitGenesisRoot
    cases hroot : db.genesisRoot? with
    | none => exact ⟨_, rfl, highWatermark_storeGenesisRoot db root⟩
    | some stored =>
        obtain rfl := hserves.chain stored hroot
        exact ⟨db, by simp, rfl⟩
  simp only [checked, hchain]
  rw [withValidator_eq_map, row_admitGenesisRoot hchain, hserves.enabled, hhigh,
    h.readable.highWatermark_eq]
  rfl

/-- A request that the database does not serve is refused before any check. -/
theorem checked_unserved (hserves : ¬ db.Serves key root)
    (check : HighWatermark → Validator → Protected (Decision × Validator)) :
    ∃ reason db', checked key root check db = .ok (.reject reason, db') ∧
      (reason = .genesisRootMismatch ∨ reason = .validatorDisabled) := by
  unfold checked
  cases hchain : db.admitGenesisRoot root with
  | mk admitted db₁ =>
      cases admitted with
      | false => exact ⟨_, db₁, rfl, .inl rfl⟩
      | true =>
          have hstored : ∀ stored ∈ db.genesisRoot?, stored = root := by
            intro stored hroot
            simpa [admitGenesisRoot, Option.mem_def.mp hroot] using congrArg Prod.fst hchain
          have hoff : (db.row key).enabled = false := by
            rw [← Bool.not_eq_true]
            exact fun hon => hserves ⟨hstored, hon⟩
          simp only [withValidator_eq_map, row_admitGenesisRoot hchain, hoff]
          exact ⟨_, _, rfl, .inr rfl⟩

/-- What is accepted is served, and the check accepts it on the row. -/
theorem Sound.checked_accept_iff (h : db.Sound) :
    (∃ record db', checked key root check db = .ok (.accept record, db')) ↔
      db.Serves key root ∧ ∃ record v, check db.ceiling (db.row key) = .ok (.accept record, v) := by
  by_cases hserves : db.Serves key root
  · rw [h.checked_eq hserves]
    cases check _ (db.row key) with
    | error fault => simp [Except.map]
    | ok r =>
        obtain ⟨d, v⟩ := r
        simp [Except.map, hserves]
  · obtain ⟨reason, db₁, hr, _⟩ := checked_unserved hserves check
    simp [hr, hserves]

/-- A check that has an answer for the row has one for the database. -/
theorem Sound.checked_answer (h : db.Sound)
    (hcheck : ∃ d v, check db.ceiling (db.row key) = .ok (d, v)) :
    ∃ d db', checked key root check db = .ok (d, db') := by
  by_cases hserves : db.Serves key root
  · obtain ⟨d, v, hv⟩ := hcheck
    rw [h.checked_eq hserves, hv]
    exact ⟨d, _, rfl⟩
  · obtain ⟨reason, db₁, hr, _⟩ := checked_unserved hserves check
    exact ⟨_, db₁, hr⟩

/-- Where the check refuses nothing for a surround, nothing is so refused. -/
theorem Sound.checked_reason (h : db.Sound)
    (hcheck : ∀ {high reason v}, check high (db.row key) = .ok (.reject reason, v) →
      reason.isSurround = false)
    (hr : checked key root check db = .ok (.reject reason, db')) : reason.isSurround = false := by
  by_cases hserves : db.Serves key root
  · rw [h.checked_eq hserves] at hr
    cases hv : check db.ceiling (db.row key) with
    | error fault =>
        rw [hv] at hr
        cases hr
    | ok r =>
        rw [hv] at hr
        obtain ⟨hd, _⟩ := Prod.mk.inj (Except.ok.inj hr)
        exact hcheck (hv.trans (congrArg Except.ok (Prod.ext hd rfl)))
  · obtain ⟨_, _, hrefused, hreason⟩ := checked_unserved hserves check
    rw [hrefused] at hr
    cases hr
    rcases hreason with rfl | rfl <;> rfl

/-! ## Checks of blocks and attestations -/

/-- A block that fits gets an answer. -/
theorem Sound.mayBlock_answer (h : db.Sound) (key : SignerId) (root : Root) {r : BlockRequest}
    (hfits : r.slot.toNat ≤ Stored.bound) : ∃ d db', mayBlock key r root db = .ok (d, db') := by
  obtain ⟨v, hv⟩ := (h.row key).signBlock_answer db.ceiling (Stored.ofUInt64_eq_ok.mpr ⟨hfits, rfl⟩)
  show ∃ d db', checked key root (fun high v => v.signBlock high r) db = .ok (d, db')
  exact h.checked_answer ⟨_, v, hv⟩

/-- A block that fits is accepted exactly under its conditions. -/
theorem Sound.mayBlock_accept_iff (h : db.Sound) {r : BlockRequest}
    (hfits : r.slot.toNat ≤ Stored.bound) :
    (∃ record db', mayBlock key r root db = .ok (.accept record, db')) ↔
      db.AllowsBlock key root r := by
  have hslot := Stored.ofUInt64_eq_ok.mpr ⟨hfits, rfl⟩
  show (∃ record db', checked key root (fun high v => v.signBlock high r) db = _) ↔ _
  rw [h.checked_accept_iff, (h.row key).signBlock_accept_iff hslot,
    ceiling, Stored.lt_ceiling_iff h.readable.slotCeiling_inRange hslot]
  exact ⟨fun ⟨hserves, habove, hbelow, halone⟩ => ⟨hserves, habove, hbelow, halone⟩,
    fun hallows => ⟨hallows.toServes, hallows.above, hallows.below, hallows.alone⟩⟩

/-- A vote that fits gets an answer. -/
theorem Sound.mayAttest_answer (h : db.Sound) (key : SignerId) (root : Root)
    {r : AttestationRequest} (hsource : r.source.toNat ≤ Stored.bound)
    (htarget : r.target.toNat ≤ Stored.bound) :
    ∃ d db', mayAttest key r root db = .ok (d, db') := by
  obtain ⟨v, hv⟩ := (h.row key).signAttestation_answer db.ceiling
    (Stored.ofUInt64_eq_ok.mpr ⟨hsource, rfl⟩) (Stored.ofUInt64_eq_ok.mpr ⟨htarget, rfl⟩)
  show ∃ d db', checked key root (fun high v => v.signAttestation high r) db = .ok (d, db')
  exact h.checked_answer ⟨_, v, hv⟩

/-- A vote that fits is accepted exactly under its conditions. -/
theorem Sound.mayAttest_accept_iff (h : db.Sound) {r : AttestationRequest}
    (hsource : r.source.toNat ≤ Stored.bound) (htarget : r.target.toNat ≤ Stored.bound) :
    (∃ record db', mayAttest key r root db = .ok (.accept record, db')) ↔
      db.AllowsVote key root r := by
  have hs := Stored.ofUInt64_eq_ok.mpr ⟨hsource, rfl⟩
  have ht := Stored.ofUInt64_eq_ok.mpr ⟨htarget, rfl⟩
  show (∃ record db', checked key root (fun high v => v.signAttestation high r) db = _) ↔ _
  rw [h.checked_accept_iff, (h.row key).signAttestation_accept_iff hs ht, Stored.stored_le hs ht]
  simp only [ceiling, forall_and]
  rw [Stored.lt_ceiling_iff h.readable.epochCeiling_inRange hs,
    Stored.lt_ceiling_iff h.readable.epochCeiling_inRange ht]
  constructor
  · rintro ⟨hserves, hforward, hlows, hlowt, ⟨hhighs, hhight⟩, halone⟩
    exact ⟨hserves, hforward, hlows, hlowt, hhighs, hhight, halone⟩
  · intro hallows
    exact ⟨hallows.toServes, hallows.forward, hallows.source_above, hallows.target_above,
      ⟨hallows.source_below, hallows.target_below⟩, hallows.alone⟩

/-- No vote is refused for a surround. -/
theorem Sound.mayAttest_reason (h : db.Sound) {r : AttestationRequest}
    (hr : mayAttest key r root db = .ok (.reject reason, db')) : reason.isSurround = false := by
  change checked key root (fun high v => v.signAttestation high r) db = _ at hr
  exact h.checked_reason (fun hr => (h.row key).signAttestation_reason hr) hr

end Database

namespace Engine

/-- In every reachable state, unless another connection holds the write lock, a
block or vote whose numbers fit gets an answer, and is accepted exactly under its
conditions: the genesis root is the stored one or the first, the validator is
enabled or new, the numbers are at least its watermark and below the ceiling, a
vote does not run backwards, and what is on record at the slot or the target, if
anything, is the same message. No vote at all is refused for a surround. -/
theorem accepts_exactly (maxAttempts : Nat) (calls : List Call) (key : SignerId) (root : Root) :
    let e := (fresh maxAttempts).after calls
    (∀ r : BlockRequest, r.slot.toNat ≤ Stored.bound →
      (e.locked = false → ∃ d, (e.mayBlock key r root).1 = .ok d) ∧
      ((∃ record, (e.mayBlock key r root).1 = .ok (.accept record)) ↔
        e.locked = false ∧ e.database.AllowsBlock key root r)) ∧
    (∀ r : AttestationRequest, r.source.toNat ≤ Stored.bound → r.target.toNat ≤ Stored.bound →
      (e.locked = false → ∃ d, (e.mayAttest key r root).1 = .ok d) ∧
      ((∃ record, (e.mayAttest key r root).1 = .ok (.accept record)) ↔
        e.locked = false ∧ e.database.AllowsVote key root r)) ∧
    ∀ r : AttestationRequest, ∀ reason, (e.mayAttest key r root).1 = .ok (.reject reason) →
      reason.isSurround = false := by
  intro e
  have he : e.database.Sound := sound_after_fresh maxAttempts calls
  refine ⟨fun r hfits => ⟨fun hfree => ?_, ?_⟩, fun r hs ht => ⟨fun hfree => ?_, ?_⟩,
    fun r reason hr => ?_⟩
  · obtain ⟨d, hbody⟩ := he.mayBlock_answer key root hfits
    exact ⟨d, transact_ok_iff.mpr ⟨hfree, hbody⟩⟩
  · rw [← he.mayBlock_accept_iff hfits]
    simp only [mayBlock, transact_ok_iff, exists_and_left]
  · obtain ⟨d, hbody⟩ := he.mayAttest_answer key root hs ht
    exact ⟨d, transact_ok_iff.mpr ⟨hfree, hbody⟩⟩
  · rw [← he.mayAttest_accept_iff hs ht]
    simp only [mayAttest, transact_ok_iff, exists_and_left]
  · obtain ⟨_, db, hbody⟩ := transact_ok_iff.mp hr
    exact he.mayAttest_reason hbody

/-- A ceiling, a block and a vote of one validator. -/
def boundedUse : List Call :=
  [.setHighWatermark ⟨some 100, some 50⟩,
    .block ⟨List.replicate 48 1⟩ ⟨7, .fit 32 [2]⟩ (.fit 32 [9]),
    .attest ⟨List.replicate 48 1⟩ ⟨2, 3, .fit 32 [3]⟩ (.fit 32 [9])]

/-- The last slot and the last epoch below the ceiling are accepted, the ceiling
itself is not. A vote around the one on record is refused for its source alone. -/
theorem boundedUse_accepts :
    let e := (fresh 1).after boundedUse
    let key : SignerId := ⟨List.replicate 48 1⟩
    (∃ record, (e.mayBlock key ⟨99, .fit 32 [4]⟩ (.fit 32 [9])).1 = .ok (.accept record)) ∧
      (¬ ∃ record, (e.mayBlock key ⟨100, .fit 32 [4]⟩ (.fit 32 [9])).1 = .ok (.accept record)) ∧
      (∃ record, (e.mayAttest key ⟨2, 49, .fit 32 [4]⟩ (.fit 32 [9])).1 = .ok (.accept record)) ∧
      ∃ reason, (e.mayAttest key ⟨1, 4, .fit 32 [4]⟩ (.fit 32 [9])).1 = .ok (.reject reason) ∧
        reason.isSurround = false := by
  intro e key
  obtain ⟨hblock, hvote, hreason⟩ := accepts_exactly 1 boundedUse key (.fit 32 [9])
  have hdatabase : e.database = ⟨some 1, some ⟨some (.fit 32 [9]), some 100, some 50⟩,
      [⟨key, true, some ⟨some 7, some 2, some 3⟩, [⟨7, some (FixedBytes.fit 32 [2]).bytes⟩],
        [⟨2, 3, some (FixedBytes.fit 32 [3]).bytes⟩]⟩]⟩ := by decide +kernel
  have hroot : e.database.genesisRoot? = some (.fit 32 [9]) := by rw [hdatabase]; rfl
  have hslots : e.database.slotCeiling = some 100 := by rw [hdatabase]; rfl
  have hepochs : e.database.epochCeiling = some 50 := by rw [hdatabase]; rfl
  have hrow : e.database.row key = ⟨key, true, some ⟨some 7, some 2, some 3⟩,
      [⟨7, some (FixedBytes.fit 32 [2]).bytes⟩], [⟨2, 3, some (FixedBytes.fit 32 [3]).bytes⟩]⟩ := by
    rw [hdatabase]
    rfl
  have hserves : e.database.Serves key (.fit 32 [9]) := ⟨by simp [hroot], by simp [hrow]⟩
  have hallows : e.database.AllowsBlock key (.fit 32 [9]) ⟨99, .fit 32 [4]⟩ := by
    refine ⟨hserves, ?_, ?_, ?_⟩ <;> simp [hrow, hslots, Validator.slotMark]
  have hvotes : e.database.AllowsVote key (.fit 32 [9]) ⟨2, 49, .fit 32 [4]⟩ := by
    refine ⟨hserves, by decide, ?_, ?_, ?_, ?_, ?_⟩ <;>
      simp [hrow, hepochs, Validator.sourceMark, Validator.targetMark]
  have hanswer : (e.mayAttest key ⟨1, 4, .fit 32 [4]⟩ (.fit 32 [9])).1 =
      .ok (.reject (.sourceBelowWatermark 1 2)) := by decide +kernel
  refine ⟨(hblock ⟨99, _⟩ (by decide)).2.mpr ⟨rfl, hallows⟩, fun haccept => ?_,
    (hvote ⟨2, 49, _⟩ (by decide) (by decide)).2.mpr ⟨rfl, hvotes⟩,
    _, hanswer, hreason _ _ hanswer⟩
  have hbelow := ((hblock ⟨100, _⟩ (by decide)).2.mp haccept).2.below 100 hslots
  exact absurd hbelow (by decide)

end Engine

end RemoteSigner
