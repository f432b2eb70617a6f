import RemoteSigner.Proofs.Protection.Acceptance

/-!
# Asking again

A client that lost an answer asks for the same message again. What was accepted
is then on record, and the watermark is at it exactly, so it is accepted as known
and nothing is written:

* `Sound.signBlock_known`, `Sound.signAttestation_known` — a message accepted as
  known is at the watermark, and its row stays as it is;
* `Sound.signBlock_again`, `Sound.signAttestation_again` — what was accepted is
  known on the row that this left;
* `checked_again` — the same of the database, with its chain and ceiling;
* `resigning_idempotent` — every reachable state, any number of repetitions.
-/

namespace RemoteSigner

/-- Raising to what was not exceeded reaches it. -/
theorem Stored.raise_of_ge {old : Option Int} {new : Int} (h : ∀ i ∈ old, i ≤ new) :
    raise old new = new := by
  rcases raise_eq old new with hnew | hold
  · exact hnew
  · exact Int.le_antisymm (h _ hold) (le_raise old new)

namespace Validator

variable {v v' : Validator} {high : HighWatermark} {record : Bool}

/-! ## Blocks -/

theorem raiseSlot_of_mark {m : Int} (h : v.slotMark = some m) : v.raiseSlot m = v :=
  raiseSlot_of_reached ⟨m, h, Int.le_refl m⟩

/-- A block accepted as known is at the watermark. -/
theorem Sound.signBlock_known (h : v.Sound) {request : BlockRequest}
    (hr : v.signBlock high request = .ok (.accept false, v')) :
    v.slotMark = some (request.slot.toNat : Int) ∧ v' = v := by
  rcases h.signBlock_cases hr with ⟨⟨_, hd⟩, _⟩ | ⟨slot, hslot, hlow, _, ⟨_, hmem, rfl⟩ | ⟨hd, _⟩⟩
  · cases hd
  · obtain ⟨_, rfl⟩ := Stored.ofUInt64_eq_ok.mp hslot
    -- the mark is no higher than the request, and no lower than the record of it
    obtain ⟨w, hw, hle⟩ := h.blocks_marked _ hmem
    obtain rfl : w = _ := Int.le_antisymm (hlow w hw) hle
    exact ⟨hw, raiseSlot_of_mark hw⟩
  · cases hd

/-- A block that was accepted is known on the row that this left. -/
theorem Sound.signBlock_again (h : v.Sound) {request : BlockRequest}
    (hr : v.signBlock high request = .ok (.accept record, v')) :
    v'.signBlock high request = .ok (.accept false, v') := by
  have hsound := (h.signBlock hr).1
  obtain ⟨slot, hslot, hhigh, hmark, hmem⟩ : ∃ slot, Stored.ofUInt64 request.slot = .ok slot ∧
      (∀ top ∈ high.slot, request.slot < top) ∧ v'.slotMark = some slot ∧
      (⟨slot, some request.root.bytes⟩ : StoredBlock) ∈ v'.blocks := by
    rcases h.signBlock_cases hr with
      ⟨⟨_, hd⟩, _⟩ | ⟨slot, hslot, hlow, hhigh, ⟨_, hmem, rfl⟩ | ⟨_, _, rfl⟩⟩
    · cases hd
    · exact ⟨slot, hslot, hhigh, by rw [slotMark_raiseSlot, Stored.raise_of_ge hlow], hmem⟩
    · refine ⟨slot, hslot, hhigh, ?_, List.mem_append_right _ List.mem_cons_self⟩
      rw [slotMark_raiseSlot]
      exact congrArg some (Stored.raise_of_ge hlow)
  have hagain := hsound.signBlock_held hslot (by simp [hmark]) hhigh hmem
  rwa [raiseSlot_of_mark hmark] at hagain

/-! ## Attestations -/

theorem raiseEpochs_of_marks {s t : Int} (hs : v.sourceMark = some s)
    (ht : v.targetMark = some t) : v.raiseEpochs s t = v :=
  raiseEpochs_of_reached ⟨s, hs, Int.le_refl s⟩ ⟨t, ht, Int.le_refl t⟩

/-- A vote accepted as known is at the watermark. -/
theorem Sound.signAttestation_known (h : v.Sound) {request : AttestationRequest}
    (hr : v.signAttestation high request = .ok (.accept false, v')) :
    v.sourceMark = some (request.source.toNat : Int) ∧
      v.targetMark = some (request.target.toNat : Int) ∧ v' = v := by
  rcases h.signAttestation_cases hr with ⟨⟨_, hd⟩, _⟩ |
    ⟨source, target, hsource, htarget, _, hlows, hlowt, _, ⟨_, hmem, rfl⟩ | ⟨hd, _⟩⟩
  · cases hd
  · obtain ⟨_, rfl⟩ := Stored.ofUInt64_eq_ok.mp hsource
    obtain ⟨_, rfl⟩ := Stored.ofUInt64_eq_ok.mp htarget
    obtain ⟨⟨s, hs, hles⟩, t, ht, hlet⟩ := h.votes_marked _ hmem
    obtain rfl : s = _ := Int.le_antisymm (hlows s hs) hles
    obtain rfl : t = _ := Int.le_antisymm (hlowt t ht) hlet
    exact ⟨hs, ht, raiseEpochs_of_marks hs ht⟩
  · cases hd

/-- A vote that was accepted is known on the row that this left. -/
theorem Sound.signAttestation_again (h : v.Sound) {request : AttestationRequest}
    (hr : v.signAttestation high request = .ok (.accept record, v')) :
    v'.signAttestation high request = .ok (.accept false, v') := by
  have hsound := (h.signAttestation hr).1
  obtain ⟨source, target, hs, ht, hhigh, ⟨hsource, htarget⟩, hmem⟩ : ∃ source target,
      Stored.ofUInt64 request.source = .ok source ∧ Stored.ofUInt64 request.target = .ok target ∧
      (∀ top ∈ high.epoch, request.source < top ∧ request.target < top) ∧
      (v'.sourceMark = some source ∧ v'.targetMark = some target) ∧
      (⟨source, target, some request.root.bytes⟩ : StoredAttestation) ∈ v'.attestations := by
    rcases h.signAttestation_cases hr with ⟨⟨_, hd⟩, _⟩ |
      ⟨source, target, hs, ht, _, hlows, hlowt, hhigh, ⟨_, hmem, rfl⟩ | ⟨_, _, rfl⟩⟩
    · cases hd
    · refine ⟨source, target, hs, ht, hhigh, ?_, hmem⟩
      rw [sourceMark_raiseEpochs, targetMark_raiseEpochs]
      exact ⟨congrArg some (Stored.raise_of_ge hlows), congrArg some (Stored.raise_of_ge hlowt)⟩
    · refine ⟨source, target, hs, ht, hhigh, ?_, List.mem_append_right _ List.mem_cons_self⟩
      rw [sourceMark_raiseEpochs, targetMark_raiseEpochs]
      exact ⟨congrArg some (Stored.raise_of_ge hlows), congrArg some (Stored.raise_of_ge hlowt)⟩
  have hagain := hsound.signAttestation_held hs ht (by simp [hsource]) (by simp [htarget]) hhigh
    hmem
  rwa [raiseEpochs_of_marks hsource htarget] at hagain

end Validator

namespace Database

variable {db db' : Database} {key : SignerId} {root : Root} {record : Bool}
  {check : HighWatermark → Validator → Protected (Decision × Validator)}

/-- Of two rows put in the same place the last one stays. -/
theorem put_put {v : Validator} (hv : v.key = key) (w : Validator) :
    (db.put key v).put key w = db.put key w := by
  have hfound : (db.put key v).find? key = some v := by rw [find?_put hv, if_pos rfl]
  rw [put_eq_update hfound, put, put, update, update, update, List.map_map]
  congr 2
  funext x
  by_cases hx : x.key = key <;> simp [hx, hv]

/-- A check that knows on its own row what it accepted knows it in the database. -/
theorem checked_again
    (hagain : ∀ {high v}, check high (db.row key) = .ok (.accept record, v) →
      v.key = key ∧ v.enabled = (db.row key).enabled ∧ check high v = .ok (.accept false, v))
    (hr : checked key root check db = .ok (.accept record, db')) :
    checked key root check db' = .ok (.accept false, db') := by
  rcases checked_ok hr with ⟨⟨_, hd⟩, _⟩ | ⟨db₁, high, v, hchain, hon, hhigh, hv, rfl⟩
  · cases hd
  · obtain ⟨hkey, henabled, hknown⟩ := hagain hv
    have hrow : (db₁.put key v).row key = v := by rw [row_put hkey, if_pos rfl]
    have hroot : (db₁.put key v).genesisRoot? = some root := by
      rw [genesisRoot?_congr (metadata_put v), genesisRoot_admitted hchain]
    have hadmit : (db₁.put key v).admitGenesisRoot root = (true, db₁.put key v) := by
      simp [admitGenesisRoot, hroot]
    have hceiling : (db₁.put key v).highWatermark = .ok high := by
      rw [highWatermark_congr (metadata_put v), hhigh]
    rw [← hrow] at hknown henabled
    rw [checked_of hadmit (henabled.trans hon) hceiling hknown, hrow, put_put hkey]

theorem Sound.mayBlock_again (h : db.Sound) {request : BlockRequest}
    (hr : mayBlock key request root db = .ok (.accept record, db')) :
    mayBlock key request root db' = .ok (.accept false, db') := by
  change checked key root (fun high v => v.signBlock high request) db = _ at hr
  show checked key root (fun high v => v.signBlock high request) db' = _
  refine checked_again (fun hv => ?_) hr
  have hrow := h.row key
  exact ⟨(hrow.signBlock hv).2.key_eq.trans (row_key db key), hrow.signBlock_enabled hv,
    hrow.signBlock_again hv⟩

theorem Sound.mayAttest_again (h : db.Sound) {request : AttestationRequest}
    (hr : mayAttest key request root db = .ok (.accept record, db')) :
    mayAttest key request root db' = .ok (.accept false, db') := by
  change checked key root (fun high v => v.signAttestation high request) db = _ at hr
  show checked key root (fun high v => v.signAttestation high request) db' = _
  refine checked_again (fun hv => ?_) hr
  have hrow := h.row key
  exact ⟨(hrow.signAttestation hv).2.key_eq.trans (row_key db key), hrow.signAttestation_enabled hv,
    hrow.signAttestation_again hv⟩

end Database

namespace Engine

variable {e : Engine} {c : Call}

/-- However often a call is made, it is accepted as known and changes nothing. -/
def Knows (e : Engine) (c : Call) : Prop :=
  ∀ n, e.after (List.replicate n c) = e ∧
    e.trace (List.replicate n c) = List.replicate n (c, .ok (.decision (.accept false)))

/-- A call that is once accepted as known and changes nothing is so however
often it is made. -/
theorem knows_of_perform (h : e.perform c = (.ok (.decision (.accept false)), e)) : e.Knows c := by
  intro n
  induction n with
  | zero => exact ⟨rfl, rfl⟩
  | succ n ih =>
      obtain ⟨hafter, htrace⟩ := ih
      rw [List.replicate_succ, after, trace, h, hafter, htrace]
      exact ⟨rfl, rfl⟩

/-- A check that knows in the database what it accepted knows it in the engine. -/
theorem transact_again {body : Operation Decision} {record : Bool}
    (hagain : ∀ {db}, body e.database = .ok (.accept record, db) →
      body db = .ok (.accept false, db))
    (hr : (answer .decision (e.transact body)).1 = .ok (.decision (.accept record))) :
    answer .decision ((e.transact body).2.transact body) =
      (.ok (.decision (.accept false)), (e.transact body).2) := by
  have hok : (e.transact body).1 = .ok (.accept record) := by
    unfold answer at hr
    cases hd : (e.transact body).1 with
    | error fault =>
        rw [hd] at hr
        cases hr
    | ok d =>
        rw [hd] at hr
        rw [Answer.decision.inj (Except.ok.inj hr)]
  obtain ⟨hfree, db, hbody⟩ := transact_ok_iff.mp hok
  rw [transact_of_ok body hfree hbody]
  -- the write lock is still free, and the body finds the database that it left
  have hsecond := transact_of_ok (e := { e with database := db }) body hfree (hagain hbody)
  rw [answer, hsecond]
  rfl

/-- In every reachable state: once a block or an attestation was accepted, asking
for it again is accepted as known and leaves the engine with the whole database
as the first time left it, however often; and what is accepted as known is at the
watermark of its validator. -/
theorem resigning_idempotent (maxAttempts : Nat) (calls : List Call) (key : SignerId)
    (root : Root) (record : Bool) :
    let e := (fresh maxAttempts).after calls
    (∀ r, (e.perform (.block key r root)).1 = .ok (.decision (.accept record)) →
      (e.perform (.block key r root)).2.Knows (.block key r root) ∧
      (record = false → (e.database.row key).slotMark = some (r.slot.toNat : Int))) ∧
    ∀ r, (e.perform (.attest key r root)).1 = .ok (.decision (.accept record)) →
      (e.perform (.attest key r root)).2.Knows (.attest key r root) ∧
      (record = false → (e.database.row key).sourceMark = some (r.source.toNat : Int) ∧
        (e.database.row key).targetMark = some (r.target.toNat : Int)) := by
  intro e
  have he : e.database.Sound := sound_after_fresh maxAttempts calls
  refine ⟨fun r hr => ⟨knows_of_perform (transact_again he.mayBlock_again hr), ?_⟩,
    fun r hr => ⟨knows_of_perform (transact_again he.mayAttest_again hr), ?_⟩⟩
  · rintro rfl
    obtain ⟨high, hsign⟩ := perform_block_accept he hr
    exact ((he.row key).signBlock_known hsign).1
  · rintro rfl
    obtain ⟨high, hsign⟩ := perform_attest_accept he hr
    obtain ⟨hsource, htarget, _⟩ := (he.row key).signAttestation_known hsign
    exact ⟨hsource, htarget⟩

/-- A block above the watermark is accepted as new, and then known. The block and
the vote that were signed before are known already, and are at the watermark. -/
theorem boundedUse_resigned :
    let e := (fresh 1).after boundedUse
    let key : SignerId := ⟨List.replicate 48 1⟩
    let next : Call := .block key ⟨8, .fit 32 [4]⟩ (.fit 32 [9])
    (e.perform next).1 = .ok (.decision (.accept true)) ∧ (e.perform next).2.Knows next ∧
      (e.database.row key).slotMark = some 7 ∧ (e.database.row key).sourceMark = some 2 ∧
      (e.database.row key).targetMark = some 3 := by
  intro e key next
  have hnext : (e.perform next).1 = .ok (.decision (.accept true)) := by decide +kernel
  have hblock : (e.perform (.block key ⟨7, .fit 32 [2]⟩ (.fit 32 [9]))).1 =
      .ok (.decision (.accept false)) := by decide +kernel
  have hvote : (e.perform (.attest key ⟨2, 3, .fit 32 [3]⟩ (.fit 32 [9]))).1 =
      .ok (.decision (.accept false)) := by decide +kernel
  obtain ⟨hnew, _⟩ := resigning_idempotent 1 boundedUse key (.fit 32 [9]) true
  obtain ⟨hblocks, hvotes⟩ := resigning_idempotent 1 boundedUse key (.fit 32 [9]) false
  obtain ⟨hsource, htarget⟩ := (hvotes _ hvote).2 rfl
  exact ⟨hnext, (hnew _ hnext).1, (hblocks _ hblock).2 rfl, hsource, htarget⟩

end Engine

end RemoteSigner
