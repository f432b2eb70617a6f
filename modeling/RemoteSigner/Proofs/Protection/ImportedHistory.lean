import RemoteSigner.Proofs.Protection.Slashing

/-!
# Imported history protects a key, but for one target

After a document was taken in, in every run:

* no new block is accepted at a listed slot;
* no new vote is accepted that surrounds a listed one or is surrounded by it;
* a new vote for a listed target is accepted in some run exactly if the target
  is `Open` after the import: the watermark stands at it and no record holds it.
  That happens only to a vote that was passed over because it surrounds a record.

The watermark is compared inclusively, so raising it to the largest target
listed closes the targets below, not that one.
-/

namespace RemoteSigner

namespace Validator

variable {v v' : Validator} {high : HighWatermark}

/-- The watermark stands at a target that no record holds. -/
def Open (v : Validator) (target : Int) : Prop :=
  v.targetMark = some target ∧ ∀ a ∈ v.attestations, a.target ≠ target

/-- A target that was reached is closed, unless it is open. -/
theorem Reached.closed_or_open {source target : Int} (h : v.Reached source target) :
    v.ClosedTarget (fun _ => True) target ∨ v.Open target := by
  obtain ⟨_, t, ht, hle⟩ := h
  by_cases hlt : target < t
  · exact .inl ⟨t, ht, hle, .inl hlt⟩
  · by_cases hrecord : ∃ a ∈ v.attestations, a.target = target
    · obtain ⟨a, ha, hat⟩ := hrecord
      exact .inl ⟨t, ht, hle, .inr ⟨a, ha, hat, trivial⟩⟩
    · obtain rfl : target = t := by omega
      exact .inr ⟨ht, fun a ha hat => hrecord ⟨a, ha, hat⟩⟩

theorem ClosedTarget.not_open {target : Int} (h : v.ClosedTarget (fun _ => True) target) :
    ¬ v.Open target := by
  rintro ⟨hmark, hnone⟩
  obtain ⟨t, ht, _, hlt | ⟨a, ha, hat, _⟩⟩ := h
  · obtain rfl := Option.some.inj (hmark.symm.trans ht)
    omega
  · exact hnone a ha hat

/-- At a closed slot no new block is accepted. -/
theorem ClosedSlot.slot_ne {r : BlockRequest} {slot : Int} (h : v.Sound)
    (hc : v.ClosedSlot (fun _ => True) slot)
    (hr : v.signBlock high r = .ok (.accept true, v')) : Stored.ofUInt64 r.slot ≠ .ok slot := by
  intro hslot
  obtain ⟨slot', hslot', hlow, hnew, _⟩ := h.signBlock_accept hr
  obtain rfl : slot = slot' := Except.ok.inj (hslot.symm.trans hslot')
  obtain ⟨w, hw, _, hlt | ⟨b, hb, hbs, _⟩⟩ := hc
  · have := hlow w hw
    omega
  · exact hnew rfl b hb hbs

/-- For a closed target no new vote is accepted. -/
theorem ClosedTarget.target_ne {r : AttestationRequest} {target : Int} (h : v.Sound)
    (hc : v.ClosedTarget (fun _ => True) target)
    (hr : v.signAttestation high r = .ok (.accept true, v')) :
    Stored.ofUInt64 r.target ≠ .ok target := by
  intro htarget
  obtain ⟨_, target', _, htarget', _, hlow, hnew, _⟩ := h.signAttestation_accept hr
  obtain rfl : target = target' := Except.ok.inj (htarget.symm.trans htarget')
  obtain ⟨w, hw, _, hlt | ⟨a, ha, hat, _⟩⟩ := hc
  · have := hlow w hw
    omega
  · exact target_ne_of_not_conflicts (hnew rfl a ha) hat

/-- A vote accepted where both epochs of another were reached neither surrounds
it nor is surrounded by it. -/
theorem Reached.no_surround {r : AttestationRequest} {l : SignedAttestation}
    {source target : Int} {record : Bool} (h : v.Sound) (hreached : v.Reached source target)
    (hsource : Stored.ofUInt64 l.source = .ok source)
    (htarget : Stored.ofUInt64 l.target = .ok target)
    (hr : v.signAttestation high r = .ok (.accept record, v')) :
    l.source ≤ r.source ∧ l.target ≤ r.target := by
  obtain ⟨s, t, hs, ht, hlows, hlowt, _⟩ := h.signAttestation_accept hr
  obtain ⟨⟨ms, hms, hsle⟩, mt, hmt, htle⟩ := hreached
  have hms' := hlows ms hms
  have hmt' := hlowt mt hmt
  exact ⟨(Stored.stored_le hsource hs).mp (by omega), (Stored.stored_le htarget ht).mp (by omega)⟩

/-- For an open target there is a vote that nothing speaks against. -/
theorem Open.free {target : Int} (h : v.Consistent) (hopen : v.Open target) :
    ∀ a ∈ v.attestations, a.conflicts target target = false := by
  intro a ha
  rw [← Bool.not_eq_true, conflicts_iff]
  obtain ⟨_, t, ht, hle⟩ := h.votes_marked a ha
  obtain rfl := Option.some.inj (hopen.1.symm.trans ht)
  have hforward := h.votes_free.forward a ha
  -- no record lies above the mark, and none runs backwards
  rintro (heq | hsurround | hsurround)
  · exact hopen.2 a ha heq
  · omega
  · omega

end Validator

namespace Engine

variable {e : Engine} {key : SignerId} {cs : List Call}

/-- A block was accepted and written. -/
def NewBlock (t : List Entry) (key : SignerId) (r : BlockRequest) : Prop :=
  ∃ root, (Call.block key r root, .ok (.decision (.accept true))) ∈ t

/-- A vote was accepted and written. -/
def NewVote (t : List Entry) (key : SignerId) (r : AttestationRequest) : Prop :=
  ∃ root, (Call.attest key r root, .ok (.decision (.accept true))) ∈ t

/-- A new block of a run was accepted on a row that its validator advanced to. -/
theorem newBlock_row (h : e.database.Sound) {r : BlockRequest} (hr : NewBlock (e.trace cs) key r) :
    ∃ v v' high, v.Sound ∧ (e.database.row key).Advances v ∧
      v.signBlock high r = .ok (.accept true, v') := by
  obtain ⟨root, hmem⟩ := hr
  obtain ⟨before, c, hx⟩ := mem_trace hmem
  obtain ⟨rfl, hans⟩ := Prod.mk.inj hx
  obtain ⟨hsound, hadv⟩ := after_step h before
  obtain ⟨high, hsign⟩ := perform_block_accept hsound hans.symm
  exact ⟨_, _, high, hsound.row key, hadv.rows key, hsign⟩

theorem newVote_row (h : e.database.Sound) {r : AttestationRequest}
    (hr : NewVote (e.trace cs) key r) :
    ∃ v v' high, v.Sound ∧ (e.database.row key).Advances v ∧
      v.signAttestation high r = .ok (.accept true, v') := by
  obtain ⟨root, hmem⟩ := hr
  obtain ⟨before, c, hx⟩ := mem_trace hmem
  obtain ⟨rfl, hans⟩ := Prod.mk.inj hx
  obtain ⟨hsound, hadv⟩ := after_step h before
  obtain ⟨high, hsign⟩ := perform_attest_accept hsound hans.symm
  exact ⟨_, _, high, hsound.row key, hadv.rows key, hsign⟩

/-! ## An open target is used -/

/-- Calls after which a vote is checked against its validator alone. -/
def clearing (key : SignerId) : List Call :=
  [.lock false, .setEnabled key true, .removeHighWatermark]

/-- The database after them. -/
def cleared (key : SignerId) (db : Database) : Database :=
  let db := db.update key fun v => { v with enabled := true }
  { db with metadata := some { db.metadata.getD ⟨none, none, none⟩ with
      highSlot := none, highEpoch := none } }

theorem after_clearing (e : Engine) (key : SignerId) :
    e.after (clearing key) = { e with locked := false, database := cleared key e.database } := by
  have henable := transact_of_ok (e := { e with locked := false })
    (Database.setEnabled key true) rfl rfl
  simp only [clearing, after, perform, setEnabled, henable, answer]
  rw [removeHighWatermark, transact_of_ok (Database.replaceHigh .none) rfl rfl]
  rfl

theorem row_cleared (db : Database) (key : SignerId) :
    (cleared key db).row key = { db.row key with enabled := true } := by
  have hfind : (cleared key db).find? key =
      (db.find? key).map fun v => if v.key == key then { v with enabled := true } else v :=
    Database.find?_setEnabled db key true key
  rw [Database.row, hfind]
  cases hf : db.find? key with
  | none => rw [Database.row, hf]; rfl
  | some v =>
      have hkey : (v.key == key) = true := by simpa using (Database.find?_mem hf).2
      rw [Database.row_eq hf]
      simp only [Option.map_some, hkey, if_true, Option.getD_some]

theorem admitGenesisRoot_cleared {db : Database} {root : Root} (key : SignerId)
    (h : db.genesisRoot? = some root) :
    (cleared key db).admitGenesisRoot root = (true, cleared key db) := by
  have hroot : (cleared key db).genesisRoot? = some root := by
    cases hm : db.metadata with
    | none => simp [Database.genesisRoot?, hm] at h
    | some m => simpa [Database.genesisRoot?, cleared, Database.update, hm] using h
  simp [Database.admitGenesisRoot, hroot]

/-- Where a target is open, a vote from and to it is accepted after that. -/
theorem newVote_of_open (h : e.database.Sound) {groot : Root} {n : UInt64} {target : Int}
    (hgroot : e.database.genesisRoot? = some groot) (hn : Stored.ofUInt64 n = .ok target)
    (hopen : (e.database.row key).Open target) (root : Root) :
    NewVote (e.trace (clearing key ++ [.attest key ⟨n, n, root⟩ groot])) key ⟨n, n, root⟩ := by
  have hrow := h.row key
  have hlows : ∀ w ∈ (e.database.row key).sourceMark, w ≤ target := by
    intro w hw
    -- the epochs are set together and in order
    rcases hrow.epochs_ordered with ⟨hnone, _⟩ | ⟨s, hs, t, ht, hst⟩
    · rw [hnone] at hw
      exact absurd hw (by simp)
    · obtain rfl := Option.some.inj (hs.symm.trans hw)
      obtain rfl := Option.some.inj (hopen.1.symm.trans ht)
      exact hst
  have hlowt : ∀ w ∈ (e.database.row key).targetMark, w ≤ target := by
    intro w hw
    obtain rfl := Option.some.inj (hopen.1.symm.trans hw)
    exact Int.le_refl _
  have hfree := hopen.free hrow.toConsistent
  have hsign := (hrow.withEnabled true).signAttestation_new .none ⟨n, n, root⟩ hn hn
    (Int.le_refl target) hlows hlowt (by simp [HighWatermark.none]) hfree
  rw [← row_cleared] at hsign
  have hcheck : Database.mayAttest key ⟨n, n, root⟩ groot (cleared key e.database) =
      .ok (.accept true, _) :=
    Database.checked_of (admitGenesisRoot_cleared key hgroot) (by rw [row_cleared]) rfl hsign
  have htransact := transact_of_ok (e := e.after (clearing key))
    (Database.mayAttest key ⟨n, n, root⟩ groot) (by rw [after_clearing])
    (by rw [after_clearing]; exact hcheck)
  refine ⟨groot, ?_⟩
  rw [trace_append]
  refine List.mem_append_right _ (List.mem_singleton.mpr (Prod.ext rfl ?_))
  show _ = (answer .decision ((e.after (clearing key)).mayAttest key ⟨n, n, root⟩ groot)).1
  rw [mayAttest, htransact]
  rfl

/-! ## Imported history -/

/-- Where a document was taken in, its histories were, and its chain is the one
of the database. -/
theorem perform_import_ok (h : e.database.Sound) {d : Interchange} {summary : ImportSummary}
    (hr : (e.perform (.importHistory d)).1 = .ok (.imported summary)) :
    (∀ x ∈ d.data, x.Taken ((e.perform (.importHistory d)).2.database.row x.key)) ∧
      (e.perform (.importHistory d)).2.database.genesisRoot? = some d.genesisRoot := by
  obtain ⟨s, db, hs, hbody, he⟩ := answer_transact_ok (f := .imported) hr
  rw [perform, importHistory, he]
  exact ⟨Interchange.importTo_taken h hbody, Interchange.importTo_genesisRoot h hbody⟩

/-- What a history that was taken in rules out from then on. -/
theorem taken_protects (h : e.database.Sound) {x : History}
    (ht : x.Taken (e.database.row x.key)) :
    (∀ b ∈ x.blocks, ∀ later r, NewBlock (e.trace later) x.key r → r.slot ≠ b.slot) ∧
    ∀ a ∈ x.attestations, ∀ later r, NewVote (e.trace later) x.key r →
      (a.source ≤ r.source ∧ a.target ≤ r.target) ∧
        (r.target = a.target → (e.database.row x.key).Open a.target.toNat) := by
  constructor
  · intro b hb later r hr heq
    obtain ⟨slot, hslot, hclosed⟩ := ht.blocks b hb
    obtain ⟨v, v', high, hv, hadv, hsign⟩ := newBlock_row h hr
    exact (hclosed.advance hadv).slot_ne hv hsign (heq ▸ hslot)
  · intro a ha later r hr
    obtain ⟨source, target, hsource, htarget, hreached, _⟩ := ht.votes a ha
    obtain ⟨v, v', high, hv, hadv, hsign⟩ := newVote_row h hr
    refine ⟨(hreached.advance hadv).no_surround hv hsource htarget hsign, fun heq => ?_⟩
    obtain ⟨_, rfl⟩ := Stored.ofUInt64_eq_ok.mp htarget
    rcases hreached.closed_or_open with hclosed | hopen
    · exact absurd (heq ▸ htarget) ((hclosed.advance hadv).target_ne hv hsign)
    · exact hopen

/-- After a document was taken in, no run accepts a new block at a listed slot
or a new vote that surrounds a listed one or is surrounded by it. Some run
accepts a new vote for a listed target exactly if the target is open after the
import, and then the listed vote surrounds a record. -/
theorem imported_protected_unless_open (maxAttempts : Nat) (calls : List Call) (d : Interchange)
    (summary : ImportSummary)
    (himport : (((fresh maxAttempts).after calls).perform (.importHistory d)).1 =
      .ok (.imported summary)) (x : History) (hx : x ∈ d.data) :
    let e := (fresh maxAttempts).after (calls ++ [.importHistory d])
    (∀ b ∈ x.blocks, ∀ later r, NewBlock (e.trace later) x.key r → r.slot ≠ b.slot) ∧
    ∀ a ∈ x.attestations,
      (∀ later r, NewVote (e.trace later) x.key r →
        ¬ (r.source < a.source ∧ a.target < r.target) ∧
          ¬ (a.source < r.source ∧ r.target < a.target)) ∧
      ((∃ later r, NewVote (e.trace later) x.key r ∧ r.target = a.target) ↔
        (e.database.row x.key).Open a.target.toNat) ∧
      ((e.database.row x.key).Open a.target.toNat →
        ∃ y ∈ (e.database.row x.key).attestations,
          a.source.toNat < y.source ∧ y.target < a.target.toNat) := by
  intro e
  have he : e = (((fresh maxAttempts).after calls).perform (.importHistory d)).2 :=
    after_append _ _ _
  have hsound : e.database.Sound := sound_after_fresh maxAttempts _
  obtain ⟨htaken, hroot⟩ := perform_import_ok (sound_after_fresh maxAttempts calls) himport
  rw [← he] at htaken hroot
  obtain ⟨hblocks, hvotes⟩ := taken_protects hsound (htaken x hx)
  refine ⟨hblocks, fun a ha => ⟨?_, ⟨?_, ?_⟩, ?_⟩⟩
  · intro later r hr
    obtain ⟨hsource, htarget⟩ := (hvotes a ha later r hr).1
    exact ⟨fun hs => UInt64.not_lt.mpr hsource hs.1, fun hs => UInt64.not_lt.mpr htarget hs.2⟩
  · rintro ⟨later, r, hr, heq⟩
    exact (hvotes a ha later r hr).2 heq
  · intro hopen
    obtain ⟨source, target, _, htarget, _⟩ := (htaken x hx).votes a ha
    obtain ⟨_, rfl⟩ := Stored.ofUInt64_eq_ok.mp htarget
    exact ⟨_, _, newVote_of_open hsound hroot htarget hopen d.genesisRoot, rfl⟩
  · intro hopen
    obtain ⟨source, target, hsource, htarget, _, hor⟩ := (htaken x hx).votes a ha
    obtain ⟨_, rfl⟩ := Stored.ofUInt64_eq_ok.mp hsource
    obtain ⟨_, rfl⟩ := Stored.ofUInt64_eq_ok.mp htarget
    rcases hor with hclosed | hsurround
    · exact absurd hopen hclosed.not_open
    · exact hsurround

/-- A history whose second vote surrounds its first. -/
def surroundingHistory : History :=
  ⟨⟨List.replicate 48 1⟩, [],
    [⟨5, 6, none⟩, ⟨3, 10, some ⟨List.replicate 32 2, List.length_replicate⟩⟩]⟩

/-- The document that hands it over. -/
def surroundingDocument : Interchange :=
  ⟨Interchange.formatVersion, ⟨List.replicate 32 170, List.length_replicate⟩, [surroundingHistory]⟩

theorem surrounding_target_open :
    ∃ later r, NewVote (((fresh 1).after [.importHistory surroundingDocument]).trace later)
      surroundingHistory.key r ∧ r.target = 10 :=
  ((imported_protected_unless_open 1 [] surroundingDocument ⟨1, 0, 0, 1, 1⟩ (by decide +kernel)
    surroundingHistory (by decide)).2 ⟨3, 10, some ⟨List.replicate 32 2, List.length_replicate⟩⟩
      (by decide)).2.1.mpr ⟨by decide +kernel, by decide +kernel⟩

/-- A second vote for the target of a listed one is accepted as new: the listed
vote was passed over, and the watermark stands at its target. -/
theorem double_vote_after_import :
    ((fresh 1).trace [.importHistory surroundingDocument,
      .attest surroundingHistory.key ⟨7, 10, ⟨List.replicate 32 9, List.length_replicate⟩⟩
        surroundingDocument.genesisRoot]).map (·.2) =
        [.ok (.imported ⟨1, 0, 0, 1, 1⟩), .ok (.decision (.accept true))] := by
  decide +kernel

end Engine

end RemoteSigner
