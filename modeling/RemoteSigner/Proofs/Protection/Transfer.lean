import RemoteSigner.Proofs.Lists
import RemoteSigner.Proofs.Protection.Exact
import RemoteSigner.Proofs.Protection.Retention

/-!
# Moving history to an empty database

What a sound database hands out an empty one takes in record by record, and
hands out again:

* `History.importBlocks_recorded`, `History.importAttestations_recorded` — the
  records of a sound row conflict with none of those written before them;
* `Restored` — the row they make: the same records in their order, and the
  watermark that goes with them;
* `Interchange.importHistories_recorded` — the rows of a whole document, by
  induction on the rows it was made from;
* `Engine.export_import_faithful` — the way from one engine to another and back.
-/

namespace RemoteSigner

open Validator

/-! ## Records of one validator -/

namespace History

variable {v : Validator}

/-- Blocks at distinct slots are all written. -/
theorem importBlocks_recorded {bs : List StoredBlock}
    (hread : ∀ b ∈ v.blocks ++ bs, Stored.InRange b.slot ∧ Stored.RootOk b.root)
    (hdistinct : ((v.blocks ++ bs).map (·.slot)).Nodup) :
    importBlocks (bs.map (·.record)) v =
      .ok (bs.length, 0, { v with blocks := v.blocks ++ bs }) := by
  induction bs generalizing v with
  | nil => simp [importBlocks]
  | cons b rest ih =>
      obtain ⟨hok, hroot⟩ := hread b (by simp)
      have hslot : Stored.ofUInt64 b.record.slot = .ok b.slot := Stored.stored_read hok
      have hbytes : b.record.root.map (·.bytes) = b.root := Stored.bytes_readRoot hroot
      have hfree : ∀ x ∈ v.blocks, x.slot ≠ b.slot := by
        rw [List.map_append] at hdistinct
        intro x hx heq
        refine List.disjoint_of_nodup_append hdistinct (List.mem_map_of_mem hx) ?_
        exact heq ▸ List.mem_map_of_mem List.mem_cons_self
      have hfound : v.findBlock b.slot = .ok none := by
        rw [findBlock_eq fun x hx => hread x (List.mem_append_left _ hx),
          List.find?_eq_none.mpr (by simpa using hfree)]
        rfl
      have hinsert := insertBlock_eq (b := b) hfree
      have hrest := ih (v := { v with blocks := v.blocks ++ [b] }) (by simpa using hread)
        (by simpa using hdistinct)
      simp only [List.map_cons, importBlocks, hslot, hfound, hbytes, hinsert, hrest, bind,
        Except.bind]
      simp [pure, Except.pure]

/-- Votes free of conflicts are all written. -/
theorem importAttestations_recorded {key : SignerId} (index : Nat) {as : List StoredAttestation}
    (hread : ∀ a ∈ v.attestations ++ as,
      Stored.InRange a.source ∧ Stored.InRange a.target ∧ Stored.RootOk a.root)
    (hfree : ConflictFree (v.attestations ++ as)) :
    importAttestations key index (as.map (·.record)) v =
      .ok (as.length, 0, { v with attestations := v.attestations ++ as }) := by
  induction as generalizing v index with
  | nil => simp [importAttestations]
  | cons a rest ih =>
      have hmem : a ∈ v.attestations ++ a :: rest := by simp
      obtain ⟨hs, ht, hroot⟩ := hread a hmem
      have hsource : Stored.ofUInt64 a.record.source = .ok a.source := Stored.stored_read hs
      have htarget : Stored.ofUInt64 a.record.target = .ok a.target := Stored.stored_read ht
      have hbytes : a.record.root.map (·.bytes) = a.root := Stored.bytes_readRoot hroot
      have hforward : ¬ a.record.target < a.record.source := by
        have hle := hfree.forward a hmem
        exact UInt64.not_lt.mpr ((Stored.stored_le hsource htarget).mp hle)
      have hnew : ∀ x ∈ v.attestations, x.conflicts a.source a.target = false := by
        intro x hx
        have hx' : x ∈ v.attestations ++ a :: rest := List.mem_append_left _ hx
        rw [Bool.eq_false_iff, ne_eq, conflicts_iff]
        have htargets := hfree.targets_distinct
        rw [List.map_append] at htargets
        rintro (heq | hsurround | hsurround)
        · refine List.disjoint_of_nodup_append htargets (List.mem_map_of_mem hx) ?_
          exact heq ▸ List.mem_map_of_mem List.mem_cons_self
        · exact hfree.no_surround x hx' a hmem hsurround
        · exact hfree.no_surround a hmem x hx' hsurround
      have hempty : v.attestations.filter (·.conflicts a.source a.target) = [] := by
        simpa [List.filter_eq_nil_iff] using hnew
      have hfound : v.findConflicts a.source a.target = .ok [] := by
        rw [findConflicts_eq fun x hx => hread x (List.mem_append_left _ hx), hempty]
        simp
      have hinsert := insertAttestation_eq (a := a) fun x hx =>
        target_ne_of_not_conflicts (hnew x hx)
      have hrest := ih (v := { v with attestations := v.attestations ++ [a] }) (index + 1)
        (by simpa using hread) (by simpa using hfree)
      simp only [List.map_cons, importAttestations, if_neg hforward, hsource, htarget, hfound,
        hbytes, hinsert, hrest, bind, Except.bind]
      simp [pure, Except.pure]

/-- Only the slot of the watermark changes. -/
theorem raiseSlot_of_readable {h : History}
    (hread : ∀ l ∈ h.blocks, ∃ slot, Stored.ofUInt64 l.slot = .ok slot) :
    ∃ w, h.raiseSlot v = .ok { v with watermark := w } := by
  unfold raiseSlot
  cases hmax : maximum? (h.blocks.map (·.slot)) with
  | none => exact ⟨v.watermark, rfl⟩
  | some top =>
      obtain ⟨l, hl, rfl⟩ := List.mem_map.mp (maximum?_spec hmax).1
      obtain ⟨slot, hslot⟩ := hread l hl
      simp only [hslot, bind, Except.bind]
      exact ⟨_, rfl⟩

/-- Only the epochs of the watermark change. -/
theorem raiseEpochs_of_readable {h : History}
    (hread : ∀ l ∈ h.attestations, (∃ s, Stored.ofUInt64 l.source = .ok s) ∧
      ∃ t, Stored.ofUInt64 l.target = .ok t) :
    ∃ w, h.raiseEpochs v = .ok { v with watermark := w } := by
  unfold raiseEpochs
  cases hs : maximum? (h.attestations.map (·.source)) with
  | none => exact ⟨v.watermark, rfl⟩
  | some topSource =>
      cases ht : maximum? (h.attestations.map (·.target)) with
      | none => exact ⟨v.watermark, rfl⟩
      | some topTarget =>
          obtain ⟨l, hl, rfl⟩ := List.mem_map.mp (maximum?_spec hs).1
          obtain ⟨l', hl', rfl⟩ := List.mem_map.mp (maximum?_spec ht).1
          obtain ⟨s, hsource⟩ := (hread l hl).1
          obtain ⟨t, htarget⟩ := (hread l' hl').2
          simp only [hsource, htarget, bind, Except.bind]
          exact ⟨_, rfl⟩

end History

/-! ## The row that is made -/

namespace Validator

variable {v u : Validator}

theorem ConflictFree.perm {as bs : List StoredAttestation} (h : ConflictFree as)
    (hp : bs.Perm as) : ConflictFree bs where
  targets_distinct := (hp.map _).nodup_iff.mpr h.targets_distinct
  forward := fun a ha => h.forward a (hp.mem_iff.mp ha)
  no_surround := fun a ha b hb => h.no_surround a (hp.mem_iff.mp ha) b (hp.mem_iff.mp hb)

/-- The row that an empty database makes of what was handed out of another one. -/
structure Restored (v u : Validator) : Prop where
  sound : u.Sound
  exact : u.Exact
  key_eq : u.key = v.key
  enabled : u.enabled = true
  blocks_eq : u.blocks = v.blocksInOrder
  votes_eq : u.attestations = v.attestationsInOrder

/-- Records that are in order stay so. -/
theorem mergeSort_mergeSort {α : Type} (key : α → Int) (l : List α) :
    (l.mergeSort fun a b => key a ≤ key b).mergeSort (fun a b => key a ≤ key b) =
      l.mergeSort fun a b => key a ≤ key b :=
  List.mergeSort_of_pairwise (List.pairwise_mergeSort (key_le_trans key) (key_le_total key) l)

/-- What is made of a history is handed out as that history. -/
theorem Restored.recorded_eq (h : v.Restored u) : History.recorded u = History.recorded v := by
  have hblocks : u.blocksInOrder = v.blocksInOrder := by
    rw [blocksInOrder, h.blocks_eq]
    exact mergeSort_mergeSort (·.slot) v.blocks
  have hvotes : u.attestationsInOrder = v.attestationsInOrder := by
    rw [attestationsInOrder, h.votes_eq]
    exact mergeSort_mergeSort (·.target) v.attestations
  rw [History.recorded, History.recorded, hblocks, hvotes, h.key_eq]

/-- Where the watermark was exact, the row that is made of it is a twin. -/
theorem Restored.twin (h : v.Restored u) (hv : v.Sound) (hx : v.Exact)
    (henabled : v.enabled = true) : v.Twin u := by
  refine hx.twin h.exact hv h.sound h.key_eq.symm (henabled.trans h.enabled.symm) ?_ ?_
  · intro b
    rw [h.blocks_eq]
    exact List.mem_mergeSort.symm
  · intro a
    rw [h.votes_eq]
    exact List.mem_mergeSort.symm

/-- A fresh row takes in all that a sound row hands out. -/
theorem Sound.importTo_fresh (h : v.Sound) :
    ∃ summary u, (History.recorded v).importTo (fresh v.key) = .ok (summary, u) ∧
      summary.blocksSkipped = 0 ∧ summary.attestationsSkipped = 0 ∧ v.Restored u := by
  have hreadBlocks : ∀ b ∈ v.blocksInOrder, Stored.InRange b.slot ∧ Stored.RootOk b.root :=
    fun b hb => h.blocks_readable b (List.mem_mergeSort.mp hb)
  have hreadVotes : ∀ a ∈ v.attestationsInOrder,
      Stored.InRange a.source ∧ Stored.InRange a.target ∧ Stored.RootOk a.root :=
    fun a ha => h.votes_readable a (List.mem_mergeSort.mp ha)
  have hblocks : History.importBlocks (History.recorded v).blocks (fresh v.key) =
      .ok (v.blocksInOrder.length, 0, ⟨v.key, true, none, v.blocksInOrder, []⟩) :=
    History.importBlocks_recorded hreadBlocks
      (((List.mergeSort_perm _ _).map _).nodup_iff.mpr h.slots_distinct)
  obtain ⟨w₁, hslot⟩ := History.raiseSlot_of_readable (h := History.recorded v)
    (v := ⟨v.key, true, none, v.blocksInOrder, []⟩) fun l hl => by
      obtain ⟨b, hb, rfl⟩ := List.mem_map.mp hl
      exact ⟨_, Stored.stored_read (hreadBlocks b hb).1⟩
  have hvotes : History.importAttestations (History.recorded v).key 0
      (History.recorded v).attestations ⟨v.key, true, w₁, v.blocksInOrder, []⟩ =
      .ok (v.attestationsInOrder.length, 0,
        ⟨v.key, true, w₁, v.blocksInOrder, v.attestationsInOrder⟩) :=
    History.importAttestations_recorded 0 hreadVotes (h.votes_free.perm (List.mergeSort_perm _ _))
  obtain ⟨w₂, hepochs⟩ := History.raiseEpochs_of_readable (h := History.recorded v)
    (v := ⟨v.key, true, w₁, v.blocksInOrder, v.attestationsInOrder⟩) fun l hl => by
      obtain ⟨a, ha, rfl⟩ := List.mem_map.mp hl
      exact ⟨⟨_, Stored.stored_read (hreadVotes a ha).1⟩,
        _, Stored.stored_read (hreadVotes a ha).2.1⟩
  have himport : (History.recorded v).importTo (fresh v.key) =
      .ok (⟨1, v.blocksInOrder.length, 0, v.attestationsInOrder.length, 0⟩,
        ⟨v.key, true, w₂, v.blocksInOrder, v.attestationsInOrder⟩) := by
    simp only [History.importTo, hblocks, hslot, hvotes, hepochs, bind, Except.bind]
    rfl
  obtain ⟨hsound, _, _⟩ := History.importTo_step (sound_fresh v.key) himport
  refine ⟨_, _, himport, rfl, rfl, hsound, ?_, rfl, rfl, rfl, rfl⟩
  refine History.importTo_markedBy himport (markedBy_fresh v.key) ⟨fun l hl => ?_, fun l hl => ?_⟩
  · obtain ⟨b, hb, rfl⟩ := List.mem_map.mp hl
    exact ⟨b, hb, (Stored.toNat_read (hreadBlocks b hb).1).symm⟩
  · obtain ⟨a, ha, rfl⟩ := List.mem_map.mp hl
    exact ⟨a, ha, (Stored.toNat_read (hreadVotes a ha).1).symm,
      (Stored.toNat_read (hreadVotes a ha).2.1).symm⟩

end Validator

/-! ## Whole databases -/

namespace Database

variable {db : Database} {key : SignerId} {root : Root}

/-- A row of a new validator comes last. -/
theorem put_new (hnew : db.find? key = none) (v : Validator) :
    db.put key v = { db with validators := db.validators ++ [v] } := by
  have hother : ∀ w ∈ db.validators, ¬ (w.key == key) = true := List.find?_eq_none.mp hnew
  have hkept : (db.validators.map fun w => if w.key == key then v else w) = db.validators := by
    refine (List.map_congr_left fun w hw => ?_).trans (List.map_id _)
    exact if_neg (hother w hw)
  simp only [put, ensure, hnew, Option.isSome_none, Bool.false_eq_true, if_false, update,
    List.map_append, hkept]
  simp [Validator.fresh]

/-- A database with a chain and no ceiling holds no other metadata. -/
theorem metadata_eq_of_no_high (hroot : db.genesisRoot? = some root)
    (hhigh : db.highWatermark = .ok .none) : db.metadata = some ⟨some root, none, none⟩ := by
  cases hm : db.metadata with
  | none => simp [genesisRoot?, hm] at hroot
  | some m =>
      obtain ⟨genesis, slot, epoch⟩ := m
      obtain rfl : genesis = some root := by simpa [genesisRoot?, hm] using hroot
      simp only [highWatermark, hm] at hhigh
      obtain ⟨slotRead, hslot, hhigh⟩ := bind_eq_ok.mp hhigh
      obtain ⟨epochRead, hepoch, hhigh⟩ := bind_eq_ok.mp hhigh
      obtain ⟨rfl, rfl⟩ := HighWatermark.mk.inj (pure_eq_ok.mp hhigh)
      -- a number that is set is read as one, or not at all
      have hunset : ∀ {i : Option Int}, Stored.toUInt64? i = .ok none → i = none := by
        intro i hi
        cases i with
        | none => rfl
        | some i =>
            simp only [Stored.toUInt64?] at hi
            cases hr : Stored.toUInt64 i <;> rw [hr] at hi <;> cases hi
      rw [hunset hslot, hunset hepoch]

end Database

namespace Interchange

open Database

variable {db : Database} {root : Root}

/-- Histories of validators that have no row yet make one row each, in order,
and none of their records is passed over. -/
theorem importHistories_recorded {vs : List Validator} (hs : ∀ v ∈ vs, v.Sound)
    (hdistinct : (vs.map (·.key)).Nodup) (hnew : ∀ v ∈ vs, db.find? v.key = none) :
    ∃ summary us, importHistories (vs.map History.recorded) db =
        .ok (summary, { db with validators := db.validators ++ us }) ∧
      summary.blocksSkipped = 0 ∧ summary.attestationsSkipped = 0 ∧
      us.map History.recorded = vs.map History.recorded ∧ ∀ v ∈ vs, ∃ u ∈ us, v.Restored u := by
  induction vs generalizing db with
  | nil => exact ⟨.zero, [], by simp [importHistories], rfl, rfl, rfl, by simp⟩
  | cons v rest ih =>
      obtain ⟨hfirst, hrest⟩ := List.nodup_cons.mp hdistinct
      obtain ⟨first, u, himport, hblocks, hvotes, hrestored⟩ :=
        (hs v List.mem_cons_self).importTo_fresh
      have hnone := hnew v List.mem_cons_self
      have hrow : db.row v.key = .fresh v.key := by rw [row, hnone, Option.getD_none]
      have hone : db.withValidator v.key (History.recorded v).importTo =
          .ok (first, { db with validators := db.validators ++ [u] }) := by
        rw [withValidator_eq (hrow ▸ himport), put_new hnone]
      have hnew' : ∀ w ∈ rest,
          ({ db with validators := db.validators ++ [u] } : Database).find? w.key = none := by
        intro w hw
        have hne : ¬ (u.key == w.key) = true := by
          rw [hrestored.key_eq, beq_iff_eq]
          exact fun heq => hfirst (List.mem_map.mpr ⟨w, hw, heq.symm⟩)
        have hw' : db.validators.find? (·.key == w.key) = none :=
          hnew w (List.mem_cons_of_mem v hw)
        simp [find?, List.find?_append, hw', hne]
      obtain ⟨others, us, hothers, hblocks', hvotes', hsame, hall⟩ :=
        ih (fun w hw => hs w (List.mem_cons_of_mem v hw)) hrest hnew'
      refine ⟨first.add others, u :: us, ?_, ?_, ?_, ?_, ?_⟩
      · have hkey : (History.recorded v).key = v.key := rfl
        simp only [List.map_cons, importHistories, hkey, hone, hothers, bind, Except.bind]
        simp [pure, Except.pure]
      · show first.blocksSkipped + others.blocksSkipped = 0
        rw [hblocks, hblocks']
      · show first.attestationsSkipped + others.attestationsSkipped = 0
        rw [hvotes, hvotes']
      · rw [List.map_cons, List.map_cons, hrestored.recorded_eq, hsame]
      · intro w hw
        rcases List.mem_cons.mp hw with rfl | hw
        · exact ⟨u, List.mem_cons_self, hrestored⟩
        · obtain ⟨x, hx, hr⟩ := hall w hw
          exact ⟨x, List.mem_cons_of_mem u hx, hr⟩

end Interchange

namespace Engine

open Database

/-- Every sound database can be moved: what it hands out is taken in by an empty
one as a whole and handed out again. A row moves to a row restored from it. -/
theorem moved {db : Database} (h : db.Sound) {root : Root} (hroot : db.genesisRoot? = some root)
    (filter : Option (List SignerId)) :
    ∃ d summary db', Interchange.ofDatabase filter db = .ok d ∧
      d.importTo .empty = .ok (summary, db') ∧
      summary.blocksSkipped = 0 ∧ summary.attestationsSkipped = 0 ∧ db'.Sound ∧
      Interchange.ofDatabase none db' = .ok d ∧ db'.metadata = some ⟨some root, none, none⟩ ∧
      ∀ x ∈ d.data, ∃ v u, db.find? x.key = some v ∧ db'.find? x.key = some u ∧ v.Restored u := by
  let wanted := db.validators.filter fun v => filter.all (·.contains v.key)
  have hmem : ∀ v ∈ wanted, v ∈ db.validators := fun v hv => (List.mem_filter.mp hv).1
  have hdistinct : (wanted.map (·.key)).Nodup :=
    h.keys_distinct.sublist (List.filter_sublist.map _)
  have hnew : ∀ v ∈ wanted, (Database.empty.storeGenesisRoot root).find? v.key = none :=
    fun _ _ => rfl
  obtain ⟨summary, us, himport, hblocks, hvotes, hsame, hall⟩ :=
    Interchange.importHistories_recorded (fun v hv => h.rows v (hmem v hv)) hdistinct hnew
  have hdocument : Interchange.importTo ⟨Interchange.formatVersion, root,
      wanted.map History.recorded⟩ .empty =
        .ok (summary, ⟨some currentVersion, some ⟨some root, none, none⟩, us⟩) := by
    rw [Interchange.importTo, if_neg (by simp)]
    exact himport
  have hsound := (Interchange.safe_importTo _ sound_empty hdocument).1
  refine ⟨_, summary, _, Interchange.ofDatabase_eq h.readable hroot, hdocument, hblocks, hvotes,
    hsound, ?_, rfl, ?_⟩
  · rw [Interchange.ofDatabase_eq hsound.readable rfl]
    simp [hsame, wanted]
  · intro x hx
    obtain ⟨v, hv, rfl⟩ := List.mem_map.mp hx
    obtain ⟨u, hu, hrestored⟩ := hall v hv
    have hfound := hsound.find?_eq hu
    rw [hrestored.key_eq] at hfound
    exact ⟨v, u, h.find?_eq (hmem v hv), hfound, hrestored⟩

/-- History moves faithfully. Take any reachable database that knows its chain.
An empty database takes in what it hands out, passes no record over, and hands
out the same document. If no call of the run raised a watermark above the
records, and no ceiling is set, both databases answer every later sequence of
checks of the enabled validators of the document alike. -/
theorem export_import_faithful (maxAttempts : Nat) (calls : List Call)
    (filter : Option (List SignerId)) (root : Root)
    (hroot : ((fresh maxAttempts).after calls).database.genesisRoot? = some root) :
    let e : Engine := ⟨maxAttempts, false, ((fresh maxAttempts).after calls).database⟩
    ∃ d summary e', e.exportHistory filter = (.ok d, e) ∧
      (fresh maxAttempts).importHistory d = (.ok summary, e') ∧
      summary.blocksSkipped = 0 ∧ summary.attestationsSkipped = 0 ∧
      e'.exportHistory none = (.ok d, e') ∧
      ((fresh maxAttempts).LosslessRun calls → e.database.highWatermark = .ok .none →
        ∀ checks : List Call,
          (∀ c ∈ checks, ∃ key ∈ c.checkedKey?,
            key ∈ d.data.map (·.key) ∧ (e.database.row key).enabled = true) →
          e.trace checks = e'.trace checks) := by
  intro e
  have hsound : e.database.Sound := sound_after_fresh maxAttempts calls
  obtain ⟨d, summary, db', hexport, himport, hblocks, hvotes, hsound', hagain, hmeta, hrows⟩ :=
    moved hsound hroot filter
  have hread : ∀ (db : Database) filter, Interchange.ofDatabase filter db = .ok d →
      readHistory filter db = .ok (d, db) := by
    intro db filter hok
    rw [readHistory, hok]
    rfl
  refine ⟨d, summary, ⟨maxAttempts, false, db'⟩,
    transact_of_ok _ rfl (hread e.database filter hexport), transact_of_ok _ rfl himport,
    hblocks, hvotes, transact_of_ok _ rfl (hread db' none hagain), ?_⟩
  intro hlossless hhigh checks hchecks
  have hexact : e.database.Exact := lossless_exact sound_empty exact_empty hlossless
  have htwins : e.database.Twins
      (fun key => key ∈ d.data.map (·.key) ∧ (e.database.row key).enabled = true) db' := by
    refine ⟨?_, ?_, ?_⟩
    · rw [hmeta, metadata_eq_of_no_high hroot hhigh]
    · rintro key ⟨hk, _⟩
      obtain ⟨x, hx, rfl⟩ := List.mem_map.mp hk
      obtain ⟨v, u, hv, hu, _⟩ := hrows x hx
      simp [hv, hu]
    · rintro key ⟨hk, henabled⟩
      obtain ⟨x, hx, rfl⟩ := List.mem_map.mp hk
      obtain ⟨v, u, hv, hu, hrestored⟩ := hrows x hx
      have hvx := hexact x.key
      rw [row_eq hv] at henabled hvx ⊢
      rw [row_eq hu]
      exact hrestored.twin (hsound.rows v (find?_mem hv).1) hvx henabled
  exact Twins.trace_eq ⟨rfl, rfl, htwins⟩ hsound hsound' hchecks

/-- A validator signs a vote and takes in a document that lists a block and a
later vote; then the older vote is pruned. -/
def prunedRun : List Call :=
  [.attest ⟨List.replicate 48 1⟩ ⟨5, 6, .fit 32 [2]⟩ (.zero 32),
    .importHistory ⟨Interchange.formatVersion, .zero 32,
      [⟨⟨List.replicate 48 1⟩, [⟨200, none⟩], [⟨6, 8, none⟩]⟩]⟩,
    .prune ⟨1, 32, 0, true⟩]

/-- What is on record after the block and the later vote, beside other votes. -/
def movingStore (votes : List StoredAttestation) : Engine :=
  ⟨1, false, ⟨some 1, some ⟨some (.zero 32), none, none⟩, [⟨⟨List.replicate 48 1⟩, true,
    some ⟨some 200, some 6, some 8⟩, [⟨200, none⟩], votes⟩]⟩⟩

theorem after_prunedRun : (fresh 1).after prunedRun = movingStore [⟨6, 8, none⟩] := by
  have hbefore : (fresh 1).after (prunedRun.take 2) =
      movingStore [⟨5, 6, some (FixedBytes.fit 32 [2]).bytes⟩, ⟨6, 8, none⟩] := by decide +kernel
  have hreadable := (sound_after_fresh 1 (prunedRun.take 2)).readable
  have hsplit : prunedRun = prunedRun.take 2 ++ [.prune ⟨1, 32, 0, true⟩] := rfl
  rw [hbefore] at hreadable
  rw [hsplit, after_append, hbefore, after, after, perform, prune_row hreadable rfl rfl rfl,
    Validator.pruned_of_ordered (by decide)]
  decide +kernel

/-- The document that is handed out after the run. -/
def prunedDocument : Interchange :=
  ⟨Interchange.formatVersion, .zero 32,
    [⟨⟨List.replicate 48 1⟩, [⟨200, none⟩], [⟨6, 8, none⟩]⟩]⟩

/-- A block at the slot on record, and a vote that follows. -/
def laterChecks : List Call :=
  [.block ⟨List.replicate 48 1⟩ ⟨200, .fit 32 [3]⟩ (.zero 32),
    .attest ⟨List.replicate 48 1⟩ ⟨7, 9, .fit 32 [4]⟩ (.zero 32)]

theorem prunedRun_moved :
    let e : Engine := ⟨1, false, ((fresh 1).after prunedRun).database⟩
    ∃ summary e', (fresh 1).importHistory prunedDocument = (.ok summary, e') ∧
      summary.blocksSkipped = 0 ∧ summary.attestationsSkipped = 0 ∧
      e.trace laterChecks = e'.trace laterChecks := by
  intro e
  have hroot : ((fresh 1).after prunedRun).database.genesisRoot? = some (FixedBytes.zero 32) := by
    rw [after_prunedRun]
    rfl
  have hlossless : (fresh 1).LosslessRun prunedRun := by
    refine ⟨trivial, fun summary _ => ?_, trivial, trivial⟩
    decide +kernel
  have hstore : e = movingStore [⟨6, 8, none⟩] := by
    simp only [e, after_prunedRun]
    rfl
  have hexport : (e.exportHistory none).1 = .ok prunedDocument := by
    rw [hstore]
    decide +kernel
  have hceiling : e.database.highWatermark = .ok .none := by
    rw [hstore]
    rfl
  obtain ⟨d, summary, e', hd, himport, hblocks, hvotes, _, hsame⟩ :=
    export_import_faithful 1 prunedRun none (FixedBytes.zero 32) hroot
  obtain rfl : d = prunedDocument := Except.ok.inj ((congrArg (·.1) hd).symm.trans hexport)
  have henabled : (e.database.row ⟨List.replicate 48 1⟩).enabled = true := by
    rw [hstore]
    rfl
  refine ⟨summary, e', himport, hblocks, hvotes, hsame hlossless hceiling _ ?_⟩
  intro c hc
  refine ⟨⟨List.replicate 48 1⟩, ?_, List.mem_cons_self, henabled⟩
  rcases List.mem_cons.mp hc with rfl | hc
  · rfl
  · rw [List.mem_singleton.mp hc]
    rfl

end Engine

end RemoteSigner
