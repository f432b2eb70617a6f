import RemoteSigner.Proofs.Protection.Faults
import RemoteSigner.Proofs.Protection.Retention
import RemoteSigner.Proofs.Protection.Settings

/-!
# What a check reaches

A check writes before it decides: the first genesis root, and the row of its validator. `Confined`
says for each outcome all that it changed, whatever the columns hold. Nothing of it is in the view
that another validator has of the database, so what is done for one does not show to the others:

* `mayBlock_confined`, `mayAttest_confined` — the frame of a check;
* `perform_foreign` — a call for other validators leaves the view of this one (`SameView`);
* `perform_sameView` — the same call on two engines with the same view leaves the same view;
* `decisions_isolated` — so calls for other validators may be left out of a run.

`checks_confined` puts the frame and the isolation together.
-/

namespace RemoteSigner

namespace Validator

variable {v v' : Validator} {high : HighWatermark} {record : Bool}

/-! ## The row of the validator -/

/-- What an accepted block does to a row: a record if there was none, and the slot of the
watermark. -/
structure BlockTaken (r : BlockRequest) (record : Bool) (v v' : Validator) : Prop where
  key_eq : v'.key = v.key
  enabled_eq : v'.enabled = v.enabled
  blocks_eq : v'.blocks =
    if record then v.blocks ++ [⟨r.slot.toNat, some r.root.bytes⟩] else v.blocks
  votes_eq : v'.attestations = v.attestations
  slotMark_eq : v'.slotMark = some (Stored.raise v.slotMark r.slot.toNat)
  sourceMark_eq : v'.sourceMark = v.sourceMark
  targetMark_eq : v'.targetMark = v.targetMark

/-- What an accepted vote does to a row: a record if there was none, and the epochs of the
watermark. -/
structure VoteTaken (r : AttestationRequest) (record : Bool) (v v' : Validator) : Prop where
  key_eq : v'.key = v.key
  enabled_eq : v'.enabled = v.enabled
  blocks_eq : v'.blocks = v.blocks
  votes_eq : v'.attestations = if record then
    v.attestations ++ [⟨r.source.toNat, r.target.toNat, some r.root.bytes⟩] else v.attestations
  slotMark_eq : v'.slotMark = v.slotMark
  sourceMark_eq : v'.sourceMark = some (Stored.raise v.sourceMark r.source.toNat)
  targetMark_eq : v'.targetMark = some (Stored.raise v.targetMark r.target.toNat)

theorem blockTaken_of_accept {r : BlockRequest}
    (hr : v.signBlock high r = .ok (.accept record, v')) : BlockTaken r record v v' := by
  rcases signBlock_writes hr with ⟨⟨_, hreject⟩, _⟩ | ⟨slot, hslot, hcase⟩
  · cases hreject
  · obtain ⟨_, rfl⟩ := Stored.ofUInt64_eq_ok.mp hslot
    rcases hcase with ⟨hd, rfl⟩ | ⟨hd, rfl⟩ <;>
    · obtain rfl := Decision.accept.inj hd
      exact ⟨rfl, rfl, rfl, rfl, slotMark_raiseSlot _ _, sourceMark_raiseSlot _ _,
        targetMark_raiseSlot _ _⟩

theorem voteTaken_of_accept {r : AttestationRequest}
    (hr : v.signAttestation high r = .ok (.accept record, v')) : VoteTaken r record v v' := by
  rcases signAttestation_writes hr with ⟨⟨_, hreject⟩, _⟩ | ⟨source, target, hs, ht, hcase⟩
  · cases hreject
  · obtain ⟨_, rfl⟩ := Stored.ofUInt64_eq_ok.mp hs
    obtain ⟨_, rfl⟩ := Stored.ofUInt64_eq_ok.mp ht
    rcases hcase with ⟨hd, rfl⟩ | ⟨hd, rfl⟩ <;>
    · obtain rfl := Decision.accept.inj hd
      exact ⟨rfl, rfl, rfl, rfl, slotMark_raiseEpochs _ _ _, sourceMark_raiseEpochs _ _ _,
        targetMark_raiseEpochs _ _ _⟩

end Validator

namespace Database

variable {db db' : Database} {key : SignerId} {root : Root}

/-! ## The database around it -/

/-- All that a check changes outside the row of its validator: the genesis root where there was
none, and the row is created where there was none. -/
structure Framed (key : SignerId) (root : Root) (db db' : Database) : Prop where
  version_eq : db'.version = db.version
  metadata : Admitted root db db'
  keys : db'.validators.map (·.key) = db.validators.map (·.key) ∨
    db.find? key = none ∧ db'.validators.map (·.key) = db.validators.map (·.key) ++ [key]
  others : ∀ other, other ≠ key → db'.find? other = db.find? other

theorem framed_admitGenesisRoot {admitted : Bool}
    (h : db.admitGenesisRoot root = (admitted, db')) (key : SignerId) :
    Framed key root db db' := by
  obtain ⟨hversion, hrows⟩ := rows_admitGenesisRoot h
  refine ⟨hversion, admitted_admitGenesisRoot h, .inl (by rw [hrows]), fun other _ => ?_⟩
  rw [find?, find?, hrows]

theorem framed_put {admitted : Bool} (h : db.admitGenesisRoot root = (admitted, db'))
    {v : Validator} (hv : v.key = key) : Framed key root db (db'.put key v) := by
  obtain ⟨hversion, hrows⟩ := rows_admitGenesisRoot h
  have hfind (other : SignerId) : db'.find? other = db.find? other := by
    rw [find?, find?, hrows]
  refine ⟨(version_put v).trans hversion,
    (admitted_admitGenesisRoot h).of_metadata_eq (metadata_put v), ?_, fun other hother => ?_⟩
  · rw [keys_put hv, ← hfind, ← hrows]
    exact keys_ensure db' key
  · rw [find?_put hv, if_neg hother, hfind]

variable {check : HighWatermark → Validator → Protected (Decision × Validator)}

/-- A check leaves the row as its decision says: as it was, or as an acceptance has it. -/
theorem checked_framed {Taken : Bool → Validator → Validator → Prop} {d : Decision}
    (hkey : ∀ {record v v'}, Taken record v v' → v'.key = v.key)
    (hreject : ∀ {high v v' reason}, check high v = .ok (.reject reason, v') → v' = v)
    (haccept : ∀ {high v v' record}, check high v = .ok (.accept record, v') → Taken record v v')
    (hr : checked key root check db = .ok (d, db')) :
    Framed key root db db' ∧
      ((∃ reason, d = .reject reason ∧ db'.row key = db.row key) ∨
        ∃ record, d = .accept record ∧ Taken record (db.row key) (db'.row key)) := by
  rcases checked_ok hr with ⟨⟨reason, rfl⟩, hchain | ⟨db₁, hchain, rfl⟩⟩ |
    ⟨db₁, high, v, hchain, _, _, hv, rfl⟩
  · exact ⟨framed_admitGenesisRoot hchain key, .inl ⟨reason, rfl, row_admitGenesisRoot hchain key⟩⟩
  · refine ⟨framed_put hchain (row_key db₁ key), .inl ⟨reason, rfl, ?_⟩⟩
    rw [row_put (row_key db₁ key), if_pos rfl, row_admitGenesisRoot hchain]
  · cases d with
    | reject reason =>
        obtain rfl := hreject hv
        have hsame : (db.row key).key = key := row_key db key
        refine ⟨framed_put hchain hsame, .inl ⟨reason, rfl, ?_⟩⟩
        rw [row_put hsame, if_pos rfl]
    | accept record =>
        have htaken := haccept hv
        have hsame : v.key = key := (hkey htaken).trans (row_key db key)
        refine ⟨framed_put hchain hsame, .inr ⟨record, rfl, ?_⟩⟩
        rwa [row_put hsame, if_pos rfl]

end Database

namespace Engine

open Database

variable {e : Engine} {key : SignerId} {root : Root}

/-- All that a check leaves, by its outcome: an error leaves everything, a refusal the row of the
validator, an acceptance what it takes. -/
inductive Confined (Taken : Bool → Validator → Validator → Prop) (key : SignerId) (root : Root)
    (e : Engine) : Protected Decision × Engine → Prop
  | error (fault : ProtectionError) : Confined Taken key root e (.error fault, e)
  | reject (reason : Rejection) (db : Database) (hframe : Framed key root e.database db)
      (hrow : db.row key = e.database.row key) :
      Confined Taken key root e (.ok (.reject reason), { e with database := db })
  | accept (record : Bool) (db : Database) (hframe : Framed key root e.database db)
      (htaken : Taken record (e.database.row key) (db.row key)) :
      Confined Taken key root e (.ok (.accept record), { e with database := db })

theorem transact_confined {Taken : Bool → Validator → Validator → Prop}
    (check : HighWatermark → Validator → Protected (Decision × Validator))
    (hkey : ∀ {record v v'}, Taken record v v' → v'.key = v.key)
    (hreject : ∀ {high v v' reason}, check high v = .ok (.reject reason, v') → v' = v)
    (haccept : ∀ {high v v' record}, check high v = .ok (.accept record, v') →
      Taken record v v') :
    Confined Taken key root e (e.transact (checked key root check)) := by
  rcases transact_cases e (checked key root check) with ⟨fault, hf⟩ | ⟨d, db, hr, hok⟩
  · rw [hf]
    exact .error fault
  · rw [hok]
    rcases checked_framed hkey hreject haccept hr with
      ⟨hframe, ⟨reason, rfl, hrow⟩ | ⟨record, rfl, htaken⟩⟩
    · exact .reject reason db hframe hrow
    · exact .accept record db hframe htaken

theorem mayBlock_confined (e : Engine) (key : SignerId) (root : Root) (r : BlockRequest) :
    Confined (Validator.BlockTaken r) key root e (e.mayBlock key r root) := by
  refine transact_confined (fun high v => v.signBlock high r) (·.key_eq) ?_
    Validator.blockTaken_of_accept
  intro high v v' reason hr
  rcases Validator.signBlock_writes hr with ⟨_, hsame⟩ | ⟨_, _, ⟨hd, _⟩ | ⟨hd, _⟩⟩
  · exact hsame
  · cases hd
  · cases hd

theorem mayAttest_confined (e : Engine) (key : SignerId) (root : Root) (r : AttestationRequest) :
    Confined (Validator.VoteTaken r) key root e (e.mayAttest key r root) := by
  refine transact_confined (fun high v => v.signAttestation high r) (·.key_eq) ?_
    Validator.voteTaken_of_accept
  intro high v v' reason hr
  rcases Validator.signAttestation_writes hr with ⟨_, hsame⟩ | ⟨_, _, _, _, ⟨hd, _⟩ | ⟨hd, _⟩⟩
  · exact hsame
  · cases hd
  · cases hd

end Engine

/-! ## What one validator sees -/

/-- The database after an attempt: an operation that fails leaves it. -/
def Operation.leaves {α : Type} (body : Operation α) (db : Database) : Database :=
  match body db with
  | .ok r => r.2
  | .error _ => db

theorem Operation.leaves_of_ok {α : Type} {body : Operation α} {db : Database}
    {r : α × Database} (h : body db = .ok r) : body.leaves db = r.2 := by
  rw [Operation.leaves, h]

theorem Operation.leaves_of_not_ok {α : Type} {body : Operation α} {db : Database}
    (h : ∀ r, body db ≠ .ok r) : body.leaves db = db := by
  unfold Operation.leaves
  split
  · rename_i r hr
    exact absurd hr (h r)
  · rfl

theorem Operation.Reads.leaves_eq {α : Type} {body : Operation α} (hread : body.Reads)
    (db : Database) : body.leaves db = db := by
  unfold Operation.leaves
  split
  · rename_i r hr
    exact hread (a := r.1) hr
  · rfl

namespace Database

variable {db db' : Database} {key : SignerId} {root : Root}

/-- The same metadata and the same row of one validator. -/
structure SameView (key : SignerId) (db db' : Database) : Prop where
  metadata_eq : db.metadata = db'.metadata
  find?_eq : db.find? key = db'.find? key

/-- Raising the watermark of every validator changes each row by itself, or none. -/
theorem leaves_raiseLow (slot : Option Slot) (epoch : Option Epoch) :
    ∃ f : Validator → Validator, (∀ v, (f v).key = v.key) ∧ ∀ db,
      (raiseLow slot epoch).leaves db = { db with validators := db.validators.map f } := by
  -- without rows every change of the rows is none
  have hempty (f : Validator → Validator) {db : Database} (h : db.validators.isEmpty = true) :
      (raiseLow slot epoch).leaves db = { db with validators := db.validators.map f } := by
    have hnil := List.isEmpty_iff.mp h
    rw [Operation.leaves, raiseLow, if_pos h, hnil, List.map_nil, ← hnil]
  by_cases hstored : ∃ s t, store? slot = .ok s ∧ store? epoch = .ok t
  · obtain ⟨s, t, hs, ht⟩ := hstored
    refine ⟨fun v => t.elim (s.elim v (v.raiseSlot ·)) fun i =>
      (s.elim v (v.raiseSlot ·)).raiseEpochs i i, fun v => ?_, fun db => ?_⟩
    · cases s <;> cases t <;> rfl
    · by_cases h : db.validators.isEmpty = true
      · exact hempty _ h
      · rw [Operation.leaves, raiseLow, if_neg h, hs, ht]
        rfl
  · refine ⟨id, fun _ => rfl, fun db => ?_⟩
    by_cases h : db.validators.isEmpty = true
    · exact hempty _ h
    · rw [List.map_id]
      refine Operation.leaves_of_not_ok fun r hr => ?_
      rw [raiseLow, if_neg h] at hr
      obtain ⟨s, hs, hr⟩ := bind_eq_ok.mp hr
      obtain ⟨t, ht, _⟩ := bind_eq_ok.mp hr
      exact hstored ⟨s, t, hs, ht⟩

/-- Replacing the ceiling changes the metadata, or nothing. -/
theorem leaves_replaceHigh (high : HighWatermark) :
    ∃ f : Option Metadata → Option Metadata, ∀ db,
      (replaceHigh high).leaves db = { db with metadata := f db.metadata } := by
  unfold Operation.leaves replaceHigh storeHighWatermark
  cases store? high.slot with
  | error fault => exact ⟨id, fun _ => rfl⟩
  | ok slot =>
      cases store? high.epoch with
      | error fault => exact ⟨id, fun _ => rfl⟩
      | ok epoch => exact ⟨fun m => some { m.getD ⟨none, none, none⟩ with
          highSlot := slot, highEpoch := epoch }, fun _ => rfl⟩

namespace SameView

theorem refl (key : SignerId) (db : Database) : db.SameView key db :=
  ⟨rfl, rfl⟩

theorem symm (h : db.SameView key db') : db'.SameView key db :=
  ⟨h.metadata_eq.symm, h.find?_eq.symm⟩

theorem trans {db'' : Database} (h : db.SameView key db') (h' : db'.SameView key db'') :
    db.SameView key db'' :=
  ⟨h.metadata_eq.trans h'.metadata_eq, h.find?_eq.trans h'.find?_eq⟩

theorem row_eq (h : db.SameView key db') : db.row key = db'.row key := by
  rw [row, row, h.find?_eq]

theorem withMetadata (h : db.SameView key db') (m : Option Metadata) :
    ({ db with metadata := m } : Database).SameView key { db' with metadata := m } :=
  ⟨rfl, h.find?_eq⟩

theorem put {other : SignerId} {v v' : Validator} (h : db.SameView key db') (hv : v.key = other)
    (hv' : v'.key = other) (hsame : other = key → v = v') :
    (db.put other v).SameView key (db'.put other v') := by
  refine ⟨?_, ?_⟩
  · rw [metadata_put, metadata_put, h.metadata_eq]
  · rw [find?_put hv, find?_put hv', h.find?_eq]
    split
    · rename_i heq
      rw [hsame heq.symm]
    · rfl

/-- Rows that change alike. -/
theorem mapRows (h : db.SameView key db') {f : Validator → Validator}
    (hf : ∀ v, (f v).key = v.key) :
    ({ db with validators := db.validators.map f } : Database).SameView key
      { db' with validators := db'.validators.map f } := by
  refine ⟨h.metadata_eq, ?_⟩
  have hfind (db : Database) : find? key { db with validators := db.validators.map f } =
      (db.find? key).map f := find?_map (fun v _ => hf v) key
  rw [hfind, hfind, h.find?_eq]

/-- The same chains are admitted. -/
theorem admitGenesisRoot (h : db.SameView key db') (root : Root) :
    ∃ admitted db₁ db₁', db.admitGenesisRoot root = (admitted, db₁) ∧
      db'.admitGenesisRoot root = (admitted, db₁') ∧ db₁.SameView key db₁' := by
  unfold Database.admitGenesisRoot
  rw [genesisRoot?_congr h.metadata_eq]
  cases db'.genesisRoot? with
  | some existing => exact ⟨_, _, _, rfl, rfl, h⟩
  | none =>
      refine ⟨true, _, _, rfl, rfl, ?_⟩
      unfold storeGenesisRoot
      rw [h.metadata_eq]
      exact h.withMetadata _

/-! ### The same operation twice -/

/-- A check decides by what its validator sees. -/
theorem checked (h : db.SameView key db') (root : Root)
    {check : HighWatermark → Validator → Protected (Decision × Validator)}
    (hkey : ∀ {high v v' d}, check high v = .ok (d, v') → v'.key = v.key) :
    Agree (fun r r' => r.1 = r'.1 ∧ r.2.SameView key r'.2) (Database.checked key root check db)
      (Database.checked key root check db') := by
  obtain ⟨admitted, db₁, db₁', hchain, hchain', h₁⟩ := h.admitGenesisRoot root
  simp only [Database.checked, hchain, hchain']
  cases admitted with
  | false => exact .ok ⟨rfl, h₁⟩
  | true =>
      simp only [withValidator_eq_map, h₁.row_eq, highWatermark_congr h₁.metadata_eq]
      refine (Agree.refl (r := Eq) fun _ _ => rfl).map ?_
      rintro ⟨d, v⟩ _ hr - rfl
      have hv : v.key = key := by
        split at hr
        · obtain ⟨_, rfl⟩ := Prod.mk.inj (Except.ok.inj hr)
          exact row_key db₁' key
        · obtain ⟨high, _, hr⟩ := bind_eq_ok.mp hr
          exact (hkey hr).trans (row_key db₁' key)
      exact ⟨rfl, h₁.put hv hv fun _ => rfl⟩

theorem register (h : db.SameView key db') (keys : List SignerId) :
    ((register keys).leaves db).SameView key ((register keys).leaves db') := by
  show SameView key (keys.foldl (fun db key => db.ensure key) db)
    (keys.foldl (fun db key => db.ensure key) db')
  induction keys generalizing db db' with
  | nil => exact h
  | cons other rest ih =>
      refine ih ⟨?_, ?_⟩
      · rw [metadata_ensure, metadata_ensure, h.metadata_eq]
      · rw [find?_ensure, find?_ensure, h.find?_eq]
        split
        · rename_i heq
          rw [← heq, h.row_eq]
        · rfl

theorem setEnabled (h : db.SameView key db') (other : SignerId) (enabled : Bool) :
    ((setEnabled other enabled).leaves db).SameView key
      ((setEnabled other enabled).leaves db') := by
  refine h.mapRows (f := fun v => if v.key == other then { v with enabled := enabled } else v)
    fun v => ?_
  split <;> rfl

theorem raiseLow (h : db.SameView key db') (slot : Option Slot) (epoch : Option Epoch) :
    ((raiseLow slot epoch).leaves db).SameView key ((raiseLow slot epoch).leaves db') := by
  obtain ⟨f, hkey, hleaves⟩ := leaves_raiseLow slot epoch
  rw [hleaves, hleaves]
  exact h.mapRows hkey

theorem replaceHigh (h : db.SameView key db') (high : HighWatermark) :
    ((replaceHigh high).leaves db).SameView key ((replaceHigh high).leaves db') := by
  obtain ⟨f, hleaves⟩ := leaves_replaceHigh high
  rw [hleaves, hleaves, h.metadata_eq]
  exact h.withMetadata _

theorem pruned (h : db.SameView key db') (c : PruningConfig) :
    (db.pruned c).SameView key (db'.pruned c) :=
  h.mapRows (key_pruned c)

theorem pruneOne (h : db.SameView key db') (hdb : db.Readable) (hdb' : db'.Readable)
    (c : PruningConfig) (other : SignerId) :
    ((pruneOne c other).leaves db).SameView key ((pruneOne c other).leaves db') := by
  obtain ⟨_, _, hr, _⟩ := pruneOne_eq hdb c other
  obtain ⟨_, _, hr', _⟩ := pruneOne_eq hdb' c other
  rw [Operation.leaves_of_ok hr, Operation.leaves_of_ok hr']
  refine h.mapRows fun v => ?_
  split
  · exact key_pruned c v
  · rfl

/-- Histories are taken in on the same row alike. -/
theorem importHistories {hs : List History} (h : db.SameView key db') {s s' : ImportSummary}
    {db₁ db₁' : Database} (hr : Interchange.importHistories hs db = .ok (s, db₁))
    (hr' : Interchange.importHistories hs db' = .ok (s', db₁')) : db₁.SameView key db₁' := by
  induction hs generalizing db db' s s' with
  | nil =>
      obtain ⟨_, rfl⟩ := Prod.mk.inj (Except.ok.inj hr)
      obtain ⟨_, rfl⟩ := Prod.mk.inj (Except.ok.inj hr')
      exact h
  | cons x rest ih =>
      obtain ⟨⟨first, db₂⟩, hfirst, hr⟩ := bind_eq_ok.mp hr
      obtain ⟨⟨others, db₃⟩, hrest, hr⟩ := bind_eq_ok.mp hr
      obtain ⟨_, rfl⟩ := Prod.mk.inj (pure_eq_ok.mp hr)
      obtain ⟨⟨first', db₂'⟩, hfirst', hr'⟩ := bind_eq_ok.mp hr'
      obtain ⟨⟨others', db₃'⟩, hrest', hr'⟩ := bind_eq_ok.mp hr'
      obtain ⟨_, rfl⟩ := Prod.mk.inj (pure_eq_ok.mp hr')
      obtain ⟨v, hv, rfl⟩ := withValidator_ok hfirst
      obtain ⟨v', hv', rfl⟩ := withValidator_ok hfirst'
      have hkey := (History.edits_importTo hv).onward.key_eq.trans (row_key db x.key)
      have hkey' := (History.edits_importTo hv').onward.key_eq.trans (row_key db' x.key)
      refine ih (h.put hkey hkey' fun heq => ?_) hrest hrest'
      rw [heq, h.row_eq] at hv
      rw [heq] at hv'
      exact congrArg Prod.snd (Except.ok.inj (hv.symm.trans hv'))

/-- A document is taken in on both or on neither. -/
theorem importTo (h : db.SameView key db') (hdb : db.Readable) (hdb' : db'.Readable)
    (d : Interchange) :
    (Operation.leaves d.importTo db).SameView key (Operation.leaves d.importTo db') := by
  have hroot : db.genesisRoot? = db'.genesisRoot? := genesisRoot?_congr h.metadata_eq
  by_cases hfaulty : d.Faulty db
  · rw [Operation.leaves_of_not_ok fun r hr => Interchange.importTo_not_faulty hr hfaulty,
      Operation.leaves_of_not_ok fun r hr =>
        Interchange.importTo_not_faulty hr (hfaulty.congr hroot)]
    exact h
  · obtain ⟨⟨s, db₁⟩, hr⟩ := (Interchange.exists_importTo_iff hdb).mpr hfaulty
    obtain ⟨⟨s', db₁'⟩, hr'⟩ := (Interchange.exists_importTo_iff hdb').mpr fun hfaulty' =>
      hfaulty (hfaulty'.congr hroot.symm)
    rw [Operation.leaves_of_ok hr, Operation.leaves_of_ok hr']
    obtain ⟨db₂, hchain, hr⟩ := Interchange.importTo_ok hr
    obtain ⟨db₂', hchain', hr'⟩ := Interchange.importTo_ok hr'
    obtain ⟨_, _, _, hadmit, hadmit', h₂⟩ := h.admitGenesisRoot d.genesisRoot
    obtain ⟨_, rfl⟩ := Prod.mk.inj (hchain.symm.trans hadmit)
    obtain ⟨_, rfl⟩ := Prod.mk.inj (hchain'.symm.trans hadmit')
    exact h₂.importHistories hr hr'

end SameView

/-! ### Operations for others -/

theorem Framed.sameView {other : SignerId} (h : Framed other root db db')
    (hroot : db.genesisRoot?.isSome) (hother : key ≠ other) : db'.SameView key db := by
  refine ⟨?_, h.others key hother⟩
  rcases h.metadata with hsame | ⟨hnone, _⟩
  · exact hsame
  · rw [hnone] at hroot
    cases hroot

theorem sameView_register {keys : List SignerId} (hkeys : key ∉ keys) (db : Database) :
    ((register keys).leaves db).SameView key db := by
  show SameView key (keys.foldl (fun db key => db.ensure key) db) db
  induction keys generalizing db with
  | nil => exact .refl key db
  | cons other rest ih =>
      obtain ⟨hother, hrest⟩ := not_or.mp (mt List.mem_cons.mpr hkeys)
      refine (ih hrest (db.ensure other)).trans ⟨metadata_ensure db other, ?_⟩
      rw [find?_ensure, if_neg hother]

theorem sameView_setEnabled {other : SignerId} (hother : key ≠ other) (enabled : Bool)
    (db : Database) : ((setEnabled other enabled).leaves db).SameView key db := by
  refine ⟨rfl, (find?_setEnabled db other enabled key).trans ?_⟩
  cases hv : db.find? key with
  | none => rfl
  | some v =>
      have hkey : ¬ v.key = other := fun heq => hother ((find?_mem hv).2.symm.trans heq)
      simp [hkey]

theorem sameView_importHistories {hs : List History} (hothers : ∀ x ∈ hs, x.key ≠ key)
    {s : ImportSummary} (hr : Interchange.importHistories hs db = .ok (s, db')) :
    db'.SameView key db := by
  induction hs generalizing db s with
  | nil =>
      obtain ⟨_, rfl⟩ := Prod.mk.inj (Except.ok.inj hr)
      exact .refl key db
  | cons x rest ih =>
      obtain ⟨hx, hrest⟩ := List.forall_mem_cons.mp hothers
      obtain ⟨⟨first, db₁⟩, hfirst, hr⟩ := bind_eq_ok.mp hr
      obtain ⟨⟨others, db₂⟩, hothers, hr⟩ := bind_eq_ok.mp hr
      obtain ⟨_, rfl⟩ := Prod.mk.inj (pure_eq_ok.mp hr)
      obtain ⟨v, hv, rfl⟩ := withValidator_ok hfirst
      have hkey := (History.edits_importTo hv).onward.key_eq.trans (row_key db x.key)
      refine (ih hrest hothers).trans ⟨metadata_put v, ?_⟩
      rw [find?_put hkey, if_neg (Ne.symm hx)]

theorem sameView_importTo {d : Interchange} (hothers : ∀ x ∈ d.data, x.key ≠ key)
    (hroot : db.genesisRoot?.isSome) : (Operation.leaves d.importTo db).SameView key db := by
  unfold Operation.leaves
  split
  · rename_i r hr
    obtain ⟨summary, db'⟩ := r
    obtain ⟨db₁, hchain, hr⟩ := Interchange.importTo_ok hr
    refine (sameView_importHistories hothers hr).trans ?_
    unfold admitGenesisRoot at hchain
    split at hchain
    · obtain ⟨_, rfl⟩ := Prod.mk.inj hchain
      exact .refl key db
    · rename_i hnone
      rw [hnone] at hroot
      cases hroot
  · exact .refl key db

end Database

namespace Engine

open Database

variable {e e' : Engine} {key : SignerId} {α : Type}

/-- Engines that are alike to one validator. -/
structure SameView (key : SignerId) (e e' : Engine) : Prop where
  maxAttempts_eq : e.maxAttempts = e'.maxAttempts
  locked_eq : e.locked = e'.locked
  database : e.database.SameView key e'.database

theorem SameView.refl (key : SignerId) (e : Engine) : e.SameView key e :=
  ⟨rfl, rfl, .refl key _⟩

theorem SameView.symm (h : e.SameView key e') : e'.SameView key e :=
  ⟨h.maxAttempts_eq.symm, h.locked_eq.symm, h.database.symm⟩

theorem SameView.trans {e'' : Engine} (h : e.SameView key e') (h' : e'.SameView key e'') :
    e.SameView key e'' :=
  ⟨h.maxAttempts_eq.trans h'.maxAttempts_eq, h.locked_eq.trans h'.locked_eq,
    h.database.trans h'.database⟩

/-- Where the write lock is held nothing is done, and elsewhere what the operation does. -/
theorem transact_leaves (e : Engine) (body : Operation α) : (e.transact body).2 =
    { e with database := if e.locked then e.database else body.leaves e.database } := by
  rcases transact_cases e body with ⟨fault, hf⟩ | ⟨a, db, hr, hok⟩
  · have hsame : (if e.locked then e.database else body.leaves e.database) = e.database := by
      split
      · rfl
      · rename_i hfree
        refine Operation.leaves_of_not_ok fun (a, db) hr => ?_
        have hok := transact_of_ok body (by simpa using hfree) hr
        rw [hf] at hok
        cases hok
    rw [hf, hsame]
  · have hfree := (transact_ok_iff.mp (congrArg Prod.fst hok)).1
    rw [hok, hfree, Operation.leaves_of_ok hr]
    rfl

theorem SameView.transact (h : e.SameView key e') {body : Operation α}
    (hbody : (body.leaves e.database).SameView key (body.leaves e'.database)) :
    (e.transact body).2.SameView key (e'.transact body).2 := by
  rw [transact_leaves, transact_leaves]
  refine ⟨h.maxAttempts_eq, h.locked_eq, ?_⟩
  rw [← h.locked_eq]
  split
  · exact h.database
  · exact hbody

theorem SameView.reads (h : e.SameView key e') {body : Operation α} (hread : body.Reads) :
    (e.transact body).2.SameView key (e'.transact body).2 := by
  refine h.transact ?_
  rw [hread.leaves_eq, hread.leaves_eq]
  exact h.database

theorem transact_sameView {body : Operation α}
    (hbody : (body.leaves e.database).SameView key e.database) :
    (e.transact body).2.SameView key e := by
  rw [transact_leaves]
  refine ⟨rfl, rfl, ?_⟩
  split
  · exact .refl key _
  · exact hbody

/-! ## Runs -/

/-- A call that is for other validators only. -/
def Call.foreign (key : SignerId) : Call → Bool
  | .block other _ _ | .attest other _ _ | .setEnabled other _ => other != key
  | .register keys => !keys.contains key
  | .importHistory d => d.data.all (·.key != key)
  | _ => false

theorem Call.checkedKey?_foreign {c : Call} (hc : c.foreign key = true) :
    c.checkedKey? ≠ some key := by
  cases c with
  | block other _ _ | attest other _ _ =>
      have hother : other ≠ key := by simpa [Call.foreign] using hc
      exact fun heq => hother (Option.some.inj heq)
  | _ => exact fun heq => by cases heq

theorem Confined.sameView {Taken : Bool → Validator → Validator → Prop} {other : SignerId}
    {root : Root} {r : Protected Decision × Engine} (h : Confined Taken other root e r)
    (hroot : e.database.genesisRoot?.isSome) (hother : key ≠ other) : r.2.SameView key e := by
  cases h with
  | error fault => exact .refl key e
  | reject reason db hframe _ => exact ⟨rfl, rfl, hframe.sameView hroot hother⟩
  | accept record db hframe _ => exact ⟨rfl, rfl, hframe.sameView hroot hother⟩

/-- Where the chain is known, a call for other validators leaves what this one sees. -/
theorem perform_foreign (hroot : e.database.genesisRoot?.isSome) {c : Call}
    (hc : c.foreign key = true) : (e.perform c).2.SameView key e := by
  cases c with
  | block other r root =>
      have hother : other ≠ key := by simpa [Call.foreign] using hc
      exact (mayBlock_confined e other root r).sameView hroot hother.symm
  | attest other r root =>
      have hother : other ≠ key := by simpa [Call.foreign] using hc
      exact (mayAttest_confined e other root r).sameView hroot hother.symm
  | setEnabled other enabled =>
      have hother : other ≠ key := by simpa [Call.foreign] using hc
      exact transact_sameView (sameView_setEnabled hother.symm enabled e.database)
  | register keys =>
      have hkeys : key ∉ keys := by simpa [Call.foreign] using hc
      show (e.register keys).2.SameView key e
      unfold register
      split
      · exact .refl key e
      · exact transact_sameView (sameView_register hkeys e.database)
  | importHistory d =>
      have hothers : ∀ x ∈ d.data, x.key ≠ key := by simpa [Call.foreign] using hc
      exact transact_sameView (sameView_importTo hothers hroot)
  | _ => cases hc

/-- A check answers by what its validator sees. -/
theorem SameView.check (h : e.SameView key e') {root : Root}
    (check : HighWatermark → Validator → Protected (Decision × Validator))
    (hkey : ∀ {high v v' d}, check high v = .ok (d, v') → v'.key = v.key) :
    (e.transact (checked key root check)).1 = (e'.transact (checked key root check)).1 ∧
      (e.transact (checked key root check)).2.SameView key
        (e'.transact (checked key root check)).2 := by
  obtain ⟨hanswer, hview⟩ := transact_agree h.maxAttempts_eq h.locked_eq h.database
    (h.database.checked root hkey)
  exact ⟨hanswer.eq fun _ _ heq => heq, h.maxAttempts_eq, h.locked_eq, hview⟩

theorem SameView.mayBlock (h : e.SameView key e') (r : BlockRequest) (root : Root) :
    (e.mayBlock key r root).1 = (e'.mayBlock key r root).1 ∧
      (e.mayBlock key r root).2.SameView key (e'.mayBlock key r root).2 :=
  h.check (fun high v => v.signBlock high r) fun hr =>
    (Validator.edits_signBlock hr).onward.key_eq

theorem SameView.mayAttest (h : e.SameView key e') (r : AttestationRequest) (root : Root) :
    (e.mayAttest key r root).1 = (e'.mayAttest key r root).1 ∧
      (e.mayAttest key r root).2.SameView key (e'.mayAttest key r root).2 :=
  h.check (fun high v => v.signAttestation high r) fun hr =>
    (Validator.edits_signAttestation hr).onward.key_eq

/-- A pruning run prunes every row, or none where the write lock is held or the configuration is
refused. -/
theorem prune_leaves (h : e.database.Readable) (c : PruningConfig) : (e.prune c).2 =
    { e with database :=
        if e.locked || c.fault?.isSome then e.database else e.database.pruned c } := by
  cases hc : c.fault? with
  | some fault => simp [Engine.prune, hc]
  | none =>
      cases hfree : e.locked with
      | false =>
          obtain ⟨_, _, hrun, _⟩ := prune_eq h hfree hc
          rw [hrun, hfree]
          rfl
      | true =>
          rcases transact_cases e readKeys with ⟨fault, hf⟩ | ⟨keys, db, _, hok⟩
          · simp [Engine.prune, hc, hf, ← hfree]
          · have hlocked := (transact_ok_iff.mp (congrArg Prod.fst hok)).1
            rw [hfree] at hlocked
            cases hlocked

theorem SameView.prune (h : e.SameView key e') (hdb : e.database.Readable)
    (hdb' : e'.database.Readable) (c : PruningConfig) :
    (e.prune c).2.SameView key (e'.prune c).2 := by
  rw [prune_leaves hdb, prune_leaves hdb']
  refine ⟨h.maxAttempts_eq, h.locked_eq, ?_⟩
  rw [← h.locked_eq]
  split
  · exact h.database
  · exact h.database.pruned c

/-- The same call leaves the same view. -/
theorem perform_sameView (h : e.SameView key e') (hdb : e.database.Readable)
    (hdb' : e'.database.Readable) (hroot : e.database.genesisRoot?.isSome) (c : Call) :
    (e.perform c).2.SameView key (e'.perform c).2 := by
  have hroot' : e'.database.genesisRoot?.isSome := by
    rwa [← genesisRoot?_congr h.database.metadata_eq]
  by_cases hforeign : c.foreign key = true
  · exact ((perform_foreign hroot hforeign).trans h).trans (perform_foreign hroot' hforeign).symm
  · cases c with
    | block other r root =>
        obtain rfl : other = key := by simpa [Call.foreign] using hforeign
        exact (h.mayBlock r root).2
    | attest other r root =>
        obtain rfl : other = key := by simpa [Call.foreign] using hforeign
        exact (h.mayAttest r root).2
    | register keys =>
        show (e.register keys).2.SameView key (e'.register keys).2
        unfold register
        split
        · exact h
        · exact h.transact (h.database.register keys)
    | setEnabled other enabled => exact h.transact (h.database.setEnabled other enabled)
    | raiseLow slot epoch =>
        show (e.raiseLow slot epoch).2.SameView key (e'.raiseLow slot epoch).2
        unfold raiseLow
        split
        · exact h
        · exact h.transact (h.database.raiseLow slot epoch)
    | highWatermark => exact h.reads reads_readHigh
    | setHighWatermark high =>
        show (e.setHighWatermark high).2.SameView key (e'.setHighWatermark high).2
        unfold setHighWatermark
        split
        · exact h
        · exact h.transact (h.database.replaceHigh high)
    | removeHighWatermark => exact h.transact (h.database.replaceHigh .none)
    | exportHistory filter => exact h.reads (reads_readHistory filter)
    | importHistory d => exact h.transact (h.database.importTo hdb hdb' d)
    | prune c => exact h.prune hdb hdb' c
    | pruneOne c other => exact h.transact (h.database.pruneOne hdb hdb' c other)
    | lock held => exact ⟨h.maxAttempts_eq, rfl, h.database⟩

/-- The checks of one validator, with what they answered. -/
def decisions (key : SignerId) (t : List Entry) : List Entry :=
  t.filter fun x => x.1.checkedKey? == some key

/-- A check of the validator is answered by what it sees. -/
theorem perform_checked (h : e.SameView key e') {c : Call} (hc : c.checkedKey? = some key) :
    (e.perform c).1 = (e'.perform c).1 := by
  cases c with
  | block other r root =>
      obtain rfl := Option.some.inj hc
      exact congrArg (Except.map Answer.decision) (h.mayBlock r root).1
  | attest other r root =>
      obtain rfl := Option.some.inj hc
      exact congrArg (Except.map Answer.decision) (h.mayAttest r root).1
  | _ => cases hc

/-- Calls for other validators may be left out of a run. -/
theorem decisions_isolated (h : e.SameView key e') (hdb : e.database.Readable)
    (hdb' : e'.database.Readable) (hroot : e.database.genesisRoot?.isSome) (calls : List Call) :
    decisions key (e.trace calls) = decisions key (e'.trace (calls.filter (!·.foreign key))) := by
  induction calls generalizing e e' with
  | nil => rfl
  | cons c rest ih =>
      have hedits := perform_edits hdb.keys_distinct c
      have hnext := hedits.readable hdb
      have hroot' : (e.perform c).2.database.genesisRoot?.isSome := by
        obtain ⟨root, hr⟩ := Option.isSome_iff_exists.mp hroot
        exact Option.isSome_iff_exists.mpr ⟨root, hedits.onward.genesisRoot root hr⟩
      by_cases hforeign : c.foreign key = true
      · have hother : ¬ (c.checkedKey? == some key) = true :=
          fun heq => Call.checkedKey?_foreign hforeign (beq_iff_eq.mp heq)
        rw [List.filter_cons_of_neg (by simp [hforeign]), trace, decisions, List.filter_cons,
          if_neg hother]
        exact ih ((perform_foreign hroot hforeign).trans h) hnext hdb' hroot'
      · have hnext' := (perform_edits hdb'.keys_distinct c).readable hdb'
        have hrest := ih (perform_sameView h hdb hdb' hroot c) hnext hnext' hroot'
        rw [List.filter_cons_of_pos (by simp [hforeign]), trace, trace, decisions, decisions,
          List.filter_cons, List.filter_cons]
        split
        · rename_i hcheck
          rw [perform_checked h (beq_iff_eq.mp hcheck)]
          exact congrArg _ hrest
        · exact hrest

/-- What a check reaches. An error leaves the engine as it was; a refusal at most stores the first
genesis root and creates the row; an acceptance also takes at most one record into that row and
raises its watermarks, a block never those of the epochs and a vote never that of the slot. So once
the chain is known, all checks, registrations, settings and imports for other validators may be
left out of a run and the decisions for this one stay as they are. The run starts from a database
that can be read, as all that the engine leaves can: on a number written behind its back a pruning
run may end before it comes to this validator. -/
theorem checks_confined (e : Engine) (key : SignerId) :
    (∀ root r, Confined (Validator.BlockTaken r) key root e (e.mayBlock key r root)) ∧
    (∀ root r, Confined (Validator.VoteTaken r) key root e (e.mayAttest key r root)) ∧
    (e.database.Readable → e.database.genesisRoot?.isSome → ∀ calls,
      decisions key (e.trace calls) = decisions key (e.trace (calls.filter (!·.foreign key)))) :=
  ⟨fun root r => mayBlock_confined e key root r, fun root r => mayAttest_confined e key root r,
    fun hdb hroot calls => decisions_isolated (.refl key e) hdb hdb hroot calls⟩

/-- Blocks of one validator, and between them all that may be done for another. -/
def sharedUse : List Call :=
  [.block ⟨List.replicate 48 1⟩ ⟨8, .fit 32 [1]⟩ (.fit 32 [9]),
    .register [⟨List.replicate 48 2⟩],
    .block ⟨List.replicate 48 2⟩ ⟨9, .fit 32 [2]⟩ (.fit 32 [9]),
    .setEnabled ⟨List.replicate 48 2⟩ false,
    .importHistory ⟨Interchange.formatVersion, .fit 32 [9],
      [⟨⟨List.replicate 48 2⟩, [⟨70, none⟩], []⟩]⟩,
    .block ⟨List.replicate 48 1⟩ ⟨8, .fit 32 [3]⟩ (.fit 32 [9]),
    .raiseLow (some 20) none,
    .attest ⟨List.replicate 48 2⟩ ⟨3, 4, .fit 32 [4]⟩ (.fit 32 [9]),
    .block ⟨List.replicate 48 1⟩ ⟨19, .fit 32 [5]⟩ (.fit 32 [9])]

/-- The four calls that are left give the same three decisions. -/
theorem sharedUse_isolated :
    let e := (fresh 1).after [.block ⟨List.replicate 48 2⟩ ⟨5, .fit 32 [6]⟩ (.fit 32 [9])]
    let key : SignerId := ⟨List.replicate 48 1⟩
    e.database.Readable ∧ e.database.genesisRoot?.isSome ∧
      (sharedUse.filter (!·.foreign key)).length = 4 ∧
      decisions key (e.trace sharedUse) =
        decisions key (e.trace (sharedUse.filter (!·.foreign key))) ∧
      (decisions key (e.trace sharedUse)).map (·.2) =
        [.ok (.decision (.accept true)), .ok (.decision (.reject (.doubleBlockProposal 8))),
          .ok (.decision (.reject (.blockBelowWatermark 19 20)))] := by
  intro e key
  have hdb : e.database.Readable := (sound_after_fresh 1 _).readable
  have hroot : e.database.genesisRoot?.isSome := by decide +kernel
  exact ⟨hdb, hroot, by decide +kernel, (checks_confined e key).2.2 hdb hroot sharedUse,
    by decide +kernel⟩

end Engine

end RemoteSigner
