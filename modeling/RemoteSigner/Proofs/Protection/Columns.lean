import RemoteSigner.Proofs.Protection.Acceptance
import RemoteSigner.Proofs.Protection.Faults
import RemoteSigner.Proofs.Protection.Retention

/-!
# Numbers at the bound of their columns

Numbers come in with 64 bits, and columns are signed: a number above `Stored.bound` is not
stored, a negative one is not read. On a database that can be read no operation meets a column
that it cannot read (`Legible`), and whatever it writes can be read again, so this holds in every
run (`bounded_after`):

* `not_accept_oversized` — a check of a number that no column holds is never an acceptance;
* `importHistory_oversized`, `raiseLow_oversized`, `setHighWatermark_oversized` — what would have
  to store one fails and leaves everything as it was;
* `prune_fault` — what pruning computes always fits.
-/

namespace RemoteSigner

variable {α β : Type}

/-! ## Outcomes of reading -/

/-- An outcome that is not the fault of a column that cannot be read. -/
def Legible (x : Protected α) : Prop :=
  x ≠ .error (.database .unreadable)

theorem legible_ok (a : α) : Legible (.ok a) :=
  fun h => by cases h

theorem Legible.bind {x : Protected α} {f : α → Protected β} (hx : Legible x)
    (hf : ∀ a, x = .ok a → Legible (f a)) : Legible (x >>= f) := by
  cases x with
  | error fault => exact fun h => hx (congrArg Except.error (Except.error.inj h))
  | ok a => exact hf a rfl

theorem Legible.map {x : Protected α} (hx : Legible x) (f : α → β) : Legible (x.map f) := by
  cases x with
  | error fault => exact fun h => hx (congrArg Except.error (Except.error.inj h))
  | ok a => exact legible_ok (f a)

/-- Writing a number reads none. -/
theorem Stored.legible_ofUInt64 (n : UInt64) : Legible (ofUInt64 n) := by
  unfold ofUInt64
  split
  · exact legible_ok _
  · exact fun h => by cases h

/-! ## Numbers that no column holds -/

/-- A number above the bound of a column. -/
def Stored.Oversized (n : UInt64) : Prop :=
  bound < n.toNat

instance (n : UInt64) : Decidable (Stored.Oversized n) :=
  inferInstanceAs (Decidable (Stored.bound < n.toNat))

theorem Stored.ofUInt64_oversized {n : UInt64} (h : Oversized n) (i : Int) :
    ofUInt64 n ≠ .ok i :=
  fun hstored => Nat.not_le.mpr h (ofUInt64_eq_ok.mp hstored).1

/-- A history that lists a number no column holds. -/
def History.Oversized (h : History) : Prop :=
  (∃ b ∈ h.blocks, Stored.Oversized b.slot) ∨
    ∃ a ∈ h.attestations, Stored.Oversized a.source ∨ Stored.Oversized a.target

theorem History.Oversized.faulty {h : History} (hbig : h.Oversized) : h.Faulty := by
  rcases hbig with ⟨b, hb, hslot⟩ | ⟨a, ha, hepoch⟩
  · exact .slot b hb hslot
  · exact .epoch a ha hepoch

/-! ## Rows -/

namespace Validator

variable {v : Validator}

theorem signBlock_oversized {high : HighWatermark} {r : BlockRequest} {record : Bool}
    {v' : Validator} (hbig : Stored.Oversized r.slot) :
    v.signBlock high r ≠ .ok (.accept record, v') := by
  intro hr
  rcases signBlock_writes hr with ⟨⟨_, hreject⟩, _⟩ | ⟨slot, hslot, _⟩
  · cases hreject
  · exact Stored.ofUInt64_oversized hbig slot hslot

theorem signAttestation_oversized {high : HighWatermark} {r : AttestationRequest} {record : Bool}
    {v' : Validator} (hbig : Stored.Oversized r.source ∨ Stored.Oversized r.target) :
    v.signAttestation high r ≠ .ok (.accept record, v') := by
  intro hr
  rcases signAttestation_writes hr with ⟨⟨_, hreject⟩, _⟩ | ⟨source, target, hs, ht, _⟩
  · cases hreject
  · rcases hbig with hbig | hbig
    · exact Stored.ofUInt64_oversized hbig source hs
    · exact Stored.ofUInt64_oversized hbig target ht

theorem legible_insertBlock (v : Validator) (b : StoredBlock) : Legible (v.insertBlock b) := by
  unfold insertBlock
  split
  · exact fun h => by cases h
  · exact legible_ok _

theorem legible_insertAttestation (v : Validator) (a : StoredAttestation) :
    Legible (v.insertAttestation a) := by
  unfold insertAttestation
  split
  · exact fun h => by cases h
  · exact legible_ok _

theorem Readable.legible_signBlock (h : v.Readable) (high : HighWatermark) (r : BlockRequest) :
    Legible (v.signBlock high r) := by
  simp only [signBlock, h.lowWatermark_eq, h.findBlock_eq]
  refine (legible_ok _).bind fun watermark _ => (Stored.legible_ofUInt64 _).bind fun slot _ =>
    (legible_ok _).bind fun existing _ => ?_
  split
  · exact legible_ok _
  · exact legible_ok _
  · exact (legible_insertBlock _ _).bind fun _ _ => legible_ok _

theorem Readable.legible_signAttestation (h : v.Readable) (high : HighWatermark)
    (r : AttestationRequest) : Legible (v.signAttestation high r) := by
  simp only [signAttestation, h.lowWatermark_eq, h.findConflicts_eq]
  refine (legible_ok _).bind fun watermark _ => ?_
  split
  · exact legible_ok _
  · refine (Stored.legible_ofUInt64 _).bind fun source _ =>
      (Stored.legible_ofUInt64 _).bind fun target _ => (legible_ok _).bind fun history _ => ?_
    split
    · exact legible_ok _
    · exact legible_ok _
    · exact (legible_insertAttestation _ _).bind fun _ _ => legible_ok _

end Validator

namespace History

open Validator

variable {v : Validator}

theorem legible_importBlocks (hv : v.Readable) (listed : List SignedBlock) :
    Legible (importBlocks listed v) := by
  induction listed generalizing v with
  | nil => exact legible_ok _
  | cons l rest ih =>
      simp only [importBlocks, hv.findBlock_eq]
      refine (Stored.legible_ofUInt64 _).bind fun slot hslot =>
        (legible_ok _).bind fun found _ => ?_
      split
      · exact (ih hv).bind fun _ _ => legible_ok _
      · refine (legible_insertBlock _ _).bind fun u hu => ?_
        obtain rfl := insertBlock_ok hu
        have hadded := Edit.addBlock (v := v) ⟨slot, l.root.map (·.bytes)⟩
          (Stored.inRange_of_stored hslot) (Stored.rootOk_of_root l.root)
        exact (ih (hadded.readable hv)).bind fun _ _ => legible_ok _

theorem legible_importAttestations (hv : v.Readable) (key : SignerId) (index : Nat)
    (listed : List SignedAttestation) : Legible (importAttestations key index listed v) := by
  induction listed generalizing v index with
  | nil => exact legible_ok _
  | cons l rest ih =>
      simp only [importAttestations, hv.findConflicts_eq]
      split
      · exact fun h => by cases h
      · refine (Stored.legible_ofUInt64 _).bind fun source hs =>
          (Stored.legible_ofUInt64 _).bind fun target ht => (legible_ok _).bind fun found _ => ?_
        split
        · refine (legible_insertAttestation _ _).bind fun u hu => ?_
          obtain rfl := insertAttestation_ok hu
          have hadded := Edit.addVote (v := v) ⟨source, target, l.root.map (·.bytes)⟩
            (Stored.inRange_of_stored hs) (Stored.inRange_of_stored ht)
            (Stored.rootOk_of_root l.root)
          exact (ih (hadded.readable hv) (index + 1)).bind fun _ _ => legible_ok _
        · exact (ih hv (index + 1)).bind fun _ _ => legible_ok _

theorem legible_raiseSlot (h : History) (v : Validator) : Legible (h.raiseSlot v) := by
  unfold History.raiseSlot
  split
  · exact legible_ok _
  · exact (Stored.legible_ofUInt64 _).bind fun _ _ => legible_ok _

theorem legible_raiseEpochs (h : History) (v : Validator) : Legible (h.raiseEpochs v) := by
  unfold History.raiseEpochs
  split
  · exact (Stored.legible_ofUInt64 _).bind fun _ _ => (Stored.legible_ofUInt64 _).bind fun _ _ =>
      legible_ok _
  · exact legible_ok _

theorem legible_importTo (h : History) (hv : v.Readable) : Legible (h.importTo v) := by
  refine (legible_importBlocks hv _).bind fun ⟨_, _, v₁⟩ h₁ =>
    (legible_raiseSlot h v₁).bind fun v₂ h₂ => ?_
  have hv₂ := (edits_raiseSlot h₂).readable ((edits_importBlocks h₁).readable hv)
  exact (legible_importAttestations hv₂ _ _ _).bind fun ⟨_, _, v₃⟩ _ =>
    (legible_raiseEpochs h v₃).bind fun _ _ => legible_ok _

end History

/-- An operation that meets no column it cannot read, where all can be read. -/
def Operation.Legible (body : Operation α) : Prop :=
  ∀ ⦃db : Database⦄, db.Readable → RemoteSigner.Legible (body db)

namespace Database

theorem legible_store? (n : Option UInt64) : Legible (store? n) := by
  cases n with
  | none => exact legible_ok _
  | some n => exact (Stored.legible_ofUInt64 n).map some

/-- A nullable number that no column holds. -/
def Oversized? (n : Option UInt64) : Prop :=
  ∃ m ∈ n, Stored.Oversized m

theorem store?_oversized {n : Option UInt64} (h : Oversized? n) (i : Option Int) :
    store? n ≠ .ok i := by
  obtain ⟨m, hm, hbig⟩ := h
  obtain rfl : n = some m := hm
  intro hstored
  cases hm : Stored.ofUInt64 m with
  | error fault =>
      rw [store?, hm] at hstored
      cases hstored
  | ok j => exact Stored.ofUInt64_oversized hbig j hm

theorem raiseLow_oversized {db : Database} {slot : Option Slot} {epoch : Option Epoch}
    (hrows : db.validators ≠ []) (hbig : Oversized? slot ∨ Oversized? epoch)
    (r : Nat × Database) : raiseLow slot epoch db ≠ .ok r := by
  intro hr
  rw [raiseLow, if_neg (by simpa using hrows)] at hr
  obtain ⟨s, hs, hr⟩ := bind_eq_ok.mp hr
  obtain ⟨t, ht, _⟩ := bind_eq_ok.mp hr
  rcases hbig with hbig | hbig
  · exact store?_oversized hbig s hs
  · exact store?_oversized hbig t ht

theorem replaceHigh_oversized {db : Database} {high : HighWatermark}
    (hbig : Oversized? high.slot ∨ Oversized? high.epoch) (r : Unit × Database) :
    replaceHigh high db ≠ .ok r := by
  intro hr
  obtain ⟨u, hu, _⟩ := bind_eq_ok.mp hr
  obtain ⟨s, hs, hu⟩ := bind_eq_ok.mp hu
  obtain ⟨t, ht, _⟩ := bind_eq_ok.mp hu
  rcases hbig with hbig | hbig
  · exact store?_oversized hbig s hs
  · exact store?_oversized hbig t ht

theorem legible_checked {key : SignerId} {root : Root}
    (check : HighWatermark → Validator → Protected (Decision × Validator))
    (hcheck : ∀ high {v}, Validator.Readable v → Legible (check high v)) :
    (checked key root check).Legible := by
  intro db h
  unfold checked
  cases hchain : db.admitGenesisRoot root with
  | mk admitted db₁ =>
      have h₁ := (edits_admitGenesisRoot hchain).readable h
      cases admitted with
      | false => exact legible_ok _
      | true =>
          simp only [withValidator_eq_map, h₁.highWatermark_eq]
          refine Legible.map ?_ _
          split
          · exact legible_ok _
          · exact (legible_ok _).bind fun high _ => hcheck high (h₁.row key)

theorem legible_raiseLow (slot : Option Slot) (epoch : Option Epoch) :
    (raiseLow slot epoch).Legible := by
  intro db _
  unfold raiseLow
  split
  · exact legible_ok _
  · exact (legible_store? slot).bind fun _ _ => (legible_store? epoch).bind fun _ _ => legible_ok _

theorem legible_readHigh : Operation.Legible readHigh := by
  intro db h
  simp only [readHigh, h.highWatermark_eq]
  exact legible_ok _

theorem legible_replaceHigh (high : HighWatermark) : (replaceHigh high).Legible := by
  intro db _
  refine Legible.bind ?_ fun _ _ => legible_ok _
  exact (legible_store? _).bind fun _ _ => (legible_store? _).bind fun _ _ => legible_ok _

theorem legible_readHistory (filter : Option (List SignerId)) : (readHistory filter).Legible := by
  intro db h
  refine Legible.bind ?_ fun _ _ => legible_ok _
  cases hroot : db.genesisRoot? with
  | none =>
      rw [Interchange.ofDatabase_none hroot]
      exact fun h => by cases h
  | some root =>
      rw [Interchange.ofDatabase_eq h hroot]
      exact legible_ok _

theorem legible_pruneOne (c : PruningConfig) (key : SignerId) : (pruneOne c key).Legible := by
  intro db h
  obtain ⟨blocks, votes, hrun, _⟩ := pruneOne_eq h c key
  rw [hrun]
  exact legible_ok _

end Database

namespace Interchange

open Database

theorem legible_importHistories {db : Database} (h : db.Readable) (hs : List History) :
    Legible (importHistories hs db) := by
  induction hs generalizing db with
  | nil => exact legible_ok _
  | cons x rest ih =>
      refine Legible.bind ?_ fun ⟨first, db₁⟩ hfirst => ?_
      · rw [withValidator_eq_map]
        exact (History.legible_importTo x (h.row x.key)).map _
      · obtain ⟨v, hv, rfl⟩ := withValidator_ok hfirst
        have hput := edits_put h.keys_distinct (History.edits_importTo hv)
        exact (ih (hput.readable h)).bind fun _ _ => legible_ok _

theorem legible_importTo (d : Interchange) : Operation.Legible d.importTo := by
  intro db h
  unfold importTo
  split
  · exact fun h => by cases h
  · cases hchain : db.admitGenesisRoot d.genesisRoot with
    | mk admitted db₁ =>
        cases admitted with
        | false => exact fun h => by cases h
        | true => exact legible_importHistories ((edits_admitGenesisRoot hchain).readable h) d.data

end Interchange

/-- The fault of a configuration is what was given. -/
theorem PruningConfig.fault?_eq {c : PruningConfig} {fault : ProtectionError}
    (h : c.fault? = some fault) : ∃ detail, fault = .invalidArgument detail := by
  unfold fault? at h
  split at h
  · exact ⟨_, (Option.some.inj h).symm⟩
  · split at h
    · exact ⟨_, (Option.some.inj h).symm⟩
    · cases h

namespace Engine

open Database

variable {e : Engine}

/-! ## Calls -/

theorem transact_legible {body : Operation α} (h : e.database.Readable) (hbody : body.Legible) :
    Legible (e.transact body).1 := by
  intro hfault
  rcases transact_fault hfault with ⟨n, hbusy⟩ | hfailed
  · cases hbusy
  · exact hbody h hfailed

/-- A pruning run fails only for its configuration, or where the write lock is held. -/
theorem prune_fault (h : e.database.Readable) {c : PruningConfig} {fault : ProtectionError}
    (hfault : (e.prune c).1 = .error fault) :
    c.fault? = some fault ∨ e.locked = true ∧ ∃ n, fault = .retriesExhausted n := by
  cases hc : c.fault? with
  | some found =>
      simp only [prune, hc] at hfault
      exact .inl (congrArg some (Except.error.inj hfault))
  | none =>
      cases hlocked : e.locked with
      | false =>
          obtain ⟨blocks, votes, hrun, _⟩ := prune_eq h hlocked hc
          rw [hrun] at hfault
          cases hfault
      | true =>
          refine .inr ⟨rfl, ?_⟩
          simp only [prune, hc] at hfault
          cases hkeys : (e.transact readKeys).1 with
          | ok keys =>
              rw [(transact_ok_iff.mp hkeys).1] at hlocked
              cases hlocked
          | error found =>
              rw [show e.transact readKeys = (.error found, _) from Prod.ext hkeys rfl] at hfault
              obtain rfl := Except.error.inj hfault
              exact (transact_fault hkeys).resolve_right fun h => by cases h

theorem transact_refused {body : Operation α} (hbody : ∀ r, body e.database ≠ .ok r) :
    ∃ fault, e.transact body = (.error fault, e) := by
  rcases transact_cases e body with hrefused | ⟨a, db, hr, _⟩
  · exact hrefused
  · exact absurd hr (hbody _)

/-- A check of a number that no column holds is no acceptance. -/
theorem not_accept_oversized {key : SignerId} {root : Root} {record : Bool}
    (check : HighWatermark → Validator → Protected (Decision × Validator))
    (hcheck : ∀ {high v v'}, check high v ≠ .ok (.accept record, v')) :
    (e.transact (checked key root check)).1 ≠ .ok (.accept record) := by
  intro hr
  obtain ⟨_, db, hbody⟩ := transact_ok_iff.mp hr
  obtain ⟨high, v, hv⟩ := check_of_accepted hbody
  exact hcheck hv

theorem importHistory_oversized {d : Interchange} (hbig : ∃ h ∈ d.data, h.Oversized) :
    ∃ fault, e.importHistory d = (.error fault, e) := by
  obtain ⟨h, hmem, hh⟩ := hbig
  exact transact_refused fun r hr =>
    Interchange.importTo_not_faulty hr (.history h hmem hh.faulty)

theorem raiseLow_oversized {slot : Option Slot} {epoch : Option Epoch}
    (hrows : e.database.validators ≠ []) (hbig : Oversized? slot ∨ Oversized? epoch) :
    ∃ fault, e.raiseLow slot epoch = (.error fault, e) := by
  unfold raiseLow
  split
  · exact ⟨_, rfl⟩
  · exact transact_refused (Database.raiseLow_oversized hrows hbig)

theorem setHighWatermark_oversized {high : HighWatermark}
    (hbig : Oversized? high.slot ∨ Oversized? high.epoch) :
    ∃ fault, e.setHighWatermark high = (.error fault, e) := by
  unfold setHighWatermark
  split
  · exact ⟨_, rfl⟩
  · exact transact_refused (replaceHigh_oversized hbig)

theorem legible_answer {f : α → Answer} {r : Protected α × Engine} (h : Legible r.1) :
    Legible (answer f r).1 :=
  h.map f

/-- No call fails to read a column, where all can be read. -/
theorem perform_legible (h : e.database.Readable) (c : Call) : Legible (e.perform c).1 := by
  cases c with
  | block key request root =>
      exact legible_answer (transact_legible h (legible_checked
        (fun high v => v.signBlock high request) fun high _ hv =>
          hv.legible_signBlock high request))
  | attest key request root =>
      exact legible_answer (transact_legible h (legible_checked
        (fun high v => v.signAttestation high request) fun high _ hv =>
          hv.legible_signAttestation high request))
  | register keys =>
      refine legible_answer ?_
      unfold register
      split
      · exact legible_ok _
      · exact transact_legible h fun _ _ => legible_ok _
  | setEnabled key enabled => exact legible_answer (transact_legible h fun _ _ => legible_ok _)
  | raiseLow slot epoch =>
      refine legible_answer ?_
      unfold raiseLow
      split
      · exact fun hfault => by cases hfault
      · exact transact_legible h (legible_raiseLow slot epoch)
  | highWatermark => exact legible_answer (transact_legible h legible_readHigh)
  | setHighWatermark high =>
      refine legible_answer ?_
      unfold setHighWatermark
      split
      · exact fun hfault => by cases hfault
      · exact transact_legible h (legible_replaceHigh high)
  | removeHighWatermark => exact legible_answer (transact_legible h (legible_replaceHigh .none))
  | exportHistory filter =>
      exact legible_answer (transact_legible h (legible_readHistory filter))
  | importHistory d => exact legible_answer (transact_legible h (Interchange.legible_importTo d))
  | prune c =>
      refine legible_answer fun hfault => ?_
      rcases prune_fault h hfault with hconfig | ⟨_, n, hbusy⟩
      · obtain ⟨detail, hdetail⟩ := PruningConfig.fault?_eq hconfig
        cases hdetail
      · cases hbusy
  | pruneOne c key => exact legible_answer (transact_legible h (legible_pruneOne c key))
  | lock held => exact legible_ok _

/-! ## Runs -/

/-- What keeps to the bound of the columns in a state of the engine. -/
structure Bounded (e : Engine) : Prop where
  /-- Every slot, epoch and watermark is at least zero and at most the bound. -/
  columns : e.database.Readable
  /-- Every row can be read. -/
  marks_read : ∀ v ∈ e.database.validators, ∃ w, v.lowWatermark = .ok w
  blocks_read : ∀ v ∈ e.database.validators, ∀ b ∈ v.blocks, ∃ r, b.toRecord = .ok r
  votes_read : ∀ v ∈ e.database.validators, ∀ a ∈ v.attestations, ∃ r, a.toRecord = .ok r
  ceiling_read : ∃ high, e.database.highWatermark = .ok high
  /-- The next call, whichever it is, does not fail to read a column. -/
  next_legible : ∀ c, Legible (e.perform c).1
  block_oversized : ∀ key root, ∀ r : BlockRequest, Stored.Oversized r.slot →
    ∀ record, (e.mayBlock key r root).1 ≠ .ok (.accept record)
  vote_oversized : ∀ key root, ∀ r : AttestationRequest,
    Stored.Oversized r.source ∨ Stored.Oversized r.target →
      ∀ record, (e.mayAttest key r root).1 ≠ .ok (.accept record)
  import_oversized : ∀ d : Interchange, (∃ h ∈ d.data, h.Oversized) →
    ∃ fault, e.importHistory d = (.error fault, e)
  /-- Without validators there is no watermark to store. -/
  low_oversized : ∀ slot epoch, e.database.validators ≠ [] → Oversized? slot ∨ Oversized? epoch →
    ∃ fault, e.raiseLow slot epoch = (.error fault, e)
  high_oversized : ∀ high : HighWatermark, Oversized? high.slot ∨ Oversized? high.epoch →
    ∃ fault, e.setHighWatermark high = (.error fault, e)
  /-- Pruning fails for a configuration that keeps nothing or a lock, and for nothing else. -/
  prune_fails : ∀ c fault, (e.prune c).1 = .error fault →
    c.fault? = some fault ∨ e.locked = true ∧ ∃ n, fault = .retriesExhausted n

theorem Bounded.of_readable (h : e.database.Readable) : Bounded e where
  columns := h
  marks_read := fun v hv => ⟨_, (h.rows v hv).lowWatermark_eq⟩
  blocks_read := fun v hv b hb => by
    obtain ⟨hslot, hroot⟩ := (h.rows v hv).blocks_readable b hb
    exact ⟨_, StoredBlock.toRecord_eq hslot hroot⟩
  votes_read := fun v hv a ha => by
    obtain ⟨hs, ht, hroot⟩ := (h.rows v hv).votes_readable a ha
    exact ⟨_, StoredAttestation.toRecord_eq hs ht hroot⟩
  ceiling_read := ⟨_, h.highWatermark_eq⟩
  next_legible := perform_legible h
  block_oversized := fun _ _ r hbig _ =>
    not_accept_oversized (fun high v => v.signBlock high r)
      (Validator.signBlock_oversized hbig)
  vote_oversized := fun _ _ r hbig _ =>
    not_accept_oversized (fun high v => v.signAttestation high r)
      (Validator.signAttestation_oversized hbig)
  import_oversized := fun _ => importHistory_oversized
  low_oversized := fun _ _ => raiseLow_oversized
  high_oversized := fun _ => setHighWatermark_oversized
  prune_fails := fun _ _ => prune_fault h

/-- In every run from a database that can be read, with whatever numbers, every number in the
database fits its column and can be read, so no call fails to read one; a check of a larger one is
never accepted; what would have to store a larger one fails and changes nothing; and no pruning
run fails on a conversion, whatever it is to keep. -/
theorem bounded_after (h : e.database.Readable) (calls : List Call) : Bounded (e.after calls) :=
  .of_readable ((after_edits h.keys_distinct calls).readable h)

/-- A block and a vote at the bound. -/
def boundUse : List Call :=
  [.block ⟨List.replicate 48 1⟩ ⟨9223372036854775807, .fit 32 [2]⟩ (.fit 32 [9]),
    .attest ⟨List.replicate 48 1⟩ ⟨9223372036854775807, 9223372036854775807, .fit 32 [3]⟩
      (.fit 32 [9])]

/-- Both are on record, and the numbers after theirs are accepted nowhere. -/
theorem boundUse_bounded : (fresh 1).database.Readable ∧
    let e := (fresh 1).after boundUse
    let key : SignerId := ⟨List.replicate 48 1⟩
    e.database.row key = ⟨key, true, some ⟨some Stored.bound, some Stored.bound, some Stored.bound⟩,
      [⟨Stored.bound, some (FixedBytes.fit 32 [2]).bytes⟩],
      [⟨Stored.bound, Stored.bound, some (FixedBytes.fit 32 [3]).bytes⟩]⟩ ∧
    (∀ record, (e.mayBlock key ⟨9223372036854775808, .fit 32 [4]⟩ (.fit 32 [9])).1 ≠
      .ok (.accept record)) ∧
    (∃ fault, e.raiseLow none (some 9223372036854775808) = (.error fault, e)) ∧
    Legible (e.perform (.exportHistory none)).1 := by
  have hempty : (fresh 1).database.Readable := sound_empty.readable
  have hbounded := bounded_after hempty boundUse
  have hrows : ((fresh 1).after boundUse).database.validators ≠ [] := by decide +kernel
  refine ⟨hempty, by decide +kernel, ?_, ?_, hbounded.next_legible _⟩
  · exact hbounded.block_oversized _ _ _ (by decide)
  · exact hbounded.low_oversized _ _ hrows (.inr ⟨_, rfl, by decide⟩)

end Engine

end RemoteSigner
