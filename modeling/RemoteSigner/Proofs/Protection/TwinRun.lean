import RemoteSigner.Proofs.Protection.Exporting
import RemoteSigner.Proofs.Protection.Run
import RemoteSigner.Proofs.Protection.Twin

/-!
# Runs side by side

Two databases are `Twins` for some keys if they know the same of these keys and
the rows of each are twins. The same calls on both are answered alike:

* `Twins.checked` — checks of one of the keys, by the twins of one row;
* `Twins.importTo` and the operations around it — where the databases are twins
  for every key;
* `Sound.pruneOne_twins`, `Engine.prune_twins` — pruning one of them goes
  unnoticed;
* `Engine.Twins.trace_eq` — so checks of these keys are answered alike along two
  runs.
-/

namespace RemoteSigner

namespace Database

variable {K : SignerId → Prop} {db db' : Database} {key : SignerId}

/-- For some keys, the same metadata, the same validators, and twins for rows. -/
structure Twins (K : SignerId → Prop) (db db' : Database) : Prop where
  metadata_eq : db.metadata = db'.metadata
  known_iff : ∀ key, K key → ((db.find? key).isSome ↔ (db'.find? key).isSome)
  rows : ∀ key, K key → (db.row key).Twin (db'.row key)

/-- Results in relation, with twins after them. -/
def TwinsAfter {α : Type} (K : SignerId → Prop) (s : α → α → Prop) (r r' : α × Database) : Prop :=
  s r.1 r'.1 ∧ r.2.Twins K r'.2

/-- Every key there is. -/
abbrev anyKey : SignerId → Prop := fun _ => True

theorem highWatermark_congr (h : db.metadata = db'.metadata) :
    db.highWatermark = db'.highWatermark := by
  rw [highWatermark, highWatermark, h]

theorem metadata_ensure (db : Database) (key : SignerId) :
    (db.ensure key).metadata = db.metadata := by
  rw [ensure]
  split <;> rfl

theorem genesisRoot?_congr (h : db.metadata = db'.metadata) :
    db.genesisRoot? = db'.genesisRoot? := by
  rw [genesisRoot?, genesisRoot?, h]

namespace Twins

theorem refl (K : SignerId → Prop) (db : Database) : db.Twins K db :=
  ⟨rfl, fun _ _ => Iff.rfl, fun _ _ => .refl _⟩

theorem symm (h : db.Twins K db') : db'.Twins K db :=
  ⟨h.metadata_eq.symm, fun key hk => (h.known_iff key hk).symm, fun key hk => (h.rows key hk).symm⟩

theorem trans {db'' : Database} (h : db.Twins K db') (h' : db'.Twins K db'') :
    db.Twins K db'' :=
  ⟨h.metadata_eq.trans h'.metadata_eq,
    fun key hk => (h.known_iff key hk).trans (h'.known_iff key hk),
    fun key hk => (h.rows key hk).trans (h'.rows key hk)⟩

/-- Metadata that changes alike leaves twins. -/
theorem withMetadata (h : db.Twins K db') (m : Option Metadata) :
    ({ db with metadata := m } : Database).Twins K { db' with metadata := m } :=
  ⟨rfl, h.known_iff, h.rows⟩

/-- Twins admit the same chains. -/
theorem admitGenesisRoot (h : db.Twins K db') (root : Root) :
    ∃ admitted db₁ db₁', db.admitGenesisRoot root = (admitted, db₁) ∧
      db'.admitGenesisRoot root = (admitted, db₁') ∧ db₁.Twins K db₁' := by
  unfold Database.admitGenesisRoot
  rw [genesisRoot?_congr h.metadata_eq]
  cases db'.genesisRoot? with
  | some existing => exact ⟨_, _, _, rfl, rfl, h⟩
  | none =>
      refine ⟨true, _, _, rfl, rfl, ?_⟩
      unfold storeGenesisRoot
      rw [h.metadata_eq]
      exact h.withMetadata _

theorem put {v v' : Validator} (h : db.Twins K db') (hv : v.key = key) (ht : v.Twin v') :
    (db.put key v).Twins K (db'.put key v') := by
  have hv' : v'.key = key := ht.key_eq ▸ hv
  refine ⟨?_, fun other hk => ?_, fun other hk => ?_⟩
  · rw [metadata_put, metadata_put, h.metadata_eq]
  · rw [find?_put hv, find?_put hv']
    split
    · exact Iff.rfl
    · exact h.known_iff other hk
  · rw [row_put hv, row_put hv']
    split
    · exact ht
    · exact h.rows other hk

/-- Operations that answer alike on twin rows do so on twin databases. -/
theorem withValidator {α : Type} {s : α → α → Prop} {f f' : Validator → Protected (α × Validator)}
    (h : db.Twins K db')
    (hf : Agree (fun r r' => s r.1 r'.1 ∧ r.2.Twin r'.2) (f (db.row key)) (f' (db'.row key)))
    (hkey : ∀ a v, f (db.row key) = .ok (a, v) → v.key = key) :
    Agree (TwinsAfter K s) (db.withValidator key f) (db'.withValidator key f') := by
  rw [withValidator_eq_map, withValidator_eq_map]
  refine hf.map fun r r' hr _ hrr' => ⟨hrr'.1, ?_⟩
  exact h.put (hkey r.1 r.2 hr) hrr'.2

/-! ## Checks -/

variable {root : Root} {check : HighWatermark → Validator → Protected (Decision × Validator)}

/-- A check that answers alike on twin rows does so on twin databases. -/
theorem checked (h : db.Twins K db') (hk : K key)
    (hcheck : ∀ high,
      Agree Validator.TwinAfter (check high (db.row key)) (check high (db'.row key)))
    (hkey : ∀ high d v, check high (db.row key) = .ok (d, v) → v.key = key) :
    Agree (TwinsAfter K Eq) (Database.checked key root check db)
      (Database.checked key root check db') := by
  obtain ⟨admitted, db₁, db₁', hchain, hchain', h₁⟩ := h.admitGenesisRoot root
  have hrow := row_admitGenesisRoot hchain key
  have hrow' := row_admitGenesisRoot hchain' key
  simp only [Database.checked, hchain, hchain']
  cases admitted with
  | false => exact .ok ⟨rfl, h₁⟩
  | true =>
      refine h₁.withValidator ?_ fun d v hr => ?_
      · rw [hrow, hrow', (h.rows key hk).enabled_eq, highWatermark_congr h₁.metadata_eq]
        split
        · exact .ok ⟨rfl, h.rows key hk⟩
        · refine .bind (.refl (r := Eq) fun _ _ => rfl) ?_
          rintro high _ - - rfl
          exact hcheck high
      · rw [hrow] at hr
        split at hr
        · obtain ⟨_, rfl⟩ := Prod.mk.inj (Except.ok.inj hr)
          exact row_key db key
        · obtain ⟨high, _, hr⟩ := bind_eq_ok.mp hr
          exact hkey high d v hr

theorem mayBlock (h : db.Twins K db') (hs : db.Sound) (hs' : db'.Sound) (hk : K key)
    (request : BlockRequest) :
    Agree (TwinsAfter K Eq) (Database.mayBlock key request root db)
      (Database.mayBlock key request root db') := by
  refine h.checked hk (fun high => ?_) fun high d v hr => ?_
  · exact (h.rows key hk).signBlock (hs.row key) (hs'.row key) request
  · exact ((hs.row key).signBlock hr).2.key_eq.trans (row_key db key)

theorem mayAttest (h : db.Twins K db') (hs : db.Sound) (hs' : db'.Sound) (hk : K key)
    (request : AttestationRequest) :
    Agree (TwinsAfter K Eq) (Database.mayAttest key request root db)
      (Database.mayAttest key request root db') := by
  refine h.checked hk (fun high => ?_) fun high d v hr => ?_
  · exact (h.rows key hk).signAttestation (hs.row key) (hs'.row key) request
  · exact ((hs.row key).signAttestation hr).2.key_eq.trans (row_key db key)

/-! ## Administration -/

theorem ensure (h : db.Twins K db') (key : SignerId) :
    (db.ensure key).Twins K (db'.ensure key) where
  metadata_eq := by rw [metadata_ensure, metadata_ensure, h.metadata_eq]
  known_iff other hk := by
    rw [find?_ensure, find?_ensure]
    split
    · exact Iff.rfl
    · exact h.known_iff other hk
  rows other hk := by
    rw [row_ensure, row_ensure]
    exact h.rows other hk

theorem register (h : db.Twins K db') (keys : List SignerId) :
    Agree (TwinsAfter K Eq) (Database.register keys db) (Database.register keys db') := by
  refine .ok ⟨rfl, ?_⟩
  show (keys.foldl (fun db key => db.ensure key) db).Twins K
    (keys.foldl (fun db key => db.ensure key) db')
  induction keys generalizing db db' with
  | nil => exact h
  | cons key rest ih => exact ih (h.ensure key)

/-- Changing the rows there are, each by itself, leaves twins. -/
theorem mapRows (h : db.Twins K db') {f : Validator → Validator} (hf : ∀ v, (f v).key = v.key)
    (ht : ∀ v v', v.Twin v' → (f v).Twin (f v')) :
    ({ db with validators := db.validators.map f } : Database).Twins K
      { db' with validators := db'.validators.map f } := by
  have hfind : ∀ (db : Database) key,
      ({ db with validators := db.validators.map f } : Database).find? key =
        (db.find? key).map f := fun db key => find?_map (fun v _ => hf v) key
  refine ⟨h.metadata_eq, fun key hk => ?_, fun key hk => ?_⟩
  · rw [hfind, hfind, Option.isSome_map, Option.isSome_map]
    exact h.known_iff key hk
  · have hknown := h.known_iff key hk
    have hrow := h.rows key hk
    unfold row at hrow ⊢
    rw [hfind, hfind]
    cases hv : db.find? key with
    | none =>
        cases hv' : db'.find? key with
        | none => exact .refl _
        | some v' => exact absurd (hknown.mpr (by rw [hv']; rfl)) (by simp [hv])
    | some v =>
        cases hv' : db'.find? key with
        | none => exact absurd (hknown.mp (by rw [hv]; rfl)) (by simp [hv'])
        | some v' =>
            rw [hv, hv'] at hrow
            exact ht v v' hrow

theorem setEnabled (h : db.Twins anyKey db') (key : SignerId) (enabled : Bool) :
    Agree (TwinsAfter anyKey Eq) (Database.setEnabled key enabled db)
      (Database.setEnabled key enabled db') := by
  refine .ok ⟨Bool.eq_iff_iff.mpr (h.known_iff key trivial), h.mapRows (fun v => ?_) ?_⟩
  · split <;> rfl
  · intro v v' ht
    rw [ht.key_eq]
    split
    · exact ht.withEnabled enabled
    · exact ht

/-- Twins have as many rows, as both have one for each of the same keys. -/
theorem length_eq (h : db.Twins anyKey db') (hs : db.Sound) (hs' : db'.Sound) :
    db.validators.length = db'.validators.length := by
  have hmem : ∀ (db : Database) key, key ∈ db.validators.map (·.key) ↔ (db.find? key).isSome := by
    simp [Database.find?, List.find?_isSome]
  have hperm : (db.validators.map (·.key)).Perm (db'.validators.map (·.key)) := by
    refine (List.perm_ext_iff_of_nodup hs.keys_distinct hs'.keys_distinct).mpr fun key => ?_
    rw [hmem, hmem]
    exact h.known_iff key trivial
  simpa using hperm.length_eq

theorem raiseLow (h : db.Twins anyKey db') (hs : db.Sound) (hs' : db'.Sound) (slot : Option Slot)
    (epoch : Option Epoch) :
    Agree (TwinsAfter anyKey Eq) (Database.raiseLow slot epoch db)
      (Database.raiseLow slot epoch db') := by
  have hlength := h.length_eq hs hs'
  have hempty : db.validators.isEmpty = db'.validators.isEmpty := by
    rw [Bool.eq_iff_iff, List.isEmpty_iff_length_eq_zero, List.isEmpty_iff_length_eq_zero, hlength]
  unfold Database.raiseLow
  rw [hempty]
  split
  · exact .ok ⟨rfl, h⟩
  · refine .bind (.refl (r := Eq) fun _ _ => rfl) ?_
    rintro s _ - - rfl
    refine .bind (.refl (r := Eq) fun _ _ => rfl) ?_
    rintro e _ - - rfl
    refine .ok ⟨hlength, h.mapRows (fun v => ?_) fun v v' ht => ?_⟩
    · cases s <;> cases e <;> rfl
    · cases s <;> cases e
      · exact ht
      · exact ht.raiseEpochs _ _
      · exact ht.raiseSlot _
      · exact (ht.raiseSlot _).raiseEpochs _ _

theorem readHigh (h : db.Twins K db') :
    Agree (TwinsAfter K Eq) (Database.readHigh db) (Database.readHigh db') := by
  unfold Database.readHigh
  rw [highWatermark_congr h.metadata_eq]
  refine .bind (.refl (r := Eq) fun _ _ => rfl) ?_
  rintro high _ - - rfl
  exact .ok ⟨rfl, h⟩

theorem replaceHigh (h : db.Twins K db') (high : HighWatermark) :
    Agree (TwinsAfter K Eq) (Database.replaceHigh high db) (Database.replaceHigh high db') := by
  unfold Database.replaceHigh storeHighWatermark
  rw [h.metadata_eq]
  cases store? high.slot with
  | error fault => exact .error fault
  | ok slot =>
      cases store? high.epoch with
      | error fault => exact .error fault
      | ok epoch => exact .ok ⟨rfl, h.withMetadata _⟩

/-- Twins may hand out different records, but both hand out or neither does. -/
theorem readHistory (h : db.Twins K db') (hs : db.Sound) (hs' : db'.Sound)
    (filter : Option (List SignerId)) :
    Agree (TwinsAfter K fun _ _ => True) (Database.readHistory filter db)
      (Database.readHistory filter db') := by
  have hroot := genesisRoot?_congr h.metadata_eq
  unfold Database.readHistory
  cases hr : db.genesisRoot? with
  | none =>
      rw [Interchange.ofDatabase_none hr, Interchange.ofDatabase_none (hroot ▸ hr)]
      exact .error _
  | some root =>
      rw [Interchange.ofDatabase_eq hs.readable hr,
        Interchange.ofDatabase_eq hs'.readable (hroot ▸ hr)]
      exact .ok ⟨trivial, h⟩

/-! ## Importing -/

theorem importHistories (h : db.Twins anyKey db') (hs : db.Sound) (hs' : db'.Sound)
    (histories : List History) :
    Agree (TwinsAfter anyKey fun _ _ => True) (Interchange.importHistories histories db)
      (Interchange.importHistories histories db') := by
  induction histories generalizing db db' with
  | nil => exact .ok ⟨trivial, h⟩
  | cons x rest ih =>
      have hstep : ∀ {db : Database} {first db₁}, db.Sound →
          db.withValidator x.key x.importTo = .ok (first, db₁) → db₁.Sound := by
        intro db first db₁ hs hfirst
        obtain ⟨v, hv, rfl⟩ := withValidator_ok hfirst
        obtain ⟨hsound, hkeep, _⟩ := History.importTo_step (hs.row x.key) hv
        exact (hs.put hsound hkeep.toAdvances).1
      refine .bind (h.withValidator (s := fun _ _ => True) ?_ fun _ v hr => ?_) ?_
      · have htwin := History.importTo_twin (h := x) (h.rows x.key trivial) (hs.row x.key)
          (hs'.row x.key)
        exact htwin.mono fun _ _ ht => ⟨trivial, ht⟩
      · obtain ⟨_, hkeep, _⟩ := History.importTo_step (hs.row x.key) hr
        exact hkeep.key_eq.trans (row_key db x.key)
      · rintro ⟨first, db₁⟩ ⟨first', db₁'⟩ hfirst hfirst' ⟨_, h₁⟩
        refine .bind (ih h₁ (hstep hs hfirst) (hstep hs' hfirst')) ?_
        rintro ⟨others, db₂⟩ ⟨others', db₂'⟩ - - ⟨_, h₂⟩
        exact .ok ⟨trivial, h₂⟩

/-- Twins take in a document alike, though one may write records that the other
passes over. -/
theorem importTo (h : db.Twins anyKey db') (hs : db.Sound) (hs' : db'.Sound) (d : Interchange) :
    Agree (TwinsAfter anyKey fun _ _ => True) (d.importTo db) (d.importTo db') := by
  obtain ⟨admitted, db₁, db₁', hchain, hchain', h₁⟩ := h.admitGenesisRoot d.genesisRoot
  obtain ⟨hs₁, _⟩ := hs.admitGenesisRoot hchain
  obtain ⟨hs₁', _⟩ := hs'.admitGenesisRoot hchain'
  unfold Interchange.importTo
  split
  · exact .error _
  · simp only [hchain, hchain']
    cases admitted with
    | false =>
        have hroot := genesisRoot?_congr h₁.metadata_eq
        simp only [hroot]
        exact .error _
    | true => exact h₁.importHistories hs₁ hs₁' d.data

end Twins

/-! ## Pruning a validator -/

/-- Pruning a validator leaves a twin of the database. -/
theorem Sound.pruneOne_twins {c : PruningConfig} {counts : Nat × Nat} (h : db.Sound)
    (hr : pruneOne c key db = .ok (counts, db')) : db.Twins K db' := by
  unfold pruneOne at hr
  cases hf : db.find? key with
  | none =>
      rw [hf] at hr
      obtain ⟨_, rfl⟩ := Prod.mk.inj (Except.ok.inj hr)
      exact .refl K db
  | some v =>
      rw [hf] at hr
      obtain ⟨⟨counts, w⟩, hprune, hr⟩ := bind_eq_ok.mp hr
      obtain ⟨_, rfl⟩ := Prod.mk.inj (pure_eq_ok.mp hr)
      have htwin := (h.rows v (find?_mem hf).1).prune_twin hprune
      have hkey : w.key = key := htwin.key_eq ▸ (find?_mem hf).2
      rw [← put_eq_update hf]
      refine ⟨(metadata_put w).symm, fun other _ => ?_, fun other _ => ?_⟩
      · rw [find?_put hkey]
        split
        · rename_i heq
          simp [heq, hf]
        · exact Iff.rfl
      · rw [row_put hkey]
        split
        · rename_i heq
          rw [heq, row_eq hf]
          exact htwin
        · exact .refl _

end Database

namespace Engine

open Database

variable {K : SignerId → Prop} {e e' : Engine} {α : Type}

/-- Engines over twin databases. -/
structure Twins (K : SignerId → Prop) (e e' : Engine) : Prop where
  maxAttempts_eq : e.maxAttempts = e'.maxAttempts
  locked_eq : e.locked = e'.locked
  database : e.database.Twins K e'.database

/-- Results in relation, with twins after them. -/
def TwinsAfter {α β : Type} (K : SignerId → Prop) (s : α → β → Prop)
    (r : Protected α × Engine) (r' : Protected β × Engine) : Prop :=
  Agree s r.1 r'.1 ∧ r.2.Twins K r'.2

theorem Twins.refl (K : SignerId → Prop) (e : Engine) : e.Twins K e :=
  ⟨rfl, rfl, .refl K _⟩

theorem Twins.symm (h : e.Twins K e') : e'.Twins K e :=
  ⟨h.maxAttempts_eq.symm, h.locked_eq.symm, h.database.symm⟩

theorem Twins.trans {e'' : Engine} (h : e.Twins K e') (h' : e'.Twins K e'') : e.Twins K e'' :=
  ⟨h.maxAttempts_eq.trans h'.maxAttempts_eq, h.locked_eq.trans h'.locked_eq,
    h.database.trans h'.database⟩

theorem transact_twins {body : Operation α} {s : α → α → Prop} (h : e.Twins K e')
    (hbody : Agree (Database.TwinsAfter K s) (body e.database) (body e'.database)) :
    TwinsAfter K s (e.transact body) (e'.transact body) := by
  obtain ⟨hanswer, hdatabase⟩ := transact_agree h.maxAttempts_eq h.locked_eq h.database hbody
  exact ⟨hanswer, h.maxAttempts_eq, h.locked_eq, hdatabase⟩

theorem Twins.answer {body : Operation α} {s : α → α → Prop} {t : Answer → Answer → Prop}
    {f : α → Answer} (h : e.Twins K e')
    (hbody : Agree (Database.TwinsAfter K s) (body e.database) (body e'.database))
    (hf : ∀ a a', s a a' → t (f a) (f a')) :
    TwinsAfter K t (Engine.answer f (e.transact body)) (Engine.answer f (e'.transact body)) := by
  obtain ⟨hanswer, htwins⟩ := transact_twins h hbody
  exact ⟨hanswer.map fun a a' _ _ => hf a a', htwins⟩

/-! ## Checks -/

/-- The validator that a call checks a message of. -/
def Call.checkedKey? : Call → Option SignerId
  | .block key _ _ | .attest key _ _ => some key
  | _ => none

/-- A check of a validator that is among the twins is answered alike. -/
theorem Twins.check (h : e.Twins K e') (hs : e.database.Sound) (hs' : e'.database.Sound)
    {c : Call} (hc : ∃ key ∈ c.checkedKey?, K key) :
    TwinsAfter K Eq (e.perform c) (e'.perform c) := by
  have hsame : ∀ d d' : Decision, d = d' → Answer.decision d = Answer.decision d' := by
    rintro d _ rfl
    rfl
  obtain ⟨key, hkey, hk⟩ := hc
  cases c with
  | block other request root =>
      obtain rfl : other = key := Option.some.inj hkey
      exact h.answer (h.database.mayBlock hs hs' hk request) hsame
  | attest other request root =>
      obtain rfl : other = key := Option.some.inj hkey
      exact h.answer (h.database.mayAttest hs hs' hk request) hsame
  | _ => cases hkey

/-- Checks of validators that are twins get the same answers. -/
theorem Twins.trace_eq {checks : List Call} (h : e.Twins K e') (hs : e.database.Sound)
    (hs' : e'.database.Sound) (hc : ∀ c ∈ checks, ∃ key ∈ c.checkedKey?, K key) :
    e.trace checks = e'.trace checks := by
  induction checks generalizing e e' with
  | nil => rfl
  | cons c rest ih =>
      obtain ⟨hanswer, htwins⟩ := h.check hs hs' (hc c List.mem_cons_self)
      have hsame := hanswer.eq fun _ _ heq => heq
      rw [trace, trace, hsame, ih htwins (perform_step hs c).1 (perform_step hs' c).1
        fun d hd => hc d (List.mem_cons_of_mem c hd)]

/-! ## Pruning -/

theorem transact_pruneOne_twins (h : e.database.Sound) (c : PruningConfig) (key : SignerId) :
    e.Twins K (e.transact (pruneOne c key)).2 := by
  rcases transact_cases e (pruneOne c key) with ⟨fault, hf⟩ | ⟨counts, db, hbody, hok⟩
  · rw [hf]
    exact .refl K e
  · rw [hok]
    exact ⟨rfl, rfl, h.pruneOne_twins hbody⟩

theorem pruneEach_twins {c : PruningConfig} {keys : List SignerId} {report : PruneReport}
    (h : e.database.Sound) : e.Twins K (pruneEach c keys report e).2 := by
  induction keys generalizing report e with
  | nil => exact .refl K e
  | cons key rest ih =>
      have htwin := transact_pruneOne_twins (K := K) h c key
      have hsound := (transact_step h (safe_pruneOne c key)).1
      rw [pruneEach]
      generalize e.transact (pruneOne c key) = r at htwin hsound ⊢
      obtain ⟨result, e₁⟩ := r
      cases result with
      | error fault => exact htwin
      | ok counts => exact htwin.trans (ih hsound)

/-- A pruning run leaves a twin. -/
theorem prune_twins (h : e.database.Sound) (c : PruningConfig) : e.Twins K (e.prune c).2 := by
  unfold prune
  cases c.fault? with
  | some fault => exact .refl K e
  | none =>
      rcases transact_cases e readKeys with ⟨fault, hf⟩ | ⟨keys, db, hbody, hok⟩
      · rw [hf]
        exact .refl K e
      · obtain ⟨_, rfl⟩ := Prod.mk.inj (Except.ok.inj hbody)
        rw [hok]
        exact pruneEach_twins h

end Engine

end RemoteSigner
