import RemoteSigner.Proofs.Protection.Database
import RemoteSigner.Proofs.Protection.Importing
import RemoteSigner.Proofs.Protection.Pruning
import RemoteSigner.Proofs.Protection.Signing
import RemoteSigner.Protection.Engine

/-!
# The operations keep the database sound

Every operation that succeeds leaves a sound database sound and moves it
forward (`Operation.Safe`), one lemma for each. Beside that:

* `mayBlock_accept`, `mayAttest_accept` — an acceptance is the acceptance of a
  check on the row of the key;
* `importTo_taken` — every history of a document was taken in.
-/

namespace RemoteSigner

/-- A successful run keeps a sound database sound and only moves it forward. -/
def Operation.Safe {α : Type} (body : Operation α) : Prop :=
  ∀ ⦃db db' : Database⦄ ⦃a : α⦄, db.Sound → body db = .ok (a, db') →
    db'.Sound ∧ db.Advances db'

/-- A successful run leaves the database as it was. -/
def Operation.Reads {α : Type} (body : Operation α) : Prop :=
  ∀ ⦃db db' : Database⦄ ⦃a : α⦄, body db = .ok (a, db') → db' = db

theorem Operation.Reads.safe {α : Type} {body : Operation α} (hread : body.Reads) :
    body.Safe := by
  intro db db' a h hr
  rw [hread hr]
  exact ⟨h, .refl db⟩

namespace Database

variable {db db' : Database} {key : SignerId} {root : Root}

/-! ## The genesis root -/

theorem Sound.storeGenesisRoot (h : db.Sound) (hnone : db.genesisRoot? = none) (root : Root) :
    (db.storeGenesisRoot root).Sound ∧ db.Advances (db.storeGenesisRoot root) := by
  refine ⟨⟨h.keys_distinct, h.rows, ?_⟩, ⟨fun _ => .refl _, fun _ hk => hk, ?_⟩⟩
  · intro m hm
    obtain rfl := Option.some.inj hm
    cases hmeta : db.metadata with
    | none => simp
    | some m => exact h.ceiling_inRange m hmeta
  · intro r hr
    rw [hnone] at hr
    exact absurd hr (by simp)

/-- A genesis root is admitted if it is the stored one, or stored if there is
none. -/
theorem Sound.admitGenesisRoot (h : db.Sound) {admitted : Bool}
    (ha : db.admitGenesisRoot root = (admitted, db')) : db'.Sound ∧ db.Advances db' := by
  unfold Database.admitGenesisRoot at ha
  cases hroot : db.genesisRoot? with
  | some existing =>
      rw [hroot] at ha
      obtain ⟨_, rfl⟩ := Prod.mk.inj ha
      exact ⟨h, .refl db⟩
  | none =>
      rw [hroot] at ha
      obtain ⟨_, rfl⟩ := Prod.mk.inj ha
      exact h.storeGenesisRoot hroot root

theorem genesisRoot_admitted (ha : db.admitGenesisRoot root = (true, db')) :
    db'.genesisRoot? = some root := by
  unfold admitGenesisRoot at ha
  split at ha
  · rename_i existing hroot
    obtain ⟨heq, rfl⟩ := Prod.mk.inj ha
    rw [hroot, eq_of_beq heq]
  · obtain ⟨_, rfl⟩ := Prod.mk.inj ha
    rfl

/-- Admitting a chain leaves the rows. -/
theorem rows_admitGenesisRoot {admitted : Bool}
    (ha : db.admitGenesisRoot root = (admitted, db')) :
    db'.version = db.version ∧ db'.validators = db.validators := by
  unfold admitGenesisRoot at ha
  split at ha <;> obtain ⟨_, rfl⟩ := Prod.mk.inj ha <;> exact ⟨rfl, rfl⟩

theorem row_admitGenesisRoot {admitted : Bool}
    (ha : db.admitGenesisRoot root = (admitted, db')) (key : SignerId) :
    db'.row key = db.row key := by
  rw [row, row, find?, find?, (rows_admitGenesisRoot ha).2]

/-! ## Checks -/

/-- A check on the row of a key, for the chain that the database belongs to. -/
def checked (key : SignerId) (root : Root)
    (check : HighWatermark → Validator → Protected (Decision × Validator)) :
    Operation Decision := fun db =>
  match db.admitGenesisRoot root with
  | (false, db) => .ok (.reject .genesisRootMismatch, db)
  | (true, db) =>
      db.withValidator key fun v =>
        if !v.enabled then .ok (.reject .validatorDisabled, v)
        else do
          let high ← db.highWatermark
          check high v

variable {check : HighWatermark → Validator → Protected (Decision × Validator)} {d : Decision}

/-- All that a check on a row can do. -/
theorem checked_ok (h : checked key root check db = .ok (d, db')) :
    (∃ reason, d = .reject reason) ∧ (db.admitGenesisRoot root = (false, db') ∨
      ∃ db₁, db.admitGenesisRoot root = (true, db₁) ∧ db' = db₁.put key (db₁.row key)) ∨
    ∃ db₁ high v, db.admitGenesisRoot root = (true, db₁) ∧ (db.row key).enabled = true ∧
      db₁.highWatermark = .ok high ∧ check high (db.row key) = .ok (d, v) ∧
      db' = db₁.put key v := by
  unfold checked at h
  obtain ⟨admitted, db₁, hchain⟩ : ∃ admitted db₁, db.admitGenesisRoot root = (admitted, db₁) :=
    ⟨_, _, rfl⟩
  rw [hchain] at h
  cases admitted with
  | false =>
      obtain ⟨rfl, rfl⟩ := Prod.mk.inj (Except.ok.inj h)
      exact .inl ⟨⟨_, rfl⟩, .inl hchain⟩
  | true =>
      obtain ⟨v, hv, rfl⟩ := withValidator_ok h
      rw [row_admitGenesisRoot hchain] at hv
      by_cases hen : (db.row key).enabled = true
      · simp only [hen, Bool.not_true, Bool.false_eq_true, if_false] at hv
        obtain ⟨high, hhigh, hv⟩ := bind_eq_ok.mp hv
        exact .inr ⟨db₁, high, v, hchain, hen, hhigh, hv, rfl⟩
      · rw [if_pos (by simpa using hen)] at hv
        obtain ⟨rfl, rfl⟩ := Prod.mk.inj (Except.ok.inj hv)
        exact .inl ⟨⟨_, rfl⟩, .inr ⟨db₁, hchain, by rw [row_admitGenesisRoot hchain]⟩⟩

/-- A check on the row of an enabled validator of the chain is carried out. -/
theorem checked_of {db₁ : Database} {high : HighWatermark} {v : Validator}
    (hchain : db.admitGenesisRoot root = (true, db₁)) (hen : (db.row key).enabled = true)
    (hhigh : db₁.highWatermark = .ok high) (hcheck : check high (db.row key) = .ok (d, v)) :
    checked key root check db = .ok (d, db₁.put key v) := by
  simp only [checked, hchain]
  refine withValidator_eq ?_
  rw [row_admitGenesisRoot hchain, hen, hhigh]
  exact hcheck

theorem safe_checked
    (hcheck : ∀ {high v v' d}, Validator.Sound v → check high v = .ok (d, v') →
      v'.Sound ∧ v.Advances v') : (checked key root check).Safe := by
  intro db db' d h hr
  rcases checked_ok hr with ⟨_, hchain | ⟨db₁, hchain, rfl⟩⟩ |
    ⟨db₁, high, v, hchain, _, _, hv, rfl⟩
  · exact h.admitGenesisRoot hchain
  · obtain ⟨h₁, hadv₁⟩ := h.admitGenesisRoot hchain
    obtain ⟨h₂, hadv₂⟩ := h₁.put (h₁.row key) (.refl _)
    exact ⟨h₂, hadv₁.trans hadv₂⟩
  · obtain ⟨h₁, hadv₁⟩ := h.admitGenesisRoot hchain
    rw [← row_admitGenesisRoot hchain] at hv
    obtain ⟨hv', hadv⟩ := hcheck (h₁.row key) hv
    obtain ⟨h₂, hadv₂⟩ := h₁.put hv' hadv
    exact ⟨h₂, hadv₁.trans hadv₂⟩

/-- What is accepted, the check accepted on the row as it was, and the row
afterwards is the one that the check left. -/
theorem checked_accept (h : db.Sound)
    (hcheck : ∀ {high v v' d}, Validator.Sound v → check high v = .ok (d, v') →
      v'.Sound ∧ v.Advances v') {record : Bool}
    (hr : checked key root check db = .ok (.accept record, db')) :
    ∃ high, check high (db.row key) = .ok (.accept record, db'.row key) := by
  rcases checked_ok hr with ⟨⟨_, hd⟩, _⟩ | ⟨db₁, high, v, hchain, _, _, hv, rfl⟩
  · exact absurd hd (by simp)
  · -- a check keeps the key, so the row it leaves is found again
    have hkey : v.key = key := (hcheck (h.row key) hv).2.key_eq.trans (row_key db key)
    rw [row_put hkey, if_pos rfl]
    exact ⟨high, hv⟩

/-- What is accepted, the check accepted on the row as it was, sound or not. -/
theorem check_of_accepted {record : Bool}
    (hr : checked key root check db = .ok (.accept record, db')) :
    ∃ high v, check high (db.row key) = .ok (.accept record, v) := by
  rcases checked_ok hr with ⟨⟨_, hreject⟩, _⟩ | ⟨_, high, v, _, _, _, hv, _⟩
  · cases hreject
  · exact ⟨high, v, hv⟩

theorem safe_mayBlock (key : SignerId) (request : BlockRequest) (root : Root) :
    (mayBlock key request root).Safe := by
  show (checked key root fun high v => v.signBlock high request).Safe
  exact safe_checked fun h hr => h.signBlock hr

theorem safe_mayAttest (key : SignerId) (request : AttestationRequest) (root : Root) :
    (mayAttest key request root).Safe := by
  show (checked key root fun high v => v.signAttestation high request).Safe
  exact safe_checked fun h hr => h.signAttestation hr

theorem mayBlock_accept (h : db.Sound) {request : BlockRequest} {record : Bool}
    (hr : mayBlock key request root db = .ok (.accept record, db')) :
    ∃ high, (db.row key).signBlock high request = .ok (.accept record, db'.row key) := by
  change checked key root (fun high v => v.signBlock high request) db = _ at hr
  exact checked_accept h (fun h hr => h.signBlock hr) hr

theorem mayAttest_accept (h : db.Sound) {request : AttestationRequest} {record : Bool}
    (hr : mayAttest key request root db = .ok (.accept record, db')) :
    ∃ high, (db.row key).signAttestation high request = .ok (.accept record, db'.row key) := by
  change checked key root (fun high v => v.signAttestation high request) db = _ at hr
  exact checked_accept h (fun h hr => h.signAttestation hr) hr

/-! ## Administration -/

theorem safe_register (keys : List SignerId) : (register keys).Safe := by
  intro db db' a h hr
  obtain ⟨_, rfl⟩ := Prod.mk.inj (Except.ok.inj hr)
  clear hr
  induction keys generalizing db with
  | nil => exact ⟨h, .refl db⟩
  | cons key rest ih =>
      obtain ⟨h₁, hadv₁⟩ := h.ensure key
      obtain ⟨h₂, hadv₂⟩ := ih h₁
      exact ⟨h₂, hadv₁.trans hadv₂⟩

theorem safe_setEnabled (key : SignerId) (enabled : Bool) : (setEnabled key enabled).Safe := by
  intro db db' a h hr
  obtain ⟨_, rfl⟩ := Prod.mk.inj (Except.ok.inj hr)
  refine h.mapRows fun v hv => ?_
  split
  · exact ⟨(h.rows v hv).withEnabled enabled, Validator.advances_withEnabled v enabled⟩
  · exact ⟨h.rows v hv, .refl v⟩

theorem row_register (db : Database) (keys : List SignerId) (key : SignerId) :
    (keys.foldl (fun db key => db.ensure key) db).row key = db.row key := by
  induction keys generalizing db with
  | nil => rfl
  | cons first rest ih => exact (ih _).trans (row_ensure db first key)

theorem find?_setEnabled (db : Database) (key : SignerId) (enabled : Bool) (other : SignerId) :
    (db.update key fun v => { v with enabled := enabled }).find? other =
      (db.find? other).map fun v => if v.key == key then { v with enabled := enabled } else v :=
  find?_update (f := fun v => { v with enabled := enabled }) (fun _ hv => hv) other

theorem store?_inRange {n : Option UInt64} {i : Option Int} (h : store? n = .ok i) :
    ∀ j ∈ i, Stored.InRange j := by
  cases n with
  | none =>
      obtain rfl := Except.ok.inj h
      simp
  | some n =>
      cases hn : Stored.ofUInt64 n with
      | error e => simp [store?, hn, Except.map] at h
      | ok j =>
          obtain rfl : some j = i := by simpa [store?, hn, Except.map] using h
          simpa using Stored.inRange_of_stored hn

theorem safe_raiseLow (slot : Option Slot) (epoch : Option Epoch) : (raiseLow slot epoch).Safe := by
  intro db db' a h hr
  unfold raiseLow at hr
  split at hr
  · obtain ⟨_, rfl⟩ := Prod.mk.inj (Except.ok.inj hr)
    exact ⟨h, .refl db⟩
  · obtain ⟨s, hs, hr⟩ := bind_eq_ok.mp hr
    obtain ⟨e, he, hr⟩ := bind_eq_ok.mp hr
    obtain ⟨_, rfl⟩ := Prod.mk.inj (pure_eq_ok.mp hr)
    refine h.mapRows fun v hv => ?_
    -- the slot is raised first, and either may be left out
    have hslot : (s.elim v (v.raiseSlot ·)).Sound ∧ v.Advances (s.elim v (v.raiseSlot ·)) := by
      cases s with
      | none => exact ⟨h.rows v hv, .refl v⟩
      | some i =>
          exact ⟨(h.rows v hv).raiseSlot (store?_inRange hs i rfl),
            Validator.advances_raiseSlot v i⟩
    cases e with
    | none => exact hslot
    | some i =>
        have hi := store?_inRange he i rfl
        exact ⟨hslot.1.raiseEpochs hi hi (Int.le_refl i),
          hslot.2.trans (Validator.advances_raiseEpochs _ i i)⟩

theorem reads_readHigh : readHigh.Reads := by
  intro db db' a hr
  obtain ⟨high, _, hr⟩ := bind_eq_ok.mp hr
  exact (Prod.mk.inj (pure_eq_ok.mp hr)).2.symm

theorem reads_readKeys : readKeys.Reads :=
  fun _ _ _ hr => (Prod.mk.inj (Except.ok.inj hr)).2.symm

theorem reads_readHistory (filter : Option (List SignerId)) : (readHistory filter).Reads := by
  intro db db' a hr
  obtain ⟨d, _, hr⟩ := bind_eq_ok.mp hr
  exact (Prod.mk.inj (pure_eq_ok.mp hr)).2.symm

theorem row_replaceHigh {high : HighWatermark} {a : Unit}
    (hr : replaceHigh high db = .ok (a, db')) (key : SignerId) : db'.row key = db.row key := by
  obtain ⟨u, hu, hr⟩ := bind_eq_ok.mp hr
  obtain ⟨_, rfl⟩ := Prod.mk.inj (pure_eq_ok.mp hr)
  obtain ⟨slot, _, hu⟩ := bind_eq_ok.mp hu
  obtain ⟨epoch, _, hu⟩ := bind_eq_ok.mp hu
  obtain rfl := pure_eq_ok.mp hu
  rfl

theorem safe_replaceHigh (high : HighWatermark) : (replaceHigh high).Safe := by
  intro db db' a h hr
  obtain ⟨u, hu, hr⟩ := bind_eq_ok.mp hr
  obtain ⟨_, rfl⟩ := Prod.mk.inj (pure_eq_ok.mp hr)
  obtain ⟨slot, hslot, hu⟩ := bind_eq_ok.mp hu
  obtain ⟨epoch, hepoch, hu⟩ := bind_eq_ok.mp hu
  obtain rfl := pure_eq_ok.mp hu
  refine ⟨⟨h.keys_distinct, h.rows, ?_⟩, ⟨fun _ => .refl _, fun _ hk => hk, ?_⟩⟩
  · intro m hm
    obtain rfl := Option.some.inj hm
    exact ⟨store?_inRange hslot, store?_inRange hepoch⟩
  · intro root hroot
    cases hm : db.metadata with
    | none => simp [genesisRoot?, hm] at hroot
    | some m => simpa [genesisRoot?, hm] using hroot

/-! ## Pruning -/

theorem safe_pruneOne (c : PruningConfig) (key : SignerId) : (pruneOne c key).Safe := by
  intro db db' a h hr
  unfold pruneOne at hr
  cases hf : db.find? key with
  | none =>
      rw [hf] at hr
      obtain ⟨_, rfl⟩ := Prod.mk.inj (Except.ok.inj hr)
      exact ⟨h, .refl db⟩
  | some v =>
      rw [hf] at hr
      obtain ⟨⟨counts, w⟩, hprune, hr⟩ := bind_eq_ok.mp hr
      obtain ⟨_, rfl⟩ := Prod.mk.inj (pure_eq_ok.mp hr)
      obtain ⟨hw, hadv⟩ := (h.rows v (find?_mem hf).1).prune hprune
      rw [← put_eq_update hf]
      exact h.put hw (by rw [row_eq hf]; exact hadv)

end Database

/-! ## Importing -/

namespace Interchange

variable {db db' : Database}

/-- Taking in histories one after another: those taken first stay taken. -/
theorem importHistories_step {hs : List History} {summary : ImportSummary} (h : db.Sound)
    (hr : importHistories hs db = .ok (summary, db')) :
    db'.Sound ∧ db.Advances db' ∧ (∀ key, (db.row key).Keeps (db'.row key)) ∧
    ∀ x ∈ hs, x.Taken (db'.row x.key) := by
  induction hs generalizing db summary with
  | nil =>
      obtain ⟨_, rfl⟩ := Prod.mk.inj (Except.ok.inj hr)
      exact ⟨h, .refl db, fun _ => .refl _, by simp⟩
  | cons x rest ih =>
      obtain ⟨⟨first, db₁⟩, hfirst, hr⟩ := bind_eq_ok.mp hr
      obtain ⟨⟨others, db₂⟩, hrest, hr⟩ := bind_eq_ok.mp hr
      obtain ⟨_, rfl⟩ := Prod.mk.inj (pure_eq_ok.mp hr)
      obtain ⟨v, hv, rfl⟩ := Database.withValidator_ok hfirst
      obtain ⟨hsound, hkeep, htaken⟩ := History.importTo_step (h.row x.key) hv
      have hkey : v.key = x.key := hkeep.key_eq.trans (Database.row_key db x.key)
      obtain ⟨h₁, hadv₁⟩ := h.put hsound hkeep.toAdvances
      obtain ⟨h₂, hadv₂, hkeep₂, htaken₂⟩ := ih h₁ hrest
      refine ⟨h₂, hadv₁.trans hadv₂, fun key => ?_, fun y hy => ?_⟩
      · refine Validator.Keeps.trans ?_ (hkeep₂ key)
        rw [Database.row_put hkey]
        split
        · rename_i heq
          rw [heq]
          exact hkeep
        · exact .refl _
      · rcases List.mem_cons.mp hy with rfl | hy
        · refine History.Taken.keep (hkeep₂ y.key) ?_
          rwa [Database.row_put hkey, if_pos rfl]
        · exact htaken₂ y hy

/-- A document that is taken in belongs to the chain of the database. -/
theorem importTo_ok {d : Interchange} {summary : ImportSummary}
    (hr : d.importTo db = .ok (summary, db')) :
    ∃ db₁, db.admitGenesisRoot d.genesisRoot = (true, db₁) ∧
      importHistories d.data db₁ = .ok (summary, db') := by
  unfold importTo at hr
  split at hr
  · exact absurd hr (by simp)
  · split at hr
    · exact absurd hr (by simp)
    · rename_i db₁ hchain
      exact ⟨db₁, hchain, hr⟩

theorem safe_importTo (d : Interchange) : Operation.Safe d.importTo := by
  intro db db' summary h hr
  obtain ⟨db₁, hchain, hr⟩ := importTo_ok hr
  obtain ⟨h₁, hadv₁⟩ := h.admitGenesisRoot hchain
  obtain ⟨h₂, hadv₂, _⟩ := importHistories_step h₁ hr
  exact ⟨h₂, hadv₁.trans hadv₂⟩

theorem importTo_genesisRoot {d : Interchange} {summary : ImportSummary} (h : db.Sound)
    (hr : d.importTo db = .ok (summary, db')) : db'.genesisRoot? = some d.genesisRoot := by
  obtain ⟨db₁, hchain, hr⟩ := importTo_ok hr
  obtain ⟨_, hadv, _⟩ := importHistories_step (h.admitGenesisRoot hchain).1 hr
  exact hadv.genesisRoot _ (Database.genesisRoot_admitted hchain)

/-- Every history of a document that is taken in is left behind on its row. -/
theorem importTo_taken {d : Interchange} {summary : ImportSummary} (h : db.Sound)
    (hr : d.importTo db = .ok (summary, db')) : ∀ x ∈ d.data, x.Taken (db'.row x.key) := by
  obtain ⟨db₁, hchain, hr⟩ := importTo_ok hr
  exact (importHistories_step (h.admitGenesisRoot hchain).1 hr).2.2.2

end Interchange

end RemoteSigner
