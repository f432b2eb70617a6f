import RemoteSigner.Proofs.Protection.Exact

/-!
# Disabled validators stay disabled

Of all calls only the one that enables a validator makes a disabled one enabled:
no operation but `setEnabled` changes whether a validator is enabled
(`Operation.KeepsEnabled`, one lemma for each). So a validator that is disabled
stays so along every run without that call (`after_disabled`), and nothing is
accepted for it meanwhile (`Disabled.mayBlock`, `Disabled.mayAttest`).

A validator that was disabled need not have a row. It is `Shut` if it has none or
a disabled one; disabling shuts it, and others that are disabled later leave it
so.
-/

namespace RemoteSigner

/-- A successful run changes of no validator whether it is enabled. -/
def Operation.KeepsEnabled {α : Type} (body : Operation α) : Prop :=
  ∀ ⦃db db' : Database⦄ ⦃a : α⦄, db.Sound → body db = .ok (a, db') →
    ∀ key, (db'.row key).enabled = (db.row key).enabled

theorem Operation.Reads.keepsEnabled {α : Type} {body : Operation α} (hread : body.Reads) :
    body.KeepsEnabled :=
  fun _ _ _ _ hr _ => by rw [hread hr]

namespace Validator

variable {v v' : Validator} {high : HighWatermark} {d : Decision}

theorem Sound.signBlock_enabled (h : v.Sound) {request : BlockRequest}
    (hr : v.signBlock high request = .ok (d, v')) : v'.enabled = v.enabled := by
  rcases h.signBlock_cases hr with ⟨_, rfl⟩ | ⟨_, _, _, _, ⟨_, _, rfl⟩ | ⟨_, _, rfl⟩⟩ <;> rfl

theorem Sound.signAttestation_enabled (h : v.Sound) {request : AttestationRequest}
    (hr : v.signAttestation high request = .ok (d, v')) : v'.enabled = v.enabled := by
  rcases h.signAttestation_cases hr with
    ⟨_, rfl⟩ | ⟨_, _, _, _, _, _, _, _, ⟨_, _, rfl⟩ | ⟨_, _, rfl⟩⟩ <;> rfl

end Validator

namespace Database

variable {db db' : Database} {key : SignerId} {root : Root}

/-- Another row for a validator, enabled as the one before. -/
theorem enabled_put {v : Validator} (hkey : v.key = key)
    (hv : v.enabled = (db.row key).enabled) (other : SignerId) :
    ((db.put key v).row other).enabled = (db.row other).enabled := by
  rw [row_put hkey]
  split
  · rename_i heq
    rw [heq, hv]
  · rfl

theorem keepsEnabled_checked
    {check : HighWatermark → Validator → Protected (Decision × Validator)}
    (hcheck : ∀ {high v v' d}, Validator.Sound v → check high v = .ok (d, v') →
      v'.key = v.key ∧ v'.enabled = v.enabled) :
    Operation.KeepsEnabled (checked key root check) := by
  intro db db' d h hr other
  rcases checked_ok hr with ⟨_, hchain | ⟨db₁, hchain, rfl⟩⟩ |
    ⟨db₁, high, v, hchain, _, _, hv, rfl⟩
  · rw [row_admitGenesisRoot hchain]
  · rw [enabled_put (row_key db₁ key) rfl, row_admitGenesisRoot hchain]
  · obtain ⟨hkey, henabled⟩ := hcheck (h.row key) hv
    rw [← row_admitGenesisRoot hchain] at henabled
    rw [enabled_put (hkey.trans (row_key db key)) henabled, row_admitGenesisRoot hchain]

theorem keepsEnabled_mayBlock (key : SignerId) (request : BlockRequest) (root : Root) :
    Operation.KeepsEnabled (mayBlock key request root) := by
  show Operation.KeepsEnabled (checked key root fun high v => v.signBlock high request)
  exact keepsEnabled_checked fun h hr => ⟨(h.signBlock hr).2.key_eq, h.signBlock_enabled hr⟩

theorem keepsEnabled_mayAttest (key : SignerId) (request : AttestationRequest) (root : Root) :
    Operation.KeepsEnabled (mayAttest key request root) := by
  show Operation.KeepsEnabled (checked key root fun high v => v.signAttestation high request)
  exact keepsEnabled_checked fun h hr =>
    ⟨(h.signAttestation hr).2.key_eq, h.signAttestation_enabled hr⟩

theorem keepsEnabled_register (keys : List SignerId) :
    Operation.KeepsEnabled (register keys) := by
  intro db db' _ _ hr key
  obtain ⟨_, rfl⟩ := Prod.mk.inj (Except.ok.inj hr)
  rw [row_register]

/-- Rows that are changed one by one and stay enabled as they were. -/
theorem enabled_mapRows {f : Validator → Validator}
    (hf : ∀ v ∈ db.validators, (f v).key = v.key ∧ (f v).enabled = v.enabled) (key : SignerId) :
    (({ db with validators := db.validators.map f } : Database).row key).enabled =
      (db.row key).enabled := by
  have hfind : ({ db with validators := db.validators.map f } : Database).find? key =
      (db.find? key).map f := find?_map (fun v hv => (hf v hv).1) key
  rw [row, row, hfind]
  cases hv : db.find? key with
  | none => rfl
  | some v => exact (hf v (find?_mem hv).1).2

theorem keepsEnabled_raiseLow (slot : Option Slot) (epoch : Option Epoch) :
    Operation.KeepsEnabled (raiseLow slot epoch) := by
  intro db db' _ _ hr
  unfold raiseLow at hr
  split at hr
  · obtain ⟨_, rfl⟩ := Prod.mk.inj (Except.ok.inj hr)
    exact fun _ => rfl
  · obtain ⟨s, _, hr⟩ := bind_eq_ok.mp hr
    obtain ⟨e, _, hr⟩ := bind_eq_ok.mp hr
    obtain ⟨_, rfl⟩ := Prod.mk.inj (pure_eq_ok.mp hr)
    refine enabled_mapRows fun v _ => ?_
    cases s <;> cases e <;> exact ⟨rfl, rfl⟩

theorem keepsEnabled_replaceHigh (high : HighWatermark) :
    Operation.KeepsEnabled (replaceHigh high) :=
  fun _ _ _ _ hr key => by rw [row_replaceHigh hr key]

theorem keepsEnabled_importTo (d : Interchange) : Operation.KeepsEnabled d.importTo := by
  intro db db' _ _ hr key
  obtain ⟨db₁, hchain, hr⟩ := Interchange.importTo_ok hr
  rw [((Interchange.importHistories_grown hr).1 key).enabled_eq, row_admitGenesisRoot hchain]

/-- A check accepts nothing for a disabled validator. -/
theorem checked_disabled {check : HighWatermark → Validator → Protected (Decision × Validator)}
    {d : Decision} (hoff : (db.row key).enabled = false)
    (hr : checked key root check db = .ok (d, db')) : ∃ reason, d = .reject reason := by
  rcases checked_ok hr with ⟨hreject, _⟩ | ⟨_, _, _, _, hon, _⟩
  · exact hreject
  · rw [hoff] at hon
    cases hon

end Database

namespace Engine

open Database

variable {e : Engine} {key : SignerId} {c : Call}

/-- A validator that has a row, and is disabled. -/
def Disabled (e : Engine) (key : SignerId) : Prop :=
  (e.database.row key).enabled = false

/-- A validator that has no row or is disabled. -/
def Shut (e : Engine) (key : SignerId) : Prop :=
  ∀ v, e.database.find? key = some v → v.enabled = false

theorem transact_enabled {α : Type} {body : Operation α} (h : e.database.Sound)
    (hbody : body.KeepsEnabled) (key : SignerId) :
    ((e.transact body).2.database.row key).enabled = (e.database.row key).enabled := by
  rcases transact_cases e body with ⟨fault, hf⟩ | ⟨a, db, hr, hok⟩
  · rw [hf]
  · rw [hok]
    exact hbody h hr key

/-- No call but that of `setEnabled` changes whether a validator is enabled. -/
theorem perform_enabled (h : e.database.Sound) (hc : ∀ other enabled, c ≠ .setEnabled other enabled)
    (key : SignerId) :
    ((e.perform c).2.database.row key).enabled = (e.database.row key).enabled := by
  cases c with
  | block key' request root =>
      exact transact_enabled h (keepsEnabled_mayBlock key' request root) key
  | attest key' request root =>
      exact transact_enabled h (keepsEnabled_mayAttest key' request root) key
  | register keys =>
      show ((e.register keys).2.database.row key).enabled = _
      unfold register
      split
      · rfl
      · exact transact_enabled h (keepsEnabled_register keys) key
  | setEnabled other enabled => exact absurd rfl (hc other enabled)
  | raiseLow slot epoch =>
      show ((e.raiseLow slot epoch).2.database.row key).enabled = _
      unfold raiseLow
      split
      · rfl
      · exact transact_enabled h (keepsEnabled_raiseLow slot epoch) key
  | highWatermark => exact transact_enabled h reads_readHigh.keepsEnabled key
  | setHighWatermark high =>
      show ((e.setHighWatermark high).2.database.row key).enabled = _
      unfold setHighWatermark
      split
      · rfl
      · exact transact_enabled h (keepsEnabled_replaceHigh high) key
  | removeHighWatermark => exact transact_enabled h (keepsEnabled_replaceHigh .none) key
  | exportHistory filter => exact transact_enabled h (reads_readHistory filter).keepsEnabled key
  | importHistory d => exact transact_enabled h (keepsEnabled_importTo d) key
  | prune config =>
      have htwins := prune_twins (K := anyKey) h config
      exact (htwins.database.rows key trivial).enabled_eq.symm
  | pruneOne config other =>
      have htwins := transact_pruneOne_twins (K := anyKey) h config other
      exact (htwins.database.rows key trivial).enabled_eq.symm
  | lock held => rfl

theorem setEnabled_disabled (hoff : e.Disabled key) {other : SignerId} {enabled : Bool}
    (hc : Call.setEnabled other enabled ≠ .setEnabled key true) :
    (e.perform (.setEnabled other enabled)).2.Disabled key := by
  show (e.transact (Database.setEnabled other enabled)).2.Disabled key
  rcases transact_cases e (Database.setEnabled other enabled) with ⟨_, hf⟩ | ⟨_, db, hr, hok⟩
  · rw [hf]
    exact hoff
  · rw [hok]
    obtain ⟨_, rfl⟩ := Prod.mk.inj (Except.ok.inj hr)
    unfold Disabled row at hoff ⊢
    rw [find?_setEnabled]
    cases hv : e.database.find? key with
    | none =>
        rw [hv] at hoff
        exact hoff
    | some v =>
        rw [hv] at hoff
        obtain ⟨_, hkey⟩ := find?_mem hv
        show (if v.key == other then { v with enabled := enabled } else v).enabled = false
        split
        · rename_i heq
          obtain rfl : other = key := (eq_of_beq heq).symm.trans hkey
          cases enabled with
          | false => rfl
          | true => exact absurd rfl hc
        · exact hoff

theorem perform_disabled (h : e.database.Sound) (hoff : e.Disabled key)
    (hc : c ≠ .setEnabled key true) : (e.perform c).2.Disabled key := by
  by_cases hset : ∃ other enabled, c = .setEnabled other enabled
  · obtain ⟨other, enabled, rfl⟩ := hset
    exact setEnabled_disabled hoff hc
  · exact (perform_enabled h (fun other enabled heq => hset ⟨other, enabled, heq⟩) key).trans hoff

/-- A disabled validator stays disabled along every run that does not enable it. -/
theorem after_disabled (h : e.database.Sound) (hoff : e.Disabled key) {calls : List Call}
    (hcalls : ∀ c ∈ calls, c ≠ .setEnabled key true) : (e.after calls).Disabled key := by
  induction calls generalizing e with
  | nil => exact hoff
  | cons c rest ih =>
      refine ih (perform_step h c).1 (perform_disabled h hoff (hcalls c List.mem_cons_self)) ?_
      exact fun d hd => hcalls d (List.mem_cons_of_mem c hd)

theorem transact_checked_disabled (hoff : e.Disabled key) {root : Root}
    {check : HighWatermark → Validator → Protected (Decision × Validator)} {d : Decision}
    (hr : (e.transact (checked key root check)).1 = .ok d) : ∃ reason, d = .reject reason := by
  rcases transact_cases e (checked key root check) with ⟨_, hf⟩ | ⟨_, db, hbody, hok⟩
  · rw [hf] at hr
    cases hr
  · rw [hok] at hr
    obtain rfl := Except.ok.inj hr
    exact checked_disabled hoff hbody

/-- No block is accepted for a disabled validator. -/
theorem Disabled.mayBlock (hoff : e.Disabled key) {request : BlockRequest} {root : Root}
    {d : Decision} (hr : (e.mayBlock key request root).1 = .ok d) :
    ∃ reason, d = .reject reason := by
  change (e.transact (checked key root fun high v => v.signBlock high request)).1 = _ at hr
  exact transact_checked_disabled hoff hr

/-- No attestation is accepted for a disabled validator. -/
theorem Disabled.mayAttest (hoff : e.Disabled key) {request : AttestationRequest} {root : Root}
    {d : Decision} (hr : (e.mayAttest key request root).1 = .ok d) :
    ∃ reason, d = .reject reason := by
  change (e.transact (checked key root fun high v => v.signAttestation high request)).1 = _ at hr
  exact transact_checked_disabled hoff hr

/-! ## Disabling -/

theorem Shut.disabled (hoff : e.Shut key) (hknown : (e.database.find? key).isSome) :
    e.Disabled key := by
  obtain ⟨v, hv⟩ := Option.isSome_iff_exists.mp hknown
  rw [Disabled, row_eq hv]
  exact hoff v hv

/-- Disabling a validator shuts it. -/
theorem shut_setEnabled {known : Bool} (hr : (e.setEnabled key false).1 = .ok known) :
    (e.setEnabled key false).2.Shut key := by
  unfold setEnabled at hr ⊢
  rcases transact_cases e (Database.setEnabled key false) with ⟨_, hf⟩ | ⟨_, db, hbody, hok⟩
  · rw [hf] at hr
    cases hr
  · rw [hok]
    obtain ⟨_, rfl⟩ := Prod.mk.inj (Except.ok.inj hbody)
    intro v hv
    rw [find?_setEnabled] at hv
    obtain ⟨w, hw, rfl⟩ := Option.map_eq_some_iff.mp hv
    rw [if_pos (by simpa using (find?_mem hw).2)]

/-- A shut validator stays so while others are disabled. -/
theorem Shut.setEnabled (hoff : e.Shut key) (other : SignerId) :
    (e.perform (.setEnabled other false)).2.Shut key := by
  show (e.transact (Database.setEnabled other false)).2.Shut key
  rcases transact_cases e (Database.setEnabled other false) with ⟨_, hf⟩ | ⟨_, db, hbody, hok⟩
  · rw [hf]
    exact hoff
  · rw [hok]
    obtain ⟨_, rfl⟩ := Prod.mk.inj (Except.ok.inj hbody)
    intro v hv
    rw [find?_setEnabled] at hv
    obtain ⟨w, hw, rfl⟩ := Option.map_eq_some_iff.mp hv
    split
    · rfl
    · exact hoff w hw

theorem Shut.after (hoff : e.Shut key) {calls : List Call}
    (hcalls : ∀ c ∈ calls, ∃ other, c = .setEnabled other false) : (e.after calls).Shut key := by
  induction calls generalizing e with
  | nil => exact hoff
  | cons c rest ih =>
      obtain ⟨other, rfl⟩ := hcalls c List.mem_cons_self
      exact ih (hoff.setEnabled other) fun d hd => hcalls d (List.mem_cons_of_mem _ hd)

end Engine

end RemoteSigner
