import RemoteSigner.Proofs.KeyManager.Moves
import RemoteSigner.Proofs.Protection.Enabling

/-!
# History that was handed over is final

The answer to a deletion hands over the history of keys (`handedOver`), for others
to go on from. A run of `Event`s then is to produce no signature of a block or a
vote with such a key until an import takes the key in again (`Withholds`).

* `deleteKeys_disabled` — a key whose history was handed over and that was told to
  be deleted is disabled from then on;
* `next_barred`, `run_barred` — a disabled key is `Barred`, and stays so whatever
  is loaded. Imports that fail may enable a key only where the registry is closed
  and the key is not installed, so that it never will be;
* `Barred.not_signs` — no request gets a signature of a block or a vote with a
  barred key;
* `handedOver_final` — so what was handed over is final if the key was deleted.

A key that was not installed is told to be not active; it is not disabled, and once
it is loaded it signs again (`notActive_signs_again`).
-/

namespace RemoteSigner

namespace Engine

variable {e : Engine} {key : SignerId} {root : Root} {a : Artifact}

/-- Slashing protection lets no block and no vote through for a disabled
validator. -/
theorem Disabled.consult (hoff : e.Disabled key)
    (ha : a.header?.isSome = true ∨ a.vote?.isSome = true) {o : Option Decision}
    (h : (e.consult key root a).1 = .ok o) : ∃ reason, o = some (.reject reason) := by
  have hmap : ∀ {r : Protected Decision}, (∀ d, r = .ok d → ∃ reason, d = .reject reason) →
      r.map some = .ok o → ∃ reason, o = some (.reject reason) := by
    intro r hr hmapped
    cases r with
    | error fault => cases hmapped
    | ok d =>
        obtain ⟨reason, rfl⟩ := hr d rfl
        exact ⟨reason, (Except.ok.inj hmapped).symm⟩
  rcases ha with ha | ha
  · obtain ⟨x, hx⟩ := Option.isSome_iff_exists.mp ha
    obtain ⟨_, _, hconsult⟩ := consult_header e key root hx
    exact hmap (fun _ => hoff.mayBlock) (hconsult ▸ h)
  · cases a with
    | attestation fork x => exact hmap (fun _ => hoff.mayAttest) h
    | _ => exact absurd ha (by simp [Artifact.vote?])

/-- A validator whose history is handed out has a row. -/
theorem known_of_exportHistory (h : e.database.Sound) {filter : Option (List SignerId)}
    {d : Interchange} (hr : (e.exportHistory filter).1 = .ok d)
    (hkey : key ∈ d.data.map (·.key)) :
    (e.exportHistory filter).2 = e ∧ (e.database.find? key).isSome = true := by
  unfold exportHistory at hr ⊢
  rcases transact_cases e (Database.readHistory filter) with ⟨_, hf⟩ | ⟨_, db, hbody, hok⟩
  · rw [hf] at hr
    cases hr
  · rw [hok] at hr ⊢
    obtain rfl := Except.ok.inj hr
    obtain rfl := Database.reads_readHistory filter hbody
    refine ⟨rfl, ?_⟩
    obtain ⟨d', hread, hbody⟩ := bind_eq_ok.mp hbody
    obtain ⟨rfl, _⟩ := Prod.mk.inj (pure_eq_ok.mp hbody)
    cases hroot : e.database.genesisRoot? with
    | none =>
        rw [Interchange.ofDatabase_none hroot] at hread
        cases hread
    | some root =>
        rw [Interchange.ofDatabase_eq h.readable hroot] at hread
        obtain rfl := Except.ok.inj hread
        simp only [List.map_map, List.mem_map, List.mem_filter] at hkey
        obtain ⟨v, ⟨hv, _⟩, rfl⟩ := hkey
        exact Option.isSome_iff_exists.mpr ⟨v, h.find?_eq hv⟩

/-- Asking about an artifact enables no validator. -/
theorem consultCalls_ne_setEnabled {x : Call} (hx : x ∈ consultCalls key root a)
    (other : SignerId) (enabled : Bool) : x ≠ .setEnabled other enabled := by
  rintro rfl
  cases a <;> simp [consultCalls] at hx

end Engine

namespace Custody

/-! ## Runs -/

/-- Something that happens to keys in custody. -/
inductive Event where
  | importKeys (m : KeyManager) (request : ImportRequest)
  | deleteKeys (m : KeyManager) (request : DeleteRequest)
  /-- A load, of whatever the directory holds and however that decodes. -/
  | load (view : LoadView)
  | sign (net : Network) (identifier : String) (request : SigningRequest)
  /-- Files appear, change or go. -/
  | files (disk : Disk)
  /-- The registry is closed. -/
  | close
  /-- A call to slashing protection that no request makes: the validators of a load
  are registered, old records are removed. -/
  | call (x : Engine.Call)

/-- The keys after an event. -/
def next (c : Custody) : Event → Custody
  | .importKeys m request => (c.importKeys m request).2
  | .deleteKeys m request => (c.deleteKeys m request).2
  | .load view => { c with registry := (c.registry.load (some view)).2 }
  | .sign net identifier request => (c.sign net identifier request).2
  | .files disk => { c with disk := disk }
  | .close => { c with registry := c.registry.close }
  | .call x => { c with protection := c.protection.map fun e => (e.perform x).2 }

/-- The keys after several events. -/
def run : Custody → List Event → Custody
  | c, [] => c
  | c, x :: rest => (c.next x).run rest

/-- An event lets a key sign again: an import that tells that it took it in, or a
call that enables it. -/
def Reinstates (c : Custody) (key : SignerId) : Event → Prop
  | .importKeys m request => key ∈ c.importedKeys m request
  | .call x => x = .setEnabled key true
  | _ => False

/-- No event of a run lets a key sign again. -/
def Withholds (key : SignerId) : Custody → List Event → Prop
  | _, [] => True
  | c, x :: rest => ¬ c.Reinstates key x ∧ (c.next x).Withholds key rest

/-- An event produces a signature of a block or a vote with a key. -/
def Signs (c : Custody) (key : SignerId) : Event → Prop
  | .sign net identifier request =>
      SignerId.parse identifier = .ok key ∧
        (request.artifact.header?.isSome = true ∨ request.artifact.vote?.isSome = true) ∧
        ∃ s, (c.sign net identifier request).1 = .ok s
  | _ => False

variable {p : Engine.Call → Prop} {c c' : Custody} {m : KeyManager} {key : SignerId}

theorem protect_registry {α : Type} (c : Custody) (a : α) (f : Engine → Protected α × Engine) :
    (c.protect a f).2.registry = c.registry := by
  unfold protect
  split <;> rfl

theorem sign_registry (c : Custody) (net : Network) (identifier : String)
    (request : SigningRequest) : (c.sign net identifier request).2.registry = c.registry := by
  have hauthorized : (c.authorize net identifier request).2.registry = c.registry := by
    unfold authorize
    split
    · rfl
    · rename_i signer root _
      have hasked := protect_registry c none
        fun e => e.consult signer.identifier root request.artifact
      split <;> rename_i hr <;> rw [hr] at hasked <;> exact hasked
  unfold sign
  split <;> rename_i hr <;> rw [hr] at hauthorized <;> exact hauthorized

theorem sign_moves (hp : ∀ x, (∀ key, x ≠ .setEnabled key true) → p x) (net : Network)
    (identifier : String) (request : SigningRequest) :
    Moves p c (c.sign net identifier request).2 := by
  refine ⟨fun e he => ⟨_, fun x hx => hp x fun key => ?_,
    perform_protection he (.sign net identifier request)⟩, ?_⟩
  · simp only [callsOf] at hx
    split at hx
    · exact absurd hx (by simp)
    · exact Engine.consultCalls_ne_setEnabled hx key true
  · rw [sign_registry]
    exact .refl _

/-- Unless the registry is closed, an event enables the keys that it lets sign
again and no others, except for keys that a closed registry will never have. -/
theorem next_moves (hp : ∀ x, (∀ key, x ≠ .setEnabled key true) → p x) {x : Event}
    (hx : x ≠ .close)
    (hon : ∀ key, c.Reinstates key x ∨ (¬ c.snapshot.Has key ∧ c.registry.isClosed = true) →
      p (.setEnabled key true)) : Moves p c (c.next x) := by
  cases x with
  | importKeys m request =>
      refine importKeys_moves (fun _ => hp _ (by simp)) (fun _ => hp _ (by simp)) ?_
      exact fun key h => hon key h.symm
  | deleteKeys m request =>
      exact deleteKeys_moves (fun _ => hp _ (by simp)) (fun _ => hp _ (by simp)) c request
  | load view => exact (Moves.refl c).withRegistry (Registry.load_follows _ _)
  | sign net identifier request => exact sign_moves hp net identifier request
  | files disk => exact (Moves.refl c).withDisk disk
  | close => exact absurd rfl hx
  | call x =>
      refine ⟨fun e he => ⟨[x], ?_, ?_⟩, .refl _⟩
      · intro y hy
        obtain rfl := List.mem_singleton.mp hy
        by_cases henables : ∃ key, y = .setEnabled key true
        · obtain ⟨key, rfl⟩ := henables
          exact hon key (.inl rfl)
        · exact hp y fun key heq => henables ⟨key, heq⟩
      · show c.protection.map _ = _
        rw [he]
        rfl

/-! ## Barred keys -/

/-- Slashing protection is there, and sound. -/
def Guarded (c : Custody) : Prop :=
  ∃ e, c.protection = some e ∧ e.database.Sound

/-- A key is disabled. -/
def Disabled (c : Custody) (key : SignerId) : Prop :=
  ∃ e, c.protection = some e ∧ e.Disabled key

/-- A key will not sign blocks or votes: it is disabled, or will never be
installed. -/
structure Barred (c : Custody) (key : SignerId) : Prop where
  guarded : c.Guarded
  unusable : c.Disabled key ∨ (¬ c.snapshot.Has key ∧ c.registry.isClosed = true)

theorem Moves.guarded (hm : Moves p c c') (h : c.Guarded) : c'.Guarded := by
  obtain ⟨e, he, hsound⟩ := h
  obtain ⟨calls, _, he'⟩ := hm.calls e he
  exact ⟨_, he', (Engine.after_step hsound calls).1⟩

theorem Moves.disabled (hm : Moves (· ≠ .setEnabled key true) c c') (h : c.Guarded)
    (hoff : c.Disabled key) : c'.Disabled key := by
  obtain ⟨e, he, hsound⟩ := h
  obtain ⟨e₁, he₁, hoff⟩ := hoff
  obtain rfl := Option.some.inj (he.symm.trans he₁)
  obtain ⟨calls, hcalls, he'⟩ := hm.calls e he
  exact ⟨_, he', Engine.after_disabled hsound hoff hcalls⟩

theorem next_guarded (h : c.Guarded) (x : Event) : (c.next x).Guarded := by
  by_cases hx : x = .close
  · subst hx
    exact h
  · have hmoves : Moves (fun _ => True) c (c.next x) :=
      next_moves (fun _ _ => trivial) hx fun _ _ => trivial
    exact hmoves.guarded h

theorem run_guarded (h : c.Guarded) (xs : List Event) : (c.run xs).Guarded := by
  induction xs generalizing c with
  | nil => exact h
  | cons x rest ih => exact ih (next_guarded h x)

/-- An event that does not let a barred key sign again leaves it barred. -/
theorem next_barred (h : c.Barred key) {x : Event} (hx : ¬ c.Reinstates key x) :
    (c.next x).Barred key := by
  refine ⟨next_guarded h.guarded x, ?_⟩
  by_cases hclose : x = .close
  · subst hclose
    exact h.unusable.imp_right fun hgone => ⟨hgone.1, rfl⟩
  by_cases hgone : ¬ c.snapshot.Has key ∧ c.registry.isClosed = true
  · -- a closed registry stays as it is
    have hmoves : Moves (fun _ => True) c (c.next x) :=
      next_moves (fun _ _ => trivial) hclose fun _ _ => trivial
    have hsame : (c.next x).registry = c.registry := hmoves.registry.frozen hgone.2
    refine .inr ?_
    unfold snapshot at hgone ⊢
    rw [hsame]
    exact hgone
  · refine .inl (Moves.disabled ?_ h.guarded (h.unusable.resolve_right hgone))
    refine next_moves (fun y hy => hy key) hclose fun other hother heq => ?_
    obtain rfl : other = key := (Engine.Call.setEnabled.inj heq).1
    exact hother.elim hx hgone

theorem run_barred (h : c.Barred key) {xs : List Event} (hxs : c.Withholds key xs) :
    (c.run xs).Barred key := by
  induction xs generalizing c with
  | nil => exact h
  | cons x rest ih => exact ih (next_barred h hxs.1) hxs.2

/-- A request for a key resolves to the signer that is installed for it. -/
theorem resolve_signer {net : Network} {identifier : String} {request : SigningRequest}
    {signer : Signer} {root : Root} (hid : SignerId.parse identifier = .ok key)
    (h : c.resolve net identifier request = .ok (signer, root)) :
    c.snapshot.find? key = some signer := by
  obtain ⟨id, hid', h⟩ := bind_eq_ok.mp h
  obtain ⟨_, _, h⟩ := bind_eq_ok.mp h
  obtain rfl : key = id := Except.ok.inj (hid.symm.trans (mapError_ok hid'))
  split at h
  · exact absurd h (by simp)
  · split at h
    · exact absurd h (by simp)
    · rename_i hfound
      obtain ⟨rfl, _⟩ := Prod.mk.inj (Except.ok.inj h)
      exact hfound

/-- No block and no vote is signed with a barred key. -/
theorem Barred.not_signs (h : c.Barred key) (x : Event) : ¬ c.Signs key x := by
  cases x with
  | sign net identifier request =>
      rintro ⟨hid, hcovered, s, hs⟩
      obtain ⟨signer, root, hasked, _⟩ := sign_signature hs
      obtain ⟨e, he, hsound⟩ := h.guarded
      obtain ⟨hresolve, o, hconsult, hpass⟩ := authorize_ok he (ok_of_toOption hasked)
      have hfound := resolve_signer hid hresolve
      obtain rfl : signer.identifier = key := by simpa using List.find?_some hfound
      rcases h.unusable with ⟨e₁, he₁, hoff⟩ | ⟨hnew, _⟩
      · obtain rfl := Option.some.inj (he.symm.trans he₁)
        obtain ⟨reason, ho⟩ := hoff.consult hcovered hconsult
        exact hpass reason ho
      · exact hnew (Snapshot.find?_isSome.mp (by rw [hfound]; rfl))
  | _ => exact id

/-! ## Handing over -/

/-- The history that a deletion hands over. -/
def handedOver (c : Custody) (m : KeyManager) (request : DeleteRequest) : Option Interchange :=
  let (steps, c) := deleteEach m request.publicKeys c
  c.protection.bind fun e =>
    (e.exportHistory (some (steps.filterMap (·.handedOver?)))).1.toOption

/-- A deletion hands over the history of a key and tells what became of it. -/
structure HandsOver (c : Custody) (m : KeyManager) (request : DeleteRequest) (key : SignerId)
    (outcome : DeleteOutcome) : Prop where
  listed : ∃ d, c.handedOver m request = some d ∧ key ∈ d.data.map (·.key)
  told : ∃ entry, SignerId.parse entry = .ok key ∧
    (entry, outcome) ∈ request.publicKeys.zip (c.deleteKeys m request).1.data

variable {e : Engine} {request : DeleteRequest}

/-- The answer to a deletion is written out from what it hands over. -/
theorem deleteKeys_history (c : Custody) (m : KeyManager) (request : DeleteRequest) :
    (c.deleteKeys m request).1.history = (c.handedOver m request).map Interchange.toText := by
  unfold deleteKeys handedOver
  generalize deleteEach m request.publicKeys c = r
  obtain ⟨steps, c₁⟩ := r
  cases he : c₁.protection with
  | none => simp [he]
  | some e =>
      simp only [he, Option.bind_some]
      split <;> rename_i hr <;> rw [hr] <;> rfl

/-- What a deletion tells where it hands history over. -/
theorem deleteKeys_data {d : Interchange} (h : c.handedOver m request = some d) :
    (c.deleteKeys m request).1.data = (deleteEach m request.publicKeys c).1.map
      (·.toOutcome fun key => d.data.any (·.key == key)) := by
  unfold handedOver at h
  unfold deleteKeys
  generalize deleteEach m request.publicKeys c = r at h ⊢
  obtain ⟨steps, c₁⟩ := r
  obtain ⟨e, he, hd⟩ := Option.bind_eq_some_iff.mp h
  simp only [he, ok_of_toOption hd]

theorem deleteOne_shut (he : c.protection = some e) (h : (c.deleteOne m key).1 = .ok ()) :
    ∃ e', (c.deleteOne m key).2.protection = some e' ∧ e'.Shut key := by
  unfold deleteOne at h ⊢
  generalize c.registry.removeSigner key = r at h ⊢
  obtain ⟨result, registry⟩ := r
  cases result with
  | error fault => cases h
  | ok found =>
      have hshut : ∀ known, (e.setEnabled key false).1 = .ok known →
          (e.setEnabled key false).2.Shut key := fun _ => Engine.shut_setEnabled
      simp only [protect, he] at h ⊢
      generalize e.setEnabled key false = r at hshut h ⊢
      obtain ⟨result, e'⟩ := r
      cases result with
      | error fault => cases h
      | ok known =>
          refine ⟨e', ?_, hshut known rfl⟩
          simp only
          split <;> rfl

theorem deleteEntry_shut (he : c.protection = some e) {entry : String}
    (h : (c.deleteEntry m entry).1 = .deleted key) : SignerId.parse entry = .ok key ∧
      ∃ e', (c.deleteEntry m entry).2.protection = some e' ∧ e'.Shut key := by
  unfold deleteEntry at h ⊢
  cases hid : SignerId.parse entry with
  | error fault =>
      rw [hid] at h
      cases h
  | ok id =>
      have hshut : (c.deleteOne m id).1 = .ok () →
          ∃ e', (c.deleteOne m id).2.protection = some e' ∧ e'.Shut id := deleteOne_shut he
      simp only [hid] at h ⊢
      split at h
      · cases h
      · rename_i hinstalled
        rw [if_neg hinstalled]
        generalize c.deleteOne m id = r at hshut h ⊢
        obtain ⟨result, c₁⟩ := r
        cases result with
        | error fault => cases h
        | ok _ =>
            obtain rfl := DeleteStep.deleted.inj h
            exact ⟨rfl, hshut rfl⟩

/-- A key that was deleted is shut, also after the entries that follow. -/
theorem deleteEach_shut (he : c.protection = some e) {entries : List String} {entry : String}
    (h : (entry, DeleteStep.deleted key) ∈ entries.zip (deleteEach m entries c).1) :
    SignerId.parse entry = .ok key ∧
      ∃ e', (deleteEach m entries c).2.protection = some e' ∧ e'.Shut key := by
  induction entries generalizing c e with
  | nil => exact absurd h (by simp)
  | cons first rest ih =>
      have hstep : deleteEach m (first :: rest) c =
          ((c.deleteEntry m first).1 :: (deleteEach m rest (c.deleteEntry m first).2).1,
            (deleteEach m rest (c.deleteEntry m first).2).2) := rfl
      rw [hstep] at h ⊢
      let p : Engine.Call → Prop := fun x => ∃ other, x = .setEnabled other false
      have hoff : ∀ other, p (.setEnabled other false) := fun other => ⟨other, rfl⟩
      rcases List.mem_cons.mp h with h | h
      · obtain ⟨rfl, hfirst⟩ := Prod.mk.inj h
        obtain ⟨hid, e₁, he₁, hshut⟩ := deleteEntry_shut he hfirst.symm
        obtain ⟨calls, hcalls, he'⟩ :=
          (deleteEach_moves (m := m) hoff rest (c.deleteEntry m entry).2).calls e₁ he₁
        exact ⟨hid, _, he', hshut.after hcalls⟩
      · obtain ⟨calls, _, he₁⟩ := (deleteEntry_moves (m := m) hoff c first).calls e he
        exact ih he₁ h

/-- Handing over history leaves slashing protection as it was, and each key whose
history is handed over has a row there. -/
theorem handedOver_known (hg : c.Guarded) {d : Interchange}
    (h : c.handedOver m request = some d) (hkey : key ∈ d.data.map (·.key)) :
    (c.deleteKeys m request).2.protection = (deleteEach m request.publicKeys c).2.protection ∧
      ∀ e, (deleteEach m request.publicKeys c).2.protection = some e →
        (e.database.find? key).isSome = true := by
  have hguarded := (deleteEach_moves (p := fun _ => True) (m := m) (fun _ => trivial)
    request.publicKeys c).guarded hg
  unfold handedOver at h
  rw [deleteKeys_left]
  generalize deleteEach m request.publicKeys c = r at h hguarded ⊢
  obtain ⟨steps, registry, protection, disk⟩ := r
  obtain ⟨e, rfl, hsound⟩ := hguarded
  obtain ⟨hsame, hknown⟩ := Engine.known_of_exportHistory hsound (ok_of_toOption h) hkey
  refine ⟨congrArg some hsame, fun e' he' => ?_⟩
  obtain rfl := Option.some.inj he'
  exact hknown

/-- A key whose history was handed over and that was told to be deleted is
disabled. -/
theorem deleteKeys_disabled (hg : c.Guarded) (h : c.HandsOver m request key .deleted) :
    (c.deleteKeys m request).2.Disabled key := by
  obtain ⟨d, hd, hkey⟩ := h.listed
  obtain ⟨entry, hid, htold⟩ := h.told
  obtain ⟨e, he, _⟩ := hg
  obtain ⟨hprotection, hknown⟩ := handedOver_known ⟨e, he, ‹_›⟩ hd hkey
  rw [deleteKeys_data hd, List.zip_map_right] at htold
  obtain ⟨⟨entry', step⟩, hstep, heq⟩ := List.mem_map.mp htold
  obtain ⟨rfl, houtcome⟩ := Prod.mk.inj heq
  obtain ⟨key', rfl⟩ : ∃ key', step = .deleted key' := by
    cases step with
    | deleted key' => exact ⟨key', rfl⟩
    | failed detail => cases houtcome
    | absent key' =>
        simp only [DeleteStep.toOutcome] at houtcome
        split at houtcome <;> cases houtcome
  obtain ⟨hid', e', he', hshut⟩ := deleteEach_shut he hstep
  obtain rfl : key = key' := Except.ok.inj (hid.symm.trans hid')
  exact ⟨e', hprotection.trans he', hshut.disabled (hknown e' he')⟩

/-- History that was handed over is final. In any run of imports, deletions, loads
and signing requests, which may start with any keys and files, let a deletion hand
over the history of a key and tell that it deleted the key, or that the key was not
active, where slashing protection has it disabled. From then on no block and no
vote is signed with the key until an import tells that it took the key in. -/
theorem handedOver_final (registry : Registry) (maxAttempts : Nat) (disk : Disk)
    (before : List Event) (m : KeyManager) (request : DeleteRequest) (key : SignerId)
    (outcome : DeleteOutcome) (later : List Event) :
    let c := run ⟨registry, some (Engine.fresh maxAttempts), disk⟩ before
    let left := (c.deleteKeys m request).2
    c.HandsOver m request key outcome →
    (outcome = .deleted ∨ outcome = .notActive ∧ left.Disabled key) →
    left.Withholds key later →
    ∀ x, ¬ (left.run later).Signs key x := by
  intro c left hgiven hcase hlater x
  have hguarded : c.Guarded := run_guarded ⟨_, rfl, Database.sound_empty⟩ before
  have hdisabled : left.Disabled key := by
    rcases hcase with rfl | ⟨_, hdisabled⟩
    · exact deleteKeys_disabled hguarded hgiven
    · exact hdisabled
  have hbarred : left.Barred key := ⟨next_guarded hguarded (.deleteKeys m request), .inl hdisabled⟩
  exact (run_barred hbarred hlater).not_signs x

/-! ## A key that comes back -/

/-- The key. -/
def comingKey : SignerId :=
  ⟨[1]⟩

/-- A load of a directory with its description, last changed at a time. -/
def comingBack (modified : Nat) : Event :=
  .load ⟨.of "keys", .ok [⟨"a", modified⟩],
    fun _ => .done (.ok ⟨comingKey, .bls, fun _ => .ok ⟨[]⟩⟩), none, id⟩

/-- A check of a block of the key, which leaves history. -/
def earlierBlock : Event :=
  .call (.block comingKey ⟨5, .zero 32⟩ (.zero 32))

/-- A request for another block of the key. -/
def laterBlock : Event :=
  .sign ⟨.zero 4, 8, by decide⟩ "01"
    ⟨none, .block ⟨⟨.zero 4, .zero 4, 0⟩, .zero 32⟩ ⟨7, 0, .zero 32, .zero 32, .zero 32⟩⟩

/-- A key manager for a directory without files. -/
def emptyManager : KeyManager :=
  ⟨.standard, .sound, "/"⟩

/-- No keys and no files, and slashing protection without history. -/
def atFirst : Custody :=
  ⟨.empty, some (Engine.fresh 1), .empty⟩

theorem parse_comingKey : SignerId.parse "01" = .ok comingKey := rfl

/-- A deleted key that a load finds again is installed, but signs no block. -/
theorem deletedKey_final :
    let c := atFirst.run [comingBack 1, earlierBlock]
    let left := (c.deleteKeys emptyManager ⟨["01"]⟩).2
    c.HandsOver emptyManager ⟨["01"]⟩ comingKey .deleted ∧
      (left.run [comingBack 2]).snapshot.Has comingKey ∧
      ¬ (left.run [comingBack 2]).Signs comingKey laterBlock := by
  intro c left
  have hsteps : (deleteEach emptyManager ["01"] c).1 = [.deleted comingKey] := by
    simp only [deleteEach, deleteEntry, parse_comingKey]
    decide +kernel
  have hlisted : (c.handedOver emptyManager ⟨["01"]⟩).map (·.data.map (·.key)) =
      some [comingKey] := by
    simp only [handedOver, deleteEach, deleteEntry, parse_comingKey]
    decide +kernel
  have hback : ((left.run [comingBack 2]).snapshot.find? comingKey).isSome = true := by
    simp only [left, deleteKeys_left, deleteEach, deleteEntry, parse_comingKey]
    decide +kernel
  obtain ⟨d, hd, hkeys⟩ := Option.map_eq_some_iff.mp hlisted
  have hgiven : c.HandsOver emptyManager ⟨["01"]⟩ comingKey .deleted := by
    refine ⟨⟨d, hd, hkeys ▸ List.mem_singleton_self _⟩, "01", parse_comingKey, ?_⟩
    rw [deleteKeys_data hd, hsteps]
    exact List.mem_singleton_self _
  exact ⟨hgiven, Snapshot.find?_isSome.mp hback,
    handedOver_final .empty 1 .empty [comingBack 1, earlierBlock] emptyManager ⟨["01"]⟩ comingKey
      .deleted [comingBack 2] hgiven (.inl rfl) ⟨id, trivial⟩ laterBlock⟩

/-- A key that was not installed when its history was handed over signs a block
once a load finds it. -/
theorem notActive_signs_again :
    let c := atFirst.run [earlierBlock]
    let left := (c.deleteKeys emptyManager ⟨["01"]⟩).2
    c.HandsOver emptyManager ⟨["01"]⟩ comingKey .notActive ∧
      left.Withholds comingKey [comingBack 1] ∧
      (left.run [comingBack 1]).Signs comingKey laterBlock := by
  intro c left
  have hsteps : (deleteEach emptyManager ["01"] c).1 = [.absent comingKey] := by
    simp only [deleteEach, deleteEntry, parse_comingKey]
    decide +kernel
  have hlisted : (c.handedOver emptyManager ⟨["01"]⟩).map (·.data.map (·.key)) =
      some [comingKey] := by
    simp only [handedOver, deleteEach, deleteEntry, parse_comingKey]
    decide +kernel
  have hsigns : (left.run [comingBack 1]).Signs comingKey laterBlock := by
    refine ⟨parse_comingKey, .inl rfl, ⟨[]⟩, ?_⟩
    simp only [left, deleteKeys_left, deleteEach, deleteEntry, parse_comingKey]
    decide +kernel
  obtain ⟨d, hd, hkeys⟩ := Option.map_eq_some_iff.mp hlisted
  refine ⟨⟨⟨d, hd, hkeys ▸ List.mem_singleton_self _⟩, "01", parse_comingKey, ?_⟩, ⟨id, trivial⟩,
    hsigns⟩
  have hany : d.data.any (·.key == comingKey) = true := by
    have hmapped : (d.data.map (·.key)).any (· == comingKey) = true := by
      rw [hkeys]
      rfl
    rwa [List.any_map] at hmapped
  rw [deleteKeys_data hd, hsteps]
  simp only [List.map_cons, List.map_nil, DeleteStep.toOutcome, hany, if_true]
  exact List.mem_singleton_self _

end Custody

end RemoteSigner
