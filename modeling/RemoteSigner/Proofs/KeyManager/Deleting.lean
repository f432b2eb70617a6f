import RemoteSigner.Proofs.KeyManager.Deleted
import RemoteSigner.Proofs.KeyManager.Handover
import RemoteSigner.Proofs.Protection.Confinement

/-!
# What a deletion tells, and what it did

A deletion goes through the entries of its request in order. Custody after the first of them
is `deleting`, and each entry ends as a `Removal` from there (`deleting_step`): malformed, of a
key that is not installed, deleted, or failed.

Entries only disable validators of slashing protection, which no history tells of
(`Engine.after_history`), so the history that is handed over in the end is that of the database
before, for the keys that are gone (`handedOver_rows`). With it, what is told of an entry is
decided by its key, by whether that was installed, and by what is handed over
(`EntryAccount`, `delete_accounts`).
-/

namespace RemoteSigner

namespace DeleteOutcome

/-- An entry's key is gone: it was deleted, or was not installed. -/
def isGone : DeleteOutcome → Bool
  | .failed _ => false
  | _ => true

end DeleteOutcome

namespace Database

variable {db : Database}

/-- Whether a validator is enabled is not part of its history. -/
theorem history_setEnabled (key : SignerId) (enabled : Bool) (db : Database) :
    ∃ g : Validator → Validator,
      (∀ v, (g v).key = v.key ∧ History.ofValidator (g v) = History.ofValidator v) ∧
      ((setEnabled key enabled).leaves db).validators = db.validators.map g := by
  refine ⟨fun v => if v.key == key then { v with enabled := enabled } else v, fun v => ?_, rfl⟩
  dsimp only
  split <;> exact ⟨rfl, rfl⟩

end Database

namespace Engine

variable {e : Engine}

theorem after_history {calls : List Call}
    (hcalls : ∀ x ∈ calls, ∃ key, x = .setEnabled key false) (e : Engine) :
    ∃ g : Validator → Validator,
      (∀ v, (g v).key = v.key ∧ History.ofValidator (g v) = History.ofValidator v) ∧
      (e.after calls).database.validators = e.database.validators.map g := by
  induction calls generalizing e with
  | nil => exact ⟨id, fun _ => ⟨rfl, rfl⟩, by simp [after]⟩
  | cons x rest ih =>
      obtain ⟨key, rfl⟩ := hcalls x List.mem_cons_self
      obtain ⟨g, hg, hrest⟩ := ih (fun y hy => hcalls y (List.mem_cons_of_mem _ hy))
        (e.perform (.setEnabled key false)).2
      have hone : ∃ f : Validator → Validator,
          (∀ v, (f v).key = v.key ∧ History.ofValidator (f v) = History.ofValidator v) ∧
          (e.perform (.setEnabled key false)).2.database.validators =
            e.database.validators.map f := by
        show ∃ f, _ ∧ (e.transact (Database.setEnabled key false)).2.database.validators = _
        rw [transact_leaves]
        split
        · exact ⟨id, fun _ => ⟨rfl, rfl⟩, by simp⟩
        · exact Database.history_setEnabled key false e.database
      obtain ⟨f, hf, hfirst⟩ := hone
      refine ⟨g ∘ f, fun v => ⟨(hg _).1.trans (hf v).1, (hg _).2.trans (hf v).2⟩, ?_⟩
      show ((e.perform _).2.after rest).database.validators = _
      rw [hrest, hfirst, List.map_map]

/-- History that is handed out is that of the rows of the keys that were asked for. -/
theorem rows_of_exportHistory {keys : List SignerId} {d : Interchange}
    (h : (e.exportHistory (some keys)).1 = .ok d) :
    (e.database.validators.filter fun v => keys.contains v.key).mapM History.ofValidator =
      .ok d.data := by
  obtain ⟨_, db, hbody⟩ := transact_ok_iff.mp h
  obtain ⟨d', hread, hbody⟩ := bind_eq_ok.mp hbody
  obtain ⟨rfl, _⟩ := Prod.mk.inj (pure_eq_ok.mp hbody)
  unfold Interchange.ofDatabase at hread
  split at hread
  · cases hread
  · obtain ⟨data, hdata, hread⟩ := bind_eq_ok.mp hread
    obtain rfl := pure_eq_ok.mp hread
    exact hdata

end Engine

namespace Custody

variable {c c' : Custody} {m : KeyManager} {request : DeleteRequest} {entries : List String}
  {entry : String} {key : SignerId} {n : Nat} {step : DeleteStep}

/-! ## One entry -/

/-- How giving up the key that an entry names ends. -/
inductive Removal (c : Custody) (m : KeyManager) (entry : String) : DeleteStep × Custody → Prop
  | malformed {fault : CoreError} (hentry : SignerId.parse entry = .error fault) :
      Removal c m entry (.failed fault.message, c)
  | absent {key : SignerId} (hentry : SignerId.parse entry = .ok key)
      (habsent : ¬ c.snapshot.Has key) : Removal c m entry (.absent key, c)
  | deleted {key : SignerId} {c' : Custody} (hentry : SignerId.parse entry = .ok key)
      (hinstalled : c.snapshot.Has key) (hone : c.deleteOne m key = (.ok (), c')) :
      Removal c m entry (.deleted key, c')
  | failed {key : SignerId} {fault : SigningError} {c' : Custody}
      (hentry : SignerId.parse entry = .ok key) (hinstalled : c.snapshot.Has key)
      (hone : c.deleteOne m key = (.error fault, c')) :
      Removal c m entry (.failed ("error deleting key: " ++ fault.message), c')

theorem deleteEntry_removal (c : Custody) (m : KeyManager) (entry : String) :
    Removal c m entry (c.deleteEntry m entry) := by
  unfold deleteEntry
  cases hentry : SignerId.parse entry with
  | error fault => exact .malformed hentry
  | ok key =>
      simp only
      split
      · rename_i hnone
        refine .absent hentry fun hhas => ?_
        rw [← Snapshot.find?_isSome, ← Option.not_isNone, hnone] at hhas
        cases hhas
      · rename_i hsome
        have hinstalled : c.snapshot.Has key := by
          rw [← Snapshot.find?_isSome, ← Option.not_isNone]
          simp [hsome]
        cases hone : c.deleteOne m key with
        | mk result c' =>
            cases result with
            | ok _ => exact .deleted hentry hinstalled hone
            | error fault => exact .failed hentry hinstalled hone

/-- Taking a key out of the registry leaves the others installed. -/
theorem has_removeSigner {r : Registry} {other : SignerId} (hne : key ≠ other)
    (h : r.snapshot.Has key) : (r.removeSigner other).2.snapshot.Has key := by
  cases hclosed : r.isClosed with
  | true => simpa [Registry.removeSigner, Registry.change, hclosed] using h
  | false =>
      have hleft : (r.snapshot.remove other).2.Has key := Snapshot.has_remove.mpr ⟨h, hne⟩
      simp only [Registry.removeSigner, Registry.change, hclosed]
      generalize r.snapshot.remove other = outcome at hleft ⊢
      obtain ⟨found, s⟩ := outcome
      cases found with
      | true => exact hleft
      | false => exact h

theorem deleteOne_registry (c : Custody) (m : KeyManager) (key : SignerId) :
    (c.deleteOne m key).2.registry = (c.registry.removeSigner key).2 := by
  unfold deleteOne
  generalize c.registry.removeSigner key = r
  obtain ⟨result, registry⟩ := r
  cases result with
  | error fault => rfl
  | ok found =>
      have hframe := (protect_frame { c with registry := registry } true
        fun e => e.setEnabled key false).1
      simp only
      generalize Custody.protect _ true _ = r at hframe ⊢
      obtain ⟨result, c₁⟩ := r
      cases result with
      | error fault => exact hframe
      | ok known =>
          simp only
          split <;> exact hframe

theorem deleteOne_unprotected (h : c.protection = none) (key : SignerId) :
    (c.deleteOne m key).2.protection = none := by
  unfold deleteOne protect
  generalize c.registry.removeSigner key = r
  obtain ⟨result, registry⟩ := r
  cases result with
  | error fault => exact h
  | ok found =>
      simp only [h]
      split <;> rfl

/-- An entry leaves custody as it was, or as giving up its key leaves it. -/
theorem Removal.left {outcome : DeleteStep × Custody} (h : Removal c m entry outcome) :
    outcome.2 = c ∨
      ∃ key, SignerId.parse entry = .ok key ∧ outcome.2 = (c.deleteOne m key).2 := by
  cases h with
  | malformed _ => exact .inl rfl
  | absent _ _ => exact .inl rfl
  | @deleted key _ hentry _ hone => exact .inr ⟨key, hentry, by rw [hone]⟩
  | @failed key _ _ hentry _ hone => exact .inr ⟨key, hentry, by rw [hone]⟩

/-- A key that an entry does not name stays installed. -/
theorem Removal.installed {outcome : DeleteStep × Custody} (h : Removal c m entry outcome)
    (hother : SignerId.parse entry ≠ .ok key) (hinstalled : c.snapshot.Has key) :
    outcome.2.snapshot.Has key := by
  rcases h.left with hsame | ⟨named, hentry, hleft⟩
  · rwa [hsame]
  · have hne : key ≠ named := fun heq => hother (heq ▸ hentry)
    have hkept := has_removeSigner hne hinstalled
    rw [← deleteOne_registry c m named] at hkept
    rw [hleft]
    exact hkept

/-! ## One after another -/

/-- Custody after the first entries of a deletion were gone through. -/
def deleting (c : Custody) (m : KeyManager) (entries : List String) (n : Nat) : Custody :=
  (deleteEach m (entries.take n) c).2

theorem deleteEach_length (m : KeyManager) (entries : List String) (c : Custody) :
    (deleteEach m entries c).1.length = entries.length := by
  induction entries generalizing c with
  | nil => rfl
  | cons first rest ih => exact congrArg (· + 1) (ih (c.deleteEntry m first).2)

/-- Each entry ends as a removal from where those before it have led. -/
theorem deleting_step (hentry : entries[n]? = some entry)
    (hstep : (deleteEach m entries c).1[n]? = some step) :
    Removal (c.deleting m entries n) m entry (step, c.deleting m entries (n + 1)) := by
  unfold deleting
  induction entries generalizing c n with
  | nil => cases hentry
  | cons first rest ih =>
      cases n with
      | zero =>
          obtain rfl := Option.some.inj hentry
          obtain rfl := Option.some.inj hstep
          exact deleteEntry_removal c m first
      | succ n => exact ih hentry hstep

theorem deleteEach_unprotected (h : c.protection = none) (entries : List String) :
    (deleteEach m entries c).2.protection = none := by
  induction entries generalizing c with
  | nil => exact h
  | cons first rest ih =>
      have hfirst : (c.deleteEntry m first).2.protection = none := by
        rcases (deleteEntry_removal c m first).left with hsame | ⟨key, _, hleft⟩
        · rwa [hsame]
        · rw [hleft]
          exact deleteOne_unprotected h key
      exact ih hfirst

/-- A key that no entry names stays installed. -/
theorem deleteEach_installed (hothers : ∀ entry ∈ entries, SignerId.parse entry ≠ .ok key)
    (hinstalled : c.snapshot.Has key) : (deleteEach m entries c).2.snapshot.Has key := by
  induction entries generalizing c with
  | nil => exact hinstalled
  | cons first rest ih =>
      obtain ⟨hfirst, hrest⟩ := List.forall_mem_cons.mp hothers
      exact ih hrest ((deleteEntry_removal c m first).installed hfirst hinstalled)

/-- The keys that a deletion tells are gone. -/
def goneKeys (entries : List String) (outcomes : List DeleteOutcome) : List SignerId :=
  ((entries.zip outcomes).filter (·.2.isGone)).filterMap fun x => (SignerId.parse x.1).toOption

/-- History is handed over of the keys that are gone. -/
theorem handedOver_gone (hasHistory : SignerId → Bool) (m : KeyManager) (entries : List String)
    (c : Custody) : (deleteEach m entries c).1.filterMap (·.handedOver?) =
      goneKeys entries ((deleteEach m entries c).1.map (·.toOutcome hasHistory)) := by
  induction entries generalizing c with
  | nil => rfl
  | cons first rest ih =>
      have hone := deleteEntry_removal c m first
      have hrest := ih (c.deleteEntry m first).2
      show ((c.deleteEntry m first).1 :: (deleteEach m rest (c.deleteEntry m first).2).1).filterMap
          (·.handedOver?) = goneKeys (first :: rest)
        (((c.deleteEntry m first).1 :: (deleteEach m rest (c.deleteEntry m first).2).1).map
          (·.toOutcome hasHistory))
      generalize c.deleteEntry m first = r at hone hrest ⊢
      obtain ⟨step, c'⟩ := r
      unfold goneKeys at hrest ⊢
      rw [List.map_cons, List.zip_cons_cons, List.filterMap_cons, hrest, List.filter_cons]
      cases hone with
      | malformed _ => rfl
      | failed _ _ _ => rfl
      | deleted hentry _ _ =>
          simp [DeleteStep.handedOver?, DeleteStep.toOutcome, DeleteOutcome.isGone, hentry,
            Except.toOption]
      | absent hentry _ =>
          simp only [DeleteStep.handedOver?, DeleteStep.toOutcome]
          split <;> simp [DeleteOutcome.isGone, hentry, Except.toOption]

/-! ## A request -/

/-- History that is handed over is that of the keys that are told to be gone, as it was before
the deletion. -/
theorem handedOver_rows {d : Interchange} (h : c.handedOver m request = some d) :
    ∃ e, c.protection = some e ∧
      (e.database.validators.filter fun v =>
        (goneKeys request.publicKeys (c.deleteKeys m request).1.data).contains v.key).mapM
          History.ofValidator = .ok d.data := by
  have hmoves : Moves (fun x => ∃ key, x = .setEnabled key false) c
      (deleteEach m request.publicKeys c).2 :=
    deleteEach_moves (fun key => ⟨key, rfl⟩) request.publicKeys c
  have hunprotected := fun h => deleteEach_unprotected (m := m) (c := c) h request.publicKeys
  rw [deleteKeys_data h, ← handedOver_gone]
  unfold handedOver at h
  generalize deleteEach m request.publicKeys c = r at h hmoves hunprotected ⊢
  obtain ⟨steps, c₁⟩ := r
  obtain ⟨e₁, he₁, hexport⟩ := Option.bind_eq_some_iff.mp h
  cases he : c.protection with
  | none => exact absurd (he₁.symm.trans (hunprotected he)) (by simp)
  | some e =>
      obtain ⟨calls, hcalls, hafter⟩ := hmoves.calls e he
      obtain rfl := Option.some.inj (he₁.symm.trans hafter)
      -- entries only disable validators: rows are mapped by `g`, which keeps keys and history
      obtain ⟨g, hg, hrows⟩ := Engine.after_history hcalls e
      have hdata := Engine.rows_of_exportHistory (ok_of_toOption hexport)
      rw [hrows, List.filter_map, List.mapM_map] at hdata
      refine ⟨e, rfl, ?_⟩
      have hkeys : (fun v : Validator =>
          (steps.filterMap (·.handedOver?)).contains v.key) ∘ g =
          fun v => (steps.filterMap (·.handedOver?)).contains v.key :=
        funext fun v => congrArg _ (hg v).1
      have hhistory : History.ofValidator ∘ g = History.ofValidator := funext fun v => (hg v).2
      rwa [hkeys, hhistory] at hdata

/-- An outcome is told of each entry, also where no history is handed over. -/
theorem deleteKeys_length (c : Custody) (m : KeyManager) (request : DeleteRequest) :
    (c.deleteKeys m request).1.data.length = request.publicKeys.length := by
  have hlength := deleteEach_length m request.publicKeys c
  unfold deleteKeys
  generalize deleteEach m request.publicKeys c = r at hlength ⊢
  obtain ⟨steps, c₁⟩ := r
  simp only
  split
  · simpa using hlength
  · split <;> simpa using hlength

/-- What is told of an entry is how it ended, in the light of what is handed over. -/
theorem deleting_told {d : Interchange} (h : c.handedOver m request = some d)
    (hentry : request.publicKeys[n]? = some entry) :
    ∃ step, Removal (c.deleting m request.publicKeys n) m entry
        (step, c.deleting m request.publicKeys (n + 1)) ∧
      (c.deleteKeys m request).1.data[n]? =
        some (step.toOutcome fun key => d.data.any (·.key == key)) := by
  have hlt : n < (deleteEach m request.publicKeys c).1.length := by
    rw [deleteEach_length]
    exact (List.getElem?_eq_some_iff.mp hentry).1
  have hstep := List.getElem?_eq_getElem hlt
  refine ⟨_, deleting_step hentry hstep, ?_⟩
  rw [deleteKeys_data h, List.getElem?_map, hstep]
  rfl

/-- The account that a deletion gives of an entry, with the history that it hands over: the
key of the entry, and whether it was installed when the entry's turn came. -/
structure EntryAccount (before : Custody) (d : Interchange) (entry : String)
    (outcome : DeleteOutcome) : Prop where
  deleted : outcome = .deleted → ∃ key, SignerId.parse entry = .ok key ∧ before.snapshot.Has key
  notActive_iff : outcome = .notActive ↔ ∃ key, SignerId.parse entry = .ok key ∧
    ¬ before.snapshot.Has key ∧ key ∈ d.data.map (·.key)
  notFound_iff : outcome = .notFound ↔ ∃ key, SignerId.parse entry = .ok key ∧
    ¬ before.snapshot.Has key ∧ key ∉ d.data.map (·.key)

/-- Of an entry that names no key, or an installed one, neither of the two is told that keys
which are not installed get. -/
theorem EntryAccount.of_installed {d : Interchange} {outcome : DeleteOutcome}
    (hinstalled : ∀ key, SignerId.parse entry = .ok key → c.snapshot.Has key)
    (hactive : outcome ≠ .notActive) (hfound : outcome ≠ .notFound)
    (hdeleted : outcome = .deleted → ∃ key, SignerId.parse entry = .ok key ∧ c.snapshot.Has key) :
    EntryAccount c d entry outcome where
  deleted := hdeleted
  notActive_iff := ⟨fun h => absurd h hactive,
    fun ⟨key, hkey, hnot, _⟩ => absurd (hinstalled key hkey) hnot⟩
  notFound_iff := ⟨fun h => absurd h hfound,
    fun ⟨key, hkey, hnot, _⟩ => absurd (hinstalled key hkey) hnot⟩

/-- How an entry ends decides what is told of it. -/
theorem Removal.account {outcome : DeleteStep × Custody} (h : Removal c m entry outcome)
    (d : Interchange) :
    EntryAccount c d entry (outcome.1.toOutcome fun key => d.data.any (·.key == key)) := by
  have hsame : ∀ {key other}, SignerId.parse entry = .ok key → SignerId.parse entry = .ok other →
      other = key := fun hkey hother => Except.ok.inj (hother.symm.trans hkey)
  cases h with
  | malformed hentry =>
      exact .of_installed (by simp [hentry]) (fun h => by cases h) (fun h => by cases h)
        fun h => by cases h
  | @deleted key _ hentry hinstalled _ =>
      exact .of_installed (fun _ hother => hsame hentry hother ▸ hinstalled) (fun h => by cases h)
        (fun h => by cases h) fun _ => ⟨key, hentry, hinstalled⟩
  | failed hentry hinstalled _ =>
      exact .of_installed (fun _ hother => hsame hentry hother ▸ hinstalled) (fun h => by cases h)
        (fun h => by cases h) fun h => by cases h
  | @absent key hentry habsent =>
      -- the only outcome that what is handed over decides
      have hlisted : d.data.any (·.key == key) = true ↔ key ∈ d.data.map (·.key) := by simp
      simp only [DeleteStep.toOutcome]
      by_cases hkey : key ∈ d.data.map (·.key)
      · rw [if_pos (hlisted.mpr hkey)]
        refine ⟨fun h => (by cases h), iff_of_true rfl ⟨key, hentry, habsent, hkey⟩,
          iff_of_false (fun h => by cases h) ?_⟩
        rintro ⟨other, hother, _, hnot⟩
        exact hnot (hsame hentry hother ▸ hkey)
      · rw [if_neg (hlisted.not.mpr hkey)]
        refine ⟨fun h => (by cases h), iff_of_false (fun h => by cases h) ?_,
          iff_of_true rfl ⟨key, hentry, habsent, hkey⟩⟩
        rintro ⟨other, hother, _, hmem⟩
        exact hkey (hsame hentry hother ▸ hmem)

/-- A deletion accounts for its entries. There is an outcome for each, in order. If history is
handed over, a key that is told to be deleted was installed when its entry's turn came; a key
that was not installed then is told to be not active if what is handed over has its history,
and not to be found if it has none; and what is handed over is the history of the keys that
were deleted or not installed, all of it, as it was before the deletion. A key that is told to
be deleted is not installed in the end, and a key that was installed and that no entry names
still is. -/
theorem delete_accounts (c : Custody) (m : KeyManager) (request : DeleteRequest) :
    let response := (c.deleteKeys m request).1
    let left := (c.deleteKeys m request).2
    response.data.length = request.publicKeys.length ∧
      (∀ text, response.history = some text → ∃ d, text = d.toText ∧
        (∀ n entry outcome, request.publicKeys[n]? = some entry →
          response.data[n]? = some outcome →
          EntryAccount (c.deleting m request.publicKeys n) d entry outcome) ∧
        ∃ e, c.protection = some e ∧
          (e.database.validators.filter fun v =>
            (goneKeys request.publicKeys response.data).contains v.key).mapM
              History.ofValidator = .ok d.data) ∧
      (∀ key, c.TellsDeleted m request key → ¬ left.snapshot.Has key) ∧
      ∀ key, c.snapshot.Has key →
        (∀ entry ∈ request.publicKeys, SignerId.parse entry ≠ .ok key) →
        left.snapshot.Has key := by
  intro response left
  refine ⟨deleteKeys_length c m request, fun text htext => ?_, fun key htold => ?_,
    fun key hinstalled hothers => ?_⟩
  · obtain ⟨d, hd, rfl⟩ :=
      Option.map_eq_some_iff.mp ((deleteKeys_history c m request).symm.trans htext)
    refine ⟨d, rfl, fun n entry outcome hentry houtcome => ?_, handedOver_rows hd⟩
    obtain ⟨step, hremoval, htold⟩ := deleting_told hd hentry
    obtain rfl := Option.some.inj (houtcome.symm.trans htold)
    exact hremoval.account d
  · exact (ridOf_deleteKeys htold).absent
  · show (c.deleteKeys m request).2.snapshot.Has key
    rw [deleteKeys_left]
    exact deleteEach_installed hothers hinstalled

/-- A key with history, and one without a file. -/
def twoKeys : Custody :=
  let c := atFirst.run [comingBack 1, earlierBlock]
  { c with registry := (c.registry.addSigner filelessSigner).2 }

/-- A key that is named twice, in two spellings, a key that there is not, and no key. -/
def mixedRequest : DeleteRequest :=
  ⟨["01", "0x01", "03", "z"]⟩

/-- The key that is named twice is deleted once and not active after that, and the other is
left installed. -/
theorem mixedRequest_accounts :
    let response := (twoKeys.deleteKeys emptyManager mixedRequest).1
    let left := (twoKeys.deleteKeys emptyManager mixedRequest).2
    response.data = [.deleted, .notActive, .notFound,
        .failed "Invalid: signer identifier is not an even-length hex string: z"] ∧
      (∃ d : Interchange, response.history = some d.toText ∧ comingKey ∈ d.data.map (·.key)) ∧
      ¬ left.snapshot.Has comingKey ∧ left.snapshot.Has ⟨[2]⟩ := by
  intro response left
  obtain ⟨_, haccount, hgone, hleft⟩ := delete_accounts twoKeys emptyManager mixedRequest
  have hdata : response.data = [.deleted, .notActive, .notFound,
      .failed "Invalid: signer identifier is not an even-length hex string: z"] := by
    decide +kernel
  have hhistory : response.history.isSome = true := by
    decide +kernel
  have hsecond : SignerId.parse "0x01" = .ok comingKey := by
    decide
  refine ⟨hdata, ?_, hgone comingKey ⟨"01", parse_comingKey, ?_⟩, hleft ⟨[2]⟩ ?_ ?_⟩
  · obtain ⟨text, htext⟩ := Option.isSome_iff_exists.mp hhistory
    obtain ⟨d, rfl, hentries, _⟩ := haccount text htext
    have htold := (hentries 1 "0x01" .notActive rfl (congrArg (·[1]?) hdata)).notActive_iff.mp rfl
    obtain ⟨key, hkey, _, hlisted⟩ := htold
    obtain rfl := Except.ok.inj (hsecond.symm.trans hkey)
    exact ⟨d, htext, hlisted⟩
  · show _ ∈ mixedRequest.publicKeys.zip response.data
    rw [hdata]
    exact List.mem_cons_self
  · exact Snapshot.find?_isSome.mp (by decide +kernel)
  · decide

end Custody

end RemoteSigner
