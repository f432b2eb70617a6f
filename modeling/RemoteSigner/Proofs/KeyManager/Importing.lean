import RemoteSigner.Proofs.KeyManager.Imported

/-!
# Taking in keystores, one at a time

A request that is answered goes through its keystores in order, from where its history
was stored (`stored`). Custody after the first of them is `importing`, and from one to the
next is an `ImportStep`, with its outcome (`importing_step`).

The keys that an import tells to have taken in are `takenKeys`. What is told of a keystore
depends on its key and on those before it: it is a duplicate exactly if its key was installed
before or was taken in (`importEach_duplicate`), so no key is taken in twice
(`importEach_nodup`), and what is installed in the end is what was before, with the keys
that were taken in (`importEach_installed`).
-/

namespace RemoteSigner.Custody

variable {c c' : Custody} {m : KeyManager} {d : Deposit} {deposits : List Deposit}
  {o : ImportOutcome} {request : ImportRequest} {seen : List SignerId} {n : Nat}

/-! ## One keystore -/

/-- Taking in one keystore, with what is told of it. -/
inductive ImportStep (m : KeyManager) (c : Custody) (d : Deposit) :
    ImportOutcome → Custody → Prop
  | duplicate : ImportStep m c d .duplicate c
  | imported {c' : Custody} (h : c.importOne m d = (.ok (), c')) : ImportStep m c d .imported c'
  | failed {e : SigningError} {c' : Custody} (h : c.importOne m d = (.error e, c')) :
      ImportStep m c d (.failed ("error importing keystore: " ++ e.message)) c'

/-- How taking in a keystore ends: it does not open, its files are not written, its key is
not enabled, the registry is closed and the files are deleted again, or its signer is
installed. -/
inductive Attempt (c : Custody) (m : KeyManager) (d : Deposit) :
    Except SigningError Unit × Custody → Prop
  | unopened {e : KeyError} (hopen : d.keystore.toSigner m.suite d.password .bls = .error e) :
      Attempt c m d (.error (.signer e), c)
  | unwritten {x : Signer} {e : KeyError} {disk : Disk}
      (hopen : d.keystore.toSigner m.suite d.password .bls = .ok x)
      (hwrite : KeystoreFiles.write m.medium m.directory d.key d.keystore d.password .bls
        c.disk = (.error e, disk)) :
      Attempt c m d (.error (.signer e), { c with disk := disk })
  | unenabled {x : Signer} {p : FilePath} {disk : Disk} {e : ProtectionError} {c₁ : Custody}
      (hopen : d.keystore.toSigner m.suite d.password .bls = .ok x)
      (hwrite : KeystoreFiles.write m.medium m.directory d.key d.keystore d.password .bls
        c.disk = (.ok p, disk))
      (henable : { c with disk := disk }.enable d.key = (.error e, c₁)) :
      Attempt c m d (.error (.protection e), c₁)
  | refused {x : Signer} {p : FilePath} {disk : Disk} {c₁ : Custody}
      (hopen : d.keystore.toSigner m.suite d.password .bls = .ok x)
      (hwrite : KeystoreFiles.write m.medium m.directory d.key d.keystore d.password .bls
        c.disk = (.ok p, disk))
      (henable : { c with disk := disk }.enable d.key = (.ok (), c₁))
      (hclosed : c.registry.isClosed = true) :
      Attempt c m d (.error (.signer .registryClosed), c₁.removeFiles m d.key)
  | installed {x : Signer} {p : FilePath} {disk : Disk} {c₁ : Custody}
      (hopen : d.keystore.toSigner m.suite d.password .bls = .ok x)
      (hwrite : KeystoreFiles.write m.medium m.directory d.key d.keystore d.password .bls
        c.disk = (.ok p, disk))
      (henable : { c with disk := disk }.enable d.key = (.ok (), c₁))
      (hclosed : c.registry.isClosed = false) :
      Attempt c m d (.ok (), { c₁ with
        registry := { c.registry with snapshot := c.registry.snapshot.put x } })

theorem frame_of_enable {key : SignerId} {result : Protected Unit}
    (h : c.enable key = (result, c')) : c'.registry = c.registry ∧ c'.disk = c.disk := by
  have hframe := enable_frame c key
  rwa [h] at hframe

theorem importOne_attempt (c : Custody) (m : KeyManager) (d : Deposit) :
    Attempt c m d (c.importOne m d) := by
  unfold importOne
  cases hopen : d.keystore.toSigner m.suite d.password .bls with
  | error fault => exact .unopened hopen
  | ok signer =>
      cases hwrite : KeystoreFiles.write m.medium m.directory d.key d.keystore d.password .bls
        c.disk with
      | mk written disk =>
      cases written with
      | error fault => exact .unwritten hopen hwrite
      | ok p =>
          cases henable : Custody.enable { c with disk := disk } d.key with
          | mk result c₁ =>
          -- enabling leaves the registry, so it was closed before if it is now
          have hregistry : c₁.registry = c.registry := (frame_of_enable henable).1
          cases result with
          | error fault =>
              simp only [henable]
              exact .unenabled hopen hwrite henable
          | ok _ =>
              simp only [henable, Registry.addSigner, Registry.change, hregistry]
              cases hclosed : c.registry.isClosed with
              | true =>
                  have hsame : { c₁ with registry := c.registry } = c₁ := by rw [← hregistry]
                  simp only [if_true, hsame]
                  exact .refused hopen hwrite henable hclosed
              | false =>
                  have hinstalled := Attempt.installed hopen hwrite henable hclosed
                  simp only [hclosed] at hinstalled
                  exact hinstalled

/-- A keystore that is taken in installs the signer that it opens to; one that is not
leaves the registry as it was. -/
theorem importOne_registry (c : Custody) (m : KeyManager) (d : Deposit) :
    (∀ e, (c.importOne m d).1 = .error e → (c.importOne m d).2.registry = c.registry) ∧
      ((c.importOne m d).1 = .ok () → ∃ x, d.keystore.toSigner m.suite d.password .bls = .ok x ∧
        (c.importOne m d).2.snapshot = c.snapshot.put x) := by
  have hattempt := importOne_attempt c m d
  generalize c.importOne m d = r at hattempt ⊢
  cases hattempt with
  | unopened _ => exact ⟨fun _ _ => rfl, nofun⟩
  | unwritten _ _ => exact ⟨fun _ _ => rfl, nofun⟩
  | unenabled _ _ henable => exact ⟨fun _ _ => (frame_of_enable henable).1, nofun⟩
  | refused _ _ henable _ => exact ⟨fun _ _ => (frame_of_enable henable).1, nofun⟩
  | @installed x _ _ _ hopen _ _ _ => exact ⟨nofun, fun _ => ⟨x, hopen, rfl⟩⟩

/-- What is installed after a keystore: what was before, with its key if it was taken in. -/
theorem ImportStep.installed (h : ImportStep m c d o c')
    (hid : SignerId.parse d.keystore.publicKey = .ok d.key) (key : SignerId) :
    c'.snapshot.Has key ↔ c.snapshot.Has key ∨ (o = .imported ∧ d.key = key) := by
  cases h with
  | duplicate => simp
  | imported h =>
      obtain ⟨x, hx, hput⟩ := (importOne_registry c m d).2 (by rw [h])
      rw [h] at hput
      rw [hput, Snapshot.has_put, Keystore.identifier_of_toSigner hid hx]
      simp
  | @failed e _ h =>
      have hsame := (importOne_registry c m d).1 e (by rw [h])
      rw [h] at hsame
      rw [show c'.snapshot = c.snapshot from congrArg Registry.snapshot hsame]
      simp

/-! ## One after another -/

/-- The keys that an import tells to have taken in. -/
def takenKeys (deposits : List Deposit) (outcomes : List ImportOutcome) : List SignerId :=
  ((deposits.zip outcomes).filter (·.2 = .imported)).map (·.1.key)

theorem takenKeys_cons (d : Deposit) (deposits : List Deposit) (o : ImportOutcome)
    (outcomes : List ImportOutcome) : takenKeys (d :: deposits) (o :: outcomes) =
      if o = .imported then d.key :: takenKeys deposits outcomes
      else takenKeys deposits outcomes := by
  unfold takenKeys
  rw [List.zip_cons_cons, List.filter_cons]
  split <;> simp_all

/-- The first keystore takes a step, and the others go on from there. -/
theorem importEach_cons (m : KeyManager) (seen : List SignerId) (d : Deposit) (c : Custody) :
    ∃ o c', ImportStep m c d o c' ∧ (o = .duplicate ↔ d.key ∈ seen) ∧
      ∀ rest, importEach m seen (d :: rest) c =
        let seen' := if o = .imported then d.key :: seen else seen
        (o :: (importEach m seen' rest c').1, (importEach m seen' rest c').2) := by
  by_cases hseen : d.key ∈ seen
  · exact ⟨.duplicate, c, .duplicate, by simp [hseen], fun rest => by simp [importEach, hseen]⟩
  · cases hone : c.importOne m d with
    | mk result c' =>
        cases result with
        | ok _ =>
            exact ⟨.imported, c', .imported hone, by simp [hseen],
              fun rest => by simp [importEach, hseen, hone]⟩
        | error e =>
            exact ⟨_, c', .failed hone, by simp [hseen],
              fun rest => by simp [importEach, hseen, hone]⟩

theorem importEach_length (m : KeyManager) (deposits : List Deposit) (seen : List SignerId)
    (c : Custody) : (importEach m seen deposits c).1.length = deposits.length := by
  induction deposits generalizing seen c with
  | nil => rfl
  | cons d rest ih =>
      obtain ⟨o, c', _, _, hrest⟩ := importEach_cons m seen d c
      rw [hrest, List.length_cons, List.length_cons, ih]

/-- Each keystore takes a step from where those before it have led. -/
theorem importEach_step (hd : deposits[n]? = some d)
    (ho : (importEach m seen deposits c).1[n]? = some o) :
    ImportStep m (importEach m seen (deposits.take n) c).2 d o
      (importEach m seen (deposits.take (n + 1)) c).2 := by
  induction deposits generalizing seen c n with
  | nil => cases hd
  | cons first rest ih =>
      obtain ⟨o', c', hstep, _, hrest⟩ := importEach_cons m seen first c
      rw [hrest] at ho
      cases n with
      | zero =>
          obtain rfl := Option.some.inj hd
          obtain rfl := Option.some.inj ho
          rw [List.take_zero, List.take_succ_cons, List.take_zero, hrest]
          exact hstep
      | succ n =>
          rw [List.take_succ_cons, List.take_succ_cons, hrest, hrest]
          exact ih hd ho

/-- A keystore is a duplicate exactly if its key was seen before or was taken in. -/
theorem importEach_duplicate (hd : deposits[n]? = some d)
    (ho : (importEach m seen deposits c).1[n]? = some o) :
    o = .duplicate ↔
      d.key ∈ seen ∨ d.key ∈ takenKeys (deposits.take n) (importEach m seen deposits c).1 := by
  induction deposits generalizing seen c n with
  | nil => cases hd
  | cons first rest ih =>
      obtain ⟨o', c', _, hduplicate, hrest⟩ := importEach_cons m seen first c
      rw [hrest] at ho ⊢
      cases n with
      | zero =>
          obtain rfl := Option.some.inj hd
          obtain rfl := Option.some.inj ho
          simpa [takenKeys] using hduplicate
      | succ n =>
          rw [List.take_succ_cons, takenKeys_cons, ih hd ho]
          split <;> simp [or_assoc, or_left_comm]

/-- No key is taken in twice, and none that was seen before. -/
theorem importEach_nodup (m : KeyManager) (deposits : List Deposit) (seen : List SignerId)
    (c : Custody) : (takenKeys deposits (importEach m seen deposits c).1).Nodup ∧
      ∀ key ∈ seen, key ∉ takenKeys deposits (importEach m seen deposits c).1 := by
  induction deposits generalizing seen c with
  | nil => simp [takenKeys]
  | cons d rest ih =>
      obtain ⟨o, c', _, hduplicate, hrest⟩ := importEach_cons m seen d c
      rw [hrest, takenKeys_cons]
      by_cases ho : o = .imported
      · -- the rest is gone through with this key among those seen
        subst ho
        obtain ⟨hnodup, hapart⟩ := ih (d.key :: seen) c'
        have hnew : d.key ∉ seen := by simpa using hduplicate
        simp only [if_true]
        refine ⟨List.nodup_cons.mpr ⟨hapart _ List.mem_cons_self, hnodup⟩, fun key hkey hmem => ?_⟩
        rcases List.mem_cons.mp hmem with rfl | hmem
        · exact hnew hkey
        · exact hapart key (List.mem_cons_of_mem _ hkey) hmem
      · simp only [if_neg ho]
        exact ih seen c'

/-- What is installed in the end: what was before, with the keys that were taken in. -/
theorem importEach_installed (m : KeyManager)
    (hkeys : ∀ d ∈ deposits, SignerId.parse d.keystore.publicKey = .ok d.key)
    (seen : List SignerId) (c : Custody) (key : SignerId) :
    (importEach m seen deposits c).2.snapshot.Has key ↔
      c.snapshot.Has key ∨ key ∈ takenKeys deposits (importEach m seen deposits c).1 := by
  induction deposits generalizing seen c with
  | nil => simp [importEach, takenKeys]
  | cons d rest ih =>
      obtain ⟨o, c', hstep, _, hrest⟩ := importEach_cons m seen d c
      have hone := hstep.installed (hkeys d List.mem_cons_self) key
      rw [hrest, takenKeys_cons, ih (fun d' hd' => hkeys d' (List.mem_cons_of_mem d hd')), hone]
      split
      · simp_all [or_assoc, eq_comm]
      · simp_all

/-! ## A request -/

/-- Custody after the history of a request was stored. -/
def stored (c : Custody) (request : ImportRequest) : Custody :=
  match request.deposits with
  | .ok (d :: rest) => (c.importHistory request.history ((d :: rest).map (·.key))).2
  | _ => c

/-- Custody after the history of a request was stored and its first keystores were gone
through. -/
def importing (c : Custody) (m : KeyManager) (request : ImportRequest) (n : Nat) : Custody :=
  match request.deposits with
  | .ok deposits =>
      (importEach m c.snapshot.identifiers (deposits.take n) (c.stored request)).2
  | .error _ => c

theorem stored_eq (hhistory : request.history = none) : c.stored request = c := by
  unfold stored
  rw [hhistory]
  split
  · rw [importHistory_none]
  · rfl

theorem stored_registry (c : Custody) (request : ImportRequest) :
    (c.stored request).registry = c.registry := by
  unfold stored
  split
  · exact importHistory_registry c request.history _
  · rfl

theorem importing_eq (hdeposits : request.deposits = .ok deposits) (n : Nat) :
    c.importing m request n =
      (importEach m c.snapshot.identifiers (deposits.take n) (c.stored request)).2 := by
  unfold importing
  rw [hdeposits]

/-- What a request that is answered does: it stores its history, and goes through its
keystores. -/
theorem importKeys_ok {response : ImportResponse} (h : (c.importKeys m request).1 = .ok response) :
    ∃ deposits, request.deposits = .ok deposits ∧
      (deposits ≠ [] → (c.importHistory request.history (deposits.map (·.key))).1 = .ok ()) ∧
      importEach m c.snapshot.identifiers deposits (c.stored request) =
        (response.data, (c.importKeys m request).2) := by
  have hregistry := stored_registry c request
  unfold importKeys at h ⊢
  unfold stored at hregistry ⊢
  cases hdeposits : request.deposits with
  | error fault =>
      rw [hdeposits] at h
      cases h
  | ok deposits =>
      refine ⟨deposits, rfl, ?_⟩
      cases deposits with
      | nil =>
          rw [hdeposits] at h
          obtain rfl := Except.ok.inj h
          exact ⟨fun hne => absurd rfl hne, rfl⟩
      | cons d rest =>
          simp only [hdeposits] at h hregistry ⊢
          generalize c.importHistory request.history _ = r at h hregistry ⊢
          obtain ⟨result, c₁⟩ := r
          have hsame : c₁.snapshot = c.snapshot := congrArg Registry.snapshot hregistry
          cases result with
          | error fault => cases h
          | ok _ =>
              obtain rfl := Except.ok.inj h
              exact ⟨fun _ => rfl, by simp only [hsame]⟩

/-- Each keystore of a request that is answered takes a step, with the outcome that is told
of it. -/
theorem importing_step {response : ImportResponse} (hdeposits : request.deposits = .ok deposits)
    (h : (c.importKeys m request).1 = .ok response) (hd : deposits[n]? = some d)
    (ho : response.data[n]? = some o) :
    ImportStep m (c.importing m request n) d o (c.importing m request (n + 1)) := by
  obtain ⟨deposits', hdeposits', _, heach⟩ := importKeys_ok h
  obtain rfl := Except.ok.inj (hdeposits.symm.trans hdeposits')
  rw [importing_eq hdeposits, importing_eq hdeposits]
  refine importEach_step hd ?_
  rw [heach]
  exact ho

end RemoteSigner.Custody
