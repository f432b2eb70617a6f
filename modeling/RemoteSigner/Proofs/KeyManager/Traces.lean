import RemoteSigner.Proofs.KeyManager.Importing
import RemoteSigner.Proofs.Keys.Undoing

/-!
# What a keystore that is not taken in leaves behind

A keystore that an import tells it could not take in changes nothing in the registry, and in
most cases nothing on disk (`failed_leaves`): one that does not open writes nothing, files that
cannot be written are undone, and if the registry is closed the files are deleted again.

There are two cases in which there are traces. Files that were written stay if the key cannot
be enabled (`Strands`): deletion is not tried then. And where the registry is closed, deletion
goes by the key, so that it takes the files of other descriptions of the key, or none of any
if the directory cannot be listed; it takes back what was written only where it `SweepsOwn`
files. Both do occur (`failed_leaves_traces`).
-/

namespace RemoteSigner.Custody

open KeystoreFiles (Alone contents write)

variable {c : Custody} {m : KeyManager} {d : Deposit} {request : ImportRequest}
  {deposits : List Deposit} {response : ImportResponse} {n : Nat}

/-- The files of a keystore are written, and then its key cannot be enabled. -/
def Strands (c : Custody) (m : KeyManager) (d : Deposit) : Prop :=
  (∃ x, d.keystore.toSigner m.suite d.password .bls = .ok x) ∧
    ∃ p disk, write m.medium m.directory d.key d.keystore d.password .bls c.disk = (.ok p, disk) ∧
      ∃ e, ({ c with disk := disk }.enable d.key).1 = .error e

/-- Deletion finds the files of a keystore once they are written, and no others of the key. -/
def SweepsOwn (c : Custody) (m : KeyManager) (d : Deposit) : Prop :=
  m.directory ≠ "" ∧
    Alone (write m.medium m.directory d.key d.keystore d.password .bls c.disk).2 m.directory d.key

/-- A keystore that is not taken in leaves its files if its key could not be enabled, and
otherwise nothing, if deletion sweeps its files where the registry is closed. -/
theorem importOne_leaves (hkeystore : d.keystore.Storable)
    (hid : SignerId.parse d.keystore.publicKey = .ok d.key) {e : SigningError}
    (h : (c.importOne m d).1 = .error e) :
    (c.Strands m d → c.disk.Adds (c.importOne m d).2.disk
        (contents m.directory d.key d.keystore d.password .bls)) ∧
      (¬ c.Strands m d → (c.registry.isClosed = true → c.SweepsOwn m d) →
        c.disk.Alike (c.importOne m d).2.disk) := by
  have hattempt := importOne_attempt c m d
  obtain ⟨hundone, hadded⟩ :=
    KeystoreFiles.write_adds m.medium m.directory d.key d.keystore d.password .bls c.disk
  have hstored : ∀ p, (write m.medium m.directory d.key d.keystore d.password .bls
      c.disk).1 = .ok p → KeystoreFiles.Stored _ m.directory d.key d.keystore d.password .bls :=
    fun p => KeystoreFiles.stored_of_write
  unfold Strands SweepsOwn
  generalize c.importOne m d = r at h hattempt ⊢
  cases hattempt with
  | unopened hopen => exact ⟨fun ⟨⟨x, hx⟩, _⟩ => (nomatch hopen.symm.trans hx), fun _ _ => .refl _⟩
  | unwritten _ hwrite =>
      rw [hwrite] at hundone ⊢
      exact ⟨fun ⟨_, p, disk', hwritten, _⟩ => (nomatch hwritten), fun _ _ => hundone _ rfl⟩
  | @unenabled x p disk fault c₁ hopen hwrite henable =>
      -- nothing removes the files again
      rw [hwrite] at hadded ⊢
      refine ⟨fun _ => (frame_of_enable henable).2 ▸ hadded p rfl, fun hnot _ => absurd ?_ hnot⟩
      exact ⟨⟨x, hopen⟩, p, disk, rfl, fault, by rw [henable]⟩
  | @refused x p disk c₁ hopen hwrite henable hclosed =>
      rw [hwrite] at hadded hstored ⊢
      refine ⟨fun ⟨_, p', disk', hwritten, fault, henable'⟩ => ?_, fun _ hsweeps => ?_⟩
      · obtain ⟨_, rfl⟩ := Prod.mk.inj hwritten
        rw [henable] at henable'
        cases henable'
      · -- deletion takes back what was written
        obtain ⟨hdirectory, halone⟩ := hsweeps hclosed
        have hdisk : c₁.disk = disk := (frame_of_enable henable).2
        simp only [removeFiles, hdisk]
        exact (KeystoreFiles.delete_alike hdirectory hkeystore
          (SignerId.normalize_of_parse hid) (hadded p rfl) (hstored p rfl) halone).2
  | installed => cases h

/-- What a keystore leaves behind that an import tells it could not take in, at whichever of its
steps it failed and whatever the request did before it: nothing in the registry, and nothing
on disk but its three files if its key could not be enabled after they were written. Where the
registry is closed, this takes deletion to sweep those files and no others. -/
theorem failed_leaves (hdeposits : request.deposits = .ok deposits)
    (hresponse : (c.importKeys m request).1 = .ok response) (hd : deposits[n]? = some d)
    {detail : String} (htold : response.data[n]? = some (.failed detail)) :
    let before := c.importing m request n
    let after := c.importing m request (n + 1)
    after.registry = before.registry ∧
      (before.Strands m d → before.disk.Adds after.disk
        (contents m.directory d.key d.keystore d.password .bls)) ∧
      (¬ before.Strands m d → (before.registry.isClosed = true → before.SweepsOwn m d) →
        before.disk.Alike after.disk) := by
  intro before after
  obtain ⟨hkeystore, hid⟩ := ImportRequest.of_mem_deposits hdeposits (List.mem_of_getElem? hd)
  have hstep : ImportStep m before d (.failed detail) after :=
    importing_step hdeposits hresponse hd htold
  cases hstep with
  | @failed e _ hone =>
      have hregistry := (importOne_registry before m d).1 e (by rw [hone])
      have hleaves := importOne_leaves hkeystore hid (c := before) (m := m) (e := e) (by rw [hone])
      rw [hone] at hregistry hleaves
      exact ⟨hregistry, hleaves⟩

/-! ## One keystore -/

/-- The keystore of a request with its password. -/
def plainDeposit : Deposit :=
  ⟨⟨[1]⟩, plainKeystore, "pw"⟩

/-- A key manager that cannot write descriptions. -/
def stuckManager : KeyManager :=
  ⟨plainSuite, ⟨fun _ => none, fun p => if p = "/0x01.toml" then some (.of .denied) else none⟩, "/"⟩

theorem plainRequest_failed (hnew : ¬ c.snapshot.Has ⟨[1]⟩)
    (h : (c.importOne m plainDeposit).1.isOk = false) :
    ∃ detail, (c.importKeys m (plainRequest "pw")).1 = .ok ⟨[.failed detail]⟩ ∧
      c.importing m (plainRequest "pw") 0 = c ∧
      c.importing m (plainRequest "pw") 1 = (c.importOne m plainDeposit).2 := by
  have hunseen : plainDeposit.key ∉ c.snapshot.identifiers := by
    rwa [Snapshot.mem_identifiers]
  have heach : ∃ detail, importEach m c.snapshot.identifiers [plainDeposit] c =
      ([.failed detail], (c.importOne m plainDeposit).2) := by
    generalize hone : c.importOne m plainDeposit = r at h
    obtain ⟨result, c'⟩ := r
    cases result with
    | ok _ => cases h
    | error e => exact ⟨_, by simp only [importEach, List.contains_eq_mem, hunseen, hone]; rfl⟩
  obtain ⟨detail, heach⟩ := heach
  refine ⟨detail, ?_, ?_, ?_⟩
  · rw [importKeys_eq (deposits_plainRequest "pw") (List.cons_ne_nil _ _) rfl]
    exact congrArg _ (congrArg _ (congrArg Prod.fst heach))
  · rw [importing_eq (deposits_plainRequest "pw"), stored_eq rfl]
    rfl
  · rw [importing_eq (deposits_plainRequest "pw"), stored_eq rfl]
    exact congrArg Prod.snd heach

theorem not_has_empty (key : SignerId) : ¬ Snapshot.empty.Has key := by
  rintro ⟨x, hx, _⟩
  cases hx

/-- A keystore whose description cannot be written leaves nothing. -/
theorem unwritten_leaves_nothing :
    emptyCustody.disk.Alike (emptyCustody.importing stuckManager (plainRequest "pw") 1).disk := by
  have hfailed : (emptyCustody.importOne stuckManager plainDeposit).1.isOk = false := by
    decide +kernel
  have hnot : ¬ emptyCustody.Strands stuckManager plainDeposit := by
    rintro ⟨_, p, disk, hwrite, _⟩
    have hrefused : (write stuckManager.medium stuckManager.directory plainDeposit.key
        plainDeposit.keystore plainDeposit.password .bls emptyCustody.disk).1.isOk = false := by
      decide
    rw [hwrite] at hrefused
    cases hrefused
  obtain ⟨detail, hresponse, hbefore, _⟩ := plainRequest_failed (c := emptyCustody)
    (not_has_empty _) hfailed
  have hleaves := (failed_leaves (deposits_plainRequest "pw") hresponse (n := 0) rfl rfl).2.2
  rw [hbefore] at hleaves
  exact hleaves hnot nofun

/-- Slashing protection that another connection has locked. -/
def lockedCustody : Custody :=
  ⟨.empty, some ⟨1, true, .empty⟩, .empty⟩

/-- A disk with another description of the key, and a registry that is closed. -/
def closedCustody : Custody :=
  ⟨Registry.empty.close, none, ⟨[
    (["a.toml"], ⟨Utf8.encode (SigningMetadata.toText ⟨.fileKeystore "a.json" "a.password", .bls⟩),
      1⟩),
    (["a.json"], ⟨Utf8.encode plainKeystore.toText, 2⟩),
    (["a.password"], ⟨Utf8.encode "pw", 3⟩)], [], [], 4⟩⟩

/-- The other description is to be deleted with its files, whatever is added. -/
theorem doomed_closedCustody {disk : Disk} (h : closedCustody.disk.Within disk) :
    KeystoreFiles.doomed disk "/" plainDeposit.key "/a.toml" =
      ["/a.toml", "/a.json", "/a.password"] := by
  have hdescribed : KeystoreFiles.Described closedCustody.disk "/" "/a.toml" "a.json" "a.password"
      plainKeystore "pw" .bls :=
    ⟨by decide, by decide, rfl, rfl, rfl⟩
  exact (hdescribed.within h).doomed_eq storable_plainKeystore (SignerId.normalize_of_parse rfl)

/-- The other description is gone once the files of the keystore are deleted again. -/
theorem closedCustody_swept :
    (closedCustody.importOne rootManager plainDeposit).1.isOk = false ∧
      ∀ f, (closedCustody.importOne rootManager plainDeposit).2.disk.file "/a.toml" ≠ .ok f := by
  let outcome := write rootManager.medium rootManager.directory plainDeposit.key
    plainDeposit.keystore plainDeposit.password .bls closedCustody.disk
  have hopens : (plainDeposit.keystore.toSigner plainSuite plainDeposit.password .bls).isOk =
      true := by
    decide +kernel
  have hwritten : outcome.1.isOk = true := by decide
  have hwithin : closedCustody.disk.Within outcome.2 := KeystoreFiles.write_within ..
  have hnames : (outcome.2.names "/").toOption = some ["a.toml", "a.json", "a.password",
      "0x01.json", "0x01.password", "0x01.toml"] := by
    decide
  have hremoved : (KeystoreFiles.removeEach ["/a.toml", "/a.json", "/a.password"]
      outcome.2).1.isOk = true := by
    decide
  have hpaths : (["a.toml", "a.json", "a.password", "0x01.json", "0x01.password",
      "0x01.toml"].filter KeystoreFiles.isDescription).map (FilePath.join "/") =
        ["/a.toml", "/0x01.toml"] := by
    decide
  have hattempt := importOne_attempt closedCustody rootManager plainDeposit
  generalize closedCustody.importOne rootManager plainDeposit = r at hattempt ⊢
  cases hattempt with
  | unopened hopen =>
      rw [show plainDeposit.keystore.toSigner plainSuite _ _ = _ from hopen] at hopens
      cases hopens
  | unwritten _ hwrite =>
      rw [show outcome = _ from hwrite] at hwritten
      cases hwritten
  | unenabled _ _ henable => cases henable
  | installed _ _ _ hclosed => cases hclosed
  | @refused _ p disk c₁ _ hwrite henable _ =>
      rw [show outcome = _ from hwrite] at hwithin hnames hremoved
      obtain rfl : { closedCustody with disk := disk } = c₁ := congrArg Prod.snd henable
      refine ⟨rfl, ?_⟩
      have hdoomed : KeystoreFiles.doomed disk "/" plainDeposit.key "/a.toml" = _ :=
        doomed_closedCustody hwithin
      exact KeystoreFiles.delete_first (ok_of_toOption hnames) hpaths (by rwa [hdoomed]) "/a.toml"
        (by rw [hdoomed]; exact List.mem_cons_self)

/-- A keystore that is told not to be taken in leaves files where slashing protection is
locked, and takes the files of another description where the registry is closed. -/
theorem failed_leaves_traces :
    (∃ detail, (lockedCustody.importKeys rootManager (plainRequest "pw")).1 =
        .ok ⟨[.failed detail]⟩ ∧
      ¬ (lockedCustody.importing rootManager (plainRequest "pw") 0).disk.Alike
        (lockedCustody.importing rootManager (plainRequest "pw") 1).disk) ∧
    ∃ detail, (closedCustody.importKeys rootManager (plainRequest "pw")).1 =
        .ok ⟨[.failed detail]⟩ ∧
      ∃ f,
        (closedCustody.importing rootManager (plainRequest "pw") 0).disk.file "/a.toml" = .ok f ∧
        (closedCustody.importing rootManager (plainRequest "pw") 1).disk.file "/a.toml" ≠
          .ok f := by
  constructor
  · have hfailed : (lockedCustody.importOne rootManager plainDeposit).1.isOk = false := by
      decide +kernel
    have hleft : (lockedCustody.importOne rootManager plainDeposit).2.disk.files.length = 3 := by
      decide +kernel
    obtain ⟨detail, hresponse, hbefore, hafter⟩ := plainRequest_failed (c := lockedCustody)
      (not_has_empty _) hfailed
    refine ⟨detail, hresponse, fun halike => ?_⟩
    rw [hafter] at halike
    rw [halike.files, hbefore] at hleft
    cases hleft
  · obtain ⟨hfailed, hgone⟩ := closedCustody_swept
    obtain ⟨detail, hresponse, hbefore, hafter⟩ := plainRequest_failed (c := closedCustody)
      (not_has_empty _) hfailed
    exact ⟨detail, hresponse, _, by rw [hbefore]; rfl, by rw [hafter]; exact hgone _⟩

end RemoteSigner.Custody
