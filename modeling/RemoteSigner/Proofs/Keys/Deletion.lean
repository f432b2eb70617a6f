import RemoteSigner.Keys.KeystoreFiles
import RemoteSigner.Proofs.Files.Within

/-!
# Deleting the files of a key

Deletion goes through the descriptions of a directory and removes those whose keystore
declares the key, with their files. What it removes for one description may take files
from another, so the invariant is about what a description is worth on the disk that is
left: once nothing is `doomed` for a description, nothing is on any disk within
(`doomed_within`), and deletion leaves no description for which anything is
(`delete_clears`).

A description that still provides the key is `Undeclared`: deletion does not look at
its name, or it refers to no keystore, or its keystore declares no key.
-/

namespace RemoteSigner.KeystoreFiles

variable {disk disk' : Disk} {directory p : FilePath} {id : SignerId}

theorem references?_within (h : disk'.Within disk) {paths : FilePath × FilePath}
    (href : references? disk' directory p = some paths) :
    references? disk directory p = some paths := by
  unfold references? at href ⊢
  obtain ⟨text, htext, hrest⟩ := Option.bind_eq_some_iff.mp href
  rw [h.readText (ok_of_toOption htext)]
  exact hrest

theorem declares_iff {keystorePath : FilePath} : declares disk keystorePath id = true ↔
    ∃ k, disk.keystore keystorePath = .ok k ∧ SignerId.normalize k.publicKey = id.text := by
  unfold declares
  cases disk.keystore keystorePath <;> simp

theorem doomed_eq_nil : doomed disk directory id p = [] ↔
    ∀ keystorePath passwordPath, references? disk directory p = some (keystorePath, passwordPath) →
      declares disk keystorePath id = false := by
  unfold doomed
  cases references? disk directory p with
  | none => simp
  | some paths =>
      obtain ⟨keystorePath, passwordPath⟩ := paths
      cases hdeclares : declares disk keystorePath id <;> simp [hdeclares]

/-- A description goes with its files. -/
theorem mem_doomed (h : doomed disk directory id p ≠ []) : p ∈ doomed disk directory id p := by
  unfold doomed at h ⊢
  cases href : references? disk directory p with
  | none => simp [href] at h
  | some paths =>
      simp only [href] at h ⊢
      split at h
      · rename_i hdeclares
        rw [if_pos hdeclares]
        exact List.mem_cons_self
      · exact absurd rfl h

/-- What is not to be deleted for a description is not so on any disk within. -/
theorem doomed_within (h : disk'.Within disk) (hnone : doomed disk directory id p = []) :
    doomed disk' directory id p = [] := by
  rw [doomed_eq_nil] at hnone ⊢
  intro keystorePath passwordPath href
  have hkept := hnone _ _ (references?_within h href)
  rw [← Bool.not_eq_true, declares_iff] at hkept ⊢
  rintro ⟨k, hk, hkey⟩
  exact hkept ⟨k, h.keystore hk, hkey⟩

/-- What is to be deleted for a description is the same on any disk that has more files. -/
theorem doomed_eq_of_within (h : disk'.Within disk) (hsome : doomed disk' directory id p ≠ []) :
    doomed disk directory id p = doomed disk' directory id p := by
  unfold doomed at hsome ⊢
  cases href : references? disk' directory p with
  | none => simp [href] at hsome
  | some paths =>
      obtain ⟨keystorePath, passwordPath⟩ := paths
      simp only [href] at hsome
      simp only [references?_within h href]
      split at hsome
      · rename_i hdeclares
        obtain ⟨k, hk, hkey⟩ := declares_iff.mp hdeclares
        rw [if_pos hdeclares, if_pos (declares_iff.mpr ⟨k, h.keystore hk, hkey⟩)]
      · exact absurd rfl hsome

/-- For a description that cannot be read there is nothing to delete. -/
theorem doomed_unreadable (h : ∀ f, disk.file p ≠ .ok f) : doomed disk directory id p = [] := by
  have htext : (disk.readText p).toOption = none := by
    unfold Disk.readText Disk.readBytes
    cases hf : disk.file p with
    | error fault => rfl
    | ok f => exact absurd hf (h f)
  rw [doomed_eq_nil]
  intro keystorePath passwordPath href
  simp [references?, htext] at href

/-! ## Removing -/

/-- Removing files leaves the others; without a fault all of them are gone. -/
theorem removeEach_spec (paths : List FilePath) (disk : Disk) :
    (removeEach paths disk).2.Within disk ∧
      ((removeEach paths disk).1 = .ok () →
        ∀ path ∈ paths, ∀ f, (removeEach paths disk).2.file path ≠ .ok f) := by
  induction paths generalizing disk with
  | nil => exact ⟨.refl disk, by simp⟩
  | cons path rest ih =>
      unfold removeEach
      cases hremove : disk.remove path with
      | ok disk' =>
          obtain ⟨hwithin, hgone⟩ := Disk.remove_ok hremove
          obtain ⟨hrest, hall⟩ := ih disk'
          refine ⟨hrest.trans hwithin, fun hok other hother f hf => ?_⟩
          rcases List.mem_cons.mp hother with rfl | hother
          · exact hgone f (hrest.file hf)
          · exact hall hok other hother f hf
      | error e =>
          simp only
          split
          · rename_i hfault
            obtain ⟨hrest, hall⟩ := ih disk
            refine ⟨hrest, fun hok other hother f hf => ?_⟩
            rcases List.mem_cons.mp hother with rfl | hother
            · obtain ⟨disk', hremoved⟩ := Disk.remove_of_file (hrest.file hf)
              cases hremove.symm.trans hremoved
            · exact hall hok other hother f hf
          · exact ⟨.refl disk, fun hok => by cases hok⟩

/-- Deletion leaves nothing to delete for the descriptions it goes through. -/
theorem deleteEach_spec (directory : FilePath) (id : SignerId) (paths : List FilePath)
    (found : Bool) (disk : Disk) :
    (deleteEach directory id found paths disk).2.Within disk ∧
      ∀ found', (deleteEach directory id found paths disk).1 = .ok found' →
        ∀ p ∈ paths, doomed (deleteEach directory id found paths disk).2 directory id p = [] := by
  induction paths generalizing found disk with
  | nil => exact ⟨.refl disk, by simp⟩
  | cons path rest ih =>
      unfold deleteEach
      split
      · rename_i hnone
        obtain ⟨hrest, hall⟩ := ih found disk
        refine ⟨hrest, fun found' hok p hp => ?_⟩
        rcases List.mem_cons.mp hp with rfl | hp
        · exact doomed_within hrest hnone
        · exact hall found' hok p hp
      · rename_i files hsome
        have hpath := mem_doomed hsome
        obtain ⟨hremoved, hgone⟩ := removeEach_spec (doomed disk directory id path) disk
        generalize removeEach (doomed disk directory id path) disk = r at hremoved hgone ⊢
        obtain ⟨result, disk'⟩ := r
        cases result with
        | error e => exact ⟨hremoved, fun found' hok => by cases hok⟩
        | ok _ =>
            obtain ⟨hrest, hall⟩ := ih true disk'
            refine ⟨hrest.trans hremoved, fun found' hok p hp => ?_⟩
            rcases List.mem_cons.mp hp with rfl | hp
            · exact doomed_within hrest (doomed_unreadable (hgone rfl p hpath))
            · exact hall found' hok p hp

/-- Deletion leaves nothing to delete in the directory. -/
theorem delete_clears (directory : FilePath) (id : SignerId) (disk : Disk) :
    (delete directory id disk).2.Within disk ∧
      ∀ found, (delete directory id disk).1 = .ok found →
        ∀ names, (delete directory id disk).2.names directory = .ok names →
          ∀ name ∈ names, isDescription name = true →
            doomed (delete directory id disk).2 directory id (directory.join name) = [] := by
  unfold delete
  cases hnames : disk.names directory with
  | error e => exact ⟨.refl disk, fun found hok => by cases hok⟩
  | ok old =>
      simp only
      obtain ⟨hwithin, hall⟩ := deleteEach_spec directory id
        ((old.filter isDescription).map directory.join) false disk
      refine ⟨hwithin, fun found hok names hleft name hname hdescription => ?_⟩
      obtain ⟨old', hold, hsub⟩ := hwithin.names hleft
      obtain rfl := Except.ok.inj (hnames.symm.trans hold)
      exact hall found hok _
        (List.mem_map_of_mem (List.mem_filter.mpr ⟨hsub name hname, hdescription⟩))

/-- Deletion takes the files of the first description, unless that fails. -/
theorem delete_first {names : List String} {rest : List FilePath}
    (hnames : disk.names directory = .ok names)
    (hpaths : (names.filter isDescription).map directory.join = p :: rest)
    (hremoved : (removeEach (doomed disk directory id p) disk).1.isOk = true) :
    ∀ q ∈ doomed disk directory id p, ∀ f, (delete directory id disk).2.file q ≠ .ok f := by
  intro q hq f
  have hgone := (removeEach_spec (doomed disk directory id p) disk).2
  unfold delete
  rw [hnames]
  simp only [hpaths, deleteEach]
  split
  · rename_i hnone
    rw [hnone] at hq
    cases hq
  · generalize removeEach (doomed disk directory id p) disk = r at hremoved hgone ⊢
    obtain ⟨result, left⟩ := r
    cases result with
    | error e => cases hremoved
    | ok _ =>
        intro hf
        exact hgone rfl q hq f ((deleteEach_spec directory id rest true left).1.file hf)

/-! ## What is left -/

/-- A description tells of no key: it refers to no keystore, or to one that declares
none. -/
def Undeclared (disk : Disk) (directory p : FilePath) : Prop :=
  ∀ keystorePath passwordPath, references? disk directory p = some (keystorePath, passwordPath) →
    ∃ k, disk.keystore keystorePath = .ok k ∧ k.publicKey.isEmpty = true

/-- The signer of a keystore has the key that the keystore declares. -/
theorem declared_of_toSigner {suite : KeySuite} {k : Keystore} {password : String}
    {keyType : KeyType} {x : Signer} (h : k.toSigner suite password keyType = .ok x) :
    k.publicKey.isEmpty = true ∨ SignerId.normalize k.publicKey = x.identifier.text := by
  obtain ⟨secret, _, h⟩ := bind_eq_ok.mp h
  obtain ⟨signer, _, h⟩ := bind_eq_ok.mp h
  split at h
  · cases h
  · rename_i hdeclared
    obtain rfl := pure_eq_ok.mp h
    cases hempty : k.publicKey.isEmpty with
    | true => exact .inl rfl
    | false => exact .inr (by simpa [hempty] using hdeclared)

/-- The keystore of a description declares the key that the description provides, or none. -/
theorem declared_of_decode {shop : Workshop} {x : Signer} {keystorePath passwordPath : FilePath}
    (href : references? disk directory p = some (keystorePath, passwordPath))
    (hdecode : disk.decodeSource shop directory p = .done (.ok x)) :
    ∃ k, disk.keystore keystorePath = .ok k ∧
      (k.publicKey.isEmpty = true ∨ SignerId.normalize k.publicKey = x.identifier.text) := by
  obtain ⟨text, htext, href⟩ := Option.bind_eq_some_iff.mp href
  obtain ⟨m, hm, href⟩ := Option.bind_eq_some_iff.mp href
  unfold Disk.decodeSource at hdecode
  simp only [ok_of_toOption htext, ok_of_toOption hm, SigningMetadata.signer] at hdecode
  cases hsource : m.source with
  | fileKeystore keystoreFile passwordFile =>
      rw [hsource] at href hdecode
      obtain ⟨rfl, rfl⟩ := Prod.mk.inj (Option.some.inj href)
      obtain ⟨password, _, hread⟩ := bind_eq_ok.mp (Decoding.done.inj hdecode)
      obtain ⟨k, hk, hsigner⟩ := bind_eq_ok.mp hread
      exact ⟨k, hk, declared_of_toSigner hsigner⟩
  | _ =>
      rw [hsource] at href
      cases href

/-- A description that provides a key, and for which there is nothing to delete, tells
of no key. -/
theorem undeclared_of_decode {shop : Workshop} {x : Signer}
    (hnone : doomed disk directory x.identifier p = [])
    (hdecode : disk.decodeSource shop directory p = .done (.ok x)) :
    Undeclared disk directory p := by
  intro keystorePath passwordPath href
  have hundeclared := doomed_eq_nil.mp hnone keystorePath passwordPath href
  obtain ⟨k, hk, hdeclared⟩ := declared_of_decode href hdecode
  refine ⟨k, hk, hdeclared.resolve_right fun hkey => ?_⟩
  rw [declares_iff.mpr ⟨k, hk, hkey⟩] at hundeclared
  cases hundeclared

end RemoteSigner.KeystoreFiles
