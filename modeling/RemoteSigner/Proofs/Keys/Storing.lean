import RemoteSigner.Proofs.Keys.Deletion
import RemoteSigner.Proofs.Keys.Description
import RemoteSigner.Proofs.Keys.Returning
import RemoteSigner.Proofs.Keystore.RoundTrip

/-!
# Writing the files of a key

Writing only adds files: what was there stays, whether all files are written or the ones
that were made are removed again (`write_within`). If it succeeds, the files of the key are
`Stored`, and they stay so whatever else is added (`Stored.within`).

Stored files are listed (`Stored.listed`), and what they decode to is what opening the
keystore with the first line of the password gives (`Stored.decodeSource_eq`).
-/

namespace RemoteSigner

theorem Disk.file_of_readBytes {disk : Disk} {p : FilePath} {bytes : Bytes}
    (h : disk.readBytes p = .ok bytes) : ∃ f, disk.file p = .ok f := by
  obtain ⟨f, hfile, _⟩ := readBytes_eq_ok.mp h
  exact ⟨f, hfile⟩

namespace KeystoreFiles

variable {disk disk₀ : Disk} {medium : Medium} {directory : FilePath} {id : SignerId}
  {keystore : Keystore} {password : String} {keyType : KeyType} {suite : KeySuite}
  {providers : SecretProviders}

/-! ## Only additions -/

theorem clear_within {made : List FilePath} (h : disk₀.Within disk)
    (hmade : ∀ p ∈ made, disk₀.Vacant p) : disk₀.Within (clear made disk) := by
  induction made generalizing disk with
  | nil => exact h
  | cons p rest ih =>
      have hremoved : disk₀.Within ((disk.remove p).toOption.getD disk) := by
        cases hremove : disk.remove p with
        | error e => exact h
        | ok disk' => exact Disk.within_remove h (hmade p List.mem_cons_self) hremove
      exact ih hremoved fun q hq => hmade q (List.mem_cons_of_mem p hq)

theorem vacant_within {p : FilePath} (h : disk₀.Within disk) (hp : disk.Vacant p) :
    disk₀.Vacant p := by
  intro place hplace
  cases hf : disk₀.fileAt? place with
  | none => rfl
  | some f =>
      have hnone := hp place (h.find.mp hplace)
      rw [h.files place f hf] at hnone
      cases hnone

/-- Writing leaves what was there before any of the files was made. If it succeeds, every
file holds its content. -/
theorem writeAll_spec (medium : Medium) {made : List FilePath} (files : List (FilePath × Bytes))
    (h : disk₀.Within disk) (hmade : ∀ p ∈ made, disk₀.Vacant p) :
    disk₀.Within (writeAll medium made files disk).2 ∧
      ((writeAll medium made files disk).1 = .ok () →
        disk.Within (writeAll medium made files disk).2 ∧
          ∀ f ∈ files, (writeAll medium made files disk).2.readBytes f.1 = .ok f.2) := by
  induction files generalizing disk made with
  | nil => exact ⟨h, fun _ => ⟨.refl disk, by simp⟩⟩
  | cons file rest ih =>
      obtain ⟨p, content⟩ := file
      obtain ⟨hwithin, hcreated, hwritten⟩ := Disk.writeNew_spec medium p content disk
      unfold writeAll
      generalize disk.writeNew medium p content = outcome at hwithin hcreated hwritten ⊢
      obtain ⟨result, created, disk'⟩ := outcome
      have hadded : ∀ q ∈ (if created then made ++ [p] else made), disk₀.Vacant q := by
        intro q hq
        cases created with
        | false => exact hmade q hq
        | true =>
            rcases List.mem_append.mp hq with hq | hq
            · exact hmade q hq
            · exact List.mem_singleton.mp hq ▸ vacant_within h (hcreated rfl)
      cases result with
      | error e => exact ⟨clear_within (h.trans hwithin) hadded, fun hok => by cases hok⟩
      | ok _ =>
          obtain ⟨rfl, hread⟩ := hwritten rfl
          obtain ⟨hrest, hall⟩ := ih (h.trans hwithin) hadded
          refine ⟨hrest, fun hok => ?_⟩
          obtain ⟨hlater, hothers⟩ := hall hok
          exact ⟨hwithin.trans hlater, List.forall_mem_cons.mpr ⟨hlater.readBytes hread, hothers⟩⟩

theorem write_within (medium : Medium) (directory : FilePath) (id : SignerId) (keystore : Keystore)
    (password : String) (keyType : KeyType) (disk : Disk) :
    disk.Within (write medium directory id keystore password keyType disk).2 := by
  have hspec : disk.Within (writeAll medium [] _ disk).2 :=
    (writeAll_spec medium (contents directory id keystore password keyType) (.refl disk)
    (by simp)).1
  unfold write
  generalize writeAll medium [] _ disk = outcome at hspec ⊢
  obtain ⟨result, disk'⟩ := outcome
  cases result <;> exact hspec

/-! ## Stored files -/

/-- The files of a key hold a keystore and its password. -/
structure Stored (disk : Disk) (directory : FilePath) (id : SignerId) (keystore : Keystore)
    (password : String) (keyType : KeyType) : Prop where
  keystoreFile : disk.readBytes (path directory id ".json") = .ok (Utf8.encode keystore.toText)
  passwordFile : disk.readBytes (path directory id ".password") = .ok (Utf8.encode password)
  descriptionFile : disk.readBytes (path directory id ".toml") =
    .ok (Utf8.encode (description id keyType).toText)

theorem Stored.within {disk' : Disk} (h : Stored disk directory id keystore password keyType)
    (hwithin : disk.Within disk') : Stored disk' directory id keystore password keyType :=
  ⟨hwithin.readBytes h.keystoreFile, hwithin.readBytes h.passwordFile,
    hwithin.readBytes h.descriptionFile⟩

theorem stored_of_write {written : FilePath}
    (h : (write medium directory id keystore password keyType disk).1 = .ok written) :
    Stored (write medium directory id keystore password keyType disk).2 directory id keystore
      password keyType := by
  have hspec : (writeAll medium [] _ disk).1 = .ok () → _ :=
    (writeAll_spec medium (contents directory id keystore password keyType) (.refl disk)
    (by simp)).2
  unfold write at h ⊢
  generalize writeAll medium [] _ disk = outcome at h hspec ⊢
  obtain ⟨result, disk'⟩ := outcome
  cases result with
  | error e => cases h
  | ok _ =>
      obtain ⟨_, hread⟩ := hspec rfl
      rw [contents, List.forall_mem_cons, List.forall_mem_cons, List.forall_mem_cons] at hread
      exact ⟨hread.1, hread.2.1, hread.2.2.1⟩

theorem readText_of_bytes {p : FilePath} {text : String}
    (h : disk.readBytes p = .ok (Utf8.encode text)) : disk.readText p = .ok text :=
  Disk.readText_eq_ok.mpr ⟨_, h, Utf8.decode?_encode text⟩

theorem password_of_bytes {p : FilePath} {text : String}
    (h : disk.readBytes p = .ok (Utf8.encode text)) : disk.password p =
      if Text.firstLine text = "" then .error (.passwordFile p "password file is empty")
      else .ok (Text.firstLine text) := by
  unfold Disk.password passwordOf
  rw [h]
  simp only [Utf8.decode?_encode, String.isEmpty_iff]

theorem keystore_of_bytes {p : FilePath} (hkeystore : keystore.Storable)
    (h : disk.readBytes p = .ok (Utf8.encode keystore.toText)) :
    disk.keystore p = .ok keystore.restored := by
  unfold Disk.keystore
  rw [readText_of_bytes h]
  exact Keystore.ofText_toText hkeystore

/-! ## Descriptions of keystores -/

/-- A file describes a keystore: it holds a description, and the files that this refers to
hold the keystore and its password. -/
structure Described (disk : Disk) (directory p : FilePath) (keystoreName passwordName : String)
    (keystore : Keystore) (password : String) (keyType : KeyType) : Prop where
  keystoreSimple : Toml.Simple keystoreName
  passwordSimple : Toml.Simple passwordName
  descriptionFile : disk.readBytes p = .ok (Utf8.encode
    (SigningMetadata.toText ⟨.fileKeystore keystoreName passwordName, keyType⟩))
  keystoreFile : disk.readBytes (directory.join keystoreName) = .ok (Utf8.encode keystore.toText)
  passwordFile : disk.readBytes (directory.join passwordName) = .ok (Utf8.encode password)

namespace Described

variable {p : FilePath} {keystoreName passwordName : String}

theorem within {disk' : Disk}
    (h : Described disk directory p keystoreName passwordName keystore password keyType)
    (hwithin : disk.Within disk') :
    Described disk' directory p keystoreName passwordName keystore password keyType :=
  ⟨h.keystoreSimple, h.passwordSimple, hwithin.readBytes h.descriptionFile,
    hwithin.readBytes h.keystoreFile, hwithin.readBytes h.passwordFile⟩

theorem references?_eq
    (h : Described disk directory p keystoreName passwordName keystore password keyType) :
    references? disk directory p =
      some (directory.join keystoreName, directory.join passwordName) := by
  have hdescription : SigningMetadata.ofText p (SigningMetadata.toText
      ⟨.fileKeystore keystoreName passwordName, keyType⟩) = _ :=
    SigningMetadata.ofText_toText p h.keystoreSimple h.passwordSimple
  unfold references?
  rw [readText_of_bytes h.descriptionFile]
  simp only [Except.toOption, Option.bind_eq_bind, Option.bind_some, hdescription]

/-- A description is to be deleted with its files if the keystore declares the key, and not at
all otherwise. -/
theorem doomed_eq_ite
    (h : Described disk directory p keystoreName passwordName keystore password keyType)
    (hkeystore : keystore.Storable) (id : SignerId) :
    doomed disk directory id p = if SignerId.normalize keystore.publicKey = id.text then
      [p, directory.join keystoreName, directory.join passwordName] else [] := by
  have hdeclares : declares disk (directory.join keystoreName) id =
      (SignerId.normalize keystore.publicKey == id.text) := by
    unfold declares
    rw [keystore_of_bytes hkeystore h.keystoreFile]
    rfl
  unfold doomed
  rw [h.references?_eq]
  simp only [hdeclares, beq_iff_eq]

theorem doomed_eq
    (h : Described disk directory p keystoreName passwordName keystore password keyType)
    (hkeystore : keystore.Storable) (hid : SignerId.normalize keystore.publicKey = id.text) :
    doomed disk directory id p =
      [p, directory.join keystoreName, directory.join passwordName] := by
  rw [h.doomed_eq_ite hkeystore, if_pos hid]

/-- A description decodes to the signer of the keystore under the first line of the password,
which must not be empty. -/
theorem decodeSource_eq
    (h : Described disk directory p keystoreName passwordName keystore password keyType)
    (hkeystore : keystore.Storable) :
    disk.decodeSource ⟨suite, providers⟩ directory p =
      .done (if Text.firstLine password = "" then
          .error (.passwordFile (directory.join passwordName) "password file is empty")
        else keystore.toSigner suite (Text.firstLine password) keyType) := by
  have hdescription : SigningMetadata.ofText p (SigningMetadata.toText
      ⟨.fileKeystore keystoreName passwordName, keyType⟩) = _ :=
    SigningMetadata.ofText_toText p h.keystoreSimple h.passwordSimple
  have hopened : disk.keystoreSigner suite (directory.join keystoreName)
      (directory.join passwordName) keyType = if Text.firstLine password = "" then
        .error (.passwordFile (directory.join passwordName) "password file is empty")
      else keystore.toSigner suite (Text.firstLine password) keyType := by
    unfold Disk.keystoreSigner
    rw [password_of_bytes h.passwordFile, keystore_of_bytes hkeystore h.keystoreFile]
    split
    · rfl
    · exact Keystore.toSigner_restored suite keystore _ keyType
  unfold Disk.decodeSource
  rw [readText_of_bytes h.descriptionFile]
  simp only [hdescription]
  exact congrArg Decoding.done hopened

end Described

/-- Stored files are described by the one that is named after the key. -/
theorem Stored.described (h : Stored disk directory id keystore password keyType) :
    Described disk directory (path directory id ".toml") (id.marked ++ ".json")
      (id.marked ++ ".password") keystore password keyType :=
  ⟨SignerId.simple_marked (by decide), SignerId.simple_marked (by decide),
    h.descriptionFile, h.keystoreFile, h.passwordFile⟩

/-- Stored files decode to the signer of the keystore under the first line of the
password, which must not be empty. -/
theorem Stored.decodeSource_eq (h : Stored disk directory id keystore password keyType)
    (hkeystore : keystore.Storable) :
    disk.decodeSource ⟨suite, providers⟩ directory (path directory id ".toml") =
      .done (if Text.firstLine password = "" then
          .error (.passwordFile (path directory id ".password") "password file is empty")
        else keystore.toSigner suite (Text.firstLine password) keyType) :=
  h.described.decodeSource_eq hkeystore

/-- The description of stored files is listed. -/
theorem Stored.listed (h : Stored disk directory id keystore password keyType)
    (hdirectory : directory ≠ "") : ∃ listed modified,
      Loader.list disk directory "toml" = .ok listed ∧
      ⟨path directory id ".toml", modified⟩ ∈ listed := by
  obtain ⟨f, hfile⟩ := Disk.file_of_readBytes h.descriptionFile
  obtain ⟨names, hnames, hmem⟩ := Disk.mem_names_of_file hdirectory
    (SignerId.plain_marked (by decide)) hfile
  obtain ⟨listed, hlisted, hsource⟩ := Loader.mem_list.mpr
    ⟨names, hnames, _, hmem, SignerId.isCandidate_marked id, f, hfile, rfl⟩
  exact ⟨listed, f.modified, hlisted, hsource⟩

end KeystoreFiles

/-- Only the bytes of a password count. -/
theorem Keystore.toSigner_congr {suite : KeySuite} {k : Keystore} {p q : String} {keyType : KeyType}
    (h : Password.bytes p = Password.bytes q) :
    k.toSigner suite p keyType = k.toSigner suite q keyType := by
  unfold toSigner decrypt
  rw [h]

/-- The signer of a keystore that declares a key has it. -/
theorem Keystore.identifier_of_toSigner {suite : KeySuite} {k : Keystore} {password : String}
    {keyType : KeyType} {x : Signer} {id : SignerId} (hid : SignerId.parse k.publicKey = .ok id)
    (h : k.toSigner suite password keyType = .ok x) : x.identifier = id := by
  have hdeclared := (KeystoreFiles.declared_of_toSigner h).resolve_left fun hempty => by
    have hnone : k.publicKey = "" := by simpa using hempty
    rw [hnone] at hid
    cases hid
  exact SignerId.text_inj (hdeclared.symm.trans (SignerId.normalize_of_parse hid))

end RemoteSigner
