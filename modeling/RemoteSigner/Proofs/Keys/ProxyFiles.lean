import RemoteSigner.Proofs.Keys.Proxies
import RemoteSigner.Proofs.Keys.Storing
import RemoteSigner.Proofs.Keystore.Encryption

/-!
# Proxies on disk

Generating a proxy and loading the proxies of a key meet in the files of the proxy: generation
leaves them `Stored` (`stored_of_generate`), and loading finds every proxy whose files are
(`Stored.mem_load`). In between others may write to the disk, as long as the keystore stays as it
is and the password file a text with the same first line (`Stored.kept`).
-/

namespace RemoteSigner

/-- Functions make a signer of the secret that random bytes give. -/
def KeySuite.Draws (suite : KeySuite) (entropy : ProxyEntropy) (keyType : KeyType) (x : Signer) :
    Prop :=
  ∃ secret, suite.newSecret keyType entropy.draws = .ok secret ∧
    suite.signer keyType secret = .ok x

theorem KeySuite.Draws.makes {suite : KeySuite} {entropy : ProxyEntropy} {keyType : KeyType}
    {x : Signer} (h : suite.Draws entropy keyType x) : suite.Makes keyType x := by
  obtain ⟨secret, _, hsigner⟩ := h
  exact ⟨secret, hsigner⟩

namespace ProxyConfig

variable {c : ProxyConfig} {suite : KeySuite} {medium : Medium} {entropy : ProxyEntropy}
  {consensus : SignerId} {keyType : KeyType} {rounds : Nat} {disk later : Disk} {x : Signer}
  {keystore : Keystore} {password : String}

/-- A disk has the files of a proxy: a keystore of it, and the password that opens it. -/
structure Stored (c : ProxyConfig) (suite : KeySuite) (disk : Disk) (consensus : SignerId)
    (keyType : KeyType) (x : Signer) (keystore : Keystore) (password : String) : Prop where
  passwordFile : ∃ text, disk.readText c.passwordFile = .ok text ∧ Text.firstLine text = password
  keystoreFile : disk.readBytes (c.keystorePath consensus keyType x.identifier) =
    .ok (Utf8.encode keystore.toText)
  ne_empty : password ≠ ""
  storable : keystore.Storable
  opens : keystore.toSigner suite password keyType = .ok x

/-! ## Generation -/

/-- What a new proxy is made of. -/
theorem make_ok (h : c.make suite entropy keyType rounds disk = .ok (x, keystore)) :
    ∃ password secret, disk.password c.passwordFile = .ok password ∧
      suite.newSecret keyType entropy.draws = .ok secret ∧
      suite.signer keyType secret = .ok x ∧
      Keystore.encrypt suite entropy.keystore secret password x.identifier.key rounds =
        .ok keystore := by
  obtain ⟨password, hpassword, h⟩ := bind_eq_ok.mp h
  obtain ⟨secret, hsecret, h⟩ := bind_eq_ok.mp h
  obtain ⟨signer, hsigner, h⟩ := bind_eq_ok.mp h
  obtain ⟨k, hencrypt, h⟩ := bind_eq_ok.mp h
  obtain ⟨rfl, rfl⟩ := Prod.mk.inj (pure_eq_ok.mp h)
  exact ⟨password, secret, hpassword, hsecret, hsigner, hencrypt⟩

/-- A keystore that could be stored is in its file, and other files hold what they held. -/
theorem store_ok (h : (c.store medium consensus keyType x keystore disk).1 = .ok ()) :
    (c.store medium consensus keyType x keystore disk).2.readBytes
        (c.keystorePath consensus keyType x.identifier) = .ok (Utf8.encode keystore.toText) ∧
      ∀ path bytes, disk.readBytes path = .ok bytes →
        (c.store medium consensus keyType x keystore disk).2.readBytes path = .ok bytes := by
  unfold store at h ⊢
  cases hcreate : disk.createDirectories (c.keyDirectory consensus keyType) with
  | error e =>
      simp only [hcreate] at h
      cases h
  | ok created =>
      simp only [hcreate] at h ⊢
      obtain ⟨hwithin, _, hwritten⟩ := Disk.writeNew_spec medium
        (c.keystorePath consensus keyType x.identifier) (Utf8.encode keystore.toText) created
      generalize created.writeNew medium _ _ = outcome at h hwithin hwritten ⊢
      obtain ⟨result, fresh, written⟩ := outcome
      cases result with
      | error e => cases h
      | ok _ =>
          exact ⟨(hwritten rfl).2, fun path bytes hread =>
            hwithin.readBytes (Disk.readBytes_createDirectories hcreate hread)⟩

/-- A proxy that could be generated is stored. The numbers of a keystore have 32 bits, and so
have the rounds. -/
theorem stored_of_generate (hrounds : rounds ≤ 4294967295)
    (h : (c.generate suite medium entropy consensus keyType rounds disk).1 = .ok x) :
    suite.Draws entropy keyType x ∧ ∃ keystore password,
      c.Stored suite (c.generate suite medium entropy consensus keyType rounds disk).2 consensus
        keyType x keystore password := by
  unfold generate at h ⊢
  cases hmake : c.make suite entropy keyType rounds disk with
  | error e =>
      simp only [hmake] at h
      cases h
  | ok made =>
      obtain ⟨signer, keystore⟩ := made
      simp only [hmake] at h ⊢
      have hstored : (c.store medium consensus keyType signer keystore disk).1 = .ok () → _ :=
        store_ok
      generalize c.store medium consensus keyType signer keystore disk = outcome at h hstored ⊢
      obtain ⟨result, written⟩ := outcome
      cases result with
      | error e => cases h
      | ok _ =>
          obtain rfl := Except.ok.inj h
          obtain ⟨hkeystore, hothers⟩ := hstored rfl
          obtain ⟨password, secret, hpassword, hsecret, hsigner, hencrypt⟩ := make_ok hmake
          obtain ⟨⟨text, htext, hline⟩, hne⟩ := Disk.password_eq_ok.mp hpassword
          obtain ⟨bytes, hbytes, hdecode⟩ := Disk.readText_eq_ok.mp htext
          have htext' : written.readText c.passwordFile = .ok text :=
            Disk.readText_eq_ok.mpr ⟨bytes, hothers _ _ hbytes, hdecode⟩
          exact ⟨⟨secret, hsecret, hsigner⟩, keystore, password, ⟨text, htext', hline⟩, hkeystore,
            hne, Keystore.storable_of_encrypt hrounds hencrypt,
            Keystore.toSigner_encrypt hsigner hencrypt⟩

/-! ## Loading -/

/-- A key that no directory is named after has no proxies. -/
theorem load_eq_nil (hdirectory : c.directory ≠ "")
    (h : ∀ place ∈ disk.directories, consensus.marked ∉ place) :
    (c.load suite disk consensus).1 = [] := by
  have hnone : ∀ keyType,
      c.resultsIn suite disk (c.keyDirectory consensus keyType) keyType = [] := by
    intro keyType
    unfold resultsIn Disk.names
    cases hfind : disk.find (c.keyDirectory consensus keyType) with
    | error fault => rfl
    | ok place =>
        have hplain : FilePath.Plain keyType.name := by
          cases keyType <;> exact ⟨by decide, by decide, by decide, by decide⟩
        have hmarked : FilePath.Plain consensus.marked := by
          have hbare : FilePath.Plain (consensus.marked ++ "") :=
            SignerId.plain_marked List.not_mem_nil
          rwa [String.append_empty] at hbare
        obtain ⟨base, hbase, _, rfl⟩ :=
          Disk.find_join (FilePath.join_ne_empty _ hmarked.ne_empty) hplain hfind
        obtain ⟨base', _, _, rfl⟩ := Disk.find_join hdirectory hmarked hbase
        have habsent :
            disk.hasDirectoryAt (base' ++ [consensus.marked] ++ [keyType.name]) = false := by
          have hmem : base' ++ [consensus.marked] ++ [keyType.name] ∉ disk.directories :=
            fun hmem => h _ hmem (by simp)
          simpa [Disk.hasDirectoryAt] using hmem
        simp only [habsent]
        rfl
  unfold load results
  rw [hnone, hnone]
  rfl

/-- Where no password can be read no key has proxies. -/
theorem load_of_noPassword {e : KeyError} (h : disk.password c.passwordFile = .error e) :
    (c.load suite disk consensus).1 = [] := by
  have hfailed : ∀ keyType, ∀ result ∈ c.resultsIn suite disk (c.keyDirectory consensus keyType)
      keyType, result = .error e := by
    intro keyType result hresult
    unfold resultsIn at hresult
    split at hresult
    · cases hresult
    · obtain ⟨path, _, rfl⟩ := List.mem_map.mp hresult
      unfold Disk.keystoreSigner
      rw [h]
      rfl
  unfold load
  simp only
  refine List.filterMap_eq_nil_iff.mpr fun result hresult => ?_
  unfold results at hresult
  rcases List.mem_append.mp hresult with hresult | hresult
  · rw [hfailed _ result hresult]
    rfl
  · rw [hfailed _ result hresult]
    rfl

/-- A later disk keeps the files of a proxy: the keystore is as it was, and the password file a
text with the same first line. -/
structure Keeps (c : ProxyConfig) (disk later : Disk) (consensus : SignerId) (keyType : KeyType)
    (proxy : SignerId) : Prop where
  keystore : later.readBytes (c.keystorePath consensus keyType proxy) =
    disk.readBytes (c.keystorePath consensus keyType proxy)
  password : ∃ old new, disk.readText c.passwordFile = .ok old ∧
    later.readText c.passwordFile = .ok new ∧ Text.firstLine new = Text.firstLine old

theorem Stored.kept (h : c.Stored suite disk consensus keyType x keystore password)
    (hkeeps : c.Keeps disk later consensus keyType x.identifier) :
    c.Stored suite later consensus keyType x keystore password where
  passwordFile := by
    obtain ⟨text, htext, hline⟩ := h.passwordFile
    obtain ⟨old, new, hold, hnew, hsame⟩ := hkeeps.password
    obtain rfl := Except.ok.inj (htext.symm.trans hold)
    exact ⟨new, hnew, hsame.trans hline⟩
  keystoreFile := hkeeps.keystore.trans h.keystoreFile
  ne_empty := h.ne_empty
  storable := h.storable
  opens := h.opens

theorem keyDirectory_ne_empty (c : ProxyConfig) (consensus : SignerId) (keyType : KeyType) :
    c.keyDirectory consensus keyType ≠ "" :=
  FilePath.join_ne_empty _ (by cases keyType <;> decide)

theorem isKeystore_marked (proxy : SignerId) : isKeystore (proxy.marked ++ ".json") = true := by
  have hsame : Text.sameIgnoringCase "json" "json" = true := beq_self_eq_true _
  rw [isKeystore, SignerId.extensionOf?_marked proxy rfl (by decide)]
  exact hsame

/-- A load finds a proxy that is stored. -/
theorem Stored.mem_load (h : c.Stored suite disk consensus keyType x keystore password) :
    x ∈ (c.load suite disk consensus).1 := by
  obtain ⟨f, hfile⟩ := Disk.file_of_readBytes h.keystoreFile
  obtain ⟨names, hnames, hlisted⟩ := Disk.mem_names_of_file
    (keyDirectory_ne_empty c consensus keyType) (SignerId.plain_marked (by decide)) hfile
  have hisFile : disk.isFile (c.keystorePath consensus keyType x.identifier) = true := by
    obtain ⟨place, hfind, hat⟩ := Disk.file_eq_ok.mp hfile
    unfold Disk.isFile
    simp only [hfind, hat, Option.isSome_some]
  have hopened : disk.keystoreSigner suite (c.keystorePath consensus keyType x.identifier)
      c.passwordFile keyType = .ok x := by
    have hpassword := Disk.password_eq_ok.mpr ⟨h.passwordFile, h.ne_empty⟩
    have hkeystore := KeystoreFiles.keystore_of_bytes h.storable h.keystoreFile
    have hopens := (Keystore.toSigner_restored suite keystore password keyType).trans h.opens
    exact bind_eq_ok.mpr ⟨password, hpassword, bind_eq_ok.mpr ⟨_, hkeystore, hopens⟩⟩
  have hresult : .ok x ∈ c.resultsIn suite disk (c.keyDirectory consensus keyType) keyType := by
    have hname : x.identifier.marked ++ ".json" ∈ names.filter isKeystore :=
      List.mem_filter.mpr ⟨hlisted, isKeystore_marked x.identifier⟩
    have hpath : c.keystorePath consensus keyType x.identifier ∈
        (names.filter isKeystore).map (c.keyDirectory consensus keyType).join :=
      List.mem_map.mpr ⟨_, hname, rfl⟩
    unfold resultsIn
    rw [hnames]
    exact List.mem_map.mpr ⟨_, List.mem_filter.mpr ⟨hpath, hisFile⟩, hopened⟩
  have hall : .ok x ∈ c.results suite disk consensus := by
    unfold results
    cases keyType with
    | bls => exact List.mem_append_left _ hresult
    | secp256k1 => exact List.mem_append_right _ hresult
  unfold load
  simp only
  exact List.mem_filterMap.mpr ⟨.ok x, hall, rfl⟩

end ProxyConfig

end RemoteSigner
