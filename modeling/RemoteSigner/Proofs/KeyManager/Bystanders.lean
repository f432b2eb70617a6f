import RemoteSigner.Proofs.KeyManager.Imported

/-!
# What deleting a key spares

Deletion takes the files that are needed for the descriptions which tell of the key, and no
others (`delete_taken`). A description of another key is none of these (`doomed_of_decode`), and
decodes as before if all files that it `needs` are left (`decodeSource_of_needs`), so that a
fresh load installs what such descriptions provide (`has_load_left`).

What is needed for one description may be needed for another, too. Hence a key is spared if
some description that provides it shares no file with one that tells of the deleted key
(`delete_spares`); a password that two descriptions refer to goes with the first of the keys
(`sharedPassword_lost`).
-/

namespace RemoteSigner

/-! ## Files that are left -/

namespace Disk

variable {disk disk' : Disk} {path directory : FilePath} {place : Place}

theorem isFile_iff : disk.isFile path = true ↔ ∃ f, disk.file path = .ok f := by
  unfold isFile file
  cases disk.find path with
  | error fault => simp
  | ok place => cases hat : disk.fileAt? place <;> simp [hat]

/-- A file that is left is the one that was there. -/
theorem Within.file_eq (h : disk'.Within disk) (hfile : disk'.isFile path = true) :
    disk'.file path = disk.file path := by
  obtain ⟨f, hf⟩ := isFile_iff.mp hfile
  rw [hf, h.file hf]

theorem Within.readBytes_eq (h : disk'.Within disk) (hfile : disk'.isFile path = true) :
    disk'.readBytes path = disk.readBytes path := by
  unfold Disk.readBytes
  rw [h.file_eq hfile]

theorem Within.readText_eq (h : disk'.Within disk) (hfile : disk'.isFile path = true) :
    disk'.readText path = disk.readText path := by
  unfold Disk.readText
  rw [h.readBytes_eq hfile]

/-- Removing a path takes no file from another place. -/
theorem remove_taken {left : Disk} (h : disk.remove path = .ok left) {f : StoredFile}
    (hat : disk.fileAt? place = some f) :
    left.fileAt? place = some f ∨ disk.find path = .ok place := by
  obtain ⟨target, hfind, _, _, hleft⟩ := fileAt?_of_remove h
  by_cases hplace : place = target
  · exact .inr (by rw [hfind, hplace])
  · exact .inl (by rw [hleft, if_neg hplace, hat])

/-- No name on a disk holds a slash. -/
def Named (disk : Disk) : Prop :=
  ∀ place ∈ disk.files.map (·.1) ++ disk.directories, ∀ name ∈ place, '/' ∉ name.toList

/-- The name of a description leads one step down. -/
theorem Named.plain (h : disk.Named) {names : List String} {name ext : String}
    (hnames : disk.names directory = .ok names) (hname : name ∈ names)
    (hcandidate : Loader.isCandidate ext name = true) : FilePath.Plain name := by
  have hbelow : ∀ base inner, nameBelow? base inner = some name → name ∈ inner := by
    intro base inner hinner
    unfold nameBelow? at hinner
    split at hinner
    · exact List.mem_of_getLast? hinner
    · cases hinner
  refine ⟨?_, ?_, ?_, ?_⟩
  · unfold Disk.names at hnames
    split at hnames
    · cases hnames
    split at hnames
    · obtain rfl := Except.ok.inj hnames
      rcases List.mem_append.mp hname with hname | hname
      · obtain ⟨f, hf, hlast⟩ := List.mem_filterMap.mp hname
        exact h f.1 (List.mem_append_left _ (List.mem_map_of_mem hf)) name (hbelow _ _ hlast)
      · obtain ⟨inner, hinner, hlast⟩ := List.mem_filterMap.mp hname
        exact h inner (List.mem_append_right _ hinner) name (hbelow _ _ hlast)
    · cases hnames
  -- the names that lead nowhere have no extension
  all_goals
    rintro rfl
    simp [Loader.isCandidate, FilePath.extensionOf?] at hcandidate

end Disk

/-- A description in the directory of a load provides a key. -/
def LoadView.Provides (view : LoadView) (s : Source) (key : SignerId) : Prop :=
  (∃ listed, view.listing = .ok listed ∧ s ∈ listed) ∧ (view.decode s).key? = some key

/-- A fresh registry installs what descriptions provide. -/
theorem Registry.has_fresh_load {view : LoadView} {key : SignerId} :
    (Registry.empty.load (some view)).2.snapshot.Has key ↔ ∃ s, view.Provides s key := by
  rw [has_load rfl (by rintro ⟨x, hx, _⟩; cases hx)]
  constructor
  · rintro ⟨listed, hlisted, s, hs, hkey⟩
    exact ⟨s, ⟨listed, hlisted, (Loader.mem_pending.mp hs).1⟩, hkey⟩
  · rintro ⟨s, ⟨listed, hlisted, hs⟩, hkey⟩
    exact ⟨listed, hlisted, s, Loader.mem_pending.mpr ⟨hs, rfl⟩, hkey⟩

namespace KeystoreFiles

variable {disk left : Disk} {directory p : FilePath} {id key : SignerId} {place : Place}
  {f : StoredFile} {shop : Workshop}

/-! ## Files that a description needs -/

/-- The files that are needed to decode a description: its own, and the keystore and the
password that it refers to. -/
def needs (disk : Disk) (directory p : FilePath) : List FilePath :=
  match references? disk directory p with
  | none => [p]
  | some (keystorePath, passwordPath) => [p, keystorePath, passwordPath]

theorem doomed_eq_needs (h : doomed disk directory id p ≠ []) :
    doomed disk directory id p = needs disk directory p := by
  unfold doomed at h ⊢
  unfold needs
  cases href : references? disk directory p with
  | none => simp [href] at h
  | some paths =>
      simp only [href] at h ⊢
      split at h
      · rename_i hdeclares
        rw [if_pos hdeclares]
      · exact absurd rfl h

theorem Described.needs_eq {keystoreName passwordName : String} {keystore : Keystore}
    {password : String} {keyType : KeyType}
    (h : Described disk directory p keystoreName passwordName keystore password keyType) :
    needs disk directory p = [p, directory.join keystoreName, directory.join passwordName] := by
  unfold needs
  rw [h.references?_eq]

/-- A description that decodes provides the key that its keystore declares. -/
theorem Described.identifier_eq {keystoreName passwordName : String} {keystore : Keystore}
    {password : String} {keyType : KeyType} {x : Signer}
    (h : Described disk directory p keystoreName passwordName keystore password keyType)
    (hkeystore : keystore.Storable) (hid : SignerId.parse keystore.publicKey = .ok id)
    (hdecode : disk.decodeSource shop directory p = .done (.ok x)) : x.identifier = id := by
  have hopened := Decoding.done.inj ((h.decodeSource_eq hkeystore).symm.trans hdecode)
  split at hopened
  · cases hopened
  · exact Keystore.identifier_of_toSigner hid hopened

theorem mem_needs_self : p ∈ needs disk directory p := by
  unfold needs
  split <;> exact List.mem_cons_self

theorem needs_of_keystore {text keystoreFile passwordFile : String} {m : SigningMetadata}
    (htext : disk.readText p = .ok text) (hm : SigningMetadata.ofText p text = .ok m)
    (hsource : m.source = .fileKeystore keystoreFile passwordFile) :
    needs disk directory p = [p, directory.join keystoreFile, directory.join passwordFile] := by
  simp [needs, references?, htext, hm, hsource, Except.toOption]

/-- A description decodes as before if all files are left that it needs. -/
theorem decodeSource_of_needs (h : left.Within disk)
    (hneeds : ∀ q ∈ needs disk directory p, left.isFile q = true) :
    left.decodeSource shop directory p = disk.decodeSource shop directory p := by
  have hbytes : ∀ q ∈ needs disk directory p, left.readBytes q = disk.readBytes q :=
    fun q hq => h.readBytes_eq (hneeds q hq)
  unfold Disk.decodeSource
  rw [h.readText_eq (hneeds p mem_needs_self)]
  cases hread : disk.readText p with
  | error fault => rfl
  | ok text =>
      simp only
      cases hm : SigningMetadata.ofText p text with
      | error fault => rfl
      | ok m =>
          simp only [SigningMetadata.signer]
          cases hsource : m.source with
          | fileKeystore keystoreFile passwordFile =>
              rw [needs_of_keystore hread hm hsource] at hbytes
              simp only [Disk.keystoreSigner, Disk.password, Disk.keystore, Disk.readText,
                hbytes (directory.join keystoreFile) (by simp),
                hbytes (directory.join passwordFile) (by simp)]
          | _ => rfl

/-- A description that decodes has all files that it needs. -/
theorem isFile_of_decodeSource {x : Signer}
    (h : disk.decodeSource shop directory p = .done (.ok x)) :
    ∀ q ∈ needs disk directory p, disk.isFile q = true := by
  have hfile : ∀ {q bytes}, disk.readBytes q = .ok bytes → disk.isFile q = true :=
    fun hread => Disk.isFile_iff.mpr (Disk.file_of_readBytes hread)
  have htext : ∀ {q text}, disk.readText q = .ok text → disk.isFile q = true := by
    intro q text hread
    unfold Disk.readText at hread
    split at hread
    · cases hread
    · exact hfile ‹_›
  unfold Disk.decodeSource at h
  cases hread : disk.readText p with
  | error fault =>
      rw [hread] at h
      cases h
  | ok text =>
      simp only [hread] at h
      cases hm : SigningMetadata.ofText p text with
      | error fault => simp [hm] at h
      | ok m =>
          simp only [hm, SigningMetadata.signer] at h
          cases hsource : m.source with
          | fileKeystore keystoreFile passwordFile =>
              rw [hsource] at h
              obtain ⟨password, hpassword, hopened⟩ := bind_eq_ok.mp (Decoding.done.inj h)
              obtain ⟨k, hk, _⟩ := bind_eq_ok.mp hopened
              rw [needs_of_keystore hread hm hsource]
              simp only [List.mem_cons, List.not_mem_nil, or_false]
              rintro q (rfl | rfl | rfl)
              · exact htext hread
              · unfold Disk.keystore at hk
                split at hk
                · cases hk
                · exact htext ‹_›
              · unfold Disk.password passwordOf at hpassword
                split at hpassword
                · cases hpassword
                · exact hfile ‹_›
          | _ =>
              have hneeds : needs disk directory p = [p] := by
                simp [needs, references?, hread, hm, hsource, Except.toOption]
              rw [hneeds]
              simp only [List.mem_singleton]
              rintro q rfl
              exact htext hread

/-- What a description needs that decodes is the same on any disk that has more files. -/
theorem needs_within (h : left.Within disk) {x : Signer}
    (hdecode : left.decodeSource shop directory p = .done (.ok x)) :
    needs left directory p = needs disk directory p := by
  have hread := isFile_of_decodeSource hdecode p mem_needs_self
  unfold needs references?
  rw [h.readText_eq hread]

/-! ## Files that deletion takes -/

/-- A description in a directory tells of a key, so that deletion of the key takes it. -/
def TellsOf (disk : Disk) (directory : FilePath) (id : SignerId) (p : FilePath) : Prop :=
  ∃ names, disk.names directory = .ok names ∧ ∃ name ∈ names, isDescription name = true ∧
    p = directory.join name ∧ doomed disk directory id p ≠ []

theorem removeEach_taken (paths : List FilePath) (hat : disk.fileAt? place = some f) :
    (removeEach paths disk).2.fileAt? place = some f ∨ ∃ q ∈ paths, disk.find q = .ok place := by
  induction paths generalizing disk with
  | nil => exact .inl hat
  | cons path rest ih =>
      unfold removeEach
      cases hremove : disk.remove path with
      | ok left =>
          rcases Disk.remove_taken hremove hat with hleft | htaken
          · rcases ih hleft with hkept | ⟨q, hq, hfind⟩
            · exact .inl hkept
            · have hwithin := (Disk.remove_ok hremove).1
              exact .inr ⟨q, List.mem_cons_of_mem path hq, hwithin.find.mp hfind⟩
          · exact .inr ⟨path, List.mem_cons_self, htaken⟩
      | error e =>
          simp only
          split
          · rcases ih hat with hkept | ⟨q, hq, hfind⟩
            · exact .inl hkept
            · exact .inr ⟨q, List.mem_cons_of_mem path hq, hfind⟩
          · exact .inl hat

theorem deleteEach_taken {paths : List FilePath} {found : Bool}
    (hat : disk.fileAt? place = some f) :
    (deleteEach directory id found paths disk).2.fileAt? place = some f ∨
      ∃ p ∈ paths, ∃ q ∈ doomed disk directory id p, disk.find q = .ok place := by
  induction paths generalizing found disk with
  | nil => exact .inl hat
  | cons path rest ih =>
      -- what is to be deleted later was to be deleted, by the same paths, on the disk before
      have hlater : ∀ {left}, left.Within disk →
          (∃ p ∈ rest, ∃ q ∈ doomed left directory id p, left.find q = .ok place) →
          ∃ p ∈ path :: rest, ∃ q ∈ doomed disk directory id p, disk.find q = .ok place := by
        rintro left hwithin ⟨p, hp, q, hq, hfind⟩
        refine ⟨p, List.mem_cons_of_mem path hp, q, ?_, hwithin.find.mp hfind⟩
        rwa [doomed_eq_of_within hwithin (List.ne_nil_of_mem hq)]
      unfold deleteEach
      split
      · exact (ih hat).imp_right (hlater (.refl disk))
      · have htaken := removeEach_taken (doomed disk directory id path) hat
        have hwithin := (removeEach_spec (doomed disk directory id path) disk).1
        generalize removeEach (doomed disk directory id path) disk = r at htaken hwithin ⊢
        obtain ⟨result, left⟩ := r
        rcases htaken with hleft | ⟨q, hq, hfind⟩
        · cases result with
          | error e => exact .inl hleft
          | ok _ => exact (ih hleft).imp_right (hlater hwithin)
        · exact .inr ⟨path, List.mem_cons_self, q, hq, hfind⟩

/-- Deletion takes the files that descriptions need which tell of the key. -/
theorem delete_taken (directory : FilePath) (id : SignerId) (hat : disk.fileAt? place = some f) :
    (delete directory id disk).2.fileAt? place = some f ∨
      ∃ p, TellsOf disk directory id p ∧
        ∃ q ∈ needs disk directory p, disk.find q = .ok place := by
  unfold delete
  cases hnames : disk.names directory with
  | error e => exact .inl hat
  | ok names =>
      refine (deleteEach_taken hat).imp_right fun ⟨p, hp, q, hq, hfind⟩ => ?_
      obtain ⟨name, hname, rfl⟩ := List.mem_map.mp hp
      obtain ⟨hlisted, hdescription⟩ := List.mem_filter.mp hname
      have hsome := List.ne_nil_of_mem hq
      exact ⟨_, ⟨names, hnames, name, hlisted, hdescription, rfl, hsome⟩, q,
        doomed_eq_needs hsome ▸ hq, hfind⟩

/-- A description that provides a key is not to be deleted for any other. -/
theorem doomed_of_decode {x : Signer} (hid : id.key ≠ [])
    (hother : x.identifier ≠ id) (hdecode : disk.decodeSource shop directory p = .done (.ok x)) :
    doomed disk directory id p = [] := by
  rw [doomed_eq_nil]
  intro keystorePath passwordPath href
  obtain ⟨k, hk, hdeclared⟩ := declared_of_decode href hdecode
  rw [← Bool.not_eq_true, declares_iff]
  rintro ⟨k', hk', hkey⟩
  obtain rfl := Except.ok.inj (hk.symm.trans hk')
  rcases hdeclared with hempty | hsame
  · -- a keystore that declares no key would only declare one without bytes
    have hnone : k.publicKey = "" := by simpa using hempty
    have htext : SignerId.text ⟨[]⟩ = id.text := by
      rw [← hkey, hnone, SignerId.normalize, SignerId.strip_digits (by simp [Text.lower])]
      rfl
    exact hid (congrArg SignerId.key (SignerId.text_inj htext)).symm
  · exact hother (SignerId.text_inj (hsame.symm.trans hkey))

/-- Two descriptions need a file at the same place. -/
def Share (disk : Disk) (directory p p' : FilePath) : Prop :=
  ∃ q ∈ needs disk directory p, ∃ q' ∈ needs disk directory p', ∃ place,
    disk.find q = .ok place ∧ disk.find q' = .ok place

/-- A fresh load after a deletion installs what descriptions provide of which all files that
they need are left. -/
theorem has_load_left (hnamed : disk.Named) (hwithin : left.Within disk) {config : LoaderConfig}
    {proxies : Option ProxyConfig} :
    (Registry.empty.load (some (LoadView.ofDisk shop config proxies left))).2.snapshot.Has key ↔
      ∃ s, (LoadView.ofDisk shop config proxies disk).Provides s key ∧
        ∀ q ∈ needs disk config.directory s.path, left.isFile q = true := by
  rw [Registry.has_fresh_load]
  refine exists_congr fun s => ?_
  unfold LoadView.Provides
  simp only [LoadView.ofDisk, Loader.mem_list]
  constructor
  · -- what decodes with fewer files decodes with more, and has what it needs
    rintro ⟨⟨names, hnames, name, hname, hcandidate, f, hf, rfl⟩, hkey⟩
    obtain ⟨x, hdone, hx⟩ := Registry.done_of_key? hkey
    obtain ⟨names', hnames', hsub⟩ := hwithin.names hnames
    have hdone' := hwithin.decodeSource hdone
    refine ⟨⟨⟨names', hnames', name, hsub name hname, hcandidate, f, hwithin.file hf, rfl⟩, ?_⟩, ?_⟩
    · rw [hdone']
      exact congrArg some hx
    · rw [← needs_within hwithin hdone]
      exact isFile_of_decodeSource hdone
  · -- the description is left, so the directory still lists it
    rintro ⟨⟨⟨names, hnames, name, hname, hcandidate, f, hf, rfl⟩, hkey⟩, hneeds⟩
    have hleft : left.file (config.directory.join name) = .ok f :=
      (hwithin.file_eq (hneeds _ mem_needs_self)).trans hf
    have hdirectory : config.directory ≠ "" := by
      intro hempty
      rw [hempty] at hnames
      cases hnames
    obtain ⟨names', hnames', hname'⟩ :=
      Disk.mem_names_of_file hdirectory (hnamed.plain hnames hname hcandidate) hleft
    exact ⟨⟨names', hnames', name, hname', hcandidate, f, hleft, rfl⟩,
      by rwa [decodeSource_of_needs hwithin hneeds]⟩

/-- What deleting a key spares. All files stay but those that descriptions need which tell of
the key; a fresh load installs what those descriptions provide of which all files stay that
they need; and so a key other than the deleted one is installed if some description that
provides it shares no file with another one that tells of the deleted key. -/
theorem delete_spares (hnamed : disk.Named) (id : SignerId) (hid : id.key ≠ [])
    (shop : Workshop) (config : LoaderConfig) (proxies : Option ProxyConfig) :
    let left := (delete config.directory id disk).2
    let before := LoadView.ofDisk shop config proxies disk
    let after := (Registry.empty.load (some (LoadView.ofDisk shop config proxies left))).2
    (∀ place f, disk.fileAt? place = some f → left.fileAt? place = some f ∨
        ∃ p, TellsOf disk config.directory id p ∧
          ∃ q ∈ needs disk config.directory p, disk.find q = .ok place) ∧
      (∀ key, after.snapshot.Has key ↔ ∃ s, before.Provides s key ∧
        ∀ q ∈ needs disk config.directory s.path, left.isFile q = true) ∧
      ∀ key s, key ≠ id → before.Provides s key →
        (∀ p, p ≠ s.path → TellsOf disk config.directory id p →
          ¬ Share disk config.directory s.path p) →
        after.snapshot.Has key := by
  intro left before after
  have hwithin : left.Within disk := (delete_clears config.directory id disk).1
  have htaken : ∀ place f, disk.fileAt? place = some f → left.fileAt? place = some f ∨
      ∃ p, TellsOf disk config.directory id p ∧
        ∃ q ∈ needs disk config.directory p, disk.find q = .ok place :=
    fun _ _ => delete_taken config.directory id
  refine ⟨htaken, fun key => has_load_left hnamed hwithin, fun key s hother hprovides hapart => ?_⟩
  refine (has_load_left hnamed hwithin).mpr ⟨s, hprovides, fun q hq => ?_⟩
  obtain ⟨x, hdone, rfl⟩ := Registry.done_of_key? hprovides.2
  obtain ⟨f, hf⟩ := Disk.isFile_iff.mp (isFile_of_decodeSource hdone q hq)
  obtain ⟨place, hfind, hat⟩ := Disk.file_eq_ok.mp hf
  rcases htaken place f hat with hleft | ⟨p, htells, q', hq', hfind'⟩
  · exact Disk.isFile_iff.mpr ⟨f, Disk.file_eq_ok.mpr ⟨place, hwithin.find.mpr hfind, hleft⟩⟩
  · by_cases hown : p = s.path
    · -- the description itself is of another key
      subst hown
      obtain ⟨_, _, _, _, _, _, hdoomed⟩ := htells
      exact absurd (doomed_of_decode hid hother hdone) hdoomed
    · exact absurd ⟨q, hq, q', hq', place, hfind, hfind'⟩ (hapart p hown htells)

/-! ## Two keys -/

open Custody (plainKeystore plainSuite rootView storable_plainKeystore)

/-- A keystore of the secret `02`. -/
def otherKeystore : Keystore :=
  { plainKeystore with
    cipher := ⟨"aes-128-ctr", Hex.encode (List.replicate 16 0), "02"⟩
    publicKey := "02" }

theorem storable_otherKeystore : otherKeystore.Storable :=
  ⟨⟨by decide, by decide⟩, ⟨by decide, trivial⟩, rfl⟩

/-- The root with a description of each keystore. The first has the password file
`a.password`, the second that of a name. -/
def pairDisk (passwordName : String) : Disk :=
  ⟨[(["a.toml"], ⟨Utf8.encode
      (SigningMetadata.toText ⟨.fileKeystore "a.json" "a.password", .bls⟩), 1⟩),
    (["a.json"], ⟨Utf8.encode plainKeystore.toText, 1⟩),
    (["a.password"], ⟨Utf8.encode "pw", 1⟩),
    (["b.toml"], ⟨Utf8.encode
      (SigningMetadata.toText ⟨.fileKeystore "b.json" passwordName, .bls⟩), 1⟩),
    (["b.json"], ⟨Utf8.encode otherKeystore.toText, 1⟩),
    (["b.password"], ⟨Utf8.encode "pw", 1⟩)], [], [], 2⟩

theorem named_pairDisk (passwordName : String) : (pairDisk passwordName).Named := by
  unfold Disk.Named
  simp only [pairDisk, List.map_cons, List.map_nil]
  decide

theorem described_first (passwordName : String) : Described (pairDisk passwordName) "/" "/a.toml"
    "a.json" "a.password" plainKeystore "pw" .bls :=
  ⟨by decide, by decide, rfl, rfl, rfl⟩

/-- Where the second description has a password file, it provides its key. -/
theorem provides_second {passwordName : String}
    (h : Described (pairDisk passwordName) "/" "/b.toml" "b.json" passwordName otherKeystore "pw"
      .bls) : (rootView (pairDisk passwordName)).Provides ⟨"/b.toml", 1⟩ ⟨[2]⟩ := by
  have hlisted : ∃ listed, Loader.list (pairDisk passwordName) "/" "toml" = .ok listed ∧
      ⟨"/b.toml", 1⟩ ∈ listed :=
    Loader.mem_list.mpr ⟨["a.toml", "a.json", "a.password", "b.toml", "b.json", "b.password"],
      rfl, "b.toml", by decide, by decide, _, rfl, rfl⟩
  have hdecode : (rootView (pairDisk passwordName)).decode ⟨"/b.toml", 1⟩ = _ :=
    h.decodeSource_eq storable_otherKeystore
  have hline : Text.firstLine "pw" = "pw" := by decide
  have hopened : (Decoding.done (otherKeystore.toSigner plainSuite "pw" .bls)).key? =
      some ⟨[2]⟩ := by
    decide +kernel
  refine ⟨hlisted, ?_⟩
  rw [hdecode, hline, if_neg (by decide)]
  exact hopened

/-- The two descriptions are all there are. -/
theorem description_pairDisk {passwordName name : String} {names : List String}
    (hnames : (pairDisk passwordName).names "/" = .ok names) (hname : name ∈ names)
    (h : isDescription name = true) : name = "a.toml" ∨ name = "b.toml" := by
  have hall : ∀ name ∈ ["a.toml", "a.json", "a.password", "b.toml", "b.json", "b.password"],
      isDescription name = true → name = "a.toml" ∨ name = "b.toml" := by
    decide
  obtain rfl : _ = names := Except.ok.inj hnames
  exact hall name hname h

/-- A key with files of its own is spared. -/
theorem ownFiles_spared :
    let left := (delete "/" ⟨[1]⟩ (pairDisk "b.password")).2
    (Registry.empty.load (some (rootView left))).2.snapshot.Has ⟨[2]⟩ := by
  have hdescribed : Described (pairDisk "b.password") "/" "/b.toml" "b.json" "b.password"
      otherKeystore "pw" .bls :=
    ⟨by decide, by decide, rfl, rfl, rfl⟩
  have hspares := delete_spares (named_pairDisk "b.password") ⟨[1]⟩ (by decide)
    ⟨plainSuite, .standard⟩ (.of "/") none
  refine hspares.2.2 ⟨[2]⟩ ⟨"/b.toml", 1⟩ (by decide) (provides_second hdescribed)
    fun p hp ⟨names, hnames, name, hname, hdescription, hpath, _⟩ => ?_
  obtain rfl : p = "/a.toml" := by
    rcases description_pairDisk hnames hname hdescription with rfl | rfl
    · exact hpath
    · exact absurd hpath hp
  have hapart : ∀ q ∈ ["/b.toml", FilePath.join "/" "b.json", FilePath.join "/" "b.password"],
      ∀ q' ∈ ["/a.toml", FilePath.join "/" "a.json", FilePath.join "/" "a.password"],
        ((pairDisk "b.password").find q).toOption ≠ ((pairDisk "b.password").find q').toOption := by
    decide
  rintro ⟨q, hq, q', hq', place, hfind, hfind'⟩
  exact hapart q (hdescribed.needs_eq ▸ hq) q' ((described_first "b.password").needs_eq ▸ hq')
    (by rw [hfind, hfind'])

/-- A key that shares its password file with the deleted one is gone. -/
theorem sharedPassword_lost :
    let left := (delete "/" ⟨[1]⟩ (pairDisk "a.password")).2
    (Registry.empty.load (some (rootView (pairDisk "a.password")))).2.snapshot.Has ⟨[2]⟩ ∧
      ¬ (Registry.empty.load (some (rootView left))).2.snapshot.Has ⟨[2]⟩ := by
  intro left
  have hdescribed : Described (pairDisk "a.password") "/" "/b.toml" "b.json" "a.password"
      otherKeystore "pw" .bls :=
    ⟨by decide, by decide, rfl, rfl, rfl⟩
  refine ⟨Registry.has_fresh_load.mpr ⟨_, provides_second hdescribed⟩, fun hhas => ?_⟩
  obtain ⟨s, hprovides, hneeds⟩ := (has_load_left (named_pairDisk "a.password")
    (delete_clears "/" ⟨[1]⟩ (pairDisk "a.password")).1).mp hhas
  have hlisted : ∃ listed, Loader.list (pairDisk "a.password") "/" "toml" = .ok listed ∧
      s ∈ listed := hprovides.1
  obtain ⟨names, hnames, name, hname, hcandidate, f, _, rfl⟩ := Loader.mem_list.mp hlisted
  rcases description_pairDisk hnames hname (Bool.and_eq_true_iff.mp hcandidate).2 with rfl | rfl
  · -- the first description provides the other key
    obtain ⟨x, hdone, hx⟩ := Registry.done_of_key? hprovides.2
    have hfirst : x.identifier = ⟨[1]⟩ :=
      (described_first "a.password").identifier_eq storable_plainKeystore rfl hdone
    exact absurd (hfirst.symm.trans hx) (by decide)
  · have hpassword : "/a.password" ∈ needs (pairDisk "a.password") "/" "/b.toml" := by
      rw [hdescribed.needs_eq]
      decide
    obtain ⟨g, hg⟩ := Disk.isFile_iff.mp (hneeds "/a.password" hpassword)
    have hdoomed : doomed (pairDisk "a.password") "/" ⟨[1]⟩ "/a.toml" =
        ["/a.toml", "/a.json", "/a.password"] :=
      (described_first "a.password").doomed_eq storable_plainKeystore
        (SignerId.normalize_of_parse rfl)
    have hremoved : (removeEach ["/a.toml", "/a.json", "/a.password"]
        (pairDisk "a.password")).1.isOk = true := by
      decide
    have hpaths : (names.filter isDescription).map (FilePath.join "/") =
        ["/a.toml", "/b.toml"] := by
      obtain rfl : _ = names := Except.ok.inj hnames
      decide
    exact delete_first hnames hpaths (by rwa [hdoomed]) "/a.password" (by rw [hdoomed]; decide) g hg

end KeystoreFiles

end RemoteSigner
