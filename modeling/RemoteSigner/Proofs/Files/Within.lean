import RemoteSigner.Keys.Source
import RemoteSigner.Proofs.Lists
import RemoteSigner.Proofs.Outcome

/-!
# Disks within disks

A disk is `Within` another that has the same directories and at least its files, as
they are. Removing files leaves a disk within the one before (`remove_ok`), and a
disk is within what it becomes when files are added.

What succeeds on a disk succeeds on every disk that it is within, with the same
result: finding a place, reading a file, a keystore, a description
(`Within.decodeSource`), and a directory has at least the names it had
(`Within.names`).
-/

namespace RemoteSigner.Disk

/-- Another disk has the same directories and at least the files, as they are. -/
structure Within (disk disk' : Disk) : Prop where
  directories : disk.directories = disk'.directories
  current : disk.current = disk'.current
  files : ∀ place f, disk.fileAt? place = some f → disk'.fileAt? place = some f

variable {disk disk' disk'' : Disk} {path : FilePath} {place : Place}

theorem Within.refl (disk : Disk) : disk.Within disk :=
  ⟨rfl, rfl, fun _ _ h => h⟩

theorem Within.trans (h : disk.Within disk') (h' : disk'.Within disk'') : disk.Within disk'' :=
  ⟨h.directories.trans h'.directories, h.current.trans h'.current,
    fun place f hf => h'.files place f (h.files place f hf)⟩

/-! ## Places -/

theorem Within.hasDirectoryAt (h : disk.Within disk') (place : Place) :
    disk.hasDirectoryAt place = disk'.hasDirectoryAt place := by
  unfold Disk.hasDirectoryAt
  rw [h.directories]

/-- Where names lead depends on directories only. -/
theorem Within.follow (h : disk.Within disk') {names : List String} {target : Place} :
    disk.follow place names = .ok target ↔ disk'.follow place names = .ok target := by
  induction names generalizing place with
  | nil => exact Iff.rfl
  | cons name rest ih =>
      unfold Disk.follow
      rw [h.hasDirectoryAt place]
      split
      · simp
      · split
        · exact ih
        · split
          · exact ih
          · split
            · exact Iff.rfl
            · exact ih

theorem Within.find (h : disk.Within disk') :
    disk.find path = .ok place ↔ disk'.find path = .ok place := by
  unfold Disk.find
  rw [h.current]
  split
  · exact Iff.rfl
  · split
    · exact Iff.rfl
    · split
      · exact Iff.rfl
      · exact h.follow

theorem file_eq_ok {f : StoredFile} :
    disk.file path = .ok f ↔ ∃ place, disk.find path = .ok place ∧ disk.fileAt? place = some f := by
  unfold file
  cases hfind : disk.find path with
  | error fault => simp
  | ok place => cases hfile : disk.fileAt? place <;> simp [hfile]

/-! ## Reading -/

theorem readBytes_eq_ok {bytes : Bytes} :
    disk.readBytes path = .ok bytes ↔ ∃ f, disk.file path = .ok f ∧ f.content = bytes := by
  unfold readBytes
  cases disk.file path <;> simp [Except.map]

theorem readText_eq_ok {text : String} : disk.readText path = .ok text ↔
    ∃ bytes, disk.readBytes path = .ok bytes ∧ Utf8.decode? bytes = some text := by
  unfold readText
  cases disk.readBytes path with
  | error e => simp
  | ok bytes => cases hdecode : Utf8.decode? bytes <;> simp [hdecode]

/-- A password is read from a text, whose first line it is. -/
theorem password_eq_ok {password : String} : disk.password path = .ok password ↔
    (∃ text, disk.readText path = .ok text ∧ Text.firstLine text = password) ∧ password ≠ "" := by
  unfold Disk.password passwordOf readText
  cases disk.readBytes path with
  | error e => simp
  | ok bytes =>
      cases hdecode : Utf8.decode? bytes with
      | none => simp [hdecode]
      | some text =>
          simp only [hdecode, Except.ok.injEq, exists_eq_left', String.isEmpty_iff]
          by_cases hempty : Text.firstLine text = ""
          · rw [if_pos hempty]
            refine iff_of_false (fun h => by cases h) ?_
            rintro ⟨rfl, hne⟩
            exact hne hempty
          · rw [if_neg hempty, Except.ok.injEq]
            exact ⟨fun h => ⟨h, h ▸ hempty⟩, And.left⟩

namespace Within

theorem file (h : disk.Within disk') {f : StoredFile} (hf : disk.file path = .ok f) :
    disk'.file path = .ok f := by
  obtain ⟨place, hfind, hat⟩ := file_eq_ok.mp hf
  exact file_eq_ok.mpr ⟨place, h.find.mp hfind, h.files place f hat⟩

theorem readBytes (h : disk.Within disk') {bytes : Bytes}
    (hread : disk.readBytes path = .ok bytes) :
    disk'.readBytes path = .ok bytes := by
  obtain ⟨f, hf, hcontent⟩ := readBytes_eq_ok.mp hread
  exact readBytes_eq_ok.mpr ⟨f, h.file hf, hcontent⟩

theorem readText (h : disk.Within disk') {text : String} (hread : disk.readText path = .ok text) :
    disk'.readText path = .ok text := by
  obtain ⟨bytes, hbytes, hdecode⟩ := readText_eq_ok.mp hread
  exact readText_eq_ok.mpr ⟨bytes, h.readBytes hbytes, hdecode⟩

theorem password (h : disk.Within disk') {text : String} (hread : disk.password path = .ok text) :
    disk'.password path = .ok text := by
  obtain ⟨⟨whole, hwhole, hline⟩, hne⟩ := password_eq_ok.mp hread
  exact password_eq_ok.mpr ⟨⟨whole, h.readText hwhole, hline⟩, hne⟩

theorem keystore (h : disk.Within disk') {k : Keystore} (hread : disk.keystore path = .ok k) :
    disk'.keystore path = .ok k := by
  unfold Disk.keystore at hread ⊢
  cases htext : disk.readText path with
  | error fault =>
      rw [htext] at hread
      cases hread
  | ok text =>
      rw [h.readText htext]
      exact htext ▸ hread

theorem keystoreSigner (h : disk.Within disk') {suite : KeySuite} {passwordPath : FilePath}
    {keyType : KeyType} {x : Signer}
    (hread : disk.keystoreSigner suite path passwordPath keyType = .ok x) :
    disk'.keystoreSigner suite path passwordPath keyType = .ok x := by
  obtain ⟨password, hpassword, hread⟩ := bind_eq_ok.mp hread
  obtain ⟨k, hk, hread⟩ := bind_eq_ok.mp hread
  exact bind_eq_ok.mpr ⟨password, h.password hpassword, bind_eq_ok.mpr ⟨k, h.keystore hk, hread⟩⟩

/-- A description that can be decoded still can be. -/
theorem decodeSource (h : disk.Within disk') {shop : Workshop} {base : FilePath} {x : Signer}
    (hread : disk.decodeSource shop base path = .done (.ok x)) :
    disk'.decodeSource shop base path = .done (.ok x) := by
  unfold Disk.decodeSource at hread ⊢
  cases htext : disk.readText path with
  | error fault =>
      rw [htext] at hread
      cases hread
  | ok text =>
      simp only [htext, h.readText htext] at hread ⊢
      cases hm : SigningMetadata.ofText path text with
      | error fault => simp [hm] at hread
      | ok m =>
          simp only [hm] at hread ⊢
          unfold SigningMetadata.signer at hread ⊢
          cases hsource : m.source with
          | fileKeystore keystoreFile passwordFile =>
              simp only [hsource, Decoding.done.injEq] at hread ⊢
              exact h.keystoreSigner hread
          | _ =>
              simp only [hsource] at hread ⊢
              exact hread

/-- A directory has the names it had. -/
theorem names (h : disk.Within disk') {names : List String} (hnames : disk.names path = .ok names) :
    ∃ names', disk'.names path = .ok names' ∧ ∀ name ∈ names, name ∈ names' := by
  unfold Disk.names at hnames ⊢
  cases hfind : disk.find path with
  | error fault =>
      rw [hfind] at hnames
      cases hnames
  | ok place =>
      simp only [hfind, h.find.mp hfind, h.hasDirectoryAt place, h.directories] at hnames ⊢
      split at hnames
      · rename_i hdirectory
        obtain rfl := Except.ok.inj hnames
        rw [if_pos hdirectory]
        refine ⟨_, rfl, fun name hname => ?_⟩
        rcases List.mem_append.mp hname with hname | hname
        · -- the file is found at its place, so it is there as well
          obtain ⟨⟨inner, f⟩, hentry, hbelow⟩ := List.mem_filterMap.mp hname
          have hsome : (disk.fileAt? inner).isSome = true :=
            List.lookup_isSome_iff.mpr ⟨(inner, f), hentry, by simp⟩
          obtain ⟨g, hg⟩ := Option.isSome_iff_exists.mp hsome
          obtain ⟨entry, hentry', hplace⟩ := List.lookup_isSome_iff.mp
            (Option.isSome_iff_exists.mpr ⟨g, h.files inner g hg⟩)
          refine List.mem_append_left _ (List.mem_filterMap.mpr ⟨entry, hentry', ?_⟩)
          rw [← eq_of_beq hplace]
          exact hbelow
        · exact List.mem_append_right _ hname
      · cases hnames

end Within

/-! ## Removing -/

theorem fileAt?_remove {files : List (Place × StoredFile)} (other : Place) :
    (files.filter fun f => f.1 ≠ place).lookup other =
      if other = place then none else files.lookup other :=
  lookup_filter_key (by simp) files other

/-- Removing a path takes the file at its place, and nothing else. -/
theorem fileAt?_of_remove (h : disk.remove path = .ok disk') :
    ∃ place, disk.find path = .ok place ∧ disk'.directories = disk.directories ∧
      disk'.current = disk.current ∧
      ∀ other, disk'.fileAt? other = if other = place then none else disk.fileAt? other := by
  unfold remove at h
  cases hfind : disk.find path with
  | error fault =>
      rw [hfind] at h
      cases h
  | ok place =>
      simp only [hfind] at h
      split at h
      · obtain rfl := Except.ok.inj h
        exact ⟨place, rfl, rfl, rfl, fileAt?_remove⟩
      · cases h

/-- A removed file is gone, and the others stay. -/
theorem remove_ok (h : disk.remove path = .ok disk') :
    disk'.Within disk ∧ ∀ f, disk'.file path ≠ .ok f := by
  obtain ⟨place, hfind, hdirectories, hcurrent, hleft⟩ := fileAt?_of_remove h
  have hwithin : disk'.Within disk := by
    refine ⟨hdirectories, hcurrent, fun other f hf => ?_⟩
    rw [hleft] at hf
    split at hf
    · cases hf
    · exact hf
  refine ⟨hwithin, fun f hf => ?_⟩
  obtain ⟨place', hfind', hat⟩ := file_eq_ok.mp hf
  obtain rfl := Except.ok.inj ((hwithin.find.mp hfind').symm.trans hfind)
  rw [hleft, if_pos rfl] at hat
  cases hat

/-- A file can be removed. -/
theorem remove_of_file {f : StoredFile} (h : disk.file path = .ok f) :
    ∃ disk', disk.remove path = .ok disk' := by
  obtain ⟨place, hfind, hat⟩ := file_eq_ok.mp h
  unfold remove
  simp [hfind, hat]

end RemoteSigner.Disk
