import RemoteSigner.Proofs.Files.Gains
import RemoteSigner.Proofs.Keys.Storing

/-!
# Undoing what was written

Writing the files of a key adds all of them, or fails and leaves the disk as it was
(`write_adds`): removing what was made so far takes back exactly that (`clear_alike`).

Deleting the key then takes the files back, too, if no other description in the directory
tells of the key once they are written (`Alone`): deletion finds the description that was
written by the keystore that was written with it (`delete_alike`). Both together are
`write_undone`.
-/

namespace RemoteSigner.KeystoreFiles

open Disk (Gains Alike Adds)

variable {disk disk₀ written : Disk} {medium : Medium} {directory : FilePath} {id : SignerId}
  {keystore : Keystore} {password : String} {keyType : KeyType}
  {new : List (Place × StoredFile)}

/-! ## Files that were made -/

theorem clear_alike {made : List FilePath} (h : disk₀.Gains disk new)
    (hmade : List.Forall₂ (fun p f => disk₀.find p = .ok f.1) made new) :
    disk₀.Alike (clear made disk) := by
  induction hmade generalizing disk with
  | nil => exact Disk.gains_nil.mp h
  | cons hp _ ih =>
      -- the file is found where it was to be, and removing it leaves the gain of the others
      obtain ⟨left, hremove, hleft⟩ := Gains.remove [] h hp
      unfold clear
      rw [List.foldl_cons, hremove]
      exact ih hleft

/-- Writing files adds them to those that were made, or leaves none of them. -/
theorem writeAll_gains (medium : Medium) {made : List FilePath} (files : List (FilePath × Bytes))
    (h : disk₀.Gains disk new)
    (hmade : List.Forall₂ (fun p f => disk₀.find p = .ok f.1) made new) :
    (∀ e, (writeAll medium made files disk).1 = .error e →
        disk₀.Alike (writeAll medium made files disk).2) ∧
      ((writeAll medium made files disk).1 = .ok () →
        ∃ more, disk₀.Gains (writeAll medium made files disk).2 (new ++ more) ∧
          List.Forall₂ (fun file f => disk₀.find file.1 = .ok f.1 ∧ f.2.content = file.2)
            files more) := by
  induction files generalizing disk made new with
  | nil => exact ⟨fun _ h => (by cases h), fun _ => ⟨[], by rwa [List.append_nil], .nil⟩⟩
  | cons file rest ih =>
      obtain ⟨p, content⟩ := file
      obtain ⟨hrefused, hcreated⟩ := Disk.writeNew_gains medium p content disk
      unfold writeAll
      generalize disk.writeNew medium p content = outcome at hrefused hcreated ⊢
      obtain ⟨result, created, disk'⟩ := outcome
      cases created with
      | false =>
          obtain ⟨hfailed, hsame⟩ := hrefused rfl
          obtain rfl : disk' = disk := hsame
          cases result with
          | ok _ => exact absurd rfl hfailed
          | error e => exact ⟨fun _ _ => clear_alike h hmade, fun h => by cases h⟩
      | true =>
          -- the file counts as made also where its content could not be written
          obtain ⟨place, f, hfind, hgained, hcontent⟩ := hcreated rfl
          have hfind₀ : disk₀.find p = .ok place := h.within.find.mpr hfind
          have hmade' : List.Forall₂ (fun p f => disk₀.find p = .ok f.1) (made ++ [p])
              (new ++ [(place, f)]) :=
            List.rel_append hmade (.cons hfind₀ .nil)
          cases result with
          | error e => exact ⟨fun _ _ => clear_alike (h.trans hgained) hmade', fun h => by cases h⟩
          | ok _ =>
              obtain ⟨hnone, hall⟩ := ih (h.trans hgained) hmade'
              refine ⟨hnone, fun hok => ?_⟩
              obtain ⟨more, hmore, hfiles⟩ := hall hok
              rw [List.append_assoc] at hmore
              exact ⟨_, hmore, .cons ⟨hfind₀, hcontent rfl⟩ hfiles⟩

/-- Writing the files of a key adds all of them, or none. -/
theorem write_adds (medium : Medium) (directory : FilePath) (id : SignerId) (keystore : Keystore)
    (password : String) (keyType : KeyType) (disk : Disk) :
    let outcome := write medium directory id keystore password keyType disk
    (∀ e, outcome.1 = .error e → disk.Alike outcome.2) ∧
      ∀ p, outcome.1 = .ok p →
        disk.Adds outcome.2 (contents directory id keystore password keyType) := by
  intro outcome
  obtain ⟨hnone, hall⟩ := writeAll_gains medium (contents directory id keystore password keyType)
    (Disk.gains_nil.mpr (.refl disk)) .nil
  simp only [outcome]
  unfold write
  generalize writeAll medium [] _ disk = r at hnone hall ⊢
  obtain ⟨result, disk'⟩ := r
  cases result with
  | error e => exact ⟨fun _ _ => hnone e rfl, fun _ h => by cases h⟩
  | ok _ => exact ⟨fun _ h => (by cases h), fun _ _ => hall rfl⟩

/-- In a directory no description but that of its own files tells of a key. -/
def Alone (disk : Disk) (directory : FilePath) (id : SignerId) : Prop :=
  ∀ names, disk.names directory = .ok names → ∀ name ∈ names, isDescription name = true →
    name ≠ id.marked ++ ".toml" → doomed disk directory id (directory.join name) = []

/-- The stored files of a key are what is to be deleted for their description. -/
theorem Stored.doomed_eq (h : Stored disk directory id keystore password keyType)
    (hkeystore : keystore.Storable) (hid : SignerId.normalize keystore.publicKey = id.text) :
    doomed disk directory id (path directory id ".toml") =
      [path directory id ".toml", path directory id ".json", path directory id ".password"] :=
  h.described.doomed_eq hkeystore hid

/-- Descriptions for which there is nothing to delete are passed over. -/
theorem deleteEach_skip {paths : List FilePath} (h : ∀ p ∈ paths, doomed disk directory id p = [])
    (more : List FilePath) (found : Bool) :
    deleteEach directory id found (paths ++ more) disk =
      deleteEach directory id found more disk := by
  induction paths with
  | nil => rfl
  | cons p rest ih =>
      rw [List.cons_append, deleteEach, h p List.mem_cons_self]
      exact ih fun q hq => h q (List.mem_cons_of_mem p hq)

/-- Removing the files of a key takes them back. -/
theorem removeEach_alike
    (h : disk.Adds written (contents directory id keystore password keyType)) :
    ∃ left, removeEach [path directory id ".toml", path directory id ".json",
      path directory id ".password"] written = (.ok (), left) ∧ disk.Alike left := by
  obtain ⟨new, hgains, hfiles⟩ := h
  obtain _ | ⟨hkeystore, _ | ⟨hpassword, _ | ⟨hdescription, _ | _⟩⟩⟩ := hfiles
  rename_i f g k
  obtain ⟨left₁, hremove₁, hleft₁⟩ := Gains.remove [f, g] hgains hdescription.1
  obtain ⟨left₂, hremove₂, hleft₂⟩ := Gains.remove [] hleft₁ hkeystore.1
  obtain ⟨left₃, hremove₃, hleft₃⟩ := Gains.remove [] hleft₂ hpassword.1
  exact ⟨left₃, by simp only [removeEach, hremove₁, hremove₂, hremove₃], Disk.gains_nil.mp hleft₃⟩

/-- Deleting a key whose files were added takes them back, if no other description tells of
it. -/
theorem delete_alike (hdirectory : directory ≠ "") (hkeystore : keystore.Storable)
    (hid : SignerId.normalize keystore.publicKey = id.text)
    (hadds : disk.Adds written (contents directory id keystore password keyType))
    (hstored : Stored written directory id keystore password keyType)
    (halone : Alone written directory id) :
    (delete directory id written).1 = .ok true ∧ disk.Alike (delete directory id written).2 := by
  obtain ⟨f, hfile⟩ := Disk.file_of_readBytes hstored.descriptionFile
  obtain ⟨names, hnames, hlisted⟩ := Disk.mem_names_of_file hdirectory
    (SignerId.plain_marked (by decide)) hfile
  have hdescription : isDescription (id.marked ++ ".toml") = true := by
    have hcandidate := SignerId.isCandidate_marked id
    rw [Loader.isCandidate, Bool.and_eq_true] at hcandidate
    exact hcandidate.2
  -- the paths that deletion goes through, the first of the key's own among them
  generalize hpaths : (names.filter isDescription).map directory.join = paths
  have hown : path directory id ".toml" ∈ paths :=
    hpaths ▸ List.mem_map_of_mem (List.mem_filter.mpr ⟨hlisted, hdescription⟩)
  have hother : ∀ p ∈ paths, p ≠ path directory id ".toml" →
      doomed written directory id p = [] := by
    intro p hp hne
    obtain ⟨name, hname, rfl⟩ := List.mem_map.mp (hpaths ▸ hp)
    obtain ⟨hmem, hname⟩ := List.mem_filter.mp hname
    exact halone names hnames name hmem hname fun heq => hne (congrArg directory.join heq)
  obtain ⟨before, after, rfl, hbefore⟩ := List.eq_append_cons_of_mem hown
  obtain ⟨left, hremoved, halike⟩ := removeEach_alike hadds
  have hspec := removeEach_spec [path directory id ".toml", path directory id ".json",
    path directory id ".password"] written
  rw [hremoved] at hspec
  have hskipped : ∀ p ∈ after, doomed left directory id p = [] := by
    intro p hp
    by_cases hsame : p = path directory id ".toml"
    · exact hsame ▸ doomed_unreadable (hspec.2 rfl _ List.mem_cons_self)
    · exact doomed_within hspec.1
        (hother p (List.mem_append_right _ (List.mem_cons_of_mem _ hp)) hsame)
  have hdelete : delete directory id written = (.ok true, left) := by
    unfold delete
    rw [hnames]
    simp only [hpaths]
    rw [deleteEach_skip fun p hp => hother p (List.mem_append_left _ hp)
      fun hsame => hbefore (hsame ▸ hp)]
    simp only [deleteEach, hstored.doomed_eq hkeystore hid, hremoved]
    have hrest := deleteEach_skip hskipped [] true
    rwa [List.append_nil] at hrest
  rw [hdelete]
  exact ⟨rfl, halike⟩

end RemoteSigner.KeystoreFiles
