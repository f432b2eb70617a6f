import RemoteSigner.Proofs.Files.Within
import RemoteSigner.Proofs.Text.Utf8

/-!
# Paths and new files

A name below a directory leads to the place right below that of the directory
(`find_join`), so a file at such a path is listed there (`mem_names_of_file`). Creating
directories leaves what is read from files (`readBytes_createDirectories`). Writing a new file
leaves the disk within what comes of it (`writeNew_spec`), and what was not there before can be
removed again (`within_remove`).
-/

namespace RemoteSigner

/-! ## Parts of paths -/

namespace FilePath

theorem stretches_ne_nil (cs : List Char) : stretches cs ≠ [] := by
  cases cs with
  | nil => simp [stretches]
  | cons c rest =>
      unfold stretches
      split
      · simp
      · split <;> simp

theorem stretches_append (front back : List Char) :
    stretches (front ++ '/' :: back) = stretches front ++ stretches back := by
  induction front with
  | nil => simp [stretches]
  | cons c rest ih =>
      rw [List.cons_append, stretches, stretches, ih]
      split
      · rfl
      · cases hrest : stretches rest with
        | nil => exact absurd hrest (stretches_ne_nil rest)
        | cons stretch more => rfl

theorem stretches_eq_singleton {cs : List Char} (h : '/' ∉ cs) : stretches cs = [cs] := by
  induction cs with
  | nil => rfl
  | cons c rest ih =>
      rw [List.mem_cons, not_or] at h
      obtain ⟨hc, hrest⟩ := h
      rw [stretches, if_neg (Ne.symm hc), ih hrest]

/-- A name that is no step but one down. -/
structure Plain (name : String) : Prop where
  noSlash : '/' ∉ name.toList
  ne_empty : name ≠ ""
  ne_self : name ≠ "."
  ne_up : name ≠ ".."

variable {directory : FilePath} {name : String}

/-- A path below a directory is that of the directory, a slash unless it ends with one,
and the name. -/
theorem join_eq (hd : directory ≠ "") (hname : Plain name) :
    ∃ tail, directory.join name = directory ++ tail ∧
      (tail = name ∧ directory.toList.getLast? = some '/' ∨ tail = "/" ++ name) := by
  have habsolute : isAbsolute name = false := by
    unfold isAbsolute
    cases hcs : name.toList with
    | nil => rfl
    | cons c rest =>
        have hne : c ≠ '/' := fun h => hname.noSlash (by rw [hcs, h]; exact List.mem_cons_self)
        simpa using hne
  have hempty : directory.isEmpty = false := by simpa using hd
  unfold join
  rw [habsolute, hempty, if_neg (by simp)]
  split
  · exact ⟨name, rfl, .inl ⟨rfl, ‹_›⟩⟩
  · exact ⟨"/" ++ name, String.append_assoc, .inr rfl⟩

theorem join_ne_empty (directory : FilePath) (hname : name ≠ "") : directory.join name ≠ "" := by
  unfold join
  split
  · exact hname
  · split <;> simp [hname]

/-- The parts of a path below a directory end with the name, after parts that lead as far
as those of the directory. -/
theorem parts_join (hd : directory ≠ "") (hname : Plain name) :
    ∃ front, parts (directory.join name) = front ++ [name] ∧
      (parts directory = front ∨ parts directory = front ++ [""]) := by
  obtain ⟨tail, hjoin, ⟨rfl, hslash⟩ | rfl⟩ := join_eq hd hname
  · obtain ⟨front, hfront⟩ := List.getLast?_eq_some_iff.mp hslash
    refine ⟨(stretches front).map String.ofList, ?_, .inr ?_⟩
    · rw [parts, hjoin, String.toList_append, hfront, List.append_assoc, List.singleton_append,
        stretches_append, stretches_eq_singleton hname.noSlash, List.map_append]
      simp
    · rw [parts, hfront, stretches_append, List.map_append]
      rfl
  · refine ⟨parts directory, ?_, .inl rfl⟩
    rw [parts, hjoin, String.toList_append, String.toList_append]
    show (stretches (directory.toList ++ '/' :: name.toList)).map String.ofList = _
    rw [stretches_append, stretches_eq_singleton hname.noSlash, List.map_append]
    simp [parts]

end FilePath

namespace Disk

open FilePath (Plain)

variable {disk disk' disk₀ : Disk} {directory path : FilePath} {name : String} {place : Place}

/-! ## Names below a directory -/

theorem follow_append (disk : Disk) (place : Place) (names more : List String) :
    disk.follow place (names ++ more) =
      (disk.follow place names).bind fun place => disk.follow place more := by
  induction names generalizing place with
  | nil => rfl
  | cons name rest ih =>
      rw [List.cons_append, follow.eq_def disk place (name :: (rest ++ more)),
        follow.eq_def disk place (name :: rest)]
      simp only
      split
      · rfl
      · split
        · exact ih place
        · split
          · exact ih _
          · split
            · rfl
            · exact ih _

/-- A plain name leads one step down from a directory. -/
theorem follow_plain (hname : Plain name) {target : Place}
    (h : disk.follow place [name] = .ok target) :
    disk.hasDirectoryAt place = true ∧ target = place ++ [name] := by
  unfold follow at h
  split at h
  · cases h
  · rename_i hdirectory
    rw [if_neg (by simp [hname.ne_empty, hname.ne_self]), if_neg hname.ne_up] at h
    split at h
    · cases h
    · exact ⟨by simpa using hdirectory, (Except.ok.inj h).symm⟩

/-- Where a path below a directory leads somewhere, the directory is one, and the path
leads right below it. -/
theorem find_join (hd : directory ≠ "") (hname : Plain name)
    (h : disk.find (directory.join name) = .ok place) :
    ∃ base, disk.find directory = .ok base ∧ disk.hasDirectoryAt base = true ∧
      place = base ++ [name] := by
  obtain ⟨tail, hjoin, _⟩ := FilePath.join_eq hd hname
  obtain ⟨steps, hparts, hsteps⟩ := FilePath.parts_join hd hname
  have hsub : ∀ c ∈ directory.toList, c ∈ (directory.join name).toList := by
    intro c hc
    rw [hjoin, String.toList_append]
    exact List.mem_append_left _ hc
  have habsolute : (directory.join name).isAbsolute = directory.isAbsolute := by
    unfold FilePath.isAbsolute
    rw [hjoin, String.toList_append, List.head?_append_of_ne_nil _ (by simpa using hd)]
  have hshort : directory.utf8ByteSize ≤ (directory.join name).utf8ByteSize := by
    rw [hjoin, String.utf8ByteSize_append]
    exact Nat.le_add_right ..
  unfold find at h ⊢
  split at h
  · cases h
  split at h
  · cases h
  split at h
  · cases h
  rename_i hnul _ hlimit
  rw [if_neg (by simpa using fun hc => hnul (by simpa using hsub _ hc)),
    if_neg (by simpa using hd), if_neg (by omega)]
  rw [habsolute, hparts, follow_append] at h
  cases hfollow : disk.follow (if directory.isAbsolute then [] else disk.current) steps with
  | error fault =>
      rw [hfollow] at h
      cases h
  | ok base =>
      rw [hfollow] at h
      obtain ⟨hbase, rfl⟩ := follow_plain hname h
      refine ⟨base, ?_, hbase, rfl⟩
      rcases hsteps with hsteps | hsteps
      · rw [hsteps, hfollow]
      · rw [hsteps, follow_append, hfollow]
        simp [Except.bind, follow, hbase]

/-- A file at a path below a directory is listed there. -/
theorem mem_names_of_file (hd : directory ≠ "") (hname : Plain name) {f : StoredFile}
    (hf : disk.file (directory.join name) = .ok f) :
    ∃ names, disk.names directory = .ok names ∧ name ∈ names := by
  obtain ⟨place, hfind, hat⟩ := file_eq_ok.mp hf
  obtain ⟨base, hbase, hdirectory, rfl⟩ := find_join hd hname hfind
  unfold names
  rw [hbase]
  simp only [hdirectory, if_true]
  refine ⟨_, rfl, List.mem_append_left _ (List.mem_filterMap.mpr ?_)⟩
  obtain ⟨entry, hentry, hplace⟩ :=
    List.lookup_isSome_iff.mp (Option.isSome_iff_exists.mpr ⟨f, hat⟩)
  refine ⟨entry, hentry, ?_⟩
  rw [← eq_of_beq hplace]
  simp [nameBelow?]

/-! ## New directories -/

/-- Names lead where they led if there are more directories. -/
theorem follow_of_more
    (h : ∀ place, disk.hasDirectoryAt place = true → disk'.hasDirectoryAt place = true)
    {names : List String} {target : Place} :
    disk.follow place names = .ok target → disk'.follow place names = .ok target := by
  induction names generalizing place with
  | nil => exact id
  | cons name rest ih =>
      unfold follow
      cases hdirectory : disk.hasDirectoryAt place with
      | false => exact fun hfollow => by cases hfollow
      | true =>
          rw [h place hdirectory]
          simp only [Bool.not_true, Bool.false_eq_true, if_false]
          split
          · exact ih
          · split
            · exact ih
            · split
              · exact id
              · exact ih

theorem find_of_more (hcurrent : disk'.current = disk.current)
    (h : ∀ place, disk.hasDirectoryAt place = true → disk'.hasDirectoryAt place = true) :
    disk.find path = .ok place → disk'.find path = .ok place := by
  unfold find
  rw [hcurrent]
  split
  · exact id
  · split
    · exact id
    · split
      · exact id
      · exact follow_of_more h

/-- Creating directories changes no files, and removes no directories. -/
theorem createAlong_spec {names : List String} (h : disk.createAlong place names = .ok disk') :
    disk'.files = disk.files ∧ disk'.current = disk.current ∧
      ∀ d ∈ disk.directories, d ∈ disk'.directories := by
  induction names generalizing disk place with
  | nil =>
      obtain rfl := Except.ok.inj h
      exact ⟨rfl, rfl, fun _ hd => hd⟩
  | cons name rest ih =>
      unfold createAlong at h
      split at h
      · exact ih h
      · split at h
        · exact ih h
        · simp only at h
          split at h
          · exact ih h
          · split at h
            · cases h
            · split at h
              · cases h
              · obtain ⟨hfiles, hcurrent, hmore⟩ := ih h
                exact ⟨hfiles, hcurrent, fun d hd => hmore d (List.mem_append_left _ hd)⟩

/-- Creating directories leaves what is read from files. -/
theorem readBytes_createDirectories {left : Disk}
    (h : disk.createDirectories directory = .ok left) {bytes : Bytes}
    (hread : disk.readBytes path = .ok bytes) : left.readBytes path = .ok bytes := by
  have halong : ∃ start names, disk.createAlong start names = .ok left := by
    unfold createDirectories at h
    split at h
    · cases h
    · split at h
      · obtain rfl := Except.ok.inj h
        exact ⟨_, _, ‹_›⟩
      · cases h
  obtain ⟨start, names, hcreated⟩ := halong
  obtain ⟨hfiles, hcurrent, hmore⟩ := createAlong_spec hcreated
  have hdirectories : ∀ place, disk.hasDirectoryAt place = true →
      left.hasDirectoryAt place = true := by
    intro place hplace
    simp only [hasDirectoryAt, Bool.or_eq_true, List.contains_iff_mem] at hplace ⊢
    exact hplace.imp_right (hmore place)
  obtain ⟨f, hfile, hcontent⟩ := readBytes_eq_ok.mp hread
  obtain ⟨place, hfind, hat⟩ := file_eq_ok.mp hfile
  have hat' : left.fileAt? place = some f := by
    unfold fileAt? at hat ⊢
    rwa [hfiles]
  have hfind' : left.find path = .ok place := find_of_more hcurrent hdirectories hfind
  exact readBytes_eq_ok.mpr ⟨f, file_eq_ok.mpr ⟨place, hfind', hat'⟩, hcontent⟩

/-! ## New files -/

/-- No file is at a path. -/
def Vacant (disk : Disk) (path : FilePath) : Prop :=
  ∀ place, disk.find path = .ok place → disk.fileAt? place = none

theorem lookup_putAt (place other : Place) (f : StoredFile) (files : List (Place × StoredFile)) :
    (putAt place f files).lookup other = if other = place then some f else files.lookup other := by
  induction files with
  | nil =>
      by_cases hother : other = place
      · simp [putAt, hother]
      · simp [putAt, hother, List.lookup_cons, beq_false_of_ne hother]
  | cons entry rest ih =>
      obtain ⟨p, g⟩ := entry
      rw [putAt]
      split
      · rename_i hp
        subst hp
        by_cases hother : other = p
        · simp [hother]
        · simp [hother, List.lookup_cons, beq_false_of_ne hother]
      · rename_i hp
        rw [List.lookup_cons, List.lookup_cons, ih]
        by_cases hother : other = p
        · subst hother
          simp [hp]
        · rw [beq_false_of_ne hother]

theorem fileAt?_store (disk : Disk) (place other : Place) (content : Bytes) :
    (disk.store place content).fileAt? other =
      if other = place then some ⟨content, disk.clock⟩ else disk.fileAt? other :=
  lookup_putAt ..

/-- A disk is within what comes of it by writing where no file was. -/
theorem within_store (h : disk.Within disk') (hvacant : disk.fileAt? place = none)
    (content : Bytes) : disk.Within (disk'.store place content) := by
  refine ⟨h.directories, h.current, fun other f hf => ?_⟩
  have hother : other ≠ place := by
    rintro rfl
    rw [hvacant] at hf
    cases hf
  rw [fileAt?_store, if_neg hother]
  exact h.files other f hf

theorem create_ok {created : Disk} (h : disk.create path = .ok created) :
    ∃ place, disk.find path = .ok place ∧ disk.fileAt? place = none ∧
      created = disk.store place [] := by
  unfold create at h
  cases hfind : disk.find path with
  | error fault =>
      rw [hfind] at h
      cases h
  | ok place =>
      simp only [hfind] at h
      split at h
      · cases h
      · rename_i hfree
        have hempty : disk.fileAt? place = none ∧ disk.hasDirectoryAt place = false := by
          simpa using hfree
        refine ⟨place, rfl, hempty.1, ?_⟩
        split at h
        · cases h
        · exact (Except.ok.inj h).symm

theorem overwrite_ok {content : Bytes} (h : disk.overwrite path content = .ok disk') :
    ∃ place, disk.find path = .ok place ∧ disk' = disk.store place content := by
  unfold overwrite at h
  cases hfind : disk.find path with
  | error fault =>
      rw [hfind] at h
      cases h
  | ok place =>
      simp only [hfind] at h
      split at h
      · cases h
      · split at h
        · cases h
        · exact ⟨place, rfl, (Except.ok.inj h).symm⟩

/-- Writing a new file leaves what was there. If it was created there was none before, and
if writing succeeds it holds what was written. -/
theorem writeNew_spec (medium : Medium) (path : FilePath) (content : Bytes) (disk : Disk) :
    disk.Within (disk.writeNew medium path content).2.2 ∧
      ((disk.writeNew medium path content).2.1 = true → disk.Vacant path) ∧
      ((disk.writeNew medium path content).1 = .ok () →
        (disk.writeNew medium path content).2.1 = true ∧
          (disk.writeNew medium path content).2.2.readBytes path = .ok content) := by
  unfold writeNew
  cases medium.creating path with
  | some e => exact ⟨.refl disk, by simp, by simp⟩
  | none =>
      cases hcreate : disk.create path with
      | error e => exact ⟨.refl disk, by simp, by simp⟩
      | ok created =>
          obtain ⟨place, hfind, hfree, rfl⟩ := create_ok hcreate
          have hcreated := within_store (.refl disk) hfree []
          have hvacant : disk.Vacant path := fun other hother => by
            obtain rfl := Except.ok.inj (hfind.symm.trans hother)
            exact hfree
          cases medium.writing path with
          | some e => exact ⟨hcreated, fun _ => hvacant, by simp⟩
          | none =>
              cases hwrite : (disk.store place []).overwrite path content with
              | error e =>
                  simp only [hwrite]
                  exact ⟨hcreated, fun _ => hvacant, by simp⟩
              | ok written =>
                  obtain ⟨place', hfind', rfl⟩ := overwrite_ok hwrite
                  obtain rfl := Except.ok.inj (hfind'.symm.trans (hcreated.find.mp hfind))
                  have hwritten := within_store hcreated hfree content
                  simp only [hwrite]
                  refine ⟨hwritten, fun _ => hvacant, fun _ => ⟨trivial, ?_⟩⟩
                  have hfile := file_eq_ok.mpr ⟨place', hwritten.find.mp hfind,
                    (fileAt?_store ..).trans (if_pos rfl)⟩
                  rw [readBytes, hfile]
                  rfl

/-- Removing a path where no file was leaves what was there. -/
theorem within_remove {disk₁ disk₂ : Disk} (h : disk.Within disk₁) (hvacant : disk.Vacant path)
    (hremove : disk₁.remove path = .ok disk₂) : disk.Within disk₂ := by
  obtain ⟨place, hfind, hdirectories, hcurrent, hleft⟩ := fileAt?_of_remove hremove
  refine ⟨h.directories.trans hdirectories.symm, h.current.trans hcurrent.symm,
    fun other f hf => ?_⟩
  have hother : other ≠ place := by
    rintro rfl
    rw [hvacant _ (h.find.mpr hfind)] at hf
    cases hf
  rw [hleft, if_neg hother]
  exact h.files other f hf

end Disk

end RemoteSigner
