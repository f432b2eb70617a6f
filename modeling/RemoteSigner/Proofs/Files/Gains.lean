import RemoteSigner.Proofs.Files.Writing

/-!
# What is new on a disk

A disk `Gains` files if all that is new on it are these files, where nothing was. Writing a
new file gains it, empty if the writing failed after it was created (`writeNew_gains`), and
removing a file that was gained leaves the gain of the others (`Gains.remove`). Two disks are
`Alike` if nothing was gained; only their clocks may differ.
-/

namespace RemoteSigner.Disk

/-- A disk holds what another held, and after that new files. -/
structure Gains (disk disk' : Disk) (new : List (Place × StoredFile)) : Prop where
  files : disk'.files = disk.files ++ new
  directories : disk'.directories = disk.directories
  current : disk'.current = disk.current
  fresh : ∀ f ∈ new, disk.fileAt? f.1 = none
  distinct : (new.map (·.1)).Nodup

/-- Two disks hold the same. -/
structure Alike (disk disk' : Disk) : Prop where
  files : disk'.files = disk.files
  directories : disk'.directories = disk.directories
  current : disk'.current = disk.current

/-- All that is new on a disk are files at paths, with what is in them. -/
def Adds (disk disk' : Disk) (files : List (FilePath × Bytes)) : Prop :=
  ∃ new, disk.Gains disk' new ∧
    List.Forall₂ (fun file f => disk.find file.1 = .ok f.1 ∧ f.2.content = file.2) files new

variable {disk disk' disk'' : Disk} {new more : List (Place × StoredFile)} {path : FilePath}
  {place : Place}

theorem Alike.refl (disk : Disk) : disk.Alike disk :=
  ⟨rfl, rfl, rfl⟩

theorem gains_nil : disk.Gains disk' [] ↔ disk.Alike disk' :=
  ⟨fun h => ⟨by rw [h.files, List.append_nil], h.directories, h.current⟩,
    fun h => ⟨by rw [h.files, List.append_nil], h.directories, h.current, by simp, by simp⟩⟩

theorem fileAt?_eq_none : disk.fileAt? place = none ↔ ∀ f ∈ disk.files, f.1 ≠ place := by
  unfold fileAt?
  rw [List.lookup_eq_none_iff]
  refine forall₂_congr fun f _ => ?_
  rw [bne_iff_ne, ne_comm]

/-- Of entries with distinct places, one goes with its place. -/
theorem filter_place {f : Place × StoredFile} (h : ((new ++ f :: more).map (·.1)).Nodup) :
    (new ++ f :: more).filter (fun g => g.1 ≠ f.1) = new ++ more := by
  rw [List.map_append, List.map_cons, List.nodup_append, List.nodup_cons] at h
  obtain ⟨_, ⟨hlater, _⟩, hapart⟩ := h
  have hbefore : ∀ g ∈ new, g.1 ≠ f.1 := fun g hg =>
    hapart g.1 (List.mem_map_of_mem hg) f.1 List.mem_cons_self
  have hafter : ∀ g ∈ more, g.1 ≠ f.1 := fun g hg heq => hlater (heq ▸ List.mem_map_of_mem hg)
  rw [List.filter_append, List.filter_cons_of_neg (by simp),
    List.filter_eq_self.mpr fun g hg => by simpa using hbefore g hg,
    List.filter_eq_self.mpr fun g hg => by simpa using hafter g hg]

namespace Gains

theorem fileAt? (h : disk.Gains disk' new) (place : Place) :
    disk'.fileAt? place = (disk.fileAt? place).or (new.lookup place) := by
  unfold Disk.fileAt?
  rw [h.files, List.lookup_append]

theorem within (h : disk.Gains disk' new) : disk.Within disk' :=
  ⟨h.directories.symm, h.current.symm, fun place f hf => by rw [h.fileAt?, hf]; rfl⟩

theorem trans (h : disk.Gains disk' new) (h' : disk'.Gains disk'' more) :
    disk.Gains disk'' (new ++ more) where
  files := by rw [h'.files, h.files, List.append_assoc]
  directories := h'.directories.trans h.directories
  current := h'.current.trans h.current
  fresh f hf := by
    rcases List.mem_append.mp hf with hf | hf
    · exact h.fresh f hf
    · have hnone := h'.fresh f hf
      rw [h.fileAt?] at hnone
      exact (Option.or_eq_none_iff.mp hnone).1
  distinct := by
    rw [List.map_append, List.nodup_append]
    refine ⟨h.distinct, h'.distinct, fun p hp q hq heq => ?_⟩
    obtain ⟨f, hf, rfl⟩ := List.mem_map.mp hp
    obtain ⟨g, hg, hplace⟩ := List.mem_map.mp hq
    have hnone := h'.fresh g hg
    rw [fileAt?_eq_none] at hnone
    refine hnone f ?_ (heq.trans hplace.symm)
    rw [h.files]
    exact List.mem_append_right _ hf

/-- A file that was gained can be removed, which leaves the gain of the others. -/
theorem remove (new : List (Place × StoredFile)) {f : Place × StoredFile}
    (h : disk.Gains disk' (new ++ f :: more)) (hfind : disk.find path = .ok f.1) :
    ∃ left, disk'.remove path = .ok left ∧ disk.Gains left (new ++ more) := by
  have hmem : f ∈ new ++ f :: more := List.mem_append_right _ List.mem_cons_self
  have hthere : (disk'.fileAt? f.1).isSome = true := by
    rw [h.fileAt?, h.fresh f hmem, Option.none_or]
    exact List.lookup_isSome_iff.mpr ⟨f, hmem, by simp⟩
  have hold : disk.files.filter (fun g => g.1 ≠ f.1) = disk.files :=
    List.filter_eq_self.mpr fun g hg => by
      simpa using fileAt?_eq_none.mp (h.fresh f hmem) g hg
  have hsub : (new ++ more).Sublist (new ++ f :: more) :=
    List.Sublist.append_left (List.sublist_cons_self f more) new
  refine ⟨{ disk' with files := disk'.files.filter fun g => g.1 ≠ f.1 }, ?_, ?_⟩
  · unfold Disk.remove
    rw [h.within.find.mp hfind]
    simp only [hthere, if_true]
  · refine ⟨?_, h.directories, h.current, fun g hg => h.fresh g (hsub.subset hg),
      h.distinct.sublist (hsub.map _)⟩
    show disk'.files.filter _ = _
    rw [h.files, List.filter_append, hold, filter_place h.distinct]

end Gains

theorem gains_store (hvacant : disk.fileAt? place = none) (content : Bytes) :
    disk.Gains (disk.store place content) [(place, ⟨content, disk.clock⟩)] := by
  -- a file at a place where none was goes after all others
  have happend : ∀ files : List (Place × StoredFile), (∀ f ∈ files, f.1 ≠ place) →
      ∀ f, putAt place f files = files ++ [(place, f)] := by
    intro files hfiles f
    induction files with
    | nil => rfl
    | cons g rest ih =>
        rw [putAt, if_neg (hfiles g List.mem_cons_self),
          ih fun g' hg' => hfiles g' (List.mem_cons_of_mem g hg')]
        rfl
  refine ⟨happend _ (fileAt?_eq_none.mp hvacant) _, rfl, rfl, fun f hf => ?_, by simp⟩
  rw [List.mem_singleton.mp hf]
  exact hvacant

/-- Writing a file again gains no other. -/
theorem Gains.store {f : StoredFile} (h : disk.Gains disk' [(place, f)]) (content : Bytes) :
    disk.Gains (disk'.store place content) [(place, ⟨content, disk'.clock⟩)] := by
  have hvacant := h.fresh _ List.mem_cons_self
  -- a file at the place of the last one takes its place in the list
  have hreplace : ∀ files : List (Place × StoredFile), (∀ g ∈ files, g.1 ≠ place) →
      ∀ g, putAt place g (files ++ [(place, f)]) = files ++ [(place, g)] := by
    intro files hfiles g
    induction files with
    | nil => simp [putAt]
    | cons g' rest ih =>
        rw [List.cons_append, putAt, if_neg (hfiles g' List.mem_cons_self),
          ih fun x hx => hfiles x (List.mem_cons_of_mem g' hx)]
        rfl
  refine ⟨?_, h.directories, h.current, fun g hg => ?_, by simp⟩
  · show putAt place _ disk'.files = _
    rw [h.files]
    exact hreplace _ (fileAt?_eq_none.mp hvacant) _
  · rw [List.mem_singleton.mp hg]
    exact hvacant

/-- What writing a new file gains: nothing if it was not created, and else the file, with
what was to be written if that succeeds. -/
theorem writeNew_gains (medium : Medium) (path : FilePath) (content : Bytes) (disk : Disk) :
    let outcome := disk.writeNew medium path content
    (outcome.2.1 = false → outcome.1 ≠ .ok () ∧ outcome.2.2 = disk) ∧
      (outcome.2.1 = true → ∃ place f, disk.find path = .ok place ∧
        disk.Gains outcome.2.2 [(place, f)] ∧ (outcome.1 = .ok () → f.content = content)) := by
  intro outcome
  simp only [outcome]
  unfold writeNew
  cases medium.creating path with
  | some e => exact ⟨fun _ => ⟨nofun, rfl⟩, nofun⟩
  | none =>
      cases hcreate : disk.create path with
      | error e => exact ⟨fun _ => ⟨nofun, rfl⟩, nofun⟩
      | ok created =>
          obtain ⟨place, hfind, hvacant, rfl⟩ := create_ok hcreate
          have hcreated := gains_store hvacant []
          cases medium.writing path with
          | some e => exact ⟨nofun, fun _ => ⟨place, _, hfind, hcreated, nofun⟩⟩
          | none =>
              cases hwrite : (disk.store place []).overwrite path content with
              | error e =>
                  simp only [hwrite]
                  exact ⟨nofun, fun _ => ⟨place, _, hfind, hcreated, nofun⟩⟩
              | ok written =>
                  obtain ⟨place', hfind', rfl⟩ := overwrite_ok hwrite
                  obtain rfl := Except.ok.inj (hfind'.symm.trans (hcreated.within.find.mp hfind))
                  simp only [hwrite]
                  exact ⟨nofun, fun _ => ⟨place', _, hfind, hcreated.store content, fun _ => rfl⟩⟩

end RemoteSigner.Disk
