import RemoteSigner.KeyManager.Delete
import RemoteSigner.Proofs.Keys.Deletion
import RemoteSigner.Proofs.Keys.Returning
import RemoteSigner.Proofs.KeyManager.Moves

/-!
# What a deletion leaves of a key

Deletions only shrink custody (`Shrinks`), so what the deletion of one key achieves
holds after the entries that follow (`RidOf.shrinks`, `deleteEach_spec`). A deletion that
tells that it deleted a key leaves custody rid of it (`ridOf_deleteKeys`): the key is not
installed, and deletion would find no file of it.

That is not the same as no file of it: deletion overlooks raw and vault descriptions and
keystores that declare no key. Through those the key comes back, and through no others
(`deleted_returns_iff`); a raw key does (`rawKey_returns`).
-/

namespace RemoteSigner.Custody

variable {c : Custody} {m : KeyManager} {key : SignerId} {request : DeleteRequest}

/-- Nothing is left of a key that deletion would find: it is not installed, and there is
nothing to delete for it. -/
structure RidOf (c : Custody) (m : KeyManager) (key : SignerId) : Prop where
  isOpen : c.registry.isClosed = false
  absent : ¬ c.snapshot.Has key
  cleared : ∀ names, c.disk.names m.directory = .ok names →
    ∀ name ∈ names, KeystoreFiles.isDescription name = true →
      KeystoreFiles.doomed c.disk m.directory key (m.directory.join name) = []

/-- A deletion told that it deleted a key. -/
def TellsDeleted (c : Custody) (m : KeyManager) (request : DeleteRequest) (key : SignerId) : Prop :=
  ∃ entry, SignerId.parse entry = .ok key ∧
    (entry, DeleteOutcome.deleted) ∈ request.publicKeys.zip (c.deleteKeys m request).1.data

/-- Custody after giving up keys: no key is installed that was not, and no file is there
that was not. -/
structure Shrinks (c c' : Custody) : Prop where
  isClosed : c'.registry.isClosed = c.registry.isClosed
  installed : ∀ key, c'.snapshot.Has key → c.snapshot.Has key
  disk : c'.disk.Within c.disk

theorem Shrinks.refl (c : Custody) : c.Shrinks c :=
  ⟨rfl, fun _ h => h, .refl c.disk⟩

theorem Shrinks.trans {c' c'' : Custody} (h : c.Shrinks c') (h' : c'.Shrinks c'') : c.Shrinks c'' :=
  ⟨h'.isClosed.trans h.isClosed, fun key hkey => h.installed key (h'.installed key hkey),
    h'.disk.trans h.disk⟩

theorem RidOf.shrinks {c' : Custody} (h : c.RidOf m key) (hs : c.Shrinks c') : c'.RidOf m key where
  isOpen := hs.isClosed.trans h.isOpen
  absent hkey := h.absent (hs.installed key hkey)
  cleared names hnames name hname hdescription := by
    obtain ⟨names', hnames', hsub⟩ := hs.disk.names hnames
    exact KeystoreFiles.doomed_within hs.disk
      (h.cleared names' hnames' name (hsub name hname) hdescription)

theorem protect_frame {α : Type} (c : Custody) (a : α) (f : Engine → Protected α × Engine) :
    (c.protect a f).2.registry = c.registry ∧ (c.protect a f).2.disk = c.disk := by
  unfold protect
  split <;> exact ⟨rfl, rfl⟩

/-- Giving up a key shrinks custody; if it succeeds, custody is rid of the key. -/
theorem deleteOne_spec (c : Custody) (m : KeyManager) (key : SignerId) :
    c.Shrinks (c.deleteOne m key).2 ∧
      ((c.deleteOne m key).1 = .ok () → (c.deleteOne m key).2.RidOf m key) := by
  have hremoved := Registry.removeSigner_spec c.registry key
  unfold deleteOne
  generalize c.registry.removeSigner key = r at hremoved ⊢
  obtain ⟨result, registry⟩ := r
  obtain ⟨hclosed, hinstalled, hgone⟩ := hremoved
  cases result with
  | error fault => exact ⟨⟨hclosed, hinstalled, .refl c.disk⟩, fun h => by cases h⟩
  | ok found =>
      obtain ⟨hopen, habsent⟩ := hgone found rfl
      obtain ⟨hregistry, hdisk⟩ := protect_frame { c with registry := registry } true
        fun e => e.setEnabled key false
      simp only
      generalize Custody.protect _ true _ = r at hregistry hdisk ⊢
      obtain ⟨result, c'⟩ := r
      simp only at hregistry hdisk
      have hshrinks : c.Shrinks c' :=
        ⟨by rw [hregistry, hclosed], by rwa [snapshot, hregistry], hdisk ▸ .refl c.disk⟩
      cases result with
      | error fault => exact ⟨hshrinks, fun h => by cases h⟩
      | ok known =>
          obtain ⟨hwithin, hcleared⟩ := KeystoreFiles.delete_clears m.directory key c'.disk
          simp only
          generalize KeystoreFiles.delete m.directory key c'.disk = r at hwithin hcleared ⊢
          obtain ⟨result, disk⟩ := r
          have hleft : c'.Shrinks { c' with disk := disk } := ⟨rfl, fun _ h => h, hwithin⟩
          cases result with
          | error fault => exact ⟨hshrinks.trans hleft, fun h => by cases h⟩
          | ok found' =>
              refine ⟨hshrinks.trans hleft, fun _ => ⟨?_, ?_, hcleared found' rfl⟩⟩
              · exact hregistry ▸ hopen
              · exact fun h => habsent (hregistry ▸ h)

theorem deleteEntry_spec (c : Custody) (m : KeyManager) (entry : String) :
    c.Shrinks (c.deleteEntry m entry).2 ∧
      ∀ key, (c.deleteEntry m entry).1 = .deleted key →
        SignerId.parse entry = .ok key ∧ (c.deleteEntry m entry).2.RidOf m key := by
  unfold deleteEntry
  cases hid : SignerId.parse entry with
  | error fault => exact ⟨.refl c, fun key h => by cases h⟩
  | ok id =>
      simp only
      split
      · exact ⟨.refl c, fun key h => by cases h⟩
      · obtain ⟨hshrinks, hrid⟩ := deleteOne_spec c m id
        generalize c.deleteOne m id = r at hshrinks hrid ⊢
        obtain ⟨result, c'⟩ := r
        cases result with
        | error fault => exact ⟨hshrinks, fun key h => by cases h⟩
        | ok _ =>
            refine ⟨hshrinks, fun key h => ?_⟩
            obtain rfl := DeleteStep.deleted.inj h
            exact ⟨rfl, hrid rfl⟩

/-- Custody is rid of each key that was deleted, also after the entries that follow. -/
theorem deleteEach_spec (m : KeyManager) (entries : List String) (c : Custody) :
    c.Shrinks (deleteEach m entries c).2 ∧
      ∀ entry key, (entry, DeleteStep.deleted key) ∈ entries.zip (deleteEach m entries c).1 →
        SignerId.parse entry = .ok key ∧ (deleteEach m entries c).2.RidOf m key := by
  induction entries generalizing c with
  | nil => exact ⟨.refl c, by simp⟩
  | cons first rest ih =>
      have hstep : deleteEach m (first :: rest) c =
          ((c.deleteEntry m first).1 :: (deleteEach m rest (c.deleteEntry m first).2).1,
            (deleteEach m rest (c.deleteEntry m first).2).2) := rfl
      obtain ⟨hfirst, hdeleted⟩ := deleteEntry_spec c m first
      obtain ⟨hrest, hall⟩ := ih (c.deleteEntry m first).2
      rw [hstep]
      refine ⟨hfirst.trans hrest, fun entry key h => ?_⟩
      rcases List.mem_cons.mp h with h | h
      · obtain ⟨rfl, hkey⟩ := Prod.mk.inj h
        obtain ⟨hid, hrid⟩ := hdeleted key hkey.symm
        exact ⟨hid, hrid.shrinks hrest⟩
      · exact hall entry key h

/-- A key that was told to be deleted was deleted. -/
theorem deleted_of_told {entry : String}
    (h : (entry, DeleteOutcome.deleted) ∈ request.publicKeys.zip (c.deleteKeys m request).1.data) :
    ∃ key, (entry, DeleteStep.deleted key) ∈
      request.publicKeys.zip (deleteEach m request.publicKeys c).1 := by
  have hdata : ∃ f : DeleteStep → DeleteOutcome,
      (∀ step, f step = .deleted → ∃ key, step = .deleted key) ∧
      (c.deleteKeys m request).1.data = (deleteEach m request.publicKeys c).1.map f := by
    have hstep : ∀ (hasHistory : SignerId → Bool) (step : DeleteStep),
        step.toOutcome hasHistory = .deleted → ∃ key, step = .deleted key := by
      intro hasHistory step houtcome
      cases step with
      | deleted key => exact ⟨key, rfl⟩
      | failed detail => cases houtcome
      | absent key =>
          simp only [DeleteStep.toOutcome] at houtcome
          split at houtcome <;> cases houtcome
    unfold deleteKeys
    generalize deleteEach m request.publicKeys c = r
    obtain ⟨steps, c'⟩ := r
    simp only
    split
    · exact ⟨_, hstep _, rfl⟩
    · split
      · exact ⟨_, hstep _, rfl⟩
      · exact ⟨_, hstep _, rfl⟩
      · exact ⟨_, fun _ h => (by cases h), rfl⟩
  obtain ⟨f, hf, hdata⟩ := hdata
  rw [hdata, List.zip_map_right] at h
  obtain ⟨⟨entry', step⟩, hstep, heq⟩ := List.mem_map.mp h
  obtain ⟨rfl, houtcome⟩ := Prod.mk.inj heq
  obtain ⟨key, rfl⟩ := hf step houtcome
  exact ⟨key, hstep⟩

/-- Custody is rid of a key that was told to be deleted. -/
theorem ridOf_deleteKeys (h : c.TellsDeleted m request key) :
    (c.deleteKeys m request).2.RidOf m key := by
  obtain ⟨entry, hid, htold⟩ := h
  obtain ⟨key', hstep⟩ := deleted_of_told htold
  obtain ⟨hid', hrid⟩ := (deleteEach_spec m request.publicKeys c).2 entry key' hstep
  obtain rfl := Except.ok.inj (hid.symm.trans hid')
  rw [deleteKeys_left]
  exact ⟨hrid.isOpen, hrid.absent, hrid.cleared⟩

/-- A description that deletion of a key finds nothing to delete for: it passes over its
name, or the description tells of no key. -/
def Overlooked (disk : Disk) (directory : FilePath) (s : Source) : Prop :=
  ∃ name, s.path = directory.join name ∧
    (KeystoreFiles.isDescription name = false ∨ KeystoreFiles.Undeclared disk directory s.path)

/-- Where custody is rid of a key, only overlooked descriptions provide it. -/
theorem RidOf.overlooked (h : c.RidOf m key) {shop : Workshop} {config : LoaderConfig}
    {proxies : Option ProxyConfig} (hdirectory : config.directory = m.directory)
    {listed : List Source}
    (hlisted : (LoadView.ofDisk shop config proxies c.disk).listing = .ok listed) {s : Source}
    (hs : s ∈ listed)
    (hkey : ((LoadView.ofDisk shop config proxies c.disk).decode s).key? = some key) :
    Overlooked c.disk m.directory s := by
  simp only [LoadView.ofDisk, hdirectory] at hlisted hkey
  obtain ⟨names, hnames, name, hname, _, f, _, rfl⟩ := Loader.mem_list.mp ⟨listed, hlisted, hs⟩
  refine ⟨name, rfl, ?_⟩
  cases hdescription : KeystoreFiles.isDescription name with
  | false => exact .inl rfl
  | true =>
      obtain ⟨x, hdone, rfl⟩ := Registry.done_of_key? hkey
      have hnone := h.cleared names hnames name hname hdescription
      exact .inr (KeystoreFiles.undeclared_of_decode hnone hdone)

/-- A deleted key is gone, and comes back only through descriptions that deletion
overlooked. After a deletion told that it deleted a key, the key is not installed, and
all that provides it in the directory are descriptions that deletion passes over or that
tell of no key. However often a fresh registry loads the directory, it installs the key
exactly if there are any; the registry that the key was deleted from does so exactly if
there are any that it did not decode before. -/
theorem deleted_returns_iff (h : c.TellsDeleted m request key) (shop : Workshop)
    (config : LoaderConfig) (proxies : Option ProxyConfig)
    (hdirectory : config.directory = m.directory) :
    let left := (c.deleteKeys m request).2
    let view := LoadView.ofDisk shop config proxies left.disk
    ¬ left.snapshot.Has key ∧
      (∀ listed, view.listing = .ok listed →
        ∀ s ∈ listed, (view.decode s).key? = some key → Overlooked left.disk m.directory s) ∧
      ∀ n, ((Registry.empty.loads (List.replicate (n + 1) view)).snapshot.Has key ↔
          view.Brings [] key) ∧
        ((left.registry.loads (List.replicate (n + 1) view)).snapshot.Has key ↔
          view.Brings left.registry.cache key) := by
  intro left view
  have hrid : left.RidOf m key := ridOf_deleteKeys h
  have hnothing : ¬ Registry.empty.snapshot.Has key := by
    rintro ⟨x, hx, _⟩
    cases hx
  exact ⟨hrid.absent, fun listed hlisted s hs hkey => hrid.overlooked hdirectory hlisted hs hkey,
    fun n => ⟨Registry.has_reloads rfl hnothing n, Registry.has_reloads hrid.isOpen hrid.absent n⟩⟩

/-! ## A raw description -/

/-- Functions that hide nothing: the key of a secret is the secret. -/
def plainSuite : KeySuite where
  pbkdf2 _ _ _ length := .zero length
  scrypt _ _ _ length := .zero length
  keyStream _ _ _ := 0
  digest _ := .zero 32
  signer keyType secret := .ok ⟨⟨secret⟩, keyType, fun _ => .ok ⟨[]⟩⟩
  newSecret _ _ := .ok [1]

/-- A disk with one description, which holds the secret `01`. -/
def rawDisk : Disk :=
  ⟨[(["a.toml"], ⟨"type = \"file-raw\"\nprivateKey = \"01\"\n".toList.map (.ofNat ·.toNat), 1⟩)],
    [], [], 2⟩

/-- A load of the root of a disk. -/
def rootView (disk : Disk) : LoadView :=
  .ofDisk ⟨plainSuite, .standard⟩ (.of "/") none disk

/-- The keys of the disk, loaded, and one more. -/
def rawCustody (more : Signer) : Custody :=
  ⟨((Registry.empty.load (some (rootView rawDisk))).2.addSigner more).2, none, rawDisk⟩

/-- A key without a file. -/
def filelessSigner : Signer :=
  ⟨⟨[2]⟩, .bls, fun _ => .ok ⟨[]⟩⟩

/-- A key manager for the root. -/
def rootManager : KeyManager :=
  ⟨plainSuite, .sound, "/"⟩

/-- A key without a file is gone for good, whatever other keys have files. -/
theorem fileless_gone :
    let left := ((rawCustody filelessSigner).deleteKeys rootManager ⟨["02"]⟩).2
    let view := rootView left.disk
    ¬ (Registry.empty.loads [view, view]).snapshot.Has ⟨[2]⟩ ∧
      ¬ (left.registry.loads [view, view]).snapshot.Has ⟨[2]⟩ := by
  intro left view
  have hdata : ((rawCustody filelessSigner).deleteKeys rootManager ⟨["02"]⟩).1.data =
      [.deleted] := by
    decide +kernel
  have htold : (rawCustody filelessSigner).TellsDeleted rootManager ⟨["02"]⟩ ⟨[2]⟩ :=
    ⟨"02", rfl, by rw [hdata]; exact List.mem_singleton_self _⟩
  have hnot : ∀ cache, ¬ view.Brings cache ⟨[2]⟩ := by
    rintro cache ⟨listed, hlisted, s, hs, hkey⟩
    have hlisting : view.listing.toOption = some [⟨"/a.toml", 1⟩] := by decide +kernel
    have hother : (view.decode ⟨"/a.toml", 1⟩).key? = some ⟨[1]⟩ := by decide +kernel
    obtain rfl := Except.ok.inj ((ok_of_toOption hlisting).symm.trans hlisted)
    obtain rfl := List.mem_singleton.mp (Loader.mem_pending.mp hs).1
    exact absurd (Option.some.inj (hother.symm.trans hkey)) (by decide)
  have hreloads := (deleted_returns_iff htold ⟨plainSuite, .standard⟩ (.of "/") none rfl).2.2 1
  exact ⟨hreloads.1.not.mpr (hnot _), hreloads.2.not.mpr (hnot _)⟩

/-- The key of a raw description is told to be deleted, and a fresh registry installs
it. -/
theorem rawKey_returns :
    let left := ((rawCustody filelessSigner).deleteKeys rootManager ⟨["01"]⟩).2
    (rawCustody filelessSigner).TellsDeleted rootManager ⟨["01"]⟩ ⟨[1]⟩ ∧
      (Registry.empty.load (some (rootView left.disk))).2.snapshot.Has ⟨[1]⟩ := by
  intro left
  have htold : ((rawCustody filelessSigner).deleteKeys rootManager ⟨["01"]⟩).1.data =
      [.deleted] := by
    decide +kernel
  refine ⟨⟨"01", rfl, ?_⟩, Snapshot.find?_isSome.mp ?_⟩
  · rw [htold]
    exact List.mem_singleton_self _
  · decide +kernel

end RemoteSigner.Custody
