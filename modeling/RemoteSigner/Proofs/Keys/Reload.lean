import RemoteSigner.Proofs.Keys.Loading

/-!
# Loading again is loading afresh

Where decoding depends on a description's path and time of change alone, a
registry that loads again and again keeps no trace of what was listed earlier.
After each load it `Tracks` the listing: the cache remembers exactly the
descriptions that can be decoded, and exactly their keys are installed.

* `Tracks.absorb` — one load, whatever was listed before;
* `Tracks.absorb_again` — a second load of the same listing finds nothing to do;
* `tracks_loads` — any sequence of loads, some of which may fail;
* `load_as_fresh` — the comparison with a registry that was never used.
-/

namespace RemoteSigner

/-- What a load sees is the directory alone: it lists no path twice, and what
comes of decoding depends on path and time of change. -/
structure LoadView.Reads (view : LoadView) (decode : Source → Decoding) : Prop where
  paths_distinct : ∀ listed, view.listing = .ok listed → (listed.map (·.path)).Nodup
  decode_eq : ∀ listed, view.listing = .ok listed → ∀ s ∈ listed, view.decode s = decode s

namespace Registry

/-- The registry after several loads. -/
def loads (r : Registry) (views : List LoadView) : Registry :=
  views.foldl (fun r view => (r.load (some view)).2) r

/-- The cache remembers of a listing the descriptions that can be decoded, with their keys. -/
def Remembers (decode : Source → Decoding) (listed : List Source) (cache : LoadCache) : Prop :=
  ∀ c, c ∈ cache ↔
    c.source ∈ listed ∧ ∃ id, (decode c.source).key? = some id ∧ c.identifiers = [id]

/-- The registry holds what a listing provides, and nothing else. -/
structure Tracks (decode : Source → Decoding) (listed : List Source) (r : Registry) : Prop where
  isOpen : r.isClosed = false
  cached : ∀ c, c ∈ r.cache ↔
    c.source ∈ listed ∧ ∃ id, (decode c.source).key? = some id ∧ c.identifiers = [id]
  installed : ∀ id, r.snapshot.Has id ↔ ∃ s ∈ listed, (decode s).key? = some id

variable {decode : Source → Decoding} {listed next : List Source} {r : Registry}
  {view : LoadView}

theorem tracks_empty (decode : Source → Decoding) : Tracks decode [] empty where
  isOpen := rfl
  cached c := by simp [empty]
  installed id := by simp [empty, Snapshot.empty, Snapshot.Has]

theorem key?_of_done {d : Decoding} {signer : Signer} (h : d = .done (.ok signer)) :
    d.key? = some signer.identifier := by
  rw [h, Decoding.key?]

theorem done_of_key? {d : Decoding} {id : SignerId} (h : d.key? = some id) :
    ∃ signer, d = .done (.ok signer) ∧ signer.identifier = id := by
  cases d with
  | stalled => cases h
  | done result =>
      cases result with
      | error fault => cases h
      | ok signer => exact ⟨signer, rfl, Option.some.inj h⟩

namespace Remembers

/-- Of what is remembered, a new listing keeps the descriptions that it still
has. -/
theorem unchanged_iff (h : Remembers decode listed r.cache) (c : CachedSource) :
    c ∈ r.cache.unchanged next ↔ (c.source ∈ listed ∧ c.source ∈ next) ∧
      ∃ id, (decode c.source).key? = some id ∧ c.identifiers = [id] := by
  rw [LoadCache.mem_unchanged, h, and_right_comm]

/-- Under distinct paths, a description has to be decoded unless the last listing
had it and it could be decoded. -/
theorem mem_pending_iff (h : Remembers decode listed r.cache) (hd : (next.map (·.path)).Nodup)
    (s : Source) : s ∈ Loader.pending next r.cache ↔
      s ∈ next ∧ ¬ (s ∈ listed ∧ ∃ id, (decode s).key? = some id) := by
  rw [Loader.mem_pending]
  refine and_congr_right fun hs => ?_
  rw [← Bool.not_eq_true, not_iff_not, LoadCache.hasPath_iff]
  constructor
  · rintro ⟨c, hc, hpath⟩
    obtain ⟨⟨hold, hnew⟩, id, hkey, _⟩ := (h.unchanged_iff c).mp hc
    obtain rfl := List.inj_on_of_nodup_map hd hnew hs hpath
    exact ⟨hold, id, hkey⟩
  · rintro ⟨hold, id, hkey⟩
    exact ⟨⟨s, [id]⟩, (h.unchanged_iff _).mpr ⟨⟨hold, hs⟩, id, hkey, rfl⟩, rfl⟩

theorem pending_distinct (hd : (next.map (·.path)).Nodup) :
    ((Loader.pending next r.cache).map (·.path)).Nodup :=
  hd.sublist (List.filter_sublist.map _)

/-- What is loaded comes from descriptions that have to be decoded and can be. -/
theorem mem_loaded_iff (h : Remembers decode listed r.cache) (hd : (next.map (·.path)).Nodup)
    (hdecode : ∀ s ∈ next, view.decode s = decode s) (l : LoadedSource) :
    l ∈ (Loader.load view.config view.decode next r.cache).loaded ↔
      (l.source ∈ next ∧ l.source ∉ listed) ∧ decode l.source = .done (.ok l.signer) := by
  show l ∈ (Loader.decodeAll view.decode (Loader.workers view.config) view.config.minBatchSize
    (Loader.pending next r.cache)).1 ↔ _
  rw [Loader.mem_decodeAll, h.mem_pending_iff hd]
  constructor
  · rintro ⟨⟨hs, hnot⟩, hdone⟩
    rw [hdecode _ hs] at hdone
    exact ⟨⟨hs, fun hold => hnot ⟨hold, _, key?_of_done hdone⟩⟩, hdone⟩
  · rintro ⟨⟨hs, hnew⟩, hdone⟩
    exact ⟨⟨hs, fun hold => hnew hold.1⟩, (hdecode _ hs).trans hdone⟩

/-- The cache after a load remembers the new listing. -/
theorem absorb (h : Remembers decode listed r.cache) (hd : (next.map (·.path)).Nodup)
    (hdecode : ∀ s ∈ next, view.decode s = decode s) :
    Remembers decode next (r.absorb view next).2.cache := by
  intro c
  have hcache : (r.absorb view next).2.cache = r.cache.unchanged next ++
      (Loader.load view.config view.decode next r.cache).loaded.map fun l =>
        ⟨l.source, [l.signer.identifier]⟩ := by
    refine recordAll_eq (Loader.paths_decodeAll (pending_distinct hd)) fun l hl => ?_
    exact (Loader.mem_pending.mp (Loader.mem_decodeAll.mp hl).1).2
  rw [hcache, List.mem_append, h.unchanged_iff, List.mem_map]
  constructor
  · rintro (⟨⟨_, hnew⟩, hkey⟩ | ⟨l, hl, rfl⟩)
    · exact ⟨hnew, hkey⟩
    · obtain ⟨⟨hs, _⟩, hdone⟩ := (h.mem_loaded_iff hd hdecode l).mp hl
      exact ⟨hs, _, key?_of_done hdone, rfl⟩
  · rintro ⟨hs, id, hkey, hids⟩
    by_cases hold : c.source ∈ listed
    · exact .inl ⟨⟨hold, hs⟩, id, hkey, hids⟩
    · obtain ⟨signer, hdone, rfl⟩ := done_of_key? hkey
      refine .inr ⟨⟨c.source, signer⟩, ?_, by rw [← hids]⟩
      exact (h.mem_loaded_iff hd hdecode _).mpr ⟨⟨hs, hold⟩, hdone⟩

end Remembers

namespace Tracks

theorem remembers (h : Tracks decode listed r) : Remembers decode listed r.cache :=
  h.cached

/-- The cache provides what is installed. -/
theorem provides_iff (h : Tracks decode listed r) (id : SignerId) :
    r.cache.provides id = true ↔ r.snapshot.Has id := by
  rw [LoadCache.provides_iff, h.installed]
  constructor
  · rintro ⟨c, hc, hid⟩
    obtain ⟨hs, id', hkey, hids⟩ := (h.cached c).mp hc
    obtain rfl : id = id' := by simpa [hids] using hid
    exact ⟨c.source, hs, hkey⟩
  · rintro ⟨s, hs, hkey⟩
    exact ⟨⟨s, [id]⟩, (h.cached _).mpr ⟨hs, id, hkey, rfl⟩, List.mem_cons_self⟩

/-- What is installed after a load: the keys that descriptions still provide, and
those that were loaded. -/
theorem has_absorb (h : Tracks decode listed r) (hd : (next.map (·.path)).Nodup)
    (hdecode : ∀ s ∈ next, view.decode s = decode s) (id : SignerId) :
    (r.absorb view next).2.snapshot.Has id ↔ ∃ s ∈ next, (decode s).key? = some id := by
  have hsigners : (r.absorb view next).2.snapshot.signers =
      ((r.snapshot.removeStale (r.cache.stale next)).install
        (Loader.load view.config view.decode next r.cache).loaded).2.signers :=
    signers_loadProxies view _
  have hhas : (r.absorb view next).2.snapshot.Has id ↔
      ((r.snapshot.removeStale (r.cache.stale next)).install
        (Loader.load view.config view.decode next r.cache).loaded).2.Has id := by
    rw [Snapshot.Has, Snapshot.Has, hsigners]
  rw [hhas, Snapshot.has_install, Snapshot.has_removeStale, h.installed, LoadCache.mem_stale]
  constructor
  · rintro (⟨⟨s, hs, hkey⟩, hfresh⟩ | ⟨l, hl, rfl⟩)
    · -- still installed: some description that provides it is unchanged
      by_cases hmem : s ∈ next
      · exact ⟨s, hmem, hkey⟩
      · have hgone : ∃ c ∈ r.cache, c.source ∉ next ∧ id ∈ c.identifiers :=
          ⟨⟨s, [id]⟩, (h.cached _).mpr ⟨hs, id, hkey, rfl⟩, hmem, List.mem_cons_self⟩
        have hkept : (r.cache.unchanged next).provides id = true := by
          by_contra hnot
          exact hfresh ⟨hgone, by simpa using hnot⟩
        obtain ⟨c, hc, hid⟩ := LoadCache.provides_iff.mp hkept
        obtain ⟨⟨_, hnew⟩, id', hkey', hids⟩ := (h.remembers.unchanged_iff c).mp hc
        obtain rfl : id = id' := by simpa [hids] using hid
        exact ⟨c.source, hnew, hkey'⟩
    · obtain ⟨⟨hs, _⟩, hdone⟩ := (h.remembers.mem_loaded_iff hd hdecode l).mp hl
      exact ⟨l.source, hs, key?_of_done hdone⟩
  · rintro ⟨s, hs, hkey⟩
    by_cases hold : s ∈ listed
    · refine .inl ⟨⟨s, hold, hkey⟩, fun hstale => ?_⟩
      have hkept : (r.cache.unchanged next).provides id = true :=
        LoadCache.provides_iff.mpr
          ⟨⟨s, [id]⟩, (h.remembers.unchanged_iff _).mpr ⟨⟨hold, hs⟩, id, hkey, rfl⟩,
            List.mem_cons_self⟩
      rw [hkept] at hstale
      cases hstale.2
    · obtain ⟨signer, hdone, rfl⟩ := done_of_key? hkey
      exact .inr ⟨⟨s, signer⟩,
        (h.remembers.mem_loaded_iff hd hdecode _).mpr ⟨⟨hs, hold⟩, hdone⟩, rfl⟩

/-- After a load the registry tracks the new listing, whatever the last one was. -/
theorem absorb (h : Tracks decode listed r) (hd : (next.map (·.path)).Nodup)
    (hdecode : ∀ s ∈ next, view.decode s = decode s) :
    Tracks decode next (r.absorb view next).2 :=
  ⟨h.isOpen, h.remembers.absorb hd hdecode, h.has_absorb hd hdecode⟩

/-- A second load of a listing installs nothing and removes nothing. -/
theorem absorb_again (h : Tracks decode listed r) (hd : (listed.map (·.path)).Nodup)
    (hdecode : ∀ s ∈ listed, view.decode s = decode s) :
    (r.absorb view listed).1.loaded = 0 ∧
      (r.absorb view listed).2.snapshot.signers = r.snapshot.signers ∧
      (r.absorb view listed).2.cache = r.cache := by
  have hnone : (Loader.load view.config view.decode listed r.cache).loaded = [] := by
    refine List.eq_nil_iff_forall_not_mem.mpr fun l hl => ?_
    obtain ⟨⟨hs, hnew⟩, _⟩ := (h.remembers.mem_loaded_iff hd hdecode l).mp hl
    exact hnew hs
  have hkept : r.cache.unchanged listed = r.cache := by
    refine List.filter_eq_self.mpr fun c hc => ?_
    simpa using ((h.cached c).mp hc).1
  have hstale : r.cache.stale listed = [] := by
    refine List.eq_nil_iff_forall_not_mem.mpr fun id hid => ?_
    obtain ⟨⟨c, hc, hgone, _⟩, _⟩ := LoadCache.mem_stale.mp hid
    exact hgone ((h.cached c).mp hc).1
  have houtcome : (Loader.load view.config view.decode listed r.cache).stale = [] := hstale
  refine ⟨?_, ?_, ?_⟩
  · simp only [Registry.absorb, hnone, houtcome, Snapshot.install]
  · simp only [Registry.absorb, hnone, houtcome, Snapshot.install, signers_loadProxies]
    rfl
  · simp only [Registry.absorb, hnone, hkept]
    rfl

end Tracks

/-! ## Sequences of loads -/

theorem load_listed (hopen : r.isClosed = false) (hlisted : view.listing = .ok listed) :
    r.load (some view) = (.ok (r.absorb view listed).1, (r.absorb view listed).2) := by
  simp [load, tryLoad, hopen, hlisted]

/-- A directory that cannot be listed leaves keys and cache as they were. -/
theorem load_unlisted {fault : KeyError} (hfailed : view.listing = .error fault) :
    (r.load (some view)).2.snapshot = r.snapshot ∧ (r.load (some view)).2.cache = r.cache ∧
      (r.load (some view)).2.isClosed = r.isClosed := by
  cases hopen : r.isClosed with
  | true => simp [load, tryLoad, hopen]
  | false => cases fault <;> simp [load, tryLoad, hopen, hfailed]

theorem Tracks.load (h : Tracks decode listed r) (hview : view.Reads decode) :
    ∃ listed', Tracks decode listed' (r.load (some view)).2 := by
  cases hl : view.listing with
  | ok next =>
      rw [load_listed h.isOpen hl]
      exact ⟨next, h.absorb (hview.paths_distinct next hl) (hview.decode_eq next hl)⟩
  | error fault =>
      obtain ⟨hsnapshot, hcache, hclosed⟩ := load_unlisted (r := r) hl
      refine ⟨listed, hclosed.trans h.isOpen, ?_, ?_⟩
      · rw [hcache]
        exact h.cached
      · rw [hsnapshot]
        exact h.installed

/-- However often it is loaded, a registry tracks the last directory that could be
listed. -/
theorem tracks_loads (h : Tracks decode listed r) {views : List LoadView}
    (hviews : ∀ view ∈ views, view.Reads decode) :
    ∃ listed', Tracks decode listed' (r.loads views) := by
  induction views generalizing r listed with
  | nil => exact ⟨listed, h⟩
  | cons view rest ih =>
      obtain ⟨listed', h'⟩ := h.load (hviews view List.mem_cons_self)
      exact ih h' fun v hv => hviews v (List.mem_cons_of_mem view hv)

/-- Loading again is loading afresh. Let decoding depend on path and time of
change alone, and let a registry have been loaded any number of times. One more
load of a directory that can be listed installs the keys that a new registry
would, which are those that its cache provides; loading once more finds nothing
to do. A directory that cannot be listed changes nothing. -/
theorem load_as_fresh (decode : Source → Decoding) (views : List LoadView)
    (hviews : ∀ view ∈ views, view.Reads decode) (view : LoadView) (hview : view.Reads decode) :
    let r := empty.loads views
    let after := (r.load (some view)).2
    (∀ listed, view.listing = .ok listed →
      (∀ id, id ∈ after.snapshot.identifiers ↔
        id ∈ (empty.load (some view)).2.snapshot.identifiers) ∧
      (∀ id, id ∈ after.snapshot.identifiers ↔ ∃ c ∈ after.cache, id ∈ c.identifiers) ∧
      ∀ again : LoadView, again.Reads decode → again.listing = .ok listed →
        (∃ errors, (after.load (some again)).1 = .ok ⟨0, errors⟩) ∧
        (after.load (some again)).2.snapshot.signers = after.snapshot.signers ∧
        (after.load (some again)).2.cache = after.cache) ∧
    ∀ fault, view.listing = .error fault → after.snapshot = r.snapshot ∧ after.cache = r.cache := by
  intro r after
  obtain ⟨old, htracks⟩ := tracks_loads (tracks_empty decode) hviews
  constructor
  · intro listed hlisted
    have hdistinct := hview.paths_distinct listed hlisted
    have hdecode := hview.decode_eq listed hlisted
    have hafter : Tracks decode listed after := by
      show Tracks decode listed (r.load (some view)).2
      rw [load_listed htracks.isOpen hlisted]
      exact htracks.absorb hdistinct hdecode
    have hfresh : Tracks decode listed (empty.load (some view)).2 := by
      rw [load_listed rfl hlisted]
      exact (tracks_empty decode).absorb hdistinct hdecode
    refine ⟨fun id => ?_, fun id => ?_, fun again hagain hsame => ?_⟩
    · rw [Snapshot.mem_identifiers, Snapshot.mem_identifiers, hafter.installed, hfresh.installed]
    · rw [Snapshot.mem_identifiers, ← hafter.provides_iff, LoadCache.provides_iff]
    · obtain ⟨hloaded, hsigners, hcache⟩ :=
        hafter.absorb_again hdistinct (hagain.decode_eq listed hsame)
      rw [load_listed hafter.isOpen hsame]
      exact ⟨⟨_, congrArg Except.ok (congrArg (LoadReport.mk · _) hloaded)⟩, hsigners, hcache⟩
  · intro fault hfailed
    obtain ⟨hsnapshot, hcache, _⟩ := load_unlisted (r := r) hfailed
    exact ⟨hsnapshot, hcache⟩

/-- Every description provides the same key; those of time 0 give no answer. -/
def oneKey (s : Source) : Decoding :=
  if s.modified = 0 then .stalled
  else .done (.ok ⟨⟨[1]⟩, .bls, fun _ => .error (.signing "no secret")⟩)

/-- A directory of such descriptions. -/
def oneKeyView (listed : List Source) : LoadView :=
  ⟨.of "keys", .ok listed, oneKey, none, id⟩

theorem reads_oneKeyView {listed : List Source} (h : (listed.map (·.path)).Nodup) :
    (oneKeyView listed).Reads oneKey where
  paths_distinct l hl := by
    obtain rfl := Except.ok.inj hl
    exact h
  decode_eq _ _ _ _ := rfl

/-- Of two descriptions of a key one goes, the other stops to answer and answers
again, and a third one comes. -/
theorem oneKey_as_fresh :
    let views := [oneKeyView [⟨"a", 1⟩, ⟨"b", 1⟩], oneKeyView [⟨"b", 1⟩], oneKeyView [⟨"b", 0⟩]]
    let view := oneKeyView [⟨"b", 2⟩, ⟨"c", 1⟩]
    ∀ id, id ∈ ((empty.loads views).load (some view)).2.snapshot.identifiers ↔
      id ∈ (empty.load (some view)).2.snapshot.identifiers := by
  intro views view
  have hviews : ∀ v ∈ views, v.Reads oneKey := by
    intro v hv
    simp only [views, List.mem_cons, List.not_mem_nil, or_false] at hv
    rcases hv with rfl | rfl | rfl <;> exact reads_oneKeyView (by decide)
  exact ((load_as_fresh oneKey views hviews view (reads_oneKeyView (by decide))).1 _ rfl).1

end Registry

end RemoteSigner
