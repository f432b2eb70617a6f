import RemoteSigner.Proofs.Keys.Reload

/-!
# When a load brings a key

A load `Brings` a key that is not installed if a description that it has to decode
provides the key (`has_load`). What it does not bring, no later load of the same
directory does, since descriptions that were passed over are passed over again
(`brings_load`); and what it brings, later loads leave (`has_load_again`). So one load
decides for any number of them (`has_reloads`).
-/

namespace RemoteSigner

/-- Loading a directory with a cache brings a key: a description that has to be decoded
provides it. -/
def LoadView.Brings (view : LoadView) (cache : LoadCache) (key : SignerId) : Prop :=
  ∃ listed, view.listing = .ok listed ∧
    ∃ s ∈ Loader.pending listed cache, (view.decode s).key? = some key

namespace Registry

variable {r : Registry} {view : LoadView} {listed : List Source} {key : SignerId}

/-- A remembered description stays remembered if its path is not decoded again. -/
theorem mem_recordAll {loaded : List LoadedSource} {cache : LoadCache} {c : CachedSource}
    (hc : c ∈ cache) (hpath : ∀ l ∈ loaded, l.source.path ≠ c.source.path) :
    c ∈ recordAll loaded cache := by
  induction loaded generalizing cache with
  | nil => exact hc
  | cons l rest ih =>
      refine ih (List.mem_append_left _ (List.mem_filter.mpr ⟨hc, ?_⟩)) fun l' hl' =>
        hpath l' (List.mem_cons_of_mem l hl')
      simpa using (hpath l List.mem_cons_self).symm

/-- What is remembered was so before or was decoded. -/
theorem mem_of_mem_recordAll {loaded : List LoadedSource} {cache : LoadCache} {c : CachedSource}
    (hc : c ∈ recordAll loaded cache) : c ∈ cache ∨ ∃ l ∈ loaded, c.source = l.source := by
  induction loaded generalizing cache with
  | nil => exact .inl hc
  | cons l rest ih =>
      rcases ih hc with hc | ⟨l', hl', hsource⟩
      · rcases List.mem_append.mp hc with hc | hc
        · exact .inl (List.mem_filter.mp hc).1
        · obtain rfl := List.mem_singleton.mp hc
          exact .inr ⟨l, List.mem_cons_self, rfl⟩
      · exact .inr ⟨l', List.mem_cons_of_mem l hl', hsource⟩

theorem cache_absorb : (r.absorb view listed).2.cache =
    recordAll (Loader.load view.config view.decode listed r.cache).loaded
      (r.cache.unchanged listed) := rfl

/-- What was loaded was to be decoded. -/
theorem pending_of_loaded {l : LoadedSource}
    (hl : l ∈ (Loader.load view.config view.decode listed r.cache).loaded) :
    l.source ∈ Loader.pending listed r.cache ∧ view.decode l.source = .done (.ok l.signer) :=
  Loader.mem_decodeAll.mp hl

/-- The keys after a load: those that did not become stale, and those that were
decoded. -/
theorem has_absorb : (r.absorb view listed).2.snapshot.Has key ↔
    (r.snapshot.Has key ∧ key ∉ r.cache.stale listed) ∨
      ∃ s ∈ Loader.pending listed r.cache, (view.decode s).key? = some key := by
  have hsigners : (r.absorb view listed).2.snapshot.signers =
      ((r.snapshot.removeStale (r.cache.stale listed)).install
        (Loader.load view.config view.decode listed r.cache).loaded).2.signers :=
    signers_loadProxies view _
  rw [Snapshot.Has, hsigners]
  show Snapshot.Has _ key ↔ _
  rw [Snapshot.has_install, Snapshot.has_removeStale]
  refine or_congr_right ⟨?_, ?_⟩
  · rintro ⟨l, hl, rfl⟩
    obtain ⟨hpending, hdone⟩ := pending_of_loaded hl
    exact ⟨l.source, hpending, key?_of_done hdone⟩
  · rintro ⟨s, hs, hkey⟩
    obtain ⟨signer, hdone, rfl⟩ := done_of_key? hkey
    exact ⟨⟨s, signer⟩, Loader.mem_decodeAll.mpr ⟨hs, hdone⟩, rfl⟩

theorem has_load (hopen : r.isClosed = false) (habsent : ¬ r.snapshot.Has key) :
    (r.load (some view)).2.snapshot.Has key ↔ view.Brings r.cache key := by
  cases hl : view.listing with
  | error fault =>
      rw [(load_unlisted hl).1]
      exact iff_of_false habsent fun ⟨listed, hlisted, _⟩ => by cases hl.symm.trans hlisted
  | ok listed =>
      rw [load_listed hopen hl, has_absorb]
      simp only [habsent, false_and, false_or]
      exact ⟨fun h => ⟨listed, hl, h⟩, fun ⟨listed', hlisted, h⟩ => by
        obtain rfl := Except.ok.inj (hl.symm.trans hlisted)
        exact h⟩

theorem isClosed_load : (r.load (some view)).2.isClosed = r.isClosed := by
  cases hl : view.listing with
  | error fault => exact (load_unlisted hl).2.2
  | ok listed => cases hopen : r.isClosed <;> simp [load, tryLoad, hopen, hl, absorb]

/-- What a load does not bring, the next one does not bring either. -/
theorem brings_load (hopen : r.isClosed = false) (h : ¬ view.Brings r.cache key) :
    ¬ view.Brings (r.load (some view)).2.cache key := by
  rintro ⟨listed, hlisted, s, hs, hkey⟩
  rw [load_listed hopen hlisted, cache_absorb] at hs
  obtain ⟨hmem, hnew⟩ := Loader.mem_pending.mp hs
  refine h ⟨listed, hlisted, s, Loader.mem_pending.mpr ⟨hmem, ?_⟩, hkey⟩
  rw [← Bool.not_eq_true, LoadCache.hasPath_iff] at hnew ⊢
  rintro ⟨c, hc, hpath⟩
  refine hnew ⟨c, LoadCache.mem_unchanged.mpr ⟨mem_recordAll hc fun l hl hsame => ?_,
    (LoadCache.mem_unchanged.mp hc).2⟩, hpath⟩
  have hfree := (Loader.mem_pending.mp (pending_of_loaded hl).1).2
  rw [← Bool.not_eq_true, LoadCache.hasPath_iff] at hfree
  exact hfree ⟨c, hc, hsame.symm⟩

/-- A key that is installed after a load is so after the next one. -/
theorem has_load_again (hopen : r.isClosed = false)
    (h : (r.load (some view)).2.snapshot.Has key) :
    ((r.load (some view)).2.load (some view)).2.snapshot.Has key := by
  cases hl : view.listing with
  | error fault => rwa [(load_unlisted hl).1]
  | ok listed =>
      rw [load_listed (isClosed_load.trans hopen) hl, has_absorb]
      refine .inl ⟨h, fun hstale => ?_⟩
      obtain ⟨⟨c, hc, hgone, _⟩, _⟩ := LoadCache.mem_stale.mp hstale
      rw [load_listed hopen hl, cache_absorb] at hc
      rcases mem_of_mem_recordAll hc with hc | ⟨l, hl', hsource⟩
      · exact hgone (LoadCache.mem_unchanged.mp hc).2
      · exact hgone (hsource ▸ (Loader.mem_pending.mp (pending_of_loaded hl').1).1)

theorem has_loads_again (hopen : r.isClosed = false)
    (h : (r.load (some view)).2.snapshot.Has key) (n : Nat) :
    ((r.load (some view)).2.loads (List.replicate n view)).snapshot.Has key := by
  induction n generalizing r with
  | zero => exact h
  | succ n ih => exact ih (isClosed_load.trans hopen) (has_load_again hopen h)

/-- However often a directory is loaded, a key that was not installed is then
installed exactly if the first load brings it. -/
theorem has_reloads (hopen : r.isClosed = false) (habsent : ¬ r.snapshot.Has key) (n : Nat) :
    (r.loads (List.replicate (n + 1) view)).snapshot.Has key ↔ view.Brings r.cache key := by
  induction n generalizing r with
  | zero => exact has_load hopen habsent
  | succ n ih =>
      by_cases hbrings : view.Brings r.cache key
      · have hinstalled := (has_load hopen habsent).mpr hbrings
        exact iff_of_true (has_loads_again hopen hinstalled (n + 1)) hbrings
      · have habsent' := (has_load hopen habsent).not.mpr hbrings
        show ((r.load (some view)).2.loads (List.replicate (n + 1) view)).snapshot.Has key ↔ _
        rw [ih (isClosed_load.trans hopen) habsent']
        exact iff_of_false (brings_load hopen hbrings) hbrings

end Registry

end RemoteSigner
