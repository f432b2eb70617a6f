import Mathlib.Data.List.Nodup
import RemoteSigner.Keys.Registry

/-!
# What a load brings and takes away

The parts of a load, each by what it leaves behind:

* `Loader.mem_decodeAll` — the signers that come of decoding, whatever the
  batches;
* `Registry.recordAll_eq` — what the cache remembers of them;
* `LoadCache.mem_stale` — the keys that no unchanged description provides;
* `Snapshot.has_removeStale`, `Snapshot.has_install`, `Registry.signers_loadProxies`
  — which keys are installed afterwards;
* `Registry.removeSigner_spec` — which are after one is removed by hand.
-/

namespace RemoteSigner

/-! ## Identifiers in order -/

namespace SignerId

theorem mem_insert {a id : SignerId} {ids : List SignerId} :
    a ∈ insert id ids ↔ a = id ∨ a ∈ ids := by
  induction ids with
  | nil => simp [insert]
  | cons b rest ih =>
      rw [insert]
      split
      · simp
      · split
        · rename_i heq
          simp [heq]
        · rw [List.mem_cons, List.mem_cons, ih]
          exact or_left_comm

theorem mem_sorted {a : SignerId} {ids : List SignerId} : a ∈ sorted ids ↔ a ∈ ids := by
  induction ids with
  | nil => exact Iff.rfl
  | cons id rest ih =>
      show a ∈ insert id (sorted rest) ↔ _
      rw [mem_insert, ih, List.mem_cons]

end SignerId

/-! ## Decoding -/

/-- The key of the signer that came of decoding. -/
def Decoding.key? : Decoding → Option SignerId
  | .done (.ok signer) => some signer.identifier
  | _ => none

namespace Loader

variable {decode : Source → Decoding} {workers minimum : Nat} {pending : List Source}

theorem flatten_batches {α : Type} (size : Nat) (as : List α) : (batches size as).flatten = as := by
  fun_induction batches size as with
  | case1 => rfl
  | case2 a rest ih => rw [List.flatten_cons, ih, List.take_append_drop]

/-- Batches change nothing but the time it takes. -/
theorem flatten_decoded (size : Nat) (pending : List Source) :
    ((batches size pending).map (·.map (decodeOne decode))).flatten =
      pending.map (decodeOne decode) := by
  rw [← List.map_flatten, flatten_batches]

theorem loaded?_decodeOne {s : Source} {l : LoadedSource} :
    loaded? (decodeOne decode s) = some l ↔ l.source = s ∧ decode s = .done (.ok l.signer) := by
  obtain ⟨source, signer⟩ := l
  cases hd : decode s with
  | stalled => simp [loaded?, decodeOne, resultOf, hd, Except.toOption]
  | done result =>
      cases result with
      | error fault => simp [loaded?, decodeOne, resultOf, hd, Except.toOption]
      | ok x =>
          simp only [loaded?, decodeOne, resultOf, hd, Except.toOption, Option.map_some,
            Option.some.injEq, LoadedSource.mk.injEq, Decoding.done.injEq, Except.ok.injEq]
          exact and_congr_left' eq_comm

/-- The descriptions of a directory are its files with a name that is one of a description. -/
theorem mem_list {disk : Disk} {directory : FilePath} {ext : String} {s : Source} :
    (∃ listed, list disk directory ext = .ok listed ∧ s ∈ listed) ↔
      ∃ names, disk.names directory = .ok names ∧ ∃ name ∈ names, isCandidate ext name = true ∧
        ∃ f, disk.file (directory.join name) = .ok f ∧ s = ⟨directory.join name, f.modified⟩ := by
  unfold list
  cases disk.names directory with
  | error fault => simp
  | ok names =>
      simp only [Except.ok.injEq, exists_eq_left', List.mem_filterMap, List.mem_filter, and_assoc]
      refine exists_congr fun name => and_congr_right fun _ => and_congr_right fun _ => ?_
      cases disk.file (directory.join name) <;> simp [eq_comm]

section Gathering

variable {sources : List Source} {finished : List (List Result)} {expected : Nat}

/-- What is gathered are the signers of the files that were decoded. -/
theorem mem_gather (h : finished.flatten = sources.map (decodeOne decode)) {l : LoadedSource} :
    l ∈ (gather expected finished).1 ↔
      l.source ∈ sources ∧ decode l.source = .done (.ok l.signer) := by
  simp only [gather, h, List.mem_mergeSort, List.mem_filterMap, List.mem_map]
  constructor
  · rintro ⟨_, ⟨s, hs, rfl⟩, hl⟩
    obtain ⟨rfl, hd⟩ := loaded?_decodeOne.mp hl
    exact ⟨hs, hd⟩
  · rintro ⟨hs, hd⟩
    exact ⟨_, ⟨_, hs, rfl⟩, loaded?_decodeOne.mpr ⟨rfl, hd⟩⟩

theorem loaded_sublist (decode : Source → Decoding) (sources : List Source) :
    (((sources.map (decodeOne decode)).filterMap loaded?).map (·.source)).Sublist sources := by
  induction sources with
  | nil => exact .slnil
  | cons s rest ih =>
      rw [List.map_cons, List.filterMap_cons]
      cases hl : loaded? (decodeOne decode s) with
      | none => exact ih.cons _
      | some l =>
          obtain ⟨rfl, _⟩ := loaded?_decodeOne.mp hl
          exact ih.cons_cons _

/-- Descriptions that differ in something yield signers from descriptions that do. -/
theorem distinct_gather {β : Type} (f : Source → β)
    (h : finished.flatten = sources.map (decodeOne decode)) (hdistinct : (sources.map f).Nodup) :
    ((gather expected finished).1.map fun l => f l.source).Nodup := by
  simp only [gather, h]
  rw [((List.mergeSort_perm _ _).map _).nodup_iff]
  have hsub := (loaded_sublist decode sources).map f
  rw [List.map_map] at hsub
  exact hdistinct.sublist hsub

end Gathering

/-- A signer is loaded from each description that can be decoded. -/
theorem mem_decodeAll {l : LoadedSource} : l ∈ (decodeAll decode workers minimum pending).1 ↔
    l.source ∈ pending ∧ decode l.source = .done (.ok l.signer) :=
  mem_gather (flatten_decoded _ pending)

theorem paths_decodeAll (h : (pending.map (·.path)).Nodup) :
    ((decodeAll decode workers minimum pending).1.map (·.source.path)).Nodup :=
  distinct_gather (·.path) (flatten_decoded _ pending) h

end Loader

/-! ## The cache -/

namespace LoadCache

variable {cache : LoadCache} {listed : List Source}

theorem provides_iff {id : SignerId} :
    cache.provides id = true ↔ ∃ c ∈ cache, id ∈ c.identifiers := by
  simp [provides]

theorem hasPath_iff {path : FilePath} :
    cache.hasPath path = true ↔ ∃ c ∈ cache, c.source.path = path := by
  simp [hasPath]

theorem mem_unchanged {c : CachedSource} :
    c ∈ cache.unchanged listed ↔ c ∈ cache ∧ c.source ∈ listed := by
  simp [unchanged]

theorem mem_stale {id : SignerId} : id ∈ cache.stale listed ↔
    (∃ c ∈ cache, c.source ∉ listed ∧ id ∈ c.identifiers) ∧
      (cache.unchanged listed).provides id = false := by
  simp [stale, SignerId.mem_sorted, and_assoc]

end LoadCache

theorem Loader.mem_pending {cache : LoadCache} {listed : List Source} {s : Source} :
    s ∈ pending listed cache ↔ s ∈ listed ∧ (cache.unchanged listed).hasPath s.path = false := by
  simp [pending]

/-- What was decoded is remembered after what was remembered before, if the paths
differ. -/
theorem Registry.recordAll_eq {loaded : List LoadedSource} {cache : LoadCache}
    (hdistinct : (loaded.map (·.source.path)).Nodup)
    (hnew : ∀ l ∈ loaded, cache.hasPath l.source.path = false) :
    recordAll loaded cache = cache ++ loaded.map fun l => ⟨l.source, [l.signer.identifier]⟩ := by
  induction loaded generalizing cache with
  | nil => simp [recordAll]
  | cons l rest ih =>
      obtain ⟨hl, hrest⟩ := List.nodup_cons.mp hdistinct
      have hkept : cache.filter (fun c => c.source.path ≠ l.source.path) = cache := by
        have hfree := hnew l List.mem_cons_self
        simpa [LoadCache.hasPath, List.filter_eq_self] using hfree
      have hone : cache.record ⟨l.source, [l.signer.identifier]⟩ =
          cache ++ [⟨l.source, [l.signer.identifier]⟩] := by
        rw [LoadCache.record, hkept]
      show recordAll rest (cache.record ⟨l.source, [l.signer.identifier]⟩) = _
      rw [hone, ih hrest ?_, List.map_cons, List.append_assoc, List.singleton_append]
      intro x hx
      have hold := hnew x (List.mem_cons_of_mem l hx)
      have hne : ¬ l.source.path = x.source.path := fun heq =>
        hl (List.mem_map.mpr ⟨x, hx, heq.symm⟩)
      simpa [LoadCache.hasPath, hne] using hold

/-! ## What is installed -/

namespace Snapshot

variable {s : Snapshot} {id : SignerId}

/-- A signer of the key is installed. -/
def Has (s : Snapshot) (id : SignerId) : Prop :=
  ∃ x ∈ s.signers, x.identifier = id

theorem find?_isSome : (s.find? id).isSome = true ↔ s.Has id := by
  simp [find?, Has]

theorem mem_identifiers : id ∈ s.identifiers ↔ s.Has id := by
  simp [identifiers, SignerId.mem_sorted, Has]

theorem has_put {x : Signer} : (s.put x).Has id ↔ s.Has id ∨ x.identifier = id := by
  constructor
  · rintro ⟨y, hy, heq⟩
    rcases List.mem_append.mp hy with hy | hy
    · exact .inl ⟨y, (List.mem_filter.mp hy).1, heq⟩
    · exact .inr (List.mem_singleton.mp hy ▸ heq)
  · intro h
    by_cases hx : x.identifier = id
    · exact ⟨x, List.mem_append_right _ List.mem_cons_self, hx⟩
    · obtain ⟨y, hy, heq⟩ := h.resolve_right hx
      have hne : (y.identifier != x.identifier) = true := by
        rw [heq]
        simpa using fun h => hx h.symm
      exact ⟨y, List.mem_append_left _ (List.mem_filter.mpr ⟨hy, hne⟩), heq⟩

theorem has_remove {other : SignerId} : (s.remove other).2.Has id ↔ s.Has id ∧ id ≠ other := by
  constructor
  · rintro ⟨x, hx, rfl⟩
    obtain ⟨hx, hne⟩ := List.mem_filter.mp hx
    exact ⟨⟨x, hx, rfl⟩, by simpa using hne⟩
  · rintro ⟨⟨x, hx, rfl⟩, hne⟩
    exact ⟨x, List.mem_filter.mpr ⟨hx, by simpa using hne⟩, rfl⟩

/-- Stale keys are gone. -/
theorem has_removeStale {stale : List SignerId} :
    (s.removeStale stale).Has id ↔ s.Has id ∧ id ∉ stale := by
  induction stale generalizing s with
  | nil => simp [removeStale]
  | cons other rest ih =>
      show ((s.remove other).2.removeStale rest).Has id ↔ _
      rw [ih, has_remove, and_assoc, List.mem_cons, not_or]

/-- What was loaded is installed, unless its key was. -/
theorem has_install {loaded : List LoadedSource} :
    (s.install loaded).2.Has id ↔ s.Has id ∨ ∃ l ∈ loaded, l.signer.identifier = id := by
  induction loaded generalizing s with
  | nil => simp [install]
  | cons l rest ih =>
      rw [install]
      split
      · rename_i hfound
        have hhas := find?_isSome.mp hfound
        rw [ih]
        constructor
        · rintro (h | ⟨x, hx, heq⟩)
          · exact .inl h
          · exact .inr ⟨x, List.mem_cons_of_mem l hx, heq⟩
        · rintro (h | ⟨x, hx, heq⟩)
          · exact .inl h
          · rcases List.mem_cons.mp hx with rfl | hx
            · exact .inl (heq ▸ hhas)
            · exact .inr ⟨x, hx, heq⟩
      · show ((s.put l.signer).install rest).2.Has id ↔ _
        rw [ih, has_put, or_assoc]
        simp

@[simp] theorem signers_dropProxies (consensus : SignerId) :
    (s.dropProxies consensus).signers = s.signers := rfl

@[simp] theorem signers_addProxy (consensus : SignerId) (proxy : Signer) :
    (s.addProxy consensus proxy).signers = s.signers := rfl

theorem signers_replaceProxies (consensus : SignerId) (proxies : List Signer) :
    (s.replaceProxies consensus proxies).signers = s.signers := by
  have hadd : ∀ (proxies : List Signer) (s : Snapshot),
      (proxies.foldl (fun s p => s.addProxy consensus p) s).signers = s.signers := by
    intro proxies
    induction proxies with
    | nil => exact fun _ => rfl
    | cons p rest ih => exact fun s => (ih (s.addProxy consensus p)).trans (signers_addProxy ..)
  exact (hadd proxies (s.dropProxies consensus)).trans (signers_dropProxies consensus)

theorem signers_replaceAllProxies (proxiesOf : SignerId → List Signer) (order : List SignerId) :
    (s.replaceAllProxies proxiesOf order).signers = s.signers := by
  induction order generalizing s with
  | nil => rfl
  | cons consensus rest ih =>
      exact (ih (s := s.replaceProxies consensus (proxiesOf consensus))).trans
        (signers_replaceProxies _ _)

end Snapshot

/-- Loading proxies installs and removes no signer. -/
theorem Registry.signers_loadProxies (view : LoadView) (s : Snapshot) :
    (loadProxies view s).2.signers = s.signers := by
  unfold loadProxies
  cases view.proxies with
  | none => rfl
  | some find => exact Snapshot.signers_replaceAllProxies _ _

/-- Taking a key out of the registry installs none; if it succeeds, the key is gone. -/
theorem Registry.removeSigner_spec (r : Registry) (key : SignerId) :
    (r.removeSigner key).2.isClosed = r.isClosed ∧
      (∀ other, (r.removeSigner key).2.snapshot.Has other → r.snapshot.Has other) ∧
      ∀ found, (r.removeSigner key).1 = .ok found →
        (r.removeSigner key).2.isClosed = false ∧ ¬ (r.removeSigner key).2.snapshot.Has key := by
  cases hopen : r.isClosed with
  | true => simp [removeSigner, change, hopen]
  | false =>
      have hfound : (r.snapshot.remove key).1 = (r.snapshot.find? key).isSome := rfl
      have hleft : ∀ other,
          (r.snapshot.remove key).2.Has other ↔ r.snapshot.Has other ∧ other ≠ key :=
        fun other => Snapshot.has_remove
      simp only [removeSigner, change, hopen]
      generalize r.snapshot.remove key = outcome at hfound hleft ⊢
      obtain ⟨found, s⟩ := outcome
      cases found with
      | true => exact ⟨rfl, fun other h => ((hleft other).mp h).1,
          fun _ _ => ⟨rfl, fun h => ((hleft key).mp h).2 rfl⟩⟩
      | false =>
          have habsent : ¬ r.snapshot.Has key := fun h => by
            rw [← Snapshot.find?_isSome, ← hfound] at h
            cases h
          exact ⟨rfl, fun other h => h, fun _ _ => ⟨rfl, habsent⟩⟩

/-- A change leaves what loads remember. -/
theorem Registry.cache_change {α : Type} (r : Registry) (f : Snapshot → α × Snapshot) :
    (r.change f).2.cache = r.cache := by
  unfold change
  split <;> rfl

end RemoteSigner
