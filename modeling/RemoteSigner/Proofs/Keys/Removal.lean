import RemoteSigner.Proofs.Keys.Proxies
import RemoteSigner.Proofs.Keys.Returning

/-!
# A key that was removed

A `Site` is a registry with the directory that it loads from. Descriptions come, change and go
(`Event.edit`) while the registry obeys commands, and its cache always remembers the directory
as the last load has seen it (`Site.remembers_run`).

A load brings back a key that was removed exactly if a description that the last load has not
seen provides it (`Site.returns_iff`), since nothing records that the key was removed. So the
key stays away however the run goes on, if all descriptions of it had been seen, and if then
none of them is created or changed and the key is not added by hand (`Site.removed_stays`).
A description that came after the last load and before the removal brings the key back
(`Site.unseen_returns`).
-/

namespace RemoteSigner

namespace Registry

/-- What a command lists, if it does. -/
def listing? (r : Registry) : Command → Option (List Source)
  | .load (some view) => if r.isClosed then none else view.listing.toOption
  | .load none | .addSigner _ | .addProxy .. | .removeSigner _ => none

/-- A command that lists the directory is a load. All others leave the cache, and bring no key
but one that is added by hand. -/
theorem obey_cases (r : Registry) (x : Command) :
    (∃ view listed, x = .load (some view) ∧ view.listing = .ok listed ∧
        r.listing? x = some listed ∧ r.obey x = (r.absorb view listed).2) ∨
      (r.listing? x = none ∧ (r.obey x).cache = r.cache ∧
        ∀ id, (r.obey x).snapshot.Has id →
          r.snapshot.Has id ∨ ∃ signer, x = .addSigner signer ∧ signer.identifier = id) := by
  cases x with
  | load view =>
      cases hopen : r.isClosed with
      | true =>
          have hsame : r.obey (.load view) = r := by simp [obey, load, tryLoad, hopen]
          rw [hsame]
          exact .inr ⟨by cases view <;> simp [listing?, hopen], rfl, fun id h => .inl h⟩
      | false =>
          cases view with
          | none =>
              have hsame : r.obey (.load none) = r := by simp [obey, load, tryLoad, hopen]
              rw [hsame]
              exact .inr ⟨rfl, rfl, fun id h => .inl h⟩
          | some view =>
              cases hl : view.listing with
              | ok listed =>
                  exact .inl ⟨view, listed, rfl, hl, by simp [listing?, hopen, hl, Except.toOption],
                    by rw [obey, load_listed hopen hl]⟩
              | error fault =>
                  obtain ⟨hsnapshot, hcache, _⟩ := load_unlisted (r := r) hl
                  refine .inr ⟨by simp [listing?, hopen, hl, Except.toOption], hcache,
                    fun id h => .inl ?_⟩
                  rwa [obey, hsnapshot] at h
  | addSigner signer =>
      refine .inr ⟨rfl, cache_change r _, fun id h => ?_⟩
      simp only [obey, addSigner, change] at h
      split at h
      · exact .inl h
      · exact (Snapshot.has_put.mp h).imp_right fun heq => ⟨signer, rfl, heq⟩
  | addProxy consensus proxy =>
      refine .inr ⟨rfl, cache_change r _, fun id h => .inl ?_⟩
      simp only [obey, addProxy, change] at h
      split at h <;> exact h
  | removeSigner other =>
      exact .inr ⟨rfl, cache_change r _, fun id h => .inl ((removeSigner_spec r other).2.1 id h)⟩

theorem removeSigner_of_has {r : Registry} {id : SignerId} (hopen : r.isClosed = false)
    (h : r.snapshot.Has id) : (r.removeSigner id).1 = .ok true := by
  have hfound : (r.snapshot.remove id).1 = true := Snapshot.find?_isSome.mpr h
  simp only [removeSigner, change, hopen]
  generalize r.snapshot.remove id = outcome at hfound ⊢
  obtain ⟨found, s⟩ := outcome
  obtain rfl : found = true := hfound
  rfl

/-- A registry with the directory that it loads from. -/
structure Site where
  registry : Registry
  /-- The descriptions that are there. -/
  directory : List Source
  /-- The descriptions that were there at the last load that could list them. -/
  seen : List Source

namespace Site

/-- What happens at a site. -/
inductive Event where
  /-- Descriptions are created, changed and deleted, until these are there. -/
  | edit (directory : List Source)
  | command (x : Command)
  | close

/-- A new registry, and a directory that it has not seen. -/
def fresh (directory : List Source) : Site :=
  ⟨.empty, directory, []⟩

/-- The site after an event. -/
def step (s : Site) : Event → Site
  | .edit directory => { s with directory := directory }
  | .command x =>
      { s with registry := s.registry.obey x, seen := (s.registry.listing? x).getD s.seen }
  | .close => { s with registry := s.registry.close }

/-- The site after several events. -/
def run (s : Site) (es : List Event) : Site :=
  es.foldl step s

/-- Each event of a run has a property where it happens. -/
def Along (P : Site → Event → Prop) : Site → List Event → Prop
  | _, [] => True
  | s, e :: rest => P s e ∧ Along P (s.step e) rest

/-- A load that can list the directory sees the descriptions that are there, and what comes of
decoding one depends on its path and time of change. -/
def Sees (decode : Source → Decoding) (s : Site) : Event → Prop
  | .command (.load (some view)) => view.Reads decode ∧
      ∀ listed, view.listing = .ok listed → ∀ x, x ∈ listed ↔ x ∈ s.directory
  | .command _ | .edit _ | .close => True

/-- An event neither adds a key by hand, nor creates or changes a description so that it
provides the key. -/
def Spares (decode : Source → Decoding) (id : SignerId) (s : Site) : Event → Prop
  | .edit directory => ∀ x ∈ directory, (decode x).key? = some id → x ∈ s.directory
  | .command (.addSigner signer) => signer.identifier ≠ id
  | .command _ | .close => True

/-- All descriptions of a key were seen as they are. -/
def Seen (decode : Source → Decoding) (id : SignerId) (s : Site) : Prop :=
  ∀ x ∈ s.directory, (decode x).key? = some id → x ∈ s.seen

variable {decode : Source → Decoding} {s : Site} {id : SignerId} {e : Event} {es : List Event}

/-! ## What is remembered -/

theorem remembers_step (h : Remembers decode s.seen s.registry.cache) (he : s.Sees decode e) :
    Remembers decode (s.step e).seen (s.step e).registry.cache := by
  cases e with
  | edit directory => exact h
  | close => exact h
  | command x =>
      rcases s.registry.obey_cases x with ⟨view, listed, rfl, hl, hlisting, hobey⟩ |
        ⟨hlisting, hcache, _⟩
      · obtain ⟨hreads, _⟩ := he
        simp only [step, hlisting, hobey]
        exact h.absorb (hreads.paths_distinct listed hl) (hreads.decode_eq listed hl)
      · simp only [step, hlisting, hcache]
        exact h

/-- The cache remembers the directory as it was last seen. -/
theorem remembers_run (h : Remembers decode s.seen s.registry.cache)
    (hes : s.Along (Sees decode) es) :
    Remembers decode (s.run es).seen (s.run es).registry.cache := by
  induction es generalizing s with
  | nil => exact h
  | cons e rest ih => exact ih (remembers_step h hes.1) hes.2

theorem remembers_fresh (decode : Source → Decoding) (directory : List Source) :
    Remembers decode (fresh directory).seen (fresh directory).registry.cache :=
  (tracks_empty decode).remembers

/-! ## What comes back -/

/-- A load brings a key that is not installed exactly if a description that was not seen
provides it. -/
theorem brings_iff (h : Remembers decode s.seen s.registry.cache) {view : LoadView}
    (hsees : s.Sees decode (.command (.load (some view)))) {listed : List Source}
    (hl : view.listing = .ok listed) :
    view.Brings s.registry.cache id ↔
      ∃ x ∈ s.directory, (decode x).key? = some id ∧ x ∉ s.seen := by
  obtain ⟨hreads, hlists⟩ := hsees
  have hpending : ∀ x, x ∈ Loader.pending listed s.registry.cache ↔ _ :=
    h.mem_pending_iff (hreads.paths_distinct listed hl)
  constructor
  · rintro ⟨listed', hl', x, hx, hkey⟩
    obtain rfl := Except.ok.inj (hl.symm.trans hl')
    obtain ⟨hmem, hnew⟩ := (hpending x).mp hx
    rw [hreads.decode_eq listed hl x hmem] at hkey
    exact ⟨x, (hlists listed hl x).mp hmem, hkey, fun hseen => hnew ⟨hseen, id, hkey⟩⟩
  · rintro ⟨x, hx, hkey, hunseen⟩
    have hmem := (hlists listed hl x).mpr hx
    refine ⟨listed, hl, x, (hpending x).mpr ⟨hmem, fun hold => hunseen hold.1⟩, ?_⟩
    rwa [hreads.decode_eq listed hl x hmem]

/-- A key that was removed comes back with the next load exactly if a description that was not
seen provides it. -/
theorem returns_iff (h : Remembers decode s.seen s.registry.cache)
    (hremoved : (s.registry.removeSigner id).1 = .ok true) {view : LoadView}
    (hsees : s.Sees decode (.command (.load (some view)))) {listed : List Source}
    (hl : view.listing = .ok listed) :
    (s.run [.command (.removeSigner id), .command (.load (some view))]).registry.snapshot.Has id ↔
      ∃ x ∈ s.directory, (decode x).key? = some id ∧ x ∉ s.seen := by
  obtain ⟨hopen, habsent⟩ := (removeSigner_spec s.registry id).2.2 true hremoved
  have hremembers : Remembers decode s.seen (s.step (.command (.removeSigner id))).registry.cache :=
    remembers_step h trivial
  show Snapshot.Has ((s.registry.removeSigner id).2.load (some view)).2.snapshot id ↔ _
  rw [has_load hopen habsent]
  exact brings_iff (s := s.step (.command (.removeSigner id))) hremembers hsees hl

/-- An event that spares a key that is gone does not bring it back, and its descriptions
still are such that have been seen. -/
theorem gone_step (h : Remembers decode s.seen s.registry.cache)
    (habsent : ¬ s.registry.snapshot.Has id) (hseen : s.Seen decode id)
    (hsees : s.Sees decode e) (hspares : s.Spares decode id e) :
    ¬ (s.step e).registry.snapshot.Has id ∧ (s.step e).Seen decode id := by
  cases e with
  | edit directory => exact ⟨habsent, fun x hx hkey => hseen x (hspares x hx hkey) hkey⟩
  | close => exact ⟨habsent, hseen⟩
  | command x =>
      rcases s.registry.obey_cases x with ⟨view, listed, rfl, hl, hlisting, hobey⟩ |
        ⟨hlisting, _, hhas⟩
      · have hbrings : ¬ view.Brings s.registry.cache id := (brings_iff h hsees hl).not.mpr
          fun ⟨x, hx, hkey, hunseen⟩ => hunseen (hseen x hx hkey)
        simp only [step, hlisting, hobey]
        refine ⟨fun hhas => ?_, fun x hx _ => (hsees.2 listed hl x).mpr hx⟩
        rcases has_absorb.mp hhas with ⟨hhas, _⟩ | ⟨x, hx, hkey⟩
        · exact habsent hhas
        · exact hbrings ⟨listed, hl, x, hx, hkey⟩
      · simp only [step, hlisting]
        refine ⟨fun hid => ?_, hseen⟩
        rcases hhas id hid with hid | ⟨signer, rfl, hsigner⟩
        · exact habsent hid
        · exact hspares hsigner

theorem gone_run (h : Remembers decode s.seen s.registry.cache)
    (habsent : ¬ s.registry.snapshot.Has id) (hseen : s.Seen decode id)
    (hes : s.Along (fun s e => s.Sees decode e ∧ s.Spares decode id e) es) :
    ¬ (s.run es).registry.snapshot.Has id := by
  induction es generalizing s with
  | nil => exact habsent
  | cons e rest ih =>
      obtain ⟨⟨hsees, hspares⟩, hrest⟩ := hes
      obtain ⟨habsent', hseen'⟩ := gone_step h habsent hseen hsees hspares
      exact ih (remembers_step h hsees) habsent' hseen' hrest

/-- A key that was removed stays away, if the last load before had seen all descriptions of it
as they were, and while no description of it is created or changed and it is not added by
hand. -/
theorem removed_stays (decode : Source → Decoding) (id : SignerId) (directory : List Source)
    (before after : List Event) (hbefore : (fresh directory).Along (Sees decode) before)
    (hseen : ((fresh directory).run before).Seen decode id)
    (hremoved : (((fresh directory).run before).registry.removeSigner id).1 = .ok true)
    (hafter : (((fresh directory).run before).step (.command (.removeSigner id))).Along
      (fun s e => s.Sees decode e ∧ s.Spares decode id e) after) :
    ¬ ((fresh directory).run
      (before ++ .command (.removeSigner id) :: after)).registry.snapshot.Has id := by
  have hremembers := remembers_run (remembers_fresh decode directory) hbefore
  rw [run, List.foldl_append, List.foldl_cons]
  have habsent := ((removeSigner_spec _ id).2.2 true hremoved).2
  exact gone_run (remembers_step hremembers trivial) habsent hseen hafter

/-- A load of descriptions of one key. -/
def oneKeyLoad (listed : List Source) : Event :=
  .command (.load (some (oneKeyView listed)))

theorem sees_oneKeyLoad {listed : List Source} (hd : (listed.map (·.path)).Nodup)
    (hs : s.directory = listed) : s.Sees oneKey (oneKeyLoad listed) :=
  ⟨reads_oneKeyView hd, fun listed' hl x => by rw [hs, Except.ok.inj hl]⟩

/-- A key is installed by the first load of its descriptions. -/
theorem removeSigner_oneKeyLoad {listed : List Source} (hd : (listed.map (·.path)).Nodup)
    (hkey : ∃ x ∈ listed, (oneKey x).key? = some ⟨[1]⟩) :
    (((fresh listed).step (oneKeyLoad listed)).registry.removeSigner ⟨[1]⟩).1 = .ok true := by
  obtain ⟨x, hx, hkey⟩ := hkey
  refine removeSigner_of_has isClosed_load
    ((has_load rfl fun ⟨x, hx, _⟩ => by cases hx).mpr ?_)
  exact (brings_iff (remembers_fresh oneKey listed) (sees_oneKeyLoad hd rfl) rfl).mpr
    ⟨x, hx, hkey, List.not_mem_nil⟩

/-- Of two descriptions that were seen one goes, another key is added, and a third description
comes that provides nothing. -/
theorem seenKey_stays :
    ¬ ((fresh [⟨"a", 1⟩, ⟨"b", 1⟩]).run ([oneKeyLoad [⟨"a", 1⟩, ⟨"b", 1⟩]] ++
      .command (.removeSigner ⟨[1]⟩) :: [.edit [⟨"b", 1⟩, ⟨"c", 0⟩],
        .command (.addSigner (Custody.blsSigner 2)), oneKeyLoad [⟨"b", 1⟩, ⟨"c", 0⟩],
        oneKeyLoad [⟨"b", 1⟩, ⟨"c", 0⟩]])).registry.snapshot.Has ⟨[1]⟩ := by
  have hsees : ∀ s : Site, s.directory = [⟨"b", 1⟩, ⟨"c", 0⟩] → s.Sees oneKey _ :=
    fun s => sees_oneKeyLoad (by decide)
  refine removed_stays oneKey ⟨[1]⟩ _ _ _ ⟨sees_oneKeyLoad (by decide) rfl, trivial⟩
    (fun x hx _ => hx) (removeSigner_oneKeyLoad (by decide) ⟨⟨"a", 1⟩, by decide, rfl⟩) ?_
  have hkept : ∀ x ∈ [(⟨"b", 1⟩ : Source), ⟨"c", 0⟩], (oneKey x).key? = some ⟨[1]⟩ →
      x ∈ [(⟨"a", 1⟩ : Source), ⟨"b", 1⟩] := by
    decide
  have hother : (Custody.blsSigner 2).identifier ≠ ⟨[1]⟩ := by decide
  exact ⟨⟨trivial, hkept⟩, ⟨trivial, hother⟩, ⟨hsees _ rfl, trivial⟩, ⟨hsees _ rfl, trivial⟩,
    trivial⟩

/-- A second description of a key comes after the load of the first. The key is removed, and
the next load brings it back. -/
theorem unseen_returns :
    let start := fresh [⟨"a", 1⟩]
    let before := [oneKeyLoad [⟨"a", 1⟩], .edit [⟨"a", 1⟩, ⟨"b", 1⟩]]
    let after := [oneKeyLoad [⟨"a", 1⟩, ⟨"b", 1⟩]]
    start.Along (Sees oneKey) before ∧
      ((start.run before).registry.removeSigner ⟨[1]⟩).1 = .ok true ∧
      ((start.run before).step (.command (.removeSigner ⟨[1]⟩))).Along
        (fun s e => s.Sees oneKey e ∧ s.Spares oneKey ⟨[1]⟩ e) after ∧
      (start.run (before ++ .command (.removeSigner ⟨[1]⟩) :: after)).registry.snapshot.Has
        ⟨[1]⟩ := by
  intro start before after
  have hbefore : start.Along (Sees oneKey) before :=
    ⟨sees_oneKeyLoad (by decide) rfl, trivial, trivial⟩
  have hremoved : ((start.run before).registry.removeSigner ⟨[1]⟩).1 = .ok true :=
    removeSigner_oneKeyLoad (by decide) ⟨⟨"a", 1⟩, by decide, rfl⟩
  have hsees : (start.run before).Sees oneKey (oneKeyLoad [⟨"a", 1⟩, ⟨"b", 1⟩]) :=
    sees_oneKeyLoad (by decide) rfl
  refine ⟨hbefore, hremoved, ⟨⟨hsees, trivial⟩, trivial⟩, ?_⟩
  exact (returns_iff (remembers_run (remembers_fresh oneKey _) hbefore) hremoved hsees rfl).mpr
    ⟨⟨"b", 1⟩, by decide, rfl, by decide⟩

end Site

end Registry

end RemoteSigner
