import RemoteSigner.Proofs.Keys.Proxies
import RemoteSigner.Proofs.Keys.Returning

/-!
# Proxies that stay attached

A proxy is `Attached` to a key if the key lists it once and the index has it, and every signer of
it there is one of those that are meant, such as the one that was generated, or those of a scheme.
Another key that lists it too would take it out of the index with its own proxies, so the key has
to be the `Sole` one that does.

* `Attached.addProxy`, `Attached.dropProxies` — what the changes of a snapshot leave attached;
* `Sole.move`, `attached_move` — one move that `Keeps` the proxy, and `attached_play` a sequence
  of them;
* `not_indexes_of_last` — how a proxy is lost that another key lists, too;
* `Holds.load` — one load that `Finds` the proxy, and `Holds.loads` any number of them.
-/

namespace RemoteSigner

namespace Snapshot

variable {s : Snapshot} {consensus other proxy : SignerId} {ok : Signer → Prop}

/-- No key but one lists a proxy. -/
def Sole (s : Snapshot) (consensus proxy : SignerId) : Prop :=
  ∀ other, s.Lists other proxy → other = consensus

/-- A key lists a proxy once, the index has it, and in both places its signer is one of those that
are meant. -/
structure Attached (s : Snapshot) (consensus proxy : SignerId) (ok : Signer → Prop) : Prop where
  once : (s.proxiesOf consensus).countP (·.identifier == proxy) = 1
  listed : ∀ x ∈ s.proxiesOf consensus, x.identifier = proxy → ok x
  indexed : ∃ x, s.findProxy? proxy = some x ∧ ok x

/-! ## Counting and finding a proxy -/

theorem countP_without {id : SignerId} (signers : List Signer) :
    (without id signers).countP (·.identifier == proxy) =
      if id = proxy then 0 else signers.countP (·.identifier == proxy) := by
  unfold without
  rw [List.countP_filter]
  split
  · subst id
    simp
  · rename_i hid
    refine List.countP_congr fun x _ => ?_
    simp only [Bool.and_eq_true, beq_iff_eq, bne_iff_ne, and_iff_left_iff_imp]
    rintro rfl
    exact Ne.symm hid

theorem find?_without {id : SignerId} (h : id ≠ proxy) (signers : List Signer) :
    (without id signers).find? (·.identifier == proxy) =
      signers.find? (·.identifier == proxy) := by
  unfold without
  rw [List.find?_filter]
  congr 1
  funext x
  by_cases hx : x.identifier = proxy
  · simp [hx, Ne.symm h]
  · simp [hx]

theorem findProxy?_addProxy (x : Signer) : (s.addProxy consensus x).findProxy? proxy =
    if x.identifier = proxy then some x else s.findProxy? proxy := by
  unfold findProxy? addProxy
  rw [List.find?_append]
  split
  · rename_i hx
    have hnone : (without x.identifier s.proxyIndex).find? (·.identifier == proxy) = none := by
      refine List.find?_eq_none.mpr fun y hy => ?_
      simpa [hx] using (mem_without.mp hy).2
    rw [hnone]
    simp [hx]
  · rename_i hx
    simp [find?_without hx, hx]

theorem findProxy?_dropProxies (h : ¬ s.Lists consensus proxy) :
    (s.dropProxies consensus).findProxy? proxy = s.findProxy? proxy := by
  have hdrop : ∀ (listed index : List Signer), (∀ p ∈ listed, p.identifier ≠ proxy) →
      (listed.foldl (fun index p => without p.identifier index) index).find?
        (·.identifier == proxy) = index.find? (·.identifier == proxy) := by
    intro listed
    induction listed with
    | nil => exact fun _ _ => rfl
    | cons p rest ih =>
        intro index hlisted
        rw [List.foldl_cons, ih _ fun q hq => hlisted q (List.mem_cons_of_mem p hq)]
        exact find?_without (hlisted p List.mem_cons_self) index
  exact hdrop _ _ fun p hp heq => h ⟨p, hp, heq⟩

/-! ## Changes of a snapshot -/

/-- A proxy that is attached to a key is attached to it. -/
theorem attached_addProxy {x : Signer} (hid : x.identifier = proxy) (hx : ok x) :
    (s.addProxy consensus x).Attached consensus proxy ok where
  once := by
    rw [proxiesOf_addProxy, if_pos rfl, List.countP_append, countP_without, if_pos hid]
    simp [hid]
  listed y hy heq := by
    rw [proxiesOf_addProxy, if_pos rfl] at hy
    rcases List.mem_append.mp hy with hy | hy
    · exact absurd (heq.trans hid.symm) (mem_without.mp hy).2
    · exact List.mem_singleton.mp hy ▸ hx
  indexed := ⟨x, by rw [findProxy?_addProxy, if_pos hid], hx⟩

/-- It stays so when others are attached to any key. -/
theorem Attached.addProxy (h : s.Attached consensus proxy ok) {x : Signer}
    (hid : x.identifier ≠ proxy) : (s.addProxy other x).Attached consensus proxy ok where
  once := by
    rw [proxiesOf_addProxy]
    split
    · rename_i hsame
      rw [List.countP_append, countP_without, if_neg hid, ← hsame, h.once]
      simp [hid]
    · exact h.once
  listed y hy heq := by
    rw [proxiesOf_addProxy] at hy
    split at hy
    · rename_i hsame
      rcases List.mem_append.mp hy with hy | hy
      · exact h.listed y (hsame ▸ (mem_without.mp hy).1) heq
      · exact absurd (List.mem_singleton.mp hy ▸ heq) hid
    · exact h.listed y hy heq
  indexed := by
    rw [findProxy?_addProxy, if_neg hid]
    exact h.indexed

/-- It stays so when another key, which does not list it, loses its proxies. -/
theorem Attached.dropProxies (h : s.Attached consensus proxy ok) (hother : other ≠ consensus)
    (hfree : ¬ s.Lists other proxy) : (s.dropProxies other).Attached consensus proxy ok where
  once := by
    rw [proxiesOf_dropProxies, if_neg (Ne.symm hother)]
    exact h.once
  listed := by
    rw [proxiesOf_dropProxies, if_neg (Ne.symm hother)]
    exact h.listed
  indexed := by
    rw [findProxy?_dropProxies hfree]
    exact h.indexed

/-- Of several proxies that are attached to a key in turn, one that is among them or was
attached to it before is so afterwards. -/
theorem attached_addProxies (xs : List Signer)
    (hxs : ∀ x ∈ xs, x.identifier = proxy → other = consensus ∧ ok x)
    (h : s.Attached consensus proxy ok ∨ ∃ x ∈ xs, x.identifier = proxy) :
    (xs.foldl (fun s x => s.addProxy other x) s).Attached consensus proxy ok := by
  induction xs generalizing s with
  | nil => exact h.resolve_right (by simp)
  | cons x rest ih =>
      refine ih (fun y hy => hxs y (List.mem_cons_of_mem x hy)) ?_
      by_cases hid : x.identifier = proxy
      · obtain ⟨rfl, hx⟩ := hxs x List.mem_cons_self hid
        exact .inl (attached_addProxy hid hx)
      · rcases h with h | ⟨y, hy, heq⟩
        · exact .inl (h.addProxy hid)
        · rcases List.mem_cons.mp hy with rfl | hy
          · exact absurd heq hid
          · exact .inr ⟨y, hy, heq⟩

/-! ## Moves -/

/-- A move brings a proxy. -/
def Move.Brings (m : Move) (proxy : SignerId) : Prop :=
  ∃ x ∈ m.attached, x.identifier = proxy

/-- The key to which a move brings proxies. -/
def Move.target? : Move → Option SignerId
  | .attach consensus _ => some consensus
  | .renew consensus _ => some consensus
  | .put _ | .withdraw _ => none

/-- A move keeps a proxy for a key: it brings it to no other key and with no other signer than
those that are meant, and takes the proxies of the key only to bring it back. -/
structure Move.Keeps (m : Move) (consensus proxy : SignerId) (ok : Signer → Prop) : Prop where
  target : m.Brings proxy → m.target? = some consensus
  brought : ∀ x ∈ m.attached, x.identifier = proxy → ok x
  restores : m.stripped? = some consensus → m.Brings proxy

/-- No other key comes to list a proxy that is brought to no other. -/
theorem Sole.move (h : s.Sole consensus proxy) {m : Move}
    (hm : m.Brings proxy → m.target? = some consensus) : (s.move m).Sole consensus proxy := by
  intro other hother
  cases m with
  | put signer => exact h other hother
  | withdraw id => exact h other (lists_dropProxies.mp hother).2
  | attach id x =>
      rcases lists_addProxy.mp hother with hother | ⟨rfl, hid⟩
      · exact h other hother
      · exact Option.some.inj (hm ⟨x, List.mem_singleton_self x, hid⟩)
  | renew id xs =>
      rcases lists_replaceProxies.mp hother with ⟨_, hother⟩ | ⟨rfl, hbrings⟩
      · exact h other hother
      · exact Option.some.inj (hm hbrings)

theorem Sole.play (h : s.Sole consensus proxy) {ms : List Move}
    (hms : ∀ m ∈ ms, m.Brings proxy → m.target? = some consensus) :
    (s.play ms).Sole consensus proxy := by
  induction ms generalizing s with
  | nil => exact h
  | cons m rest ih =>
      exact ih (h.move (hms m List.mem_cons_self)) fun m' hm' =>
        hms m' (List.mem_cons_of_mem m hm')

/-- Moves that bring no proxies at all bring none to another key. -/
theorem Sole.play_bare (h : s.Sole consensus proxy) {ms : List Move}
    (hms : ∀ m ∈ ms, m.attached = []) : (s.play ms).Sole consensus proxy := by
  refine h.play fun m hm ⟨x, hx, _⟩ => ?_
  rw [hms m hm] at hx
  cases hx

theorem Sole.removeStale (h : s.Sole consensus proxy) (stale : List SignerId) :
    (s.removeStale stale).Sole consensus proxy := by
  rw [removeStale_eq_play]
  refine h.play_bare fun m hm => ?_
  obtain ⟨id, _, rfl⟩ := List.mem_map.mp hm
  rfl

theorem Sole.install (h : s.Sole consensus proxy) (loaded : List LoadedSource) :
    (s.install loaded).2.Sole consensus proxy := by
  rw [install_eq_play]
  exact h.play_bare (attached_installMoves loaded)

/-- After a move that keeps a proxy it is attached if it was so before, or if the move brings
it. -/
theorem attached_move (hsole : s.Sole consensus proxy) {m : Move}
    (hm : m.Keeps consensus proxy ok)
    (h : s.Attached consensus proxy ok ∨ m.Brings proxy) :
    (s.move m).Attached consensus proxy ok := by
  cases m with
  | put signer =>
      have hattached := h.resolve_right fun ⟨x, hx, _⟩ => by cases hx
      exact ⟨hattached.once, hattached.listed, hattached.indexed⟩
  | withdraw id =>
      have hnone : ¬ (Move.withdraw id).Brings proxy := fun ⟨x, hx, _⟩ => by cases hx
      have hother : id ≠ consensus := fun heq => hnone (hm.restores (congrArg some heq))
      have hdropped := (h.resolve_right hnone).dropProxies hother fun hlists =>
        hother (hsole id hlists)
      exact ⟨hdropped.once, hdropped.listed, hdropped.indexed⟩
  | attach id x =>
      refine attached_addProxies [x] (fun y hy hid => ⟨?_, hm.brought y hy hid⟩) h
      exact Option.some.inj (hm.target ⟨y, hy, hid⟩)
  | renew id xs =>
      refine attached_addProxies xs (fun y hy hid => ⟨?_, hm.brought y hy hid⟩) ?_
      · exact Option.some.inj (hm.target ⟨y, hy, hid⟩)
      · -- what the key itself had is gone, but then the move brings the proxy back
        by_cases hsame : id = consensus
        · exact .inr (hm.restores (congrArg some hsame))
        · exact h.imp_left fun hattached =>
            hattached.dropProxies hsame fun hlists => hsame (hsole id hlists)

theorem attached_play (hsole : s.Sole consensus proxy) {ms : List Move}
    (hms : ∀ m ∈ ms, m.Keeps consensus proxy ok)
    (h : s.Attached consensus proxy ok ∨ ∃ m ∈ ms, m.Brings proxy) :
    (s.play ms).Attached consensus proxy ok := by
  induction ms generalizing s with
  | nil => exact h.resolve_right (by simp)
  | cons m rest ih =>
      have hm := hms m List.mem_cons_self
      refine ih (hsole.move hm.target) (fun m' hm' => hms m' (List.mem_cons_of_mem m hm')) ?_
      rcases h with h | ⟨m', hm', hbrings⟩
      · exact .inl (attached_move hsole hm (.inl h))
      · rcases List.mem_cons.mp hm' with rfl | hm'
        · exact .inl (attached_move hsole hm (.inr hbrings))
        · exact .inr ⟨m', hm', hbrings⟩

/-! ## Proxies that are lost -/

/-- Replacing the proxies of keys leaves those of the others. -/
theorem lists_replaceAllProxies {find : SignerId → List Signer} {order : List SignerId}
    (h : consensus ∉ order) :
    (s.replaceAllProxies find order).Lists consensus proxy ↔ s.Lists consensus proxy := by
  induction order generalizing s with
  | nil => exact Iff.rfl
  | cons id rest ih =>
      rw [List.mem_cons, not_or] at h
      obtain ⟨hid, hrest⟩ := h
      exact (ih (s := s.replaceProxies id (find id)) hrest).trans
        (by simp [lists_replaceProxies, hid])

/-- A proxy is out of the index if the key that is visited last had it and gets none. -/
theorem not_indexes_of_last {find : SignerId → List Signer} {front : List SignerId}
    (hfront : consensus ∉ front) (hnone : find consensus = []) (hlists : s.Lists consensus proxy) :
    ¬ (s.replaceAllProxies find (front ++ [consensus])).Indexes proxy := by
  have hsplit : s.replaceAllProxies find (front ++ [consensus]) =
      (s.replaceAllProxies find front).replaceProxies consensus [] := by
    simp [replaceAllProxies, hnone]
  rw [hsplit, indexes_replaceProxies, lists_replaceAllProxies hfront]
  rintro (⟨_, hfree⟩ | ⟨x, hx, _⟩)
  · exact hfree hlists
  · cases hx

end Snapshot

/-! ## Loads -/

/-- A load finds a proxy: it visits all installed keys and finds the proxy for one of them, with no
other signer than those that are meant, and for no other key. -/
structure LoadView.Finds (view : LoadView) (find : SignerId → List Signer × Nat)
    (consensus proxy : SignerId) (ok : Signer → Prop) : Prop where
  reads : view.proxies = some find
  visits : ∀ ids, consensus ∈ ids → consensus ∈ view.order ids
  found : ∃ x ∈ (find consensus).1, x.identifier = proxy
  meant : ∀ x ∈ (find consensus).1, x.identifier = proxy → ok x
  elsewhere : ∀ other, other ≠ consensus → ∀ x ∈ (find other).1, x.identifier ≠ proxy

namespace Registry

open Snapshot (Move)

variable {r : Registry} {view : LoadView} {find : SignerId → List Signer × Nat}
  {consensus proxy : SignerId} {ok : Signer → Prop}

/-- No other key lists a proxy, and if the key is installed it is attached to it. -/
structure Holds (r : Registry) (consensus proxy : SignerId) (ok : Signer → Prop) : Prop where
  sole : r.snapshot.Sole consensus proxy
  attached : r.snapshot.Has consensus → r.snapshot.Attached consensus proxy ok

theorem keeps_renew (h : view.Finds find consensus proxy ok) (id : SignerId) :
    (Move.renew id (find id).1).Keeps consensus proxy ok := by
  have honly : ∀ x ∈ (find id).1, x.identifier = proxy → id = consensus := by
    intro x hx hid
    by_contra hother
    exact h.elsewhere id hother x hx hid
  refine ⟨fun ⟨x, hx, hid⟩ => congrArg some (honly x hx hid), fun x hx hid => ?_, fun hid => ?_⟩
  · exact h.meant x (honly x hx hid ▸ hx) hid
  · obtain rfl := Option.some.inj hid
    exact h.found

/-- The proxies of all installed keys are replaced last, which attaches the proxy whatever was
attached before. -/
theorem Holds.absorb (hsole : r.snapshot.Sole consensus proxy)
    (hview : view.Finds find consensus proxy ok) (listed : List Source) :
    (r.absorb view listed).2.Holds consensus proxy ok := by
  let s := ((r.snapshot.removeStale (r.cache.stale listed)).install
    (Loader.load view.config view.decode listed r.cache).loaded).2
  have hs : s.Sole consensus proxy := (hsole.removeStale _).install _
  let ms := (view.order s.identifiers).map fun id => Move.renew id (find id).1
  have hms : ∀ m ∈ ms, m.Keeps consensus proxy ok := by
    intro m hm
    obtain ⟨id, _, rfl⟩ := List.mem_map.mp hm
    exact keeps_renew hview id
  have hloaded : (r.absorb view listed).2.snapshot = (loadProxies view s).2 := rfl
  have hsnapshot : (r.absorb view listed).2.snapshot = s.play ms := by
    rw [hloaded, loadProxies, hview.reads]
    exact Snapshot.replaceAllProxies_eq_play _ _ _
  constructor
  · rw [hsnapshot]
    exact hs.play fun m hm => (hms m hm).target
  · intro hhas
    have hinstalled : s.Has consensus := by
      rwa [hloaded, Snapshot.Has, signers_loadProxies] at hhas
    have hvisited := hview.visits _ (Snapshot.mem_identifiers.mpr hinstalled)
    rw [hsnapshot]
    exact Snapshot.attached_play hs hms (.inr ⟨_, List.mem_map_of_mem hvisited, hview.found⟩)

/-- A load that finds a proxy leaves it attached, if it leaves its key installed. -/
theorem Holds.load (h : r.Holds consensus proxy ok)
    (hview : view.Finds find consensus proxy ok) :
    (r.load (some view)).2.Holds consensus proxy ok := by
  cases hopen : r.isClosed with
  | true =>
      have hclosed : (r.load (some view)).2 = r := by simp [Registry.load, tryLoad, hopen]
      rwa [hclosed]
  | false =>
      cases hl : view.listing with
      | error fault =>
          have hsame := (load_unlisted (r := r) hl).1
          exact ⟨hsame ▸ h.sole, hsame ▸ h.attached⟩
      | ok listed =>
          rw [load_listed hopen hl]
          exact Holds.absorb h.sole hview listed

theorem Holds.loads (h : r.Holds consensus proxy ok) {views : List LoadView}
    (hviews : ∀ view ∈ views, ∃ find, view.Finds find consensus proxy ok) :
    (r.loads views).Holds consensus proxy ok := by
  induction views generalizing r with
  | nil => exact h
  | cons view rest ih =>
      obtain ⟨find, hview⟩ := hviews view List.mem_cons_self
      exact ih (h.load hview) fun v hv => hviews v (List.mem_cons_of_mem view hv)

end Registry

end RemoteSigner
