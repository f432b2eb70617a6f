import RemoteSigner.CommitBoost.Signing
import RemoteSigner.Proofs.Keys.Loading
import RemoteSigner.Proofs.Lists
import RemoteSigner.Proofs.Outcome

/-!
# Listed proxies and usable proxies

A snapshot keeps the proxies of each consensus key (`Lists`) and an index of all of
them (`Indexes`), which decides whether a proxy can sign. Every command to a registry
is a sequence of `Move`s on its snapshot, and each move treats the two alike but for
one case: taking a proxy from one key takes it out of the index, even where another
key lists it too. The proxy is then `torn` until something attaches it again.

* `Aligned.move`, `Aligned.play` — after any moves the index has exactly the proxies
  that some key lists and that are not torn;
* `obey_eq_play`, `run_eq_play` — commands are moves;
* `Genuine.move` — the scheme of a signer is that of its public key;
* `proxies_agree_iff` — so a module is refused a proxy that is published only if it is
  torn, and gets one that is not published only through a key that is not installed.
-/

namespace RemoteSigner

/-! ## The scheme of a public key -/

/-- The scheme of a public key, told from its length. -/
def SignerId.scheme (id : SignerId) : KeyType :=
  if id.key.length = 33 then .secp256k1 else .bls

/-- The scheme of a signer is that of its public key. -/
def Signer.Genuine (x : Signer) : Prop :=
  x.keyType = x.identifier.scheme

theorem length_bytesOfNat (count n : Nat) : (bytesOfNat count n).length = count := by
  simp [bytesOfNat]

theorem Bls12381.length_mark (larger : Bool) (bytes : Bytes) :
    (mark larger bytes).length = bytes.length := by
  cases bytes <;> rfl

theorem Signer.keyType_of_ofSecret {keyType : KeyType} {secret : Bytes} {x : Signer}
    (h : ofSecret keyType secret = .ok x) : x.keyType = keyType := by
  cases keyType with
  | bls | secp256k1 =>
      simp only [ofSecret] at h
      split at h
      · obtain rfl := Except.ok.inj h
        rfl
      · cases h

/-- Signers made of secrets are genuine. -/
theorem Signer.ofSecret_genuine {keyType : KeyType} {secret : Bytes} {x : Signer}
    (h : ofSecret keyType secret = .ok x) : x.Genuine := by
  cases keyType with
  | bls =>
      simp only [ofSecret] at h
      split at h
      · obtain rfl := Except.ok.inj h
        simp [Genuine, ofBlsSecret, SignerId.scheme, Bls12381.publicKey, Bls12381.length_mark,
          length_bytesOfNat]
      · cases h
  | secp256k1 =>
      simp only [ofSecret] at h
      split at h
      · obtain rfl := Except.ok.inj h
        simp [Genuine, ofSecp256k1Secret, SignerId.scheme, Secp256k1.publicKey, length_bytesOfNat]
      · cases h

/-- The signers that functions make of secrets are of the scheme that is asked for, and
genuine. -/
def KeySuite.Genuine (suite : KeySuite) : Prop :=
  ∀ keyType secret x, suite.signer keyType secret = .ok x → x.keyType = keyType ∧ x.Genuine

theorem KeySuite.genuine_standard : standard.Genuine :=
  fun _ _ _ h => ⟨Signer.keyType_of_ofSecret h, Signer.ofSecret_genuine h⟩

/-- Functions make a signer of a scheme of some secret. -/
def KeySuite.Makes (suite : KeySuite) (keyType : KeyType) (x : Signer) : Prop :=
  ∃ secret, suite.signer keyType secret = .ok x

variable {suite : KeySuite}

theorem KeySuite.Genuine.of_makes (hsuite : suite.Genuine) {keyType : KeyType} {x : Signer}
    (hx : suite.Makes keyType x) : x.keyType = keyType ∧ x.Genuine := by
  obtain ⟨secret, hsigner⟩ := hx
  exact hsuite _ _ _ hsigner

/-- Signers with one public key are made under one scheme. -/
theorem KeySuite.Genuine.scheme_eq (hsuite : suite.Genuine) {keyType other : KeyType}
    {x y : Signer} (hx : suite.Makes keyType x) (hy : suite.Makes other y)
    (hid : y.identifier = x.identifier) : other = keyType := by
  obtain ⟨hkeyType, hgenuine⟩ := hsuite.of_makes hx
  obtain ⟨hother, hgenuine'⟩ := hsuite.of_makes hy
  calc other = y.keyType := hother.symm
    _ = y.identifier.scheme := hgenuine'
    _ = x.identifier.scheme := congrArg SignerId.scheme hid
    _ = x.keyType := hgenuine.symm
    _ = keyType := hkeyType

/-- Signers of keystores are made of secrets. -/
theorem Disk.keystoreSigner_makes {disk : Disk} {keystorePath passwordPath : FilePath}
    {keyType : KeyType} {x : Signer}
    (h : disk.keystoreSigner suite keystorePath passwordPath keyType = .ok x) :
    suite.Makes keyType x := by
  obtain ⟨password, _, h⟩ := bind_eq_ok.mp h
  obtain ⟨keystore, _, h⟩ := bind_eq_ok.mp h
  obtain ⟨secret, _, h⟩ := bind_eq_ok.mp h
  obtain ⟨signer, hsigner, h⟩ := bind_eq_ok.mp h
  split at h
  · cases h
  · obtain rfl := pure_eq_ok.mp h
    exact ⟨secret, hsigner⟩

/-- The proxies of a key on disk are made of secrets. -/
theorem ProxyConfig.load_makes {p : ProxyConfig} {disk : Disk} {consensus : SignerId} {x : Signer}
    (hx : x ∈ (p.load suite disk consensus).1) : ∃ keyType, suite.Makes keyType x := by
  have hdirectory : ∀ directory keyType,
      .ok x ∈ p.resultsIn suite disk directory keyType → suite.Makes keyType x := by
    intro directory keyType hresult
    unfold resultsIn at hresult
    split at hresult
    · cases hresult
    · obtain ⟨path, _, hsigner⟩ := List.mem_map.mp hresult
      exact Disk.keystoreSigner_makes hsigner
  unfold load at hx
  simp only at hx
  obtain ⟨result, hresult, hok⟩ := List.mem_filterMap.mp hx
  obtain rfl := ok_of_toOption hok
  rw [results, List.mem_append] at hresult
  rcases hresult with hbls | hecdsa
  · exact ⟨.bls, hdirectory _ _ hbls⟩
  · exact ⟨.secp256k1, hdirectory _ _ hecdsa⟩

namespace Snapshot

/-! ## Moves -/

/-- A key has a proxy among its own. -/
def Lists (s : Snapshot) (consensus proxy : SignerId) : Prop :=
  ∃ x ∈ s.proxiesOf consensus, x.identifier = proxy

instance (s : Snapshot) (consensus proxy : SignerId) : Decidable (s.Lists consensus proxy) :=
  inferInstanceAs (Decidable (∃ x ∈ s.proxiesOf consensus, x.identifier = proxy))

/-- The index has a proxy. -/
def Indexes (s : Snapshot) (proxy : SignerId) : Prop :=
  ∃ x ∈ s.proxyIndex, x.identifier = proxy

/-- A change of a snapshot. -/
inductive Move where
  | put (signer : Signer)
  /-- A signer goes, with its proxies. -/
  | withdraw (id : SignerId)
  | attach (consensus : SignerId) (proxy : Signer)
  /-- The proxies of a key are replaced. -/
  | renew (consensus : SignerId) (proxies : List Signer)

/-- The snapshot after a move. -/
def move (s : Snapshot) : Move → Snapshot
  | .put signer => s.put signer
  | .withdraw id => (s.remove id).2
  | .attach consensus proxy => s.addProxy consensus proxy
  | .renew consensus proxies => s.replaceProxies consensus proxies

/-- The snapshot after several moves. -/
def play (s : Snapshot) (ms : List Move) : Snapshot :=
  ms.foldl move s

namespace Move

/-- The proxies that a move attaches. -/
def attached : Move → List Signer
  | .attach _ proxy => [proxy]
  | .renew _ proxies => proxies
  | .put _ | .withdraw _ => []

/-- The key whose proxies a move takes away. -/
def stripped? : Move → Option SignerId
  | .withdraw id => some id
  | .renew consensus _ => some consensus
  | .put _ | .attach .. => none

end Move

/-- Whether a proxy is torn after a move: the move took it from one key while another
lists it, or it was torn before and the move does not touch it. -/
def tears (s : Snapshot) (proxy : SignerId) (torn : Bool) (m : Move) : Bool :=
  if m.attached.any (·.identifier == proxy) then false
  else
    match m.stripped? with
    | none => torn
    | some consensus =>
        if s.Lists consensus proxy then
          s.proxies.any fun entry => entry.1 != consensus && decide (s.Lists entry.1 proxy)
        else torn

/-- Whether a proxy is torn after several moves. -/
def tornAfter (proxy : SignerId) : Bool → Snapshot → List Move → Bool
  | torn, _, [] => torn
  | torn, s, m :: rest => tornAfter proxy (s.tears proxy torn m) (s.move m) rest

variable {s : Snapshot} {consensus other proxy : SignerId} {torn : Bool}

theorem play_append (s : Snapshot) (ms ms' : List Move) :
    s.play (ms ++ ms') = (s.play ms).play ms' :=
  List.foldl_append

theorem mem_without {id : SignerId} {signers : List Signer} {x : Signer} :
    x ∈ without id signers ↔ x ∈ signers ∧ x.identifier ≠ id := by
  simp [without]

/-! ## What a move does to the lists -/

theorem lookup_others (entries : List (SignerId × List Signer)) :
    (entries.filter (·.1 != consensus)).lookup other =
      if other = consensus then none else entries.lookup other :=
  lookup_filter_key (by simp) entries other

theorem proxiesOf_dropProxies :
    (s.dropProxies consensus).proxiesOf other =
      if other = consensus then [] else s.proxiesOf other := by
  simp only [proxiesOf, dropProxies, lookup_others]
  split <;> rfl

theorem proxiesOf_addProxy (x : Signer) : (s.addProxy consensus x).proxiesOf other =
    if other = consensus then without x.identifier (s.proxiesOf consensus) ++ [x]
    else s.proxiesOf other := by
  simp only [proxiesOf, addProxy, List.lookup_append, lookup_others]
  by_cases hother : other = consensus
  · simp [hother]
  · simp [hother, List.lookup_cons, beq_false_of_ne hother]

theorem lists_dropProxies : (s.dropProxies consensus).Lists other proxy ↔
    other ≠ consensus ∧ s.Lists other proxy := by
  unfold Lists
  rw [proxiesOf_dropProxies]
  split
  · simp [*]
  · simp [*]

theorem lists_addProxy {x : Signer} : (s.addProxy consensus x).Lists other proxy ↔
    s.Lists other proxy ∨ (other = consensus ∧ x.identifier = proxy) := by
  unfold Lists
  rw [proxiesOf_addProxy]
  by_cases hother : other = consensus
  · subst hother
    simp only [if_true, List.mem_append, mem_without, List.mem_singleton, true_and]
    constructor
    · rintro ⟨y, ⟨hy, _⟩ | rfl, hkey⟩
      · exact .inl ⟨y, hy, hkey⟩
      · exact .inr hkey
    · rintro (⟨y, hy, hkey⟩ | hkey)
      · by_cases hx : x.identifier = proxy
        · exact ⟨x, .inr rfl, hx⟩
        · exact ⟨y, .inl ⟨hy, fun h => hx (h.symm.trans hkey)⟩, hkey⟩
      · exact ⟨x, .inr rfl, hkey⟩
  · simp [hother]

theorem lists_replaceProxies {xs : List Signer} :
    (s.replaceProxies consensus xs).Lists other proxy ↔
    (other ≠ consensus ∧ s.Lists other proxy) ∨
      (other = consensus ∧ ∃ x ∈ xs, x.identifier = proxy) := by
  have hadd : ∀ (xs : List Signer) (s : Snapshot),
      (xs.foldl (fun s x => s.addProxy consensus x) s).Lists other proxy ↔
        s.Lists other proxy ∨ (other = consensus ∧ ∃ x ∈ xs, x.identifier = proxy) := by
    intro xs
    induction xs with
    | nil => simp
    | cons x rest ih =>
        intro s
        rw [List.foldl_cons, ih, lists_addProxy, or_assoc, ← and_or_left]
        simp
  rw [replaceProxies, hadd, lists_dropProxies]

/-! ## What a move does to the index -/

theorem mem_index_dropProxies {x : Signer} : x ∈ (s.dropProxies consensus).proxyIndex ↔
    x ∈ s.proxyIndex ∧ ¬ s.Lists consensus x.identifier := by
  have hdrop : ∀ (listed index : List Signer),
      x ∈ listed.foldl (fun index p => without p.identifier index) index ↔
        x ∈ index ∧ ¬ ∃ p ∈ listed, p.identifier = x.identifier := by
    intro listed
    induction listed with
    | nil => simp
    | cons p rest ih =>
        intro index
        rw [List.foldl_cons, ih, mem_without, and_assoc, List.exists_mem_cons_iff, not_or]
        exact and_congr_right' (and_congr_left' ne_comm)
  exact hdrop _ _

theorem indexes_dropProxies : (s.dropProxies consensus).Indexes proxy ↔
    s.Indexes proxy ∧ ¬ s.Lists consensus proxy := by
  constructor
  · rintro ⟨x, hx, rfl⟩
    obtain ⟨hx, hnot⟩ := mem_index_dropProxies.mp hx
    exact ⟨⟨x, hx, rfl⟩, hnot⟩
  · rintro ⟨⟨x, hx, rfl⟩, hnot⟩
    exact ⟨x, mem_index_dropProxies.mpr ⟨hx, hnot⟩, rfl⟩

theorem indexes_addProxy {x : Signer} : (s.addProxy consensus x).Indexes proxy ↔
    s.Indexes proxy ∨ x.identifier = proxy := by
  simp only [Indexes, addProxy, List.mem_append, mem_without, List.mem_singleton]
  constructor
  · rintro ⟨y, ⟨hy, _⟩ | rfl, hkey⟩
    · exact .inl ⟨y, hy, hkey⟩
    · exact .inr hkey
  · intro h
    by_cases hx : x.identifier = proxy
    · exact ⟨x, .inr rfl, hx⟩
    · obtain ⟨y, hy, hkey⟩ := h.resolve_right hx
      exact ⟨y, .inl ⟨hy, fun h => hx (h.symm.trans hkey)⟩, hkey⟩

theorem indexes_replaceProxies {xs : List Signer} : (s.replaceProxies consensus xs).Indexes proxy ↔
    (s.Indexes proxy ∧ ¬ s.Lists consensus proxy) ∨ ∃ x ∈ xs, x.identifier = proxy := by
  have hadd : ∀ (xs : List Signer) (s : Snapshot),
      (xs.foldl (fun s x => s.addProxy consensus x) s).Indexes proxy ↔
        s.Indexes proxy ∨ ∃ x ∈ xs, x.identifier = proxy := by
    intro xs
    induction xs with
    | nil => simp
    | cons x rest ih =>
        intro s
        rw [List.foldl_cons, ih, indexes_addProxy, or_assoc]
        simp
  rw [replaceProxies, hadd, indexes_dropProxies]

/-! ## The index after moves -/

/-- The index has a proxy exactly if some key lists it and it is not torn. -/
def Aligned (s : Snapshot) (proxy : SignerId) (torn : Bool) : Prop :=
  s.Indexes proxy ↔ (∃ consensus, s.Lists consensus proxy) ∧ torn = false

theorem aligned_empty (proxy : SignerId) : empty.Aligned proxy false := by
  simp [Aligned, Indexes, Lists, empty, proxiesOf]

/-- A key that lists a proxy has an entry. -/
theorem Lists.mem_entries (h : s.Lists consensus proxy) :
    ∃ entry ∈ s.proxies, entry.1 = consensus := by
  obtain ⟨x, hx, _⟩ := h
  unfold proxiesOf at hx
  by_contra hnone
  have hlookup : s.proxies.lookup consensus = none := by
    rw [List.lookup_eq_none_iff]
    intro entry hentry
    simpa using fun heq => hnone ⟨entry, hentry, Eq.symm heq⟩
  rw [hlookup] at hx
  cases hx

theorem tears_attached {m : Move} (h : ∃ x ∈ m.attached, x.identifier = proxy) :
    s.tears proxy torn m = false := by
  simp only [tears]
  rw [if_pos (by simpa using h)]

theorem tears_untouched {m : Move} (h : ¬ ∃ x ∈ m.attached, x.identifier = proxy)
    (hkept : ∀ consensus, m.stripped? = some consensus → ¬ s.Lists consensus proxy) :
    s.tears proxy torn m = torn := by
  simp only [tears]
  rw [if_neg (by simpa using h)]
  split
  · rfl
  · rename_i consensus hstripped
    rw [if_neg (hkept consensus hstripped)]

/-- A proxy that is taken from a key is torn exactly if another key lists it. -/
theorem tears_taken {m : Move} (torn : Bool) (h : ¬ ∃ x ∈ m.attached, x.identifier = proxy)
    (hstripped : m.stripped? = some consensus) (hlists : s.Lists consensus proxy) :
    s.tears proxy torn m = true ↔ ∃ other, other ≠ consensus ∧ s.Lists other proxy := by
  simp only [tears]
  rw [if_neg (by simpa using h), hstripped]
  simp only [if_pos hlists, List.any_eq_true, Bool.and_eq_true, bne_iff_ne, decide_eq_true_eq]
  constructor
  · rintro ⟨entry, _, hne, hother⟩
    exact ⟨entry.1, hne, hother⟩
  · rintro ⟨other, hne, hother⟩
    obtain ⟨entry, hentry, rfl⟩ := hother.mem_entries
    exact ⟨entry, hentry, hne, hother⟩

/-- A move that takes the proxies of a key, and attaches others in their place. -/
theorem Aligned.strip {s' : Snapshot} {m : Move} (h : s.Aligned proxy torn)
    (hstripped : m.stripped? = some consensus)
    (hlists : ∀ other, s'.Lists other proxy ↔ (other ≠ consensus ∧ s.Lists other proxy) ∨
      (other = consensus ∧ ∃ x ∈ m.attached, x.identifier = proxy))
    (hindexes : s'.Indexes proxy ↔
      (s.Indexes proxy ∧ ¬ s.Lists consensus proxy) ∨ ∃ x ∈ m.attached, x.identifier = proxy) :
    s'.Aligned proxy (s.tears proxy torn m) := by
  unfold Aligned at h ⊢
  rw [hindexes]
  simp only [hlists]
  by_cases hattached : ∃ x ∈ m.attached, x.identifier = proxy
  · rw [tears_attached hattached]
    exact iff_of_true (.inr hattached) ⟨⟨consensus, .inr ⟨rfl, hattached⟩⟩, rfl⟩
  by_cases htaken : s.Lists consensus proxy
  · -- out of the index; whoever else lists it finds it torn
    have htears := tears_taken torn hattached hstripped htaken
    simp only [hattached, htaken, not_true_eq_false, and_false, or_false, false_iff, not_and,
      Bool.not_eq_false]
    exact htears.mpr
  · rw [tears_untouched hattached fun c hc => by
      obtain rfl := Option.some.inj (hstripped.symm.trans hc)
      exact htaken]
    simp only [hattached, htaken, not_false_eq_true, and_true, and_false, or_false, h]
    refine and_congr_left' (exists_congr fun other => ⟨fun hother => ⟨?_, hother⟩, And.right⟩)
    rintro rfl
    exact htaken hother

theorem Aligned.move (h : s.Aligned proxy torn) (m : Move) :
    (s.move m).Aligned proxy (s.tears proxy torn m) := by
  cases m with
  | put signer =>
      rw [tears_untouched (by simp [Move.attached]) (by simp [Move.stripped?])]
      exact h
  | withdraw id =>
      refine h.strip rfl (fun other => ?_) ?_
      · show (s.dropProxies id).Lists other proxy ↔ _
        simp [lists_dropProxies, Move.attached]
      · show (s.dropProxies id).Indexes proxy ↔ _
        simp [indexes_dropProxies, Move.attached]
  | attach consensus x =>
      unfold Aligned at h ⊢
      show (s.addProxy consensus x).Indexes proxy ↔
        (∃ other, (s.addProxy consensus x).Lists other proxy) ∧ _
      rw [indexes_addProxy]
      simp only [lists_addProxy]
      by_cases hx : x.identifier = proxy
      · rw [tears_attached (m := .attach consensus x) ⟨x, List.mem_singleton_self x, hx⟩]
        exact iff_of_true (.inr hx) ⟨⟨consensus, .inr ⟨rfl, hx⟩⟩, rfl⟩
      · rw [tears_untouched (by simpa [Move.attached] using hx) (by simp [Move.stripped?])]
        simpa [hx] using h
  | renew consensus xs => exact h.strip rfl (fun _ => lists_replaceProxies) indexes_replaceProxies

theorem Aligned.play (h : s.Aligned proxy torn) (ms : List Move) :
    (s.play ms).Aligned proxy (tornAfter proxy torn s ms) := by
  induction ms generalizing s torn with
  | nil => exact h
  | cons m rest ih => exact ih (h.move m)

/-! ## Schemes -/

/-- The scheme of every proxy is that of its public key. -/
structure Genuine (s : Snapshot) : Prop where
  listed : ∀ consensus, ∀ x ∈ s.proxiesOf consensus, x.Genuine
  indexed : ∀ x ∈ s.proxyIndex, x.Genuine

theorem genuine_empty : empty.Genuine :=
  ⟨by simp [empty, proxiesOf], by simp [empty]⟩

theorem Genuine.dropProxies (h : s.Genuine) (consensus : SignerId) :
    (s.dropProxies consensus).Genuine where
  listed other x hx := by
    rw [proxiesOf_dropProxies] at hx
    split at hx
    · cases hx
    · exact h.listed other x hx
  indexed x hx := h.indexed x (mem_index_dropProxies.mp hx).1

theorem Genuine.addProxy (h : s.Genuine) {x : Signer} (hx : x.Genuine) (consensus : SignerId) :
    (s.addProxy consensus x).Genuine where
  listed other y hy := by
    rw [proxiesOf_addProxy] at hy
    split at hy
    · rcases List.mem_append.mp hy with hy | hy
      · exact h.listed consensus y (mem_without.mp hy).1
      · exact List.mem_singleton.mp hy ▸ hx
    · exact h.listed other y hy
  indexed y hy := by
    rcases List.mem_append.mp hy with hy | hy
    · exact h.indexed y (mem_without.mp hy).1
    · exact List.mem_singleton.mp hy ▸ hx

theorem Genuine.move (h : s.Genuine) {m : Move} (hm : ∀ x ∈ m.attached, x.Genuine) :
    (s.move m).Genuine := by
  cases m with
  | put signer => exact ⟨h.listed, h.indexed⟩
  | withdraw id =>
      have hdropped := h.dropProxies id
      exact ⟨hdropped.listed, hdropped.indexed⟩
  | attach consensus x => exact h.addProxy (hm x (List.mem_singleton_self x)) consensus
  | renew consensus xs =>
      have hadd : ∀ (xs : List Signer) (s : Snapshot), s.Genuine → (∀ x ∈ xs, x.Genuine) →
          (xs.foldl (fun s x => s.addProxy consensus x) s).Genuine := by
        intro xs
        induction xs with
        | nil => exact fun _ hs _ => hs
        | cons x rest ih =>
            intro s hs hxs
            exact ih _ (hs.addProxy (hxs x List.mem_cons_self) consensus)
              fun y hy => hxs y (List.mem_cons_of_mem x hy)
      exact hadd xs _ (h.dropProxies consensus) hm

theorem Genuine.play (h : s.Genuine) {ms : List Move}
    (hms : ∀ m ∈ ms, ∀ x ∈ m.attached, x.Genuine) : (s.play ms).Genuine := by
  induction ms generalizing s with
  | nil => exact h
  | cons m rest ih =>
      exact ih (h.move (hms m List.mem_cons_self)) fun m' hm' => hms m' (List.mem_cons_of_mem m hm')

/-! ## The moves of a load -/

/-- The moves that install what was loaded. -/
def installMoves (s : Snapshot) : List LoadedSource → List Move
  | [] => []
  | l :: rest =>
      if (s.find? l.signer.identifier).isSome then s.installMoves rest
      else .put l.signer :: (s.put l.signer).installMoves rest

theorem install_eq_play (s : Snapshot) (loaded : List LoadedSource) :
    (s.install loaded).2 = s.play (s.installMoves loaded) := by
  induction loaded generalizing s with
  | nil => rfl
  | cons l rest ih =>
      rw [install, installMoves]
      split
      · exact ih s
      · exact ih (s.put l.signer)

theorem removeStale_eq_play (s : Snapshot) (stale : List SignerId) :
    s.removeStale stale = s.play (stale.map .withdraw) := by
  simp [removeStale, play, List.foldl_map, move]

theorem replaceAllProxies_eq_play (s : Snapshot) (find : SignerId → List Signer)
    (order : List SignerId) :
    s.replaceAllProxies find order = s.play (order.map fun id => .renew id (find id)) := by
  simp [replaceAllProxies, play, List.foldl_map, move]

theorem attached_installMoves (loaded : List LoadedSource) :
    ∀ m ∈ s.installMoves loaded, m.attached = [] := by
  induction loaded generalizing s with
  | nil => simp [installMoves]
  | cons l rest ih =>
      rw [installMoves]
      split
      · exact ih
      · intro m hm
        rcases List.mem_cons.mp hm with rfl | hm
        · rfl
        · exact ih m hm

end Snapshot

/-! ## Commands -/

namespace Registry

open Snapshot (Move)

/-- A command to a registry. -/
inductive Command where
  | load (view : Option LoadView)
  | addSigner (signer : Signer)
  | addProxy (consensus : SignerId) (proxy : Signer)
  | removeSigner (id : SignerId)

/-- The proxies that a command brings are genuine, on disk or as they are given. -/
def Command.Genuine : Command → Prop
  | .load (some view) => ∀ find, view.proxies = some find → ∀ id, ∀ x ∈ (find id).1, x.Genuine
  | .addProxy _ proxy => proxy.Genuine
  | .load none | .addSigner _ | .removeSigner _ => True

/-- The registry after a command. -/
def obey (r : Registry) : Command → Registry
  | .load view => (r.load view).2
  | .addSigner signer => (r.addSigner signer).2
  | .addProxy consensus proxy => (r.addProxy consensus proxy).2
  | .removeSigner id => (r.removeSigner id).2

/-- The registry after several commands. -/
def run (r : Registry) (xs : List Command) : Registry :=
  xs.foldl obey r

/-- The moves of the load of a directory that could be listed: stale keys go, new ones
come, and the proxies of all installed keys are replaced, one key after another. -/
def loadMoves (r : Registry) (view : LoadView) (listed : List Source) : List Move :=
  let outcome := Loader.load view.config view.decode listed r.cache
  let stale := outcome.stale.map Move.withdraw
  let come := (r.snapshot.play stale).installMoves outcome.loaded
  let s := r.snapshot.play (stale ++ come)
  stale ++ come ++
    match view.proxies with
    | none => []
    | some find => (view.order s.identifiers).map fun id => Move.renew id (find id).1

/-- The moves of a command. -/
def moves (r : Registry) : Command → List Move
  | .load none => []
  | .load (some view) =>
      match view.listing with
      | .error _ => []
      | .ok listed => r.loadMoves view listed
  | .addSigner signer => [.put signer]
  | .addProxy consensus proxy => [.attach consensus proxy]
  | .removeSigner id => if (r.snapshot.find? id).isSome then [.withdraw id] else []

/-- The moves of several commands. -/
def history (r : Registry) : List Command → List Move
  | [] => []
  | x :: rest => r.moves x ++ (r.obey x).history rest

variable {r : Registry} {view : LoadView} {listed : List Source}

theorem absorb_eq_play :
    (r.absorb view listed).2.snapshot = r.snapshot.play (r.loadMoves view listed) := by
  simp only [absorb, loadMoves, Snapshot.play_append, Snapshot.removeStale_eq_play,
    Snapshot.install_eq_play]
  unfold loadProxies
  cases view.proxies with
  | none => rfl
  | some find => exact Snapshot.replaceAllProxies_eq_play _ _ _

/-- A command changes the snapshot by its moves, and leaves the registry open. -/
theorem obey_eq_play (hopen : r.isClosed = false) (x : Command) :
    (r.obey x).snapshot = r.snapshot.play (r.moves x) ∧ (r.obey x).isClosed = false := by
  cases x with
  | load view =>
      cases view with
      | none =>
          have hload : r.load none = (.ok ⟨0, 0⟩, r) := by simp [load, tryLoad, hopen]
          exact ⟨by rw [obey, hload]; rfl, by rw [obey, hload]; exact hopen⟩
      | some view =>
          simp only [obey, moves]
          cases hl : view.listing with
          | error fault => cases fault <;> simp [load, tryLoad, hopen, hl, Snapshot.play]
          | ok listed =>
              have hload : (r.load (some view)).2 = (r.absorb view listed).2 := by
                simp [load, tryLoad, hopen, hl]
              rw [hload]
              exact ⟨absorb_eq_play, hopen⟩
  | addSigner signer =>
      simp [obey, moves, addSigner, change, hopen, Snapshot.play, Snapshot.move]
  | addProxy consensus proxy =>
      simp [obey, moves, addProxy, change, hopen, Snapshot.play, Snapshot.move]
  | removeSigner id =>
      have hfound : (r.snapshot.remove id).1 = (r.snapshot.find? id).isSome := rfl
      simp only [obey, moves, removeSigner, change, hopen, ← hfound]
      generalize hr : r.snapshot.remove id = outcome
      obtain ⟨found, s⟩ := outcome
      cases found with
      | true => simp [Snapshot.play, Snapshot.move, hr]
      | false => simp [Snapshot.play]

theorem run_eq_play (hopen : r.isClosed = false) (xs : List Command) :
    (r.run xs).snapshot = r.snapshot.play (r.history xs) := by
  induction xs generalizing r with
  | nil => rfl
  | cons x rest ih =>
      obtain ⟨hsnapshot, hopen'⟩ := obey_eq_play hopen x
      show ((r.obey x).run rest).snapshot = _
      rw [ih hopen', hsnapshot, history, Snapshot.play_append]

theorem moves_genuine {x : Command} (hx : x.Genuine) :
    ∀ m ∈ r.moves x, ∀ y ∈ m.attached, y.Genuine := by
  intro m hm y hy
  cases x with
  | load view =>
      cases view with
      | none => cases hm
      | some view =>
          simp only [moves] at hm
          cases hl : view.listing with
          | error fault =>
              rw [hl] at hm
              cases hm
          | ok listed =>
              rw [hl] at hm
              simp only [loadMoves, List.mem_append] at hm
              rcases hm with (hm | hm) | hm
              · obtain ⟨id, _, rfl⟩ := List.mem_map.mp hm
                cases hy
              · rw [Snapshot.attached_installMoves _ m hm] at hy
                cases hy
              · cases hp : view.proxies with
                | none =>
                    rw [hp] at hm
                    cases hm
                | some find =>
                    rw [hp] at hm
                    obtain ⟨id, _, rfl⟩ := List.mem_map.mp hm
                    exact hx find hp id y hy
  | addSigner signer =>
      obtain rfl := List.mem_singleton.mp hm
      cases hy
  | addProxy consensus proxy =>
      obtain rfl := List.mem_singleton.mp hm
      exact List.mem_singleton.mp hy ▸ hx
  | removeSigner id =>
      simp only [moves] at hm
      split at hm
      · obtain rfl := List.mem_singleton.mp hm
        cases hy
      · cases hm

theorem history_genuine {xs : List Command} (hxs : ∀ x ∈ xs, x.Genuine) :
    ∀ m ∈ r.history xs, ∀ y ∈ m.attached, y.Genuine := by
  induction xs generalizing r with
  | nil => simp [history]
  | cons x rest ih =>
      intro m hm
      rcases List.mem_append.mp hm with hm | hm
      · exact moves_genuine (hxs x List.mem_cons_self) m hm
      · exact ih (fun x' hx' => hxs x' (List.mem_cons_of_mem x hx')) m hm

end Registry

/-! ## Listing and signing -/

/-- The kind of key that a module names for a proxy of a scheme. -/
def ModuleKey.ofScheme : KeyType → ModuleKey
  | .bls => .proxyBls
  | .secp256k1 => .proxyEcdsa

/-- The proxies of a scheme in a mapping. -/
def KeyMapping.proxies (m : KeyMapping) : KeyType → List SignerId
  | .bls => m.proxyBls
  | .secp256k1 => m.proxyEcdsa

namespace Snapshot

/-- A proxy is published: the public keys list it, under its scheme and some consensus
key. -/
def Publishes (s : Snapshot) (keyType : KeyType) (proxy : SignerId) : Prop :=
  ∃ m ∈ s.keyMappings, proxy ∈ m.proxies keyType

/-- A proxy is not published, but listed by a key that is not installed. -/
def Strands (s : Snapshot) (keyType : KeyType) (proxy : SignerId) : Prop :=
  ¬ s.Publishes keyType proxy ∧
    ∃ consensus, ¬ s.Has consensus ∧ proxy ∈ s.proxyIdentifiers consensus keyType

variable {s : Snapshot} {consensus proxy : SignerId} {keyType : KeyType}

theorem mem_proxyIdentifiers (h : s.Genuine) : proxy ∈ s.proxyIdentifiers consensus keyType ↔
    s.Lists consensus proxy ∧ proxy.scheme = keyType := by
  simp only [proxyIdentifiers, List.mem_mergeSort, List.mem_map, List.mem_filter, beq_iff_eq, Lists]
  constructor
  · rintro ⟨x, ⟨hx, hscheme⟩, rfl⟩
    exact ⟨⟨x, hx, rfl⟩, (h.listed consensus x hx).symm.trans hscheme⟩
  · rintro ⟨⟨x, hx, rfl⟩, hscheme⟩
    exact ⟨x, ⟨hx, (h.listed consensus x hx).trans hscheme⟩, rfl⟩

theorem publishes_iff : s.Publishes keyType proxy ↔
    ∃ consensus, s.Has consensus ∧ proxy ∈ s.proxyIdentifiers consensus keyType := by
  simp only [Publishes, keyMappings, List.mem_map]
  constructor
  · rintro ⟨_, ⟨consensus, hlisted, rfl⟩, hproxy⟩
    exact ⟨consensus, mem_identifiers.mp hlisted, by cases keyType <;> exact hproxy⟩
  · rintro ⟨consensus, hlisted, hproxy⟩
    exact ⟨_, ⟨consensus, mem_identifiers.mpr hlisted, rfl⟩, by cases keyType <;> exact hproxy⟩

/-- Keys that list a proxy are installed, which publishes it, or they strand it. -/
theorem lists_scheme_iff (h : s.Genuine) :
    (∃ consensus, s.Lists consensus proxy ∧ proxy.scheme = keyType) ↔
      s.Publishes keyType proxy ∨ s.Strands keyType proxy := by
  simp only [← mem_proxyIdentifiers h]
  constructor
  · rintro ⟨consensus, hproxy⟩
    by_cases hpublished : s.Publishes keyType proxy
    · exact .inl hpublished
    · exact .inr ⟨hpublished, consensus,
        fun hinstalled => hpublished (publishes_iff.mpr ⟨consensus, hinstalled, hproxy⟩), hproxy⟩
  · rintro (hpublished | ⟨_, consensus, _, hproxy⟩)
    · obtain ⟨consensus, _, hproxy⟩ := publishes_iff.mp hpublished
      exact ⟨consensus, hproxy⟩
    · exact ⟨consensus, hproxy⟩

theorem moduleSigner?_isSome (h : s.Genuine) :
    (s.moduleSigner? (.ofScheme keyType) proxy).isSome = true ↔
      s.Indexes proxy ∧ proxy.scheme = keyType := by
  have hfilter : (s.moduleSigner? (.ofScheme keyType) proxy) =
      (s.findProxy? proxy).filter (·.keyType == keyType) := by cases keyType <;> rfl
  rw [hfilter]
  cases hfound : s.findProxy? proxy with
  | none =>
      have hnone : ¬ s.Indexes proxy := by
        rintro ⟨x, hx, hkey⟩
        exact absurd hkey (by simpa using List.find?_eq_none.mp hfound x hx)
      simp [hnone]
  | some x =>
      have hx := List.mem_of_find?_eq_some hfound
      obtain rfl : x.identifier = proxy := by simpa using List.find?_some hfound
      have hindexed : s.Indexes x.identifier := ⟨x, hx, rfl⟩
      have hgenuine : x.keyType = x.identifier.scheme := h.indexed x hx
      simp [hindexed, Option.filter, hgenuine]

end Snapshot

namespace Custody

variable {c : Custody} {text : String} {proxy : SignerId} {keyType : KeyType}

/-- A module that names a proxy finds it exactly if the index has it, under the scheme
that the module means. -/
theorem resolveModule_proxy (h : c.snapshot.Genuine) (version : Version) (root : Root)
    (hid : SignerId.parse text = .ok proxy) :
    (∃ found, c.resolveModule version ⟨.ofScheme keyType, text, root⟩ = .ok found) ↔
      c.snapshot.Indexes proxy ∧ proxy.scheme = keyType := by
  rw [← Snapshot.moduleSigner?_isSome h]
  simp only [resolveModule, requestedKey, hid, Except.mapError, bind, Except.bind]
  cases c.snapshot.moduleSigner? (.ofScheme keyType) proxy <;> simp

/-- After any commands, which may come with any proxies on disk and visit the keys in
any order, a module that names a proxy under its scheme finds it exactly if the proxy is
not torn and either is published or is listed only by keys that are not installed. -/
theorem proxies_agree_iff (xs : List Registry.Command) (hxs : ∀ x ∈ xs, x.Genuine)
    (hc : c.registry = Registry.empty.run xs) (version : Version) (root : Root)
    (hid : SignerId.parse text = .ok proxy) :
    (∃ found, c.resolveModule version ⟨.ofScheme keyType, text, root⟩ = .ok found) ↔
      (c.snapshot.Publishes keyType proxy ∨ c.snapshot.Strands keyType proxy) ∧
        Snapshot.tornAfter proxy false .empty (Registry.empty.history xs) = false := by
  have hsnapshot : c.snapshot = Snapshot.empty.play (Registry.empty.history xs) := by
    rw [snapshot, hc]
    exact Registry.run_eq_play rfl xs
  have hgenuine : c.snapshot.Genuine :=
    hsnapshot ▸ Snapshot.genuine_empty.play (Registry.history_genuine hxs)
  have haligned : c.snapshot.Aligned proxy _ :=
    hsnapshot ▸ (Snapshot.aligned_empty proxy).play (Registry.empty.history xs)
  unfold Snapshot.Aligned at haligned
  rw [resolveModule_proxy hgenuine version root hid, haligned, and_right_comm]
  refine and_congr_left' ?_
  rw [← Snapshot.lists_scheme_iff hgenuine]
  exact exists_and_right.symm

/-! ## Two keys with one proxy -/

/-- A BLS signer. -/
def blsSigner (byte : UInt8) : Signer :=
  ⟨⟨[byte]⟩, .bls, fun _ => .ok ⟨[]⟩⟩

/-- Two keys are installed, and a proxy is attached to both. -/
def sharedProxy : List Registry.Command :=
  [.addSigner (blsSigner 1), .addSigner (blsSigner 2),
    .addProxy ⟨[1]⟩ (blsSigner 3), .addProxy ⟨[2]⟩ (blsSigner 3)]

/-- What a module asks for. -/
def askingProxy : ModuleSignRequest :=
  ⟨.ofScheme .bls, "03", .zero 32⟩

/-- Custody with a registry after commands, and no files. -/
def commanded (xs : List Registry.Command) : Custody :=
  ⟨Registry.empty.run xs, none, .empty⟩

/-- Both keys list the proxy, and a module finds it. -/
theorem sharedProxy_found :
    ∃ found, (commanded sharedProxy).resolveModule (.zero 4) askingProxy = .ok found := by
  have hgenuine : ∀ x ∈ sharedProxy, x.Genuine := by
    simp [sharedProxy, Registry.Command.Genuine, Signer.Genuine, blsSigner, SignerId.scheme]
  have hpublished : (commanded sharedProxy).snapshot.Publishes .bls ⟨[3]⟩ := by
    refine Snapshot.publishes_iff.mpr ⟨⟨[1]⟩, Snapshot.find?_isSome.mp (by decide), ?_⟩
    exact List.mem_mergeSort.mpr (by decide)
  exact (proxies_agree_iff sharedProxy hgenuine rfl (.zero 4) (.zero 32) rfl).mpr
    ⟨.inl hpublished, by decide⟩

/-- Once the first key is removed, no module finds the proxy, which is still published
for the second. And a proxy that is attached to a key that is not installed is found,
although it is not published. -/
theorem proxies_disagree :
    ((commanded (sharedProxy ++ [.removeSigner ⟨[1]⟩])).snapshot.Publishes .bls ⟨[3]⟩ ∧
      ¬ ∃ found, (commanded (sharedProxy ++ [.removeSigner ⟨[1]⟩])).resolveModule (.zero 4)
        askingProxy = .ok found) ∧
    (¬ (commanded [.addProxy ⟨[1]⟩ (blsSigner 3)]).snapshot.Publishes .bls ⟨[3]⟩ ∧
      ∃ found, (commanded [.addProxy ⟨[1]⟩ (blsSigner 3)]).resolveModule (.zero 4)
        askingProxy = .ok found) := by
  refine ⟨⟨?_, ?_⟩, ?_, ?_⟩
  · refine Snapshot.publishes_iff.mpr ⟨⟨[2]⟩, Snapshot.find?_isSome.mp (by decide), ?_⟩
    exact List.mem_mergeSort.mpr (by decide)
  · rintro ⟨found, hfound⟩
    cases hfound
  · rintro ⟨m, hm, _⟩
    cases hm
  · exact ⟨_, rfl⟩

end Custody

end RemoteSigner
