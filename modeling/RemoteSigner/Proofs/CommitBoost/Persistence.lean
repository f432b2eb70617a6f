import RemoteSigner.Proofs.Keys.Attachment
import RemoteSigner.Proofs.Keys.ProxyFiles
import RemoteSigner.Proofs.Signing.Custody

/-!
# Generated proxies persist

A proxy that is generated for a key is installed at once, and written where later loads look for
it. Custody `Serves` its signer from then on: the public keys list the proxy for the key, once and
under its scheme, and modules that name it are answered by the signer. It is so after later loads,
too, in whatever order they visit keys and files:

* `Spares.finds` — a load that leaves the place of the proxy to it (`Spares`) finds it in its
  files;
* `ReadsProxies.standsFor` — a signer that is found with its public key was made by the same
  functions (`StandsFor`), and is the same one, unless the key has keystores of another;
* `exists_serves` — a proxy that is attached to an installed key is served.

`generateProxy_persists` puts them together. Two conditions are needed for that, as
`generated_lost` shows: the password file has to stay a text, and no other key may list the proxy.
-/

namespace RemoteSigner

namespace Snapshot

variable {s : Snapshot} {consensus proxy : SignerId} {keyType : KeyType} {ok : Signer → Prop}

/-- An attached proxy is listed once, under its scheme. -/
theorem Attached.count_proxyIdentifiers (h : s.Attached consensus proxy ok)
    (hok : ∀ x, ok x → x.keyType = keyType) (scheme : KeyType) :
    (s.proxyIdentifiers consensus scheme).count proxy = if scheme = keyType then 1 else 0 := by
  have hscheme : ∀ x ∈ s.proxiesOf consensus, x.identifier = proxy → x.keyType = keyType :=
    fun x hx hid => hok x (h.listed x hx hid)
  unfold proxyIdentifiers
  rw [(List.mergeSort_perm _ _).count_eq, List.count_eq_countP, List.countP_map, List.countP_filter]
  split
  · subst scheme
    rw [← h.once]
    refine List.countP_congr fun x hx => ?_
    simpa using hscheme x hx
  · rename_i hother
    refine List.countP_eq_zero.mpr fun x hx hboth => ?_
    obtain ⟨hid, hx'⟩ : x.identifier = proxy ∧ x.keyType = scheme := by simpa using hboth
    exact hother (hx'.symm.trans (hscheme x hx hid))

theorem moduleSigner?_ofScheme {x : Signer} (h : s.findProxy? proxy = some x) :
    s.moduleSigner? (.ofScheme x.keyType) proxy = some x := by
  cases hx : x.keyType <;> simp [moduleSigner?, ModuleKey.ofScheme, h, hx]

end Snapshot

/-! ## Loads of proxies -/

namespace LoadView

variable {view : LoadView} {p : ProxyConfig} {suite : KeySuite} {disk : Disk}
  {consensus : SignerId} {x y : Signer}

/-- A load reads the proxies on a disk: it visits every installed key, and finds for it the
proxies that have keystores there. Keys and keystores come in any order. -/
structure ReadsProxies (view : LoadView) (p : ProxyConfig) (suite : KeySuite) (disk : Disk) :
    Prop where
  finds : ∃ find, view.proxies = some find ∧
    ∀ id y, y ∈ (find id).1 ↔ y ∈ (p.load suite disk id).1
  visits : ∀ ids, ∀ id ∈ ids, id ∈ view.order ids

/-- A load leaves the place of a proxy to it: on the disk that it reads the keystore is as it was
on another, the password file is a text with the same first line, and no other key has a keystore
of the proxy. -/
def Spares (view : LoadView) (p : ProxyConfig) (suite : KeySuite) (written : Disk)
    (consensus : SignerId) (x : Signer) : Prop :=
  ∃ disk, view.ReadsProxies p suite disk ∧
    p.Keeps written disk consensus x.keyType x.identifier ∧
    ∀ other, other ≠ consensus →
      ∀ y ∈ (p.load suite disk other).1, y.identifier ≠ x.identifier

/-- A load offers a signer as a proxy of a key. -/
def Offers (view : LoadView) (consensus : SignerId) (y : Signer) : Prop :=
  ∃ find, view.proxies = some find ∧ y ∈ (find consensus).1

theorem readsProxies_ofDisk (shop : Workshop) (config : LoaderConfig) (p : ProxyConfig)
    (disk : Disk) : (ofDisk shop config (some p) disk).ReadsProxies p shop.suite disk where
  finds := ⟨_, rfl, fun _ _ => Iff.rfl⟩
  visits _ _ h := h

theorem ReadsProxies.mem_load (h : view.ReadsProxies p suite disk)
    (hy : view.Offers consensus y) : y ∈ (p.load suite disk consensus).1 := by
  obtain ⟨find, hfind, hmem⟩ := h.finds
  obtain ⟨find', hfind', hy⟩ := hy
  obtain rfl := Option.some.inj (hfind.symm.trans hfind')
  exact (hmem consensus y).mp hy

end LoadView

/-- A signer stands for a proxy after loads: it has the public key and the scheme of the proxy, is
made by the same functions, and is the proxy itself, unless some load offers the key another
signer with that public key. -/
structure Signer.StandsFor (y x : Signer) (suite : KeySuite) (views : List LoadView)
    (consensus : SignerId) : Prop where
  identifier : y.identifier = x.identifier
  makes : suite.Makes x.keyType y
  keyType : y.keyType = x.keyType
  same : (∀ view ∈ views, ∀ z, view.Offers consensus z → z.identifier = x.identifier → z = x) →
    y = x

namespace LoadView

variable {view : LoadView} {views : List LoadView} {p : ProxyConfig} {suite : KeySuite}
  {disk written : Disk} {consensus : SignerId} {x y : Signer} {keystore : Keystore}
  {password : String}

/-- What loads offer with the public key of a proxy stands for it. -/
theorem ReadsProxies.standsFor (h : view.ReadsProxies p suite disk) (hsuite : suite.Genuine)
    (hx : suite.Makes x.keyType x) (hview : view ∈ views) (hy : view.Offers consensus y)
    (hid : y.identifier = x.identifier) : y.StandsFor x suite views consensus := by
  obtain ⟨keyType, hmakes⟩ := ProxyConfig.load_makes (h.mem_load hy)
  obtain rfl := hsuite.scheme_eq hx hmakes hid
  exact ⟨hid, hmakes, (hsuite.of_makes hmakes).1, fun honly => honly view hview y hy hid⟩

/-- A load that leaves the place of a stored proxy to it finds the proxy. -/
theorem Spares.finds (h : view.Spares p suite written consensus x) (hsuite : suite.Genuine)
    (hx : suite.Makes x.keyType x) (hview : view ∈ views)
    (hstored : p.Stored suite written consensus x.keyType x keystore password) :
    ∃ find, view.Finds find consensus x.identifier (·.StandsFor x suite views consensus) := by
  obtain ⟨disk, hreads, hkeeps, hothers⟩ := h
  obtain ⟨find, hfind, hmem⟩ := hreads.finds
  have hlisted : x ∈ (find consensus).1 :=
    (hmem consensus x).mpr (hstored.kept hkeeps).mem_load
  exact ⟨find, hfind, fun ids => hreads.visits ids consensus, ⟨x, hlisted, rfl⟩,
    fun y hy hid => hreads.standsFor hsuite hx hview ⟨find, hfind, hy⟩ hid,
    fun other hother y hy => hothers other hother y ((hmem other y).mp hy)⟩

end LoadView

namespace Custody

open Ssz

variable {c : Custody} {consensus proxy : SignerId} {keyType : KeyType} {x : Signer}

/-- Custody serves a signer as a proxy of a key: the key is listed, with the public key of the
proxy under its scheme once and under no other, and whatever root a module asks to be signed with
that public key, this signer signs it. -/
structure Serves (c : Custody) (consensus : SignerId) (x : Signer) : Prop where
  listed : ∃ m ∈ c.snapshot.keyMappings, m.consensus = consensus
  once : ∀ m ∈ c.snapshot.keyMappings, m.consensus = consensus → ∀ scheme,
    (m.proxies scheme).count x.identifier = if scheme = x.keyType then 1 else 0
  signs : ∀ version text root, SignerId.parse text = .ok x.identifier →
    c.signForModule version ⟨.ofScheme x.keyType, text, root⟩ =
      (x.sign (CommitBoost.signingRoot sha256Pair version root).bytes).mapError .signer

/-- Custody serves a signer of a proxy that is attached to an installed key. -/
theorem exists_serves {ok : Signer → Prop} (hhas : c.snapshot.Has consensus)
    (h : c.snapshot.Attached consensus proxy ok) (hok : ∀ y, ok y → y.keyType = keyType) :
    ∃ y, ok y ∧ y.identifier = proxy ∧ c.Serves consensus y := by
  obtain ⟨y, hfound, hy⟩ := h.indexed
  have hid : y.identifier = proxy := by simpa using List.find?_some hfound
  refine ⟨y, hy, hid, ⟨_, List.mem_map_of_mem (Snapshot.mem_identifiers.mpr hhas), rfl⟩, ?_, ?_⟩
  · intro m hm hconsensus scheme
    obtain ⟨id, _, rfl⟩ := List.mem_map.mp hm
    obtain rfl : id = consensus := hconsensus
    rw [hid, hok y hy, ← h.count_proxyIdentifiers hok]
    cases scheme <;> rfl
  · intro version text root hparse
    unfold signForModule resolveModule requestedKey
    rw [hparse]
    simp only [Except.mapError, bind, Except.bind, Snapshot.moduleSigner?_ofScheme (hid ▸ hfound)]

/-- What custody serves is in the index. -/
theorem Serves.indexes (h : c.Serves consensus x) (hkey : x.identifier.key ≠ []) :
    c.snapshot.Indexes x.identifier := by
  by_contra hnone
  have hunknown : c.snapshot.moduleSigner? (.ofScheme x.keyType) x.identifier = none := by
    have hfind : c.snapshot.findProxy? x.identifier = none :=
      List.find?_eq_none.mpr fun y hy heq => hnone ⟨y, hy, eq_of_beq heq⟩
    cases x.keyType <;> simp [Snapshot.moduleSigner?, ModuleKey.ofScheme, hfind]
  have hanswer := h.signs (.zero 4) x.identifier.marked (.zero 32) (SignerId.parse_marked hkey)
  unfold signForModule resolveModule requestedKey at hanswer
  rw [SignerId.parse_marked hkey] at hanswer
  simp only [Except.mapError, bind, Except.bind, hunknown] at hanswer
  split at hanswer <;> cases hanswer

/-! ## Generation -/

theorem addProxy_ok {r registry : Registry} {x : Signer}
    (h : r.addProxy consensus x = (.ok (), registry)) :
    registry.snapshot = r.snapshot.addProxy consensus x := by
  unfold Registry.addProxy Registry.change at h
  split at h
  · cases h
  · obtain ⟨_, rfl⟩ := Prod.mk.inj h
    rfl

theorem delegator_ok {request : ProxyKeyRequest} {x : Signer}
    (h : c.delegator request = .ok (consensus, x)) :
    SignerId.parse request.publicKey = .ok consensus ∧ c.snapshot.Has consensus := by
  obtain ⟨id, hparse, hfound⟩ := bind_eq_ok.mp h
  split at hfound
  · cases hfound
  · rename_i y hy
    obtain ⟨rfl, rfl⟩ := Prod.mk.inj (Except.ok.inj hfound)
    exact ⟨mapError_ok hparse, Snapshot.find?_isSome.mp (by rw [hy]; rfl)⟩

/-- A proxy that is installed was generated on disk, and is attached to its key. -/
theorem installProxy_ok {mint : ProxyMint} {entropy : ProxyEntropy} {c' : Custody}
    (h : c.installProxy mint entropy consensus keyType = (.ok x, c')) :
    let generated := mint.config.generate mint.suite mint.medium entropy consensus keyType
      mint.rounds c.disk
    generated.1 = .ok x ∧ c'.disk = generated.2 ∧
      c'.snapshot = c.snapshot.addProxy consensus x := by
  simp only
  unfold installProxy at h
  generalize mint.config.generate mint.suite mint.medium entropy consensus keyType mint.rounds
    c.disk = generated at h ⊢
  obtain ⟨result, disk⟩ := generated
  cases result with
  | error e => cases h
  | ok y =>
      simp only at h
      split at h
      · cases h
      · rename_i hadd
        obtain ⟨hy, rfl⟩ := Prod.mk.inj h
        obtain rfl := Except.ok.inj hy
        exact ⟨rfl, rfl, addProxy_ok hadd⟩

/-- A proxy that is generated is written to disk and attached to the key of the request, which is
installed. -/
theorem generateProxy_installs {version : Version} {mint : ProxyMint} {entropy : ProxyEntropy}
    {request : ProxyKeyRequest} {d : SignedDelegation}
    (h : (c.generateProxy version (some mint) entropy request).1 = .ok d) :
    let generated := mint.config.generate mint.suite mint.medium entropy d.message.delegator
      request.scheme mint.rounds c.disk
    let after := (c.generateProxy version (some mint) entropy request).2
    (SignerId.parse request.publicKey = .ok d.message.delegator ∧
        c.snapshot.Has d.message.delegator) ∧
      ∃ x, generated.1 = .ok x ∧ x.identifier = d.message.proxy ∧ after.disk = generated.2 ∧
        after.snapshot = c.snapshot.addProxy d.message.delegator x := by
  obtain ⟨signer, c', hdelegate, hresult⟩ := generateProxy_ok h
  obtain ⟨mint, x, hmint, hdelegator, hinstall, hproxy⟩ := delegate_ok hdelegate
  obtain rfl := Option.some.inj hmint
  obtain ⟨hgenerate, hdisk, hsnapshot⟩ := installProxy_ok hinstall
  rw [hresult]
  exact ⟨delegator_ok hdelegator, x, hgenerate, hproxy, hdisk, hsnapshot⟩

/-! ## Later loads -/

/-- Custody after any loads, one after another. -/
def reloaded (c : Custody) (views : List LoadView) : Custody :=
  { c with registry := c.registry.loads views }

/-- Generated proxies persist. A proxy that is generated for a key is the signer of the secret
that was drawn, and it is served at once. If no other key lists its public key, a signer that
stands for it is served after any later loads that leave the place of the proxy to it and the key
installed. In which order loads visit keys and files, what else the disks hold, and which keys
come and go in between, does not matter.

The number of rounds is one of 32 bits. Whatever else keystores rest on may be any functions, as
long as signers have the scheme that is asked for, which shows in their public keys. -/
theorem generateProxy_persists (c : Custody) {mint : ProxyMint} (hsuite : mint.suite.Genuine)
    (hrounds : mint.rounds ≤ 4294967295) (version : Version) (entropy : ProxyEntropy)
    (request : ProxyKeyRequest) {d : SignedDelegation}
    (h : (c.generateProxy version (some mint) entropy request).1 = .ok d) :
    let after := (c.generateProxy version (some mint) entropy request).2
    let consensus := d.message.delegator
    ∃ x, mint.suite.Draws entropy request.scheme x ∧ x.identifier = d.message.proxy ∧
      x.keyType = request.scheme ∧ SignerId.parse request.publicKey = .ok consensus ∧
      after.Serves consensus x ∧
      (c.snapshot.Sole consensus x.identifier → ∀ views : List LoadView,
        (∀ view ∈ views, view.Spares mint.config mint.suite after.disk consensus x) →
        (after.reloaded views).snapshot.Has consensus →
        ∃ y, y.StandsFor x mint.suite views consensus ∧
          (after.reloaded views).Serves consensus y) := by
  intro after consensus
  obtain ⟨⟨hparse, hhas⟩, x, hgenerate, hproxy, hdisk, hsnapshot⟩ := generateProxy_installs h
  obtain ⟨hdraws, keystore, password, hstored⟩ := ProxyConfig.stored_of_generate hrounds hgenerate
  have hkeyType : x.keyType = request.scheme := (hsuite.of_makes hdraws.makes).1
  have hmakes : mint.suite.Makes x.keyType x := hkeyType ▸ hdraws.makes
  have hsnapshot : after.snapshot = c.snapshot.addProxy consensus x := hsnapshot
  have hinstalled : after.snapshot.Has consensus := by
    rw [hsnapshot]
    exact hhas
  have hattached (ok : Signer → Prop) (hx : ok x) :
      after.snapshot.Attached consensus x.identifier ok := by
    rw [hsnapshot]
    exact Snapshot.attached_addProxy rfl hx
  have hserves : after.Serves consensus x := by
    obtain ⟨y, rfl, _, hy⟩ := exists_serves hinstalled (hattached (· = x) rfl)
      fun y hy => congrArg Signer.keyType hy
    exact hy
  refine ⟨x, hdraws, hproxy, hkeyType, hparse, hserves, fun hsole views hviews hlater => ?_⟩
  have hsole' : after.snapshot.Sole consensus x.identifier := by
    rw [hsnapshot]
    exact hsole.move (m := .attach consensus x) fun _ => rfl
  have hstored : mint.config.Stored mint.suite after.disk consensus x.keyType x keystore
      password := by
    rw [hkeyType]
    exact hdisk ▸ hstored
  have hholds : (after.reloaded views).registry.Holds consensus x.identifier
      (·.StandsFor x mint.suite views consensus) :=
    Registry.Holds.loads ⟨hsole', fun _ => hattached _ ⟨rfl, hmakes, rfl, fun _ => rfl⟩⟩
      fun view hview => (hviews view hview).finds hsuite hmakes hview hstored
  obtain ⟨y, hy, _, hserves'⟩ :=
    exists_serves hlater (hholds.attached hlater) fun y hy => hy.keyType
  exact ⟨y, hy, hserves'⟩

/-! ## A generated proxy -/

/-- Functions that hide nothing. A signer has the first byte of its secret as key. -/
def byteSuite : KeySuite where
  pbkdf2 _ _ _ length := .zero length
  scrypt _ _ _ length := .zero length
  keyStream _ _ _ := 0
  digest _ := .zero 32
  signer
    | .bls, secret => .ok (blsSigner (secret.headD 0))
    | .secp256k1, _ => .error (.keyMaterial .secp256k1 "signature error")
  newSecret _ _ := .ok [3]

theorem genuine_byteSuite : byteSuite.Genuine := by
  intro keyType secret x h
  cases keyType with
  | bls =>
      obtain rfl := Except.ok.inj h
      exact ⟨rfl, rfl⟩
  | secp256k1 => cases h

/-- There is one signer of a public key. -/
theorem eq_of_makes_byte (h : byteSuite.Makes keyType x) :
    x = blsSigner (x.identifier.key.headD 0) := by
  obtain ⟨secret, h⟩ := h
  cases keyType with
  | bls =>
      obtain rfl := Except.ok.inj h
      rfl
  | secp256k1 => cases h

/-- Proxies below the root, and a password file in it. -/
def byteMint : ProxyMint :=
  ⟨byteSuite, .sound, ⟨"/", "/password"⟩, 1⟩

/-- Random bytes that are all zero. -/
def zeroEntropy : ProxyEntropy :=
  ⟨[], ⟨.zero 32, .zero 16, .zero 16⟩⟩

/-- The keystore of the one secret. -/
def byteKeystore : Keystore where
  kdf := ⟨"pbkdf2", .pbkdf2 1 32 "hmac-sha256" (Hex.encode (FixedBytes.zero 32).bytes), ""⟩
  checksum := ⟨"sha256", .record [], Hex.encode (FixedBytes.zero 32).bytes⟩
  cipher := ⟨"aes-128-ctr", Hex.encode (FixedBytes.zero 16).bytes, Hex.encode [3]⟩
  description := none
  publicKey := Hex.encode [3]
  path := ""
  uuid := Keystore.uuidText (.zero 16)
  version := Keystore.formatVersion

/-- The root before a proxy is generated. -/
def passwordDisk : Disk :=
  ⟨[(["password"], ⟨Utf8.encode "pw\n", 1⟩)], [], [], 2⟩

/-- The root with a proxy of the first key, beside a password file. -/
def proxyDisk (password : Bytes) : Disk :=
  ⟨[(["password"], ⟨password, 1⟩),
    (["0x01", "BLS", "0x03.json"], ⟨Utf8.encode byteKeystore.toText, 3⟩)],
    [["0x01"], ["0x01", "BLS"]], [], 4⟩

theorem generate_byte : byteMint.config.generate byteSuite .sound zeroEntropy ⟨[1]⟩ .bls 1
    passwordDisk = (.ok (blsSigner 3), proxyDisk (Utf8.encode "pw\n")) := by
  have htext : passwordDisk.readText "/password" = .ok "pw\n" :=
    KeystoreFiles.readText_of_bytes rfl
  have hpassword : passwordDisk.password byteMint.config.passwordFile = .ok "pw" :=
    Disk.password_eq_ok.mpr ⟨⟨_, htext, rfl⟩, by decide⟩
  have hmake : byteMint.config.make byteSuite zeroEntropy .bls 1 passwordDisk =
      .ok (blsSigner 3, byteKeystore) := by
    unfold ProxyConfig.make
    rw [hpassword]
    rfl
  unfold ProxyConfig.generate
  rw [hmake]
  rfl

/-- No other key has proxies there. -/
theorem load_proxyDisk (password : Bytes) {other : SignerId} (hother : other ≠ ⟨[1]⟩) :
    (byteMint.config.load byteSuite (proxyDisk password) other).1 = [] := by
  have hfirst : other.marked ≠ "0x01" := fun h => hother (SignerId.marked_inj (b := ⟨[1]⟩) h)
  have hsecond : other.marked ≠ "BLS" := by
    intro h
    have hhead := congrArg (·.toList.head?) h
    simp [SignerId.marked, Hex.encodeMarked] at hhead
  refine ProxyConfig.load_eq_nil (by decide) fun place hplace => ?_
  simp only [proxyDisk, List.mem_cons, List.not_mem_nil, or_false] at hplace
  rcases hplace with rfl | rfl <;> simp [hfirst, hsecond]

/-- Custody of a key among others, beside a password file. -/
def beside (xs : List Registry.Command) : Custody :=
  ⟨Registry.empty.run (.addSigner (blsSigner 1) :: xs), none, passwordDisk⟩

/-- Generating a proxy of the key. -/
def generatedBeside (xs : List Registry.Command) : Except SigningError SignedDelegation × Custody :=
  (beside xs).generateProxy (.zero 4) (some byteMint) zeroEntropy ⟨"01", .bls⟩

/-- The delegation of the proxy. -/
def byteDelegation : SignedDelegation :=
  ⟨⟨⟨[1]⟩, ⟨[3]⟩⟩, Signature.toHex ⟨[]⟩⟩

theorem generatedBeside_eq {xs : List Registry.Command} {registry : Registry}
    (hkey : (beside xs).delegator ⟨"01", .bls⟩ = .ok (⟨[1]⟩, blsSigner 1))
    (hadd : (beside xs).registry.addProxy ⟨[1]⟩ (blsSigner 3) = (.ok (), registry)) :
    generatedBeside xs =
      (.ok byteDelegation, ⟨registry, none, proxyDisk (Utf8.encode "pw\n")⟩) := by
  have hinstall : (beside xs).installProxy byteMint zeroEntropy ⟨[1]⟩ .bls =
      (.ok (blsSigner 3), ⟨registry, none, proxyDisk (Utf8.encode "pw\n")⟩) := by
    have hgenerate : byteMint.config.generate byteMint.suite byteMint.medium zeroEntropy ⟨[1]⟩
        .bls byteMint.rounds (beside xs).disk = _ := generate_byte
    unfold installProxy
    rw [hgenerate]
    simp only [hadd]
    rfl
  unfold generatedBeside generateProxy delegate
  simp only [hkey, hinstall]
  rfl

/-- A load that finds no descriptions, where none are remembered, replaces the proxies and does
no more. -/
theorem load_bare {r : Registry} {view : LoadView} (hopen : r.isClosed = false)
    (hcache : r.cache = []) (hlisting : view.listing = .ok []) :
    (r.load (some view)).2.snapshot = (Registry.loadProxies view r.snapshot).2 ∧
      (r.load (some view)).2.isClosed = false ∧ (r.load (some view)).2.cache = [] := by
  have hloaded : (Loader.load view.config view.decode [] r.cache).loaded = [] := by
    refine List.eq_nil_iff_forall_not_mem.mpr fun l hl => ?_
    cases (Loader.mem_pending.mp (Registry.pending_of_loaded hl).1).1
  rw [hcache] at hloaded
  have hstale : (Loader.load view.config view.decode [] []).stale = [] := rfl
  rw [Registry.load_listed hopen hlisting]
  unfold Registry.absorb
  simp only [hcache, hloaded, hstale, Snapshot.install]
  exact ⟨rfl, hopen, rfl⟩

theorem has_loads_bare {r : Registry} {views : List LoadView} (hopen : r.isClosed = false)
    (hcache : r.cache = []) (hviews : ∀ view ∈ views, view.listing = .ok []) {key : SignerId} :
    (r.loads views).snapshot.Has key ↔ r.snapshot.Has key := by
  induction views generalizing r with
  | nil => exact Iff.rfl
  | cons view rest ih =>
      obtain ⟨hsnapshot, hopen', hcache'⟩ := load_bare hopen hcache (hviews view List.mem_cons_self)
      refine (ih hopen' hcache' fun v hv => hviews v (List.mem_cons_of_mem view hv)).trans ?_
      rw [hsnapshot, Snapshot.Has, Registry.signers_loadProxies]
      rfl

theorem has_reloaded {views : List LoadView} (hopen : c.registry.isClosed = false)
    (hcache : c.registry.cache = []) (hviews : ∀ view ∈ views, view.listing = .ok [])
    {key : SignerId} : (c.reloaded views).snapshot.Has key ↔ c.snapshot.Has key :=
  has_loads_bare hopen hcache hviews

/-- A load of a disk with the functions of the mint. -/
def byteView (disk : Disk) : LoadView :=
  .ofDisk ⟨byteSuite, .standard⟩ (.of "/") (some byteMint.config) disk

theorem keeps_proxyDisk {old new : String} (h : Text.firstLine new = Text.firstLine old) :
    byteMint.config.Keeps (proxyDisk (Utf8.encode old)) (proxyDisk (Utf8.encode new)) ⟨[1]⟩ .bls
      ⟨[3]⟩ :=
  ⟨rfl, old, new, KeystoreFiles.readText_of_bytes rfl, KeystoreFiles.readText_of_bytes rfl, h⟩

/-- Loads of the disk, the password file written with some texts; the keys are visited in their
order, or the other way round. -/
def passwordLoads : List LoadView :=
  [byteView (proxyDisk (Utf8.encode "pw\nold")),
    { byteView (proxyDisk (Utf8.encode "pw\r\n")) with order := List.reverse }]

theorem mem_passwordLoads {view : LoadView} (h : view ∈ passwordLoads) :
    ∃ password, Text.firstLine password = "pw" ∧ view.listing = .ok [] ∧
      view.ReadsProxies byteMint.config byteSuite (proxyDisk (Utf8.encode password)) := by
  have hreads (password : String) := LoadView.readsProxies_ofDisk ⟨byteSuite, .standard⟩ (.of "/")
    byteMint.config (proxyDisk (Utf8.encode password))
  simp only [passwordLoads, List.mem_cons, List.not_mem_nil, or_false] at h
  rcases h with rfl | rfl
  · exact ⟨"pw\nold", rfl, rfl, hreads _⟩
  · exact ⟨"pw\r\n", rfl, rfl, (hreads _).finds, fun _ _ => List.mem_reverse.mpr⟩

/-- A proxy is generated beside another key, and its signer is served at once. It is served after
two loads, which visit the two keys in different orders and find other lines behind the first one
of the password file. The functions of the mint are not the usual ones, which are genuine, too. -/
theorem generated_served :
    let generated := generatedBeside [.addSigner (blsSigner 2)]
    KeySuite.standard.Genuine ∧ generated.1 = .ok byteDelegation ∧
      generated.2.Serves ⟨[1]⟩ (blsSigner 3) ∧
      (generated.2.reloaded passwordLoads).Serves ⟨[1]⟩ (blsSigner 3) ∧
      ∀ root, (generated.2.reloaded passwordLoads).signForModule (.zero 4)
        ⟨.ofScheme .bls, "03", root⟩ = .ok ⟨[]⟩ := by
  intro generated
  have hgenerated : generated = (.ok byteDelegation, _) := generatedBeside_eq rfl rfl
  have hok : generated.1 = .ok byteDelegation := congrArg Prod.fst hgenerated
  have hafter : generated.2 = _ := congrArg Prod.snd hgenerated
  have hsole : (beside [.addSigner (blsSigner 2)]).snapshot.Sole ⟨[1]⟩ ⟨[3]⟩ := by
    rintro other ⟨x, hx, _⟩
    cases hx
  have hinstalled : (generated.2.reloaded passwordLoads).snapshot.Has ⟨[1]⟩ := by
    rw [hafter]
    refine (has_reloaded rfl rfl fun view hview => ?_).mpr ⟨blsSigner 1, List.mem_cons_self, rfl⟩
    obtain ⟨_, _, hlisting, _⟩ := mem_passwordLoads hview
    exact hlisting
  have hviews : ∀ view ∈ passwordLoads,
      view.Spares byteMint.config byteSuite generated.2.disk ⟨[1]⟩ (blsSigner 3) := by
    intro view hview
    obtain ⟨password, hline, _, hreads⟩ := mem_passwordLoads hview
    refine ⟨_, hreads, ?_, fun other hother y hy => ?_⟩
    · rw [hafter]
      exact keeps_proxyDisk hline
    · have hnone := load_proxyDisk (Utf8.encode password) hother
      exact absurd (hnone ▸ hy) List.not_mem_nil
  obtain ⟨x, ⟨secret, hsecret, hsigner⟩, _, _, _, hserves, hlater⟩ :=
    generateProxy_persists (beside [.addSigner (blsSigner 2)]) genuine_byteSuite (by decide)
      (.zero 4) zeroEntropy ⟨"01", .bls⟩ hok
  obtain rfl := Except.ok.inj hsecret
  obtain rfl := Except.ok.inj hsigner
  obtain ⟨y, hy, hserves'⟩ := hlater hsole passwordLoads hviews hinstalled
  have hsame : y = blsSigner 3 := by
    rw [eq_of_makes_byte hy.makes, hy.identifier]
    rfl
  have hserves' : (generated.2.reloaded passwordLoads).Serves ⟨[1]⟩ (blsSigner 3) :=
    hsame ▸ hserves'
  exact ⟨KeySuite.genuine_standard, hok, hserves, hserves', fun root =>
    hserves'.signs (.zero 4) "03" root rfl⟩

/-- A load loses a proxy, although it leaves the key installed, the keystore as it is and the
bytes of the first line of the password file, and no other key has a keystore of the proxy. -/
structure Loses (xs : List Registry.Command) (password : Bytes) : Prop where
  generated : (generatedBeside xs).1 = .ok byteDelegation
  keystore : (proxyDisk password).readBytes (byteMint.config.keystorePath ⟨[1]⟩ .bls ⟨[3]⟩) =
    (generatedBeside xs).2.disk.readBytes (byteMint.config.keystorePath ⟨[1]⟩ .bls ⟨[3]⟩)
  firstLine : Utf8.encode "pw\n" <+: password
  elsewhere : ∀ other, other ≠ ⟨[1]⟩ →
    (byteMint.config.load byteSuite (proxyDisk password) other).1 = []
  installed : ((generatedBeside xs).2.reloaded [byteView (proxyDisk password)]).snapshot.Has ⟨[1]⟩
  lost : ∀ x : Signer, x.identifier = ⟨[3]⟩ →
    ¬ ((generatedBeside xs).2.reloaded [byteView (proxyDisk password)]).Serves ⟨[1]⟩ x

/-- The key that is visited last takes the proxy out of the index if it lists it, too, and there
are no proxies of it on the disk. -/
theorem loses_of_last {xs : List Registry.Command} {registry : Registry} {password : Bytes}
    (front : List SignerId) (last : SignerId)
    (hgenerated : generatedBeside xs =
      (.ok byteDelegation, ⟨registry, none, proxyDisk (Utf8.encode "pw\n")⟩))
    (hopen : registry.isClosed = false) (hcache : registry.cache = [])
    (hhas : registry.snapshot.Has ⟨[1]⟩)
    (horder : registry.snapshot.identifiers = front ++ [last]) (hfront : last ∉ front)
    (hlists : registry.snapshot.Lists last ⟨[3]⟩)
    (hnone : (byteMint.config.load byteSuite (proxyDisk password) last).1 = [])
    (hline : Utf8.encode "pw\n" <+: password) : Loses xs password where
  generated := congrArg Prod.fst hgenerated
  keystore := by
    rw [hgenerated]
    rfl
  firstLine := hline
  elsewhere _ hother := load_proxyDisk password hother
  installed := by
    rw [hgenerated]
    exact (has_reloaded hopen hcache (List.forall_mem_singleton.mpr rfl)).mpr hhas
  lost := by
    rw [hgenerated]
    intro x hid hserves
    let view := byteView (proxyDisk password)
    have hload : (registry.load (some view)).2.snapshot =
        (Registry.loadProxies view registry.snapshot).2 :=
      (load_bare hopen hcache rfl).1
    have hrenewed : (Registry.loadProxies view registry.snapshot).2 =
        registry.snapshot.replaceAllProxies
          (fun id => (byteMint.config.load byteSuite (proxyDisk password) id).1)
          registry.snapshot.identifiers := rfl
    have hindexed : (registry.load (some view)).2.snapshot.Indexes ⟨[3]⟩ :=
      hid ▸ hserves.indexes (by rw [hid]; decide)
    rw [hload, hrenewed, horder] at hindexed
    exact absurd hindexed (Snapshot.not_indexes_of_last hfront hnone hlists)

/-- Proxies are lost for two reasons. Where the password file is no text any more, no proxies can
be opened, whatever its first line is; and where another key lists the proxy, too, the
proxy goes with those of that key. -/
theorem generated_lost : Loses [] (Utf8.encode "pw\n" ++ [0xff]) ∧
    Loses [.addSigner (blsSigner 2), .addProxy ⟨[2]⟩ (blsSigner 3)] (Utf8.encode "pw\n") := by
  constructor
  · have hpassword : (proxyDisk (Utf8.encode "pw\n" ++ [0xff])).password
        byteMint.config.passwordFile = .error (.passwordFile byteMint.config.passwordFile
          (FileError.of .notText).detail) := by
      have hbytes : (proxyDisk (Utf8.encode "pw\n" ++ [0xff])).readBytes
          byteMint.config.passwordFile = .ok (Utf8.encode "pw\n" ++ [0xff]) := rfl
      have hdecode : Utf8.decode? (Utf8.encode "pw\n" ++ [0xff]) = none :=
        Utf8.decode?_append_eq_none (by rw [Utf8.symbols]; decide)
      unfold Disk.password passwordOf
      rw [hbytes]
      simp only [hdecode]
    exact loses_of_last [] ⟨[1]⟩ (generatedBeside_eq rfl rfl) rfl rfl
      ⟨blsSigner 1, List.mem_cons_self, rfl⟩ rfl List.not_mem_nil (by decide)
      (ProxyConfig.load_of_noPassword hpassword) (List.prefix_append _ _)
  · exact loses_of_last [⟨[1]⟩] ⟨[2]⟩ (generatedBeside_eq rfl rfl) rfl rfl
      ⟨blsSigner 1, List.mem_cons_self, rfl⟩ rfl (by decide) (by decide)
      (load_proxyDisk _ (by decide)) (List.prefix_refl _)

end Custody

end RemoteSigner
