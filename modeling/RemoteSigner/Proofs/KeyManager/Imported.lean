import RemoteSigner.Proofs.KeyManager.Deleted
import RemoteSigner.Proofs.Keys.Storing

/-!
# Imported keys after a restart

A keystore that an import tells to have taken in was opened with its password, and stands
among the files with that password and a description (`TakenIn`). Taking in further
keystores, or failing to, leaves it so (`importEach_spec`).

A registry that starts anew reads the password back from its file. There it finds the first
line alone, and no password if that line is empty: the key is installed again if the keystore
`Reopens` with it, and otherwise only if some other description provides it
(`imported_returns_iff`). It does reopen where the first line is not empty and makes the same
bytes as the whole password.
-/

namespace RemoteSigner

namespace ImportRequest

variable {request : ImportRequest} {deposits : List Deposit}

/-- The deposits of a request are its keystores, each with its password, in order. -/
theorem deposits_ok (h : request.deposits = .ok deposits) :
    List.Forall₂ (fun text d => readKeystore text = .ok (d.key, d.keystore)) request.keystores
        deposits ∧
      deposits.map (·.password) = request.passwords := by
  unfold ImportRequest.deposits at h
  split at h
  · cases h
  · rename_i hlength
    obtain ⟨read, hread, hzip⟩ := bind_eq_ok.mp h
    obtain rfl := pure_eq_ok.mp hzip
    -- there are as many passwords as keystores, so the two lists run out together
    clear h hzip
    generalize request.keystores = texts at hlength hread ⊢
    generalize request.passwords = passwords at hlength ⊢
    induction texts generalizing read passwords with
    | nil =>
        rw [List.mapM_nil, pure_eq_ok] at hread
        subst hread
        cases passwords with
        | nil => exact ⟨.nil, rfl⟩
        | cons password rest => simp at hlength
    | cons text rest ih =>
        rw [List.mapM_cons, bind_eq_ok] at hread
        obtain ⟨first, hfirst, hread⟩ := hread
        obtain ⟨others, hothers, hread⟩ := bind_eq_ok.mp hread
        obtain rfl := pure_eq_ok.mp hread
        cases passwords with
        | nil => simp at hlength
        | cons password more =>
            obtain ⟨hkeystores, hpasswords⟩ := ih others hothers more (by simpa using hlength)
            exact ⟨.cons hfirst hkeystores, congrArg _ hpasswords⟩

/-- A keystore that is read declares its key. -/
theorem readKeystore_ok {text : String} {key : SignerId} {k : Keystore}
    (h : readKeystore text = .ok (key, k)) :
    k.Storable ∧ SignerId.parse k.publicKey = .ok key := by
  obtain ⟨k', hk, h⟩ := bind_eq_ok.mp h
  obtain ⟨id, hid, h⟩ := bind_eq_ok.mp h
  obtain ⟨rfl, rfl⟩ := Prod.mk.inj (pure_eq_ok.mp h)
  exact ⟨Keystore.storable_of_ofText (mapError_ok hk), mapError_ok hid⟩

/-- The keystore of a deposit was read from a text and declares the key. -/
theorem of_mem_deposits (h : request.deposits = .ok deposits) {d : Deposit} (hd : d ∈ deposits) :
    d.keystore.Storable ∧ SignerId.parse d.keystore.publicKey = .ok d.key := by
  have hall : List.Forall₂ (fun d text => (d.keystore.Storable ∧
      SignerId.parse d.keystore.publicKey = .ok d.key) ∧
        readKeystore text = .ok (d.key, d.keystore)) deposits request.keystores :=
    (deposits_ok h).1.flip.imp fun _ _ htext => ⟨readKeystore_ok htext, htext⟩
  exact ((List.forall₂_and_left _ _).mp hall).1 d hd

end ImportRequest

/-- The keystore of a deposit can be opened with what a password file keeps of the
password: its first line, which must not be empty. -/
def Deposit.Reopens (suite : KeySuite) (d : Deposit) : Prop :=
  Text.firstLine d.password ≠ "" ∧
    ∃ x, d.keystore.toSigner suite (Text.firstLine d.password) .bls = .ok x

namespace Custody

variable {c : Custody} {m : KeyManager} {request : ImportRequest} {d : Deposit}

/-- The files of a deposit hold it, and its keystore was opened with its password. -/
structure TakenIn (c : Custody) (m : KeyManager) (d : Deposit) : Prop where
  stored : KeystoreFiles.Stored c.disk m.directory d.key d.keystore d.password .bls
  opened : ∃ x, d.keystore.toSigner m.suite d.password .bls = .ok x

/-- An import told that it took in a deposit. -/
def TellsImported (c : Custody) (m : KeyManager) (request : ImportRequest) (d : Deposit) : Prop :=
  ∃ deposits response, request.deposits = .ok deposits ∧
    (c.importKeys m request).1 = .ok response ∧ (d, .imported) ∈ deposits.zip response.data

theorem TakenIn.within {c' : Custody} (h : c.TakenIn m d) (hwithin : c.disk.Within c'.disk) :
    c'.TakenIn m d :=
  ⟨h.stored.within hwithin, h.opened⟩

theorem enable_frame (c : Custody) (key : SignerId) :
    (c.enable key).2.registry = c.registry ∧ (c.enable key).2.disk = c.disk := by
  have hregistered := protect_frame c () fun e => e.register [key]
  unfold enable
  generalize Custody.protect c () _ = r at hregistered ⊢
  obtain ⟨result, c₁⟩ := r
  obtain ⟨hregistry, hdisk⟩ := hregistered
  cases result with
  | error fault => exact ⟨hregistry, hdisk⟩
  | ok _ =>
      have henabled := protect_frame c₁ true fun e => e.setEnabled key true
      simp only
      generalize Custody.protect c₁ true _ = r at henabled ⊢
      obtain ⟨result, c₂⟩ := r
      cases result <;> exact ⟨henabled.1.trans hregistry, henabled.2.trans hdisk⟩

/-- Taking in a keystore leaves the files that were there, if the registry is open, which it
is if it succeeds. -/
theorem importOne_spec (c : Custody) (m : KeyManager) (d : Deposit) :
    (c.registry.isClosed = false → c.disk.Within (c.importOne m d).2.disk) ∧
      ((c.importOne m d).1 = .ok () →
          c.registry.isClosed = false ∧ (c.importOne m d).2.TakenIn m d) := by
  unfold importOne
  cases hsigner : d.keystore.toSigner m.suite d.password .bls with
  | error fault => exact ⟨fun _ => .refl c.disk, fun h => by cases h⟩
  | ok signer =>
      have hwithin := KeystoreFiles.write_within m.medium m.directory d.key d.keystore
        d.password .bls
        c.disk
      have hstored : ∀ p, (KeystoreFiles.write m.medium m.directory d.key d.keystore d.password .bls
          c.disk).1 = .ok p → KeystoreFiles.Stored _ m.directory d.key d.keystore d.password .bls :=
        fun p => KeystoreFiles.stored_of_write
      simp only
      generalize KeystoreFiles.write m.medium m.directory d.key d.keystore d.password .bls c.disk =
        w at hwithin hstored ⊢
      obtain ⟨written, disk⟩ := w
      cases written with
      | error fault => exact ⟨fun _ => hwithin, fun h => by cases h⟩
      | ok p =>
          obtain ⟨hregistry, hdisk⟩ := enable_frame { c with disk := disk } d.key
          simp only at hstored ⊢
          generalize Custody.enable _ d.key = r at hregistry hdisk ⊢
          obtain ⟨result, c₁⟩ := r
          simp only at hregistry hdisk
          cases result with
          | error fault => exact ⟨fun _ => hdisk ▸ hwithin, fun h => by cases h⟩
          | ok _ =>
              cases hclosed : c.registry.isClosed with
              | true =>
                  have hrefused : c₁.registry.addSigner signer =
                      (.error .registryClosed, c₁.registry) := by
                    simp [Registry.addSigner, Registry.change, hregistry, hclosed]
                  simp only [hrefused]
                  exact ⟨(absurd · Bool.noConfusion), fun h => by cases h⟩
              | false =>
                  have hadded := Registry.addSigner_ok (hregistry ▸ hclosed) signer
                  simp only
                  generalize c₁.registry.addSigner signer = r at hadded ⊢
                  obtain ⟨result, registry⟩ := r
                  obtain rfl : result = .ok () := hadded
                  exact ⟨fun _ => hdisk ▸ hwithin,
                    fun _ => ⟨trivial, hdisk ▸ hstored p rfl, signer, hsigner⟩⟩

/-- What was taken in stays so while further keystores are taken in. -/
theorem importEach_spec (m : KeyManager) (deposits : List Deposit) (seen : List SignerId)
    (c : Custody) :
    (c.registry.isClosed = false → c.disk.Within (importEach m seen deposits c).2.disk) ∧
      ∀ d, (d, ImportOutcome.imported) ∈ deposits.zip (importEach m seen deposits c).1 →
        c.registry.isClosed = false ∧ (importEach m seen deposits c).2.TakenIn m d := by
  induction deposits generalizing seen c with
  | nil => exact ⟨fun _ => .refl c.disk, by simp⟩
  | cons first rest ih =>
      unfold importEach
      split
      · obtain ⟨hwithin, hall⟩ := ih seen c
        refine ⟨hwithin, fun d hd => hall d ?_⟩
        simpa using hd
      · obtain ⟨hone, htaken⟩ := importOne_spec c m first
        have hclosed := (importOne_follows c m first).isClosed_eq
        generalize c.importOne m first = r at hone htaken hclosed ⊢
        obtain ⟨result, c₁⟩ := r
        simp only at hone htaken hclosed
        cases result with
        | error fault =>
            obtain ⟨hwithin, hall⟩ := ih seen c₁
            refine ⟨fun hopen => (hone hopen).trans (hwithin (hclosed.trans hopen)), fun d hd => ?_⟩
            obtain ⟨hopen, htaken⟩ := hall d (by simpa using hd)
            exact ⟨hclosed.symm.trans hopen, htaken⟩
        | ok _ =>
            obtain ⟨hwithin, hall⟩ := ih (first.key :: seen) c₁
            refine ⟨fun hopen => (hone hopen).trans (hwithin (hclosed.trans hopen)), fun d hd => ?_⟩
            rcases List.mem_cons.mp hd with heq | hd
            · obtain ⟨rfl, _⟩ := Prod.mk.inj heq
              obtain ⟨hopen, hfirst⟩ := htaken rfl
              exact ⟨hopen, hfirst.within (hwithin (hclosed.trans hopen))⟩
            · obtain ⟨hopen, htaken⟩ := hall d hd
              exact ⟨hclosed.symm.trans hopen, htaken⟩

/-- A deposit that was told to be taken in is. -/
theorem takenIn_importKeys (h : c.TellsImported m request d) :
    (c.importKeys m request).2.TakenIn m d ∧ d.keystore.Storable ∧
      SignerId.parse d.keystore.publicKey = .ok d.key := by
  obtain ⟨deposits, response, hdeposits, htold, hd⟩ := h
  refine ⟨?_, ImportRequest.of_mem_deposits hdeposits (List.of_mem_zip hd).1⟩
  unfold importKeys at htold ⊢
  rw [hdeposits] at htold ⊢
  cases deposits with
  | nil => simp at hd
  | cons first rest =>
      simp only at htold ⊢
      generalize c.importHistory request.history _ = r at htold ⊢
      obtain ⟨result, c₁⟩ := r
      cases result with
      | error fault => cases htold
      | ok _ =>
          obtain rfl := Except.ok.inj htold
          exact ((importEach_spec m (first :: rest) c₁.snapshot.identifiers c₁).2 d hd).2

/-- A description other than that of a key's own files provides it. -/
def ElsewhereProvided (view : LoadView) (own : FilePath) (key : SignerId) : Prop :=
  ∃ listed, view.listing = .ok listed ∧
    ∃ s ∈ listed, s.path ≠ own ∧ (view.decode s).key? = some key

/-- After an import told that it took in a keystore, whatever else the request held, every load
of the files that are left by a registry that starts anew installs its key exactly if the
keystore opens with what its password file keeps, or another description provides the key. -/
theorem imported_returns_iff (h : c.TellsImported m request d) (hdirectory : m.directory ≠ "")
    (providers : SecretProviders) (config : LoaderConfig) (proxies : Option ProxyConfig)
    (hconfig : config.directory = m.directory) (hext : config.extension = "toml") :
    let view := LoadView.ofDisk ⟨m.suite, providers⟩ config proxies (c.importKeys m request).2.disk
    (Text.firstLine d.password ≠ "" →
        Password.bytes (Text.firstLine d.password) = Password.bytes d.password →
        d.Reopens m.suite) ∧
      ∀ n, (Registry.empty.loads (List.replicate (n + 1) view)).snapshot.Has d.key ↔
        d.Reopens m.suite ∨
          ElsewhereProvided view (KeystoreFiles.path m.directory d.key ".toml") d.key := by
  intro view
  obtain ⟨htaken, hkeystore, hid⟩ := takenIn_importKeys h
  obtain ⟨x, hopened⟩ := htaken.opened
  refine ⟨fun hline hbytes => ⟨hline, x, (Keystore.toSigner_congr hbytes).trans hopened⟩,
    fun n => ?_⟩
  have hnothing : ¬ Registry.empty.snapshot.Has d.key := by
    rintro ⟨x, hx, _⟩
    cases hx
  obtain ⟨listed, modified, hlisted, hmem⟩ := htaken.stored.listed hdirectory
  have hlisting : view.listing = .ok listed := by
    show Loader.list _ config.directory config.extension = .ok listed
    rw [hconfig, hext, hlisted]
  have hown : ∀ s, s.path = KeystoreFiles.path m.directory d.key ".toml" →
      ((view.decode s).key? = some d.key ↔ d.Reopens m.suite) := by
    intro s hs
    have hdecode : view.decode s = .done (if Text.firstLine d.password = "" then
          .error (.passwordFile (KeystoreFiles.path m.directory d.key ".password")
            "password file is empty")
        else d.keystore.toSigner m.suite (Text.firstLine d.password) .bls) := by
      show Disk.decodeSource _ ⟨m.suite, providers⟩ config.directory s.path = _
      rw [hconfig, hs, htaken.stored.decodeSource_eq hkeystore]
    rw [hdecode, Deposit.Reopens]
    split
    · exact ⟨nofun, fun hreopens => absurd ‹_› hreopens.1⟩
    · rename_i hline
      constructor
      · intro hkey
        obtain ⟨x, hx, _⟩ := Registry.done_of_key? hkey
        exact ⟨hline, x, Decoding.done.inj hx⟩
      · rintro ⟨_, x, hx⟩
        rw [hx, ← Keystore.identifier_of_toSigner hid hx]
        rfl
  rw [Registry.has_reloads rfl hnothing]
  constructor
  · rintro ⟨listed', hlisted', s, hs, hkey⟩
    obtain hmem' := (Loader.mem_pending.mp hs).1
    by_cases hpath : s.path = KeystoreFiles.path m.directory d.key ".toml"
    · exact .inl ((hown s hpath).mp hkey)
    · exact .inr ⟨listed', hlisted', s, hmem', hpath, hkey⟩
  · rintro (hreopens | ⟨listed', hlisted', s, hs, _, hkey⟩)
    · exact ⟨listed, hlisting, _, Loader.mem_pending.mpr ⟨hmem, rfl⟩, (hown _ rfl).mpr hreopens⟩
    · exact ⟨listed', hlisted', s, Loader.mem_pending.mpr ⟨hs, rfl⟩, hkey⟩

/-- What a request does whose history is stored. -/
theorem importKeys_stored {c' : Custody} {deposits : List Deposit}
    (hdeposits : request.deposits = .ok deposits) (hne : deposits ≠ [])
    (hstored : c.importHistory request.history (deposits.map (·.key)) = (.ok (), c')) :
    c.importKeys m request = (.ok ⟨(importEach m c'.snapshot.identifiers deposits c').1⟩,
      (importEach m c'.snapshot.identifiers deposits c').2) := by
  obtain ⟨first, rest, rfl⟩ := List.exists_cons_of_ne_nil hne
  unfold importKeys
  rw [hdeposits]
  simp only [hstored]

theorem importHistory_none (c : Custody) (keys : List SignerId) :
    c.importHistory none keys = (.ok (), c) := by
  unfold importHistory
  cases c.protection <;> rfl

/-- What a request without a history does. -/
theorem importKeys_eq {deposits : List Deposit} (hdeposits : request.deposits = .ok deposits)
    (hne : deposits ≠ []) (hhistory : request.history = none) :
    c.importKeys m request = (.ok ⟨(importEach m c.snapshot.identifiers deposits c).1⟩,
      (importEach m c.snapshot.identifiers deposits c).2) :=
  importKeys_stored hdeposits hne (hhistory ▸ importHistory_none c _)

/-! ## One keystore -/

/-- A keystore of the secret `01`, which every password opens where nothing is hidden. -/
def plainKeystore : Keystore where
  kdf := ⟨"pbkdf2", .pbkdf2 1 32 "hmac-sha256" "", ""⟩
  checksum := ⟨"sha256", .record [], Hex.encode (List.replicate 32 0)⟩
  cipher := ⟨"aes-128-ctr", Hex.encode (List.replicate 16 0), "01"⟩
  description := none
  publicKey := "01"
  path := ""
  uuid := ""
  version := Keystore.formatVersion

/-- A request to take in the keystore with a password. -/
def plainRequest (password : String) : ImportRequest :=
  ⟨[plainKeystore.toText], [password], none⟩

/-- Custody of nothing. -/
def emptyCustody : Custody :=
  ⟨.empty, none, .empty⟩

theorem storable_plainKeystore : plainKeystore.Storable :=
  ⟨⟨by decide, by decide⟩, ⟨by decide, trivial⟩, rfl⟩

theorem readKeystore_plainKeystore :
    ImportRequest.readKeystore plainKeystore.toText = .ok (⟨[1]⟩, plainKeystore) := by
  unfold ImportRequest.readKeystore
  rw [Keystore.ofText_toText storable_plainKeystore]
  rfl

theorem deposits_plainRequest (password : String) :
    (plainRequest password).deposits = .ok [⟨⟨[1]⟩, plainKeystore, password⟩] := by
  unfold plainRequest ImportRequest.deposits
  simp only [List.mapM_cons, readKeystore_plainKeystore]
  rfl

theorem importKeys_plainRequest (password : String) :
    emptyCustody.importKeys rootManager (plainRequest password) =
      (.ok ⟨(importEach rootManager [] [⟨⟨[1]⟩, plainKeystore, password⟩] emptyCustody).1⟩,
        (importEach rootManager [] [⟨⟨[1]⟩, plainKeystore, password⟩] emptyCustody).2) :=
  importKeys_eq (deposits_plainRequest password) (List.cons_ne_nil _ _) rfl

theorem plainRequest_told {password : String}
    (h : (importEach rootManager [] [⟨⟨[1]⟩, plainKeystore, password⟩] emptyCustody).1 =
      [.imported]) :
    emptyCustody.TellsImported rootManager (plainRequest password)
      ⟨⟨[1]⟩, plainKeystore, password⟩ := by
  refine ⟨_, ⟨[.imported]⟩, deposits_plainRequest password, ?_, List.mem_singleton_self _⟩
  rw [importKeys_plainRequest, h]

/-- With a password of one line that is not empty, the key is back. -/
theorem plainKey_returns :
    let left := (emptyCustody.importKeys rootManager (plainRequest "pw")).2
    (Registry.empty.loads [rootView left.disk]).snapshot.Has ⟨[1]⟩ := by
  intro left
  have hdata : (importEach rootManager [] [⟨⟨[1]⟩, plainKeystore, "pw"⟩] emptyCustody).1 =
      [.imported] := by
    decide +kernel
  have hline : Text.firstLine "pw" = "pw" := by decide +kernel
  have hreturns := imported_returns_iff (plainRequest_told hdata) (by decide) .standard (.of "/")
    none rfl rfl
  refine (hreturns.2 0).mpr (.inl (hreturns.1 ?_ ?_))
  · rw [hline]
    decide
  · rw [hline]

/-- With an empty password the key is told to be taken in, and it is not back. -/
theorem emptyPassword_lost :
    let left := (emptyCustody.importKeys rootManager (plainRequest "")).2
    emptyCustody.TellsImported rootManager (plainRequest "") ⟨⟨[1]⟩, plainKeystore, ""⟩ ∧
      ¬ (Registry.empty.load (some (rootView left.disk))).2.snapshot.Has ⟨[1]⟩ := by
  intro left
  have hdata : (importEach rootManager [] [⟨⟨[1]⟩, plainKeystore, ""⟩] emptyCustody).1 =
      [.imported] := by
    decide +kernel
  have hgone : ((Registry.empty.load (some (rootView (importEach rootManager []
      [⟨⟨[1]⟩, plainKeystore, ""⟩] emptyCustody).2.disk))).2.snapshot.find? ⟨[1]⟩).isSome =
      false := by
    decide +kernel
  have hleft : left = _ := congrArg Prod.snd (importKeys_plainRequest "")
  refine ⟨plainRequest_told hdata, fun h => ?_⟩
  rw [hleft] at h
  exact absurd (Snapshot.find?_isSome.mpr h) (by simp [hgone])

end Custody

end RemoteSigner
