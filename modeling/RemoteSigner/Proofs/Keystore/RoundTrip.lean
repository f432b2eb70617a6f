import RemoteSigner.Keystore.Encryption
import RemoteSigner.Proofs.Json.Decoding
import RemoteSigner.Proofs.Json.Legible

/-!
# Keystores written and read back

A keystore that was read is `Storable` (`storable_of_ofText`): its numbers fit their fields,
what it keeps of its checksum can be printed and read, and it has the version of the format.
Such a keystore is read back from its text (`ofText_toText`) as itself but for the digits
that doubles lose, which no one looks at: it gives the same signer (`toSigner_restored`).
-/

namespace RemoteSigner

open Json (Decoder Fields)

namespace KdfParams

/-- The numbers fit their fields. -/
def InRange : KdfParams → Prop
  | .scrypt length n r p _ =>
      length ≤ Numeral.maxUInt64 ∧ n ≤ 4294967295 ∧ r ≤ 4294967295 ∧ p ≤ 4294967295
  | .pbkdf2 rounds length _ _ => rounds ≤ 4294967295 ∧ length ≤ Numeral.maxUInt64

variable {depth : Nat} {r : Json.Reading} {params : KdfParams}

theorem inRange_of_decodeScrypt (h : decodeScrypt depth r = .ok params) : params.InRange := by
  obtain ⟨fs, _, hread⟩ := Decoder.record_eq_ok h
  simp only [Json.Placed.seq_eq_value, Json.Placed.map_eq_value] at hread
  obtain ⟨_, salt, ⟨_, p, ⟨_, r, ⟨_, n, ⟨length, hlength, rfl⟩, hn, rfl⟩, hr, rfl⟩, hp, rfl⟩, _,
    rfl⟩ := hread
  obtain ⟨_, _, _, hp⟩ := Fields.required_eq_value hp
  obtain ⟨_, _, _, hr⟩ := Fields.required_eq_value hr
  obtain ⟨_, _, _, hn⟩ := Fields.required_eq_value hn
  obtain ⟨_, _, _, hlength⟩ := Fields.required_eq_value hlength
  exact ⟨(Decoder.natural_le hlength).1, (Decoder.natural_le hn).1, (Decoder.natural_le hr).1,
    (Decoder.natural_le hp).1⟩

theorem inRange_of_decodePbkdf2 (h : decodePbkdf2 depth r = .ok params) : params.InRange := by
  obtain ⟨fs, _, hread⟩ := Decoder.record_eq_ok h
  simp only [Json.Placed.seq_eq_value, Json.Placed.map_eq_value] at hread
  obtain ⟨_, salt, ⟨_, prf, ⟨_, length, ⟨rounds, hrounds, rfl⟩, hlength, rfl⟩, _, rfl⟩, _,
    rfl⟩ := hread
  obtain ⟨_, _, _, hlength⟩ := Fields.required_eq_value hlength
  obtain ⟨_, _, _, hrounds⟩ := Fields.required_eq_value hrounds
  exact ⟨(Decoder.natural_le hrounds).1, (Decoder.natural_le hlength).1⟩

theorem inRange_of_decode (h : decode depth r = .ok params) : params.InRange := by
  obtain ⟨j, _, h⟩ := bind_eq_ok.mp h
  split at h
  · simp only at h
    split at h
    · obtain rfl := pure_eq_ok.mp h
      exact inRange_of_decodeScrypt ‹_›
    · split at h
      · obtain rfl := pure_eq_ok.mp h
        exact inRange_of_decodePbkdf2 ‹_›
      · cases h
  · cases h

theorem readable_toJson (params : KdfParams) (hdepth : 1 < depth) :
    params.toJson.Readable depth := by
  cases params <;>
    simp [toJson, Json.Readable, Json.ReadableMembers, Json.count, Json.natural, hdepth,
      Json.Number.legible_natural]

theorem reread_toJson (params : KdfParams) : params.toJson.reread = params.toJson := by
  cases params <;>
    simp [toJson, Json.reread, Json.rereadMembers, Json.count, Json.natural,
      Json.Number.reread_natural]

/-! ## Decoding what was written -/

theorem word_le_max {n : Nat} (h : n ≤ 4294967295) : n ≤ Numeral.maxUInt64 :=
  le_trans h (by decide)

theorem decodeScrypt_toJson {length n r p : Nat} (salt : String)
    (h : InRange (.scrypt length n r p salt)) :
    decodeScrypt Json.nestingBound (.ofJson (toJson (.scrypt length n r p salt))) =
      .ok (.scrypt length n r p salt) := by
  obtain ⟨hlength, hn, hr, hp⟩ := h
  rw [toJson, Json.Reading.ofJson, Json.ofMembers_eq]
  refine Decoder.record_members (by decide) (.inr rfl) (by simp [Json.Field.names]) ?_
  have hkeys : ([("dklen", Json.count length), ("n", .count n), ("r", .count r), ("p", .count p),
      ("salt", .text salt)].map (·.1)).Nodup := by simp
  simp only [Json.Placed.seq_eq_value, Json.Placed.map_eq_value]
  exact ⟨_, salt, ⟨_, p, ⟨_, r, ⟨_, n, ⟨length,
    Fields.required_member hkeys (by simp) (Decoder.natural_ofJson hlength hlength), rfl⟩,
    Fields.required_member hkeys (by simp) (Decoder.natural_ofJson hn (word_le_max hn)), rfl⟩,
    Fields.required_member hkeys (by simp) (Decoder.natural_ofJson hr (word_le_max hr)), rfl⟩,
    Fields.required_member hkeys (by simp) (Decoder.natural_ofJson hp (word_le_max hp)), rfl⟩,
    Fields.required_member (j := .text salt) hkeys (by simp) rfl, rfl⟩

theorem decodePbkdf2_toJson {rounds length : Nat} (prf salt : String)
    (h : InRange (.pbkdf2 rounds length prf salt)) :
    decodePbkdf2 Json.nestingBound (.ofJson (toJson (.pbkdf2 rounds length prf salt))) =
      .ok (.pbkdf2 rounds length prf salt) := by
  obtain ⟨hrounds, hlength⟩ := h
  rw [toJson, Json.Reading.ofJson, Json.ofMembers_eq]
  refine Decoder.record_members (by decide) (.inr rfl) (by simp [Json.Field.names]) ?_
  have hkeys : ([("c", Json.count rounds), ("dklen", .count length), ("prf", .text prf),
      ("salt", .text salt)].map (·.1)).Nodup := by simp
  simp only [Json.Placed.seq_eq_value, Json.Placed.map_eq_value]
  exact ⟨_, salt, ⟨_, prf, ⟨_, length, ⟨rounds,
    Fields.required_member hkeys (by simp) (Decoder.natural_ofJson hrounds (word_le_max hrounds)),
    rfl⟩,
    Fields.required_member hkeys (by simp) (Decoder.natural_ofJson hlength hlength), rfl⟩,
    Fields.required_member (j := .text prf) hkeys (by simp) rfl, rfl⟩,
    Fields.required_member (j := .text salt) hkeys (by simp) rfl, rfl⟩

/-- Parameters of pbkdf2 are not taken for those of scrypt. -/
theorem decodeScrypt_pbkdf2 (rounds length : Nat) (prf salt : String) (params : KdfParams) :
    decodeScrypt Json.nestingBound (.ofJson (toJson (.pbkdf2 rounds length prf salt))) ≠
      .ok params := by
  intro h
  rw [toJson, Json.Reading.ofJson, Json.ofMembers_eq] at h
  have hread := Decoder.read_of_record h
  simp only [Json.Placed.seq_eq_value, Json.Placed.map_eq_value] at hread
  obtain ⟨_, _, ⟨_, _, ⟨_, _, ⟨_, n, _, hn, _⟩, _⟩, _⟩, _⟩ := hread
  exact Fields.required_missing (by simp) hn

/-- Parameters are decoded from what their document echoes. -/
theorem decode_echo (h : params.InRange) (hdepth : 1 < depth) :
    decode depth params.toJson.echo = .ok params := by
  have hdocument : Decoder.document depth params.toJson.echo = .ok params.toJson := by
    rw [Decoder.document, Json.toJson_echo _ (readable_toJson params hdepth), reread_toJson]
  refine bind_eq_ok.mpr ⟨_, hdocument, ?_⟩
  cases params with
  | scrypt length n r p salt =>
      have hscrypt := decodeScrypt_toJson salt h
      simp only [toJson] at hscrypt ⊢
      rw [hscrypt]
      rfl
  | pbkdf2 rounds length prf salt =>
      have hpbkdf2 := decodePbkdf2_toJson prf salt h
      have hscrypt := decodeScrypt_pbkdf2 rounds length prf salt
      simp only [toJson] at hpbkdf2 hscrypt ⊢
      split
      · exact absurd ‹_› (hscrypt _)
      · rw [hpbkdf2]
        rfl

end KdfParams

namespace KeystoreModule

variable {P : Type} {render : P → Json} {params : Decoder P} {m : KeystoreModule P} {depth : Nat}

theorem readable_toJson (hdepth : 1 < depth) (h : (render m.params).Readable (depth - 1)) :
    (m.toJson render).Readable depth := by
  simp [toJson, Json.Readable, Json.ReadableMembers, hdepth, h]

/-- A module is decoded from what its document echoes, if its parameters are. -/
theorem decode_echo {p : P} (hdepth : 1 < depth)
    (h : params (depth - 1) (render m.params).echo = .ok p) :
    decode params depth (m.toJson render).echo = .ok { m with params := p } := by
  rw [toJson, Json.echo, Json.echoMembers_eq]
  refine Decoder.record_members hdepth (.inl rfl) (by simp [Json.Field.names]) ?_
  have hkeys : ([("function", Json.text m.function), ("params", render m.params),
      ("message", .text m.message)].map (·.1)).Nodup := by simp
  simp only [Json.Placed.seq_eq_value, Json.Placed.map_eq_value]
  exact ⟨_, _, ⟨_, _, ⟨_, Fields.required_member (j := .text m.function) hkeys (by simp) rfl, rfl⟩,
    Fields.required_member hkeys (by simp) h, rfl⟩,
    Fields.required_member (j := .text m.message) hkeys (by simp) rfl, rfl⟩

/-- The parameters of a module that was decoded were decoded from inside it. -/
theorem params_of_decode {r : Json.Reading} (h : decode params depth r = .ok m) :
    ∃ part ∈ r.children, params (depth - 1) part = .ok m.params := by
  obtain ⟨fs, hfs, hread⟩ := Decoder.record_eq_ok h
  simp only [Json.Placed.seq_eq_value, Json.Placed.map_eq_value] at hread
  obtain ⟨_, _, ⟨_, p, ⟨_, _, rfl⟩, hparams, rfl⟩, _, rfl⟩ := hread
  obtain ⟨place, part, hgiven, hdecode⟩ := Fields.required_eq_value hparams
  exact ⟨part, hfs.given _ _ _ hgiven, hfs.depth_eq ▸ hdecode⟩

end KeystoreModule

namespace Keystore

/-- The number of containers, less one, that a reader may enter below the parameters of a
module. -/
def paramsDepth : Nat := 125

/-- A keystore whose text can be read back. -/
structure Storable (k : Keystore) : Prop where
  kdf : k.kdf.params.InRange
  checksum : k.checksum.params.Readable paramsDepth
  version : k.version = formatVersion

variable {k : Keystore} {text : String}

theorem decodeAny_readable {depth : Nat} {r : Json.Reading} {j : Json} (hr : r.Legible)
    (h : decodeAny depth r = .ok j) : j.Readable depth := by
  unfold decodeAny Decoder.document at h
  cases hj : r.toJson depth with
  | error fault =>
      rw [hj] at h
      cases h
  | ok document =>
      rw [hj] at h
      obtain rfl := Except.ok.inj h
      exact Json.readable_sorted document (Json.Reading.readable_of_toJson r hr hj)

theorem decodeAny_echo {depth : Nat} {j : Json} (h : j.Readable depth) :
    decodeAny depth j.echo = .ok j.reread.sorted := by
  rw [decodeAny, Decoder.document, Json.toJson_echo j h]
  rfl

theorem decodeCipherParams_echo {depth : Nat} (hdepth : 1 < depth) (iv : String) :
    decodeCipherParams depth (cipherParamsToJson iv).echo = .ok iv := by
  rw [cipherParamsToJson, Json.echo, Json.echoMembers_eq]
  refine Decoder.record_members hdepth (.inl rfl) (by simp [Json.Field.names]) ?_
  exact Fields.required_member (j := .text iv) (by simp) (List.mem_singleton_self _) rfl

theorem storable_of_decode {r : Json.Reading} (hr : r.Legible)
    (h : decode Json.nestingBound r = .ok k) :
    k.kdf.params.InRange ∧ k.checksum.params.Readable paramsDepth := by
  obtain ⟨fs, hfs, hread⟩ := Decoder.record_eq_ok h
  simp only [Json.Placed.seq_eq_value, Json.Placed.map_eq_value] at hread
  obtain ⟨_, _, ⟨_, _, ⟨_, _, ⟨_, _, ⟨_, _, ⟨crypto, hcrypto, rfl⟩, _, rfl⟩, _, rfl⟩, _, rfl⟩,
    _, rfl⟩,
    _, rfl⟩ := hread
  obtain ⟨place, part, hgiven, hdecode⟩ := Fields.required_eq_value hcrypto
  have hpart := hr.child (hfs.given _ _ _ hgiven)
  obtain ⟨fs', hfs', hread⟩ := Decoder.record_eq_ok hdecode
  simp only [Json.Placed.seq_eq_value, Json.Placed.map_eq_value] at hread
  obtain ⟨_, cipher, ⟨_, checksum, ⟨kdf, hkdf, rfl⟩, hchecksum, rfl⟩, _, rfl⟩ := hread
  obtain ⟨_, kdfPart, _, hkdf⟩ := Fields.required_eq_value hkdf
  obtain ⟨_, checksumPart, hgiven', hchecksum⟩ := Fields.required_eq_value hchecksum
  obtain ⟨_, _, hkdf⟩ := KeystoreModule.params_of_decode hkdf
  obtain ⟨inner, hinner, hchecksum⟩ := KeystoreModule.params_of_decode hchecksum
  have hlegible := (hpart.child (hfs'.given _ _ _ hgiven')).child hinner
  rw [hfs'.depth_eq, hfs.depth_eq] at hchecksum
  exact ⟨KdfParams.inRange_of_decode hkdf, decodeAny_readable hlegible hchecksum⟩

/-- A keystore that was read can be written and read back. -/
theorem storable_of_ofText (h : ofText text = .ok k) : k.Storable := by
  unfold ofText at h
  split at h
  · cases h
  · rename_i k' hdecode
    split at h
    · obtain rfl := Except.ok.inj h
      obtain ⟨r, hr, hdecode⟩ := Decoder.ofText_eq_ok hdecode
      obtain ⟨hkdf, hchecksum⟩ := storable_of_decode hr hdecode
      exact ⟨hkdf, hchecksum, ‹_›⟩
    · cases h

/-- A keystore as it is read back: the numbers of the checksum's parameters, which nothing
uses, may lose digits. -/
def restored (k : Keystore) : Keystore :=
  { k with checksum := { k.checksum with params := k.checksum.params.reread.sorted } }

/-- The document of the three modules. -/
def cryptoToJson (k : Keystore) : Json :=
  .record [("kdf", k.kdf.toJson KdfParams.toJson), ("checksum", k.checksum.toJson id),
    ("cipher", k.cipher.toJson cipherParamsToJson)]

theorem decodeCrypto_echo (h : k.Storable) :
    decodeCrypto 127 k.cryptoToJson.echo =
      .ok (k.restored.kdf, k.restored.checksum, k.restored.cipher) := by
  have hkdf : KeystoreModule.decode KdfParams.decode 126 (k.kdf.toJson KdfParams.toJson).echo =
      .ok k.restored.kdf :=
    KeystoreModule.decode_echo (by decide) (KdfParams.decode_echo h.kdf (by decide))
  have hchecksum : KeystoreModule.decode decodeAny 126 (k.checksum.toJson id).echo =
      .ok k.restored.checksum :=
    KeystoreModule.decode_echo (by decide) (decodeAny_echo h.checksum)
  have hcipher : KeystoreModule.decode decodeCipherParams 126
      (k.cipher.toJson cipherParamsToJson).echo = .ok k.restored.cipher :=
    KeystoreModule.decode_echo (by decide) (decodeCipherParams_echo (by decide) k.cipher.params)
  rw [cryptoToJson, Json.echo, Json.echoMembers_eq]
  refine Decoder.record_members (by decide) (.inl rfl) (by simp [Json.Field.names]) ?_
  have hkeys : ([("kdf", k.kdf.toJson KdfParams.toJson), ("checksum", k.checksum.toJson id),
      ("cipher", k.cipher.toJson cipherParamsToJson)].map (·.1)).Nodup := by simp
  simp only [Json.Placed.seq_eq_value, Json.Placed.map_eq_value]
  exact ⟨_, _, ⟨_, _, ⟨_, Fields.required_member hkeys (by simp) hkdf, rfl⟩,
    Fields.required_member hkeys (by simp) hchecksum, rfl⟩,
    Fields.required_member hkeys (by simp) hcipher, rfl⟩

/-- The members of the document of a keystore. -/
def members (k : Keystore) : List (String × Json) :=
  [("crypto", k.cryptoToJson)] ++
  (k.description.map fun d => ("description", Json.text d)).toList ++
    [("pubkey", .text k.publicKey), ("path", .text k.path), ("uuid", .text k.uuid),
      ("version", .count k.version)]

theorem keys_members (k : Keystore) : (k.members.map (·.1)).Nodup := by
  unfold members
  cases k.description <;> simp

theorem mem_members {m : String × Json} : m ∈ k.members ↔ m = ("crypto", k.cryptoToJson) ∨
    m ∈ (k.description.map fun d => ("description", Json.text d)) ∨
    m = ("pubkey", .text k.publicKey) ∨ m = ("path", .text k.path) ∨ m = ("uuid", .text k.uuid) ∨
    m = ("version", .count k.version) := by
  unfold members
  cases k.description <;> simp [eq_comm]

theorem natural_echo {bound n depth : Nat} {kind : String} (h : n ≤ bound)
    (hsize : n ≤ Numeral.maxUInt64) :
    Decoder.natural bound kind depth (Json.count n).echo = .ok n := by
  rw [Json.count, Json.natural, Json.echo, Json.Number.reread_natural]
  exact Decoder.natural_ofJson h hsize

theorem decode_echo (h : k.Storable) : decode Json.nestingBound k.toJson.echo = .ok k.restored := by
  have hjson : k.toJson = .record k.members := rfl
  have hkeys := k.keys_members
  have hdescription : (Fields.ofMembers
      ["crypto", "description", "pubkey", "path", "uuid", "version"]
      127 (Json.readMembers Json.echo k.members)).withDefault "description"
        (Decoder.optional Decoder.text) none = .value k.description := by
    cases hd : k.description with
    | none => exact Fields.withDefault_missing (by simp [members, hd]) _
    | some d =>
        exact Fields.withDefault_member (j := .text d) hkeys (mem_members.mpr (by simp [hd])) rfl _
  have hversion : k.version ≤ 4294967295 := by rw [h.version]; decide
  rw [hjson, Json.echo, Json.echoMembers_eq]
  refine Decoder.record_members (by decide) (.inl rfl) ?_ ?_
  · intro m hm
    rcases mem_members.mp hm with rfl | hd | rfl | rfl | rfl | rfl
    case inr.inl =>
      obtain ⟨d, _, rfl⟩ := Option.map_eq_some_iff.mp hd
      simp [Json.Field.names]
    all_goals simp [Json.Field.names]
  · simp only [Json.Placed.seq_eq_value, Json.Placed.map_eq_value]
    exact ⟨_, _, ⟨_, _, ⟨_, _, ⟨_, _, ⟨_, _, ⟨_,
      Fields.required_member hkeys (mem_members.mpr (by simp)) (decodeCrypto_echo h), rfl⟩,
      hdescription, rfl⟩,
      Fields.withDefault_member (j := .text k.publicKey) hkeys (mem_members.mpr (by simp)) rfl _,
      rfl⟩,
      Fields.withDefault_member (j := .text k.path) hkeys (mem_members.mpr (by simp)) rfl _, rfl⟩,
      Fields.required_member (j := .text k.uuid) hkeys (mem_members.mpr (by simp)) rfl, rfl⟩,
      Fields.required_member hkeys (mem_members.mpr (by simp))
        (natural_echo hversion (KdfParams.word_le_max hversion)), rfl⟩

theorem readable_toJson (h : k.Storable) : k.toJson.Readable Json.nestingBound := by
  have hcrypto : k.cryptoToJson.Readable 127 := by
    refine ⟨by decide, KeystoreModule.readable_toJson (by decide)
      (KdfParams.readable_toJson _ (by decide)),
      KeystoreModule.readable_toJson (by decide) h.checksum,
      KeystoreModule.readable_toJson (by decide) ?_, trivial⟩
    exact ⟨by decide, trivial, trivial⟩
  refine ⟨by decide, Json.readableMembers_iff.mpr fun m hm => ?_⟩
  rcases mem_members.mp hm with rfl | hd | rfl | rfl | rfl | rfl
  case inl => exact hcrypto
  case inr.inl =>
    obtain ⟨d, _, rfl⟩ := Option.map_eq_some_iff.mp hd
    trivial
  case inr.inr.inr.inr.inr => exact Json.Number.legible_natural _
  all_goals trivial

/-- A keystore that was read is read back from the text that is written of it. -/
theorem ofText_toText (h : k.Storable) : ofText k.toText = .ok k.restored := by
  have hdecode : decode.ofText k.toText = .ok k.restored :=
    (Json.ofText_pretty decode (readable_toJson h)).trans (decode_echo h)
  unfold ofText
  rw [hdecode]
  exact if_pos h.version

/-- A keystore that is read back gives the same signer. -/
theorem toSigner_restored (suite : KeySuite) (k : Keystore) (password : String)
    (keyType : KeyType) :
    k.restored.toSigner suite password keyType = k.toSigner suite password keyType := rfl

end Keystore

end RemoteSigner
