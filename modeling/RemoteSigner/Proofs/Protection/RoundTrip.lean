import RemoteSigner.Proofs.Chain.Restoring
import RemoteSigner.Proofs.Json.Rereading
import RemoteSigner.Proofs.SignerId
import RemoteSigner.Protection.Interchange

/-!
# Signing history written and read back

A document of signing history is read back record by record: numbers stand in quotes, a root
that is missing has no member, and a key is written so that it can be read (`SignedBlock.rereads`,
`SignedAttestation.rereads`, `History.rereads`, `Interchange.rereads`). The keys are all that
matters: only a key without bytes is written as no spelling of itself, and no document that was
read has one (`Interchange.valid_of_ofText`). So what was read is read back from its own text,
and reading and writing that text once more leaves it as it is (`interchange_restored`).
-/

namespace RemoteSigner

open Json (Decoder Fields Placed)
open Json.Placed (map_value seq_value map_eq_value seq_eq_value)

/-! ## Keys -/

namespace SignerId

variable {levels : Nat} {id : SignerId}

/-- A valid identifier is read back. -/
theorem Valid.rereads (h : id.Valid) : decode.Rereads levels id.toJson id := by
  refine ⟨fun _ => trivial, fun {depth} _ => ?_⟩
  have htext : Decoder.text depth id.toJson.echo = .ok id.marked := rfl
  rw [decode, Decoder.textWith, htext]
  simp only [bind, Except.bind, parse_marked (valid_iff.mp h)]
  rfl

theorem valid_of_decode {depth : Nat} {r : Json.Reading} (h : decode depth r = .ok id) :
    id.Valid := by
  obtain ⟨s, hs⟩ := Decoder.textWith_eq_ok h
  exact ⟨s, mapError_ok hs⟩

end SignerId

/-! ## Records -/

variable {levels : Nat}

/-- A root that is there is read back as one that may be missing. -/
theorem rereads_root (root : Root) :
    (Decoder.optional FixedBytes.decode).Rereads levels root.toJson (some root) :=
  (FixedBytes.restores.rereads root).optional (by simp [FixedBytes.toJson])

theorem SignedBlock.rereads (b : SignedBlock) : decode.Rereads (levels + 1) b.toJson b := by
  obtain ⟨slot, root⟩ := b
  have hslot : Decoder.quotedUInt64.Rereads levels _ slot := restores_quotedUInt64.rereads slot
  -- a root that is missing has no member
  cases root with
  | none =>
      refine Decoder.rereads_record ["slot"] rfl (by decide) (by decide) hslot.readable
        fun fs hfs => ?_
      exact seq_value (map_value (hfs.required (by simp) hslot))
        (hfs.missing none (by simp [rootMember]))
  | some root =>
      have hroot : FixedBytes.decode.optional.Rereads levels _ (some root) := rereads_root root
      refine Decoder.rereads_record ["slot", "signing_root"] rfl (by decide) (by decide)
        ⟨hslot.readable, hroot.readable⟩ fun fs hfs => ?_
      exact seq_value (map_value (hfs.required (by simp) hslot))
        (hfs.given none (by simp [rootMember]) hroot)

theorem SignedAttestation.rereads (a : SignedAttestation) :
    decode.Rereads (levels + 1) a.toJson a := by
  obtain ⟨source, target, root⟩ := a
  have hsource : Decoder.quotedUInt64.Rereads levels _ source :=
    restores_quotedUInt64.rereads source
  have htarget : Decoder.quotedUInt64.Rereads levels _ target :=
    restores_quotedUInt64.rereads target
  cases root with
  | none =>
      refine Decoder.rereads_record ["source_epoch", "target_epoch"] rfl (by decide) (by decide)
        ⟨hsource.readable, htarget.readable⟩ fun fs hfs => ?_
      exact seq_value (seq_value (map_value (hfs.required (by simp) hsource))
        (hfs.required (by simp) htarget)) (hfs.missing none (by simp [SignedBlock.rootMember]))
  | some root =>
      have hroot : FixedBytes.decode.optional.Rereads levels _ (some root) := rereads_root root
      refine Decoder.rereads_record ["source_epoch", "target_epoch", "signing_root"] rfl
        (by decide) (by decide) ⟨hsource.readable, htarget.readable, hroot.readable⟩
        fun fs hfs => ?_
      exact seq_value (seq_value (map_value (hfs.required (by simp) hsource))
        (hfs.required (by simp) htarget)) (hfs.given none (by simp [SignedBlock.rootMember]) hroot)

/-! ## Documents -/

/-- A history is read back if its key is valid, whatever its records are. -/
theorem History.rereads {h : History} (hkey : h.key.Valid) :
    decode.Rereads (levels + 3) h.toJson h := by
  have hid : SignerId.decode.Rereads (levels + 2) h.key.toJson h.key := hkey.rereads
  have hblocks : (Decoder.list SignedBlock.decode).Rereads (levels + 2) _ h.blocks :=
    Decoder.rereads_list fun b _ => b.rereads
  have hvotes : (Decoder.list SignedAttestation.decode).Rereads (levels + 2) _ h.attestations :=
    Decoder.rereads_list fun a _ => a.rereads
  refine Decoder.rereads_record ["pubkey", "signed_blocks", "signed_attestations"] rfl (by decide)
    (by decide) ⟨hid.readable, hblocks.readable, hvotes.readable⟩ fun fs hfs => ?_
  exact seq_value (seq_value (map_value (hfs.required (by simp) hid))
    (hfs.given [] (by simp) hblocks)) (hfs.given [] (by simp) hvotes)

/-- The key of a history that was decoded is valid. -/
theorem History.valid_of_decode {depth : Nat} {r : Json.Reading} {h : History}
    (hr : decode depth r = .ok h) : h.key.Valid := by
  obtain ⟨fs, _, hread⟩ := Decoder.record_eq_ok hr
  obtain ⟨_, _, hblocks, _, rfl⟩ := seq_eq_value.mp hread
  obtain ⟨_, _, hkey, _, rfl⟩ := seq_eq_value.mp hblocks
  obtain ⟨id, hid, rfl⟩ := map_eq_value.mp hkey
  obtain ⟨_, part, _, hdecode⟩ := Fields.required_eq_value hid
  exact SignerId.valid_of_decode hdecode

namespace Interchange

variable {d : Interchange} {text : String}

/-- A document is read back if its keys are valid. -/
theorem rereads (hkeys : ∀ h ∈ d.data, h.key.Valid) : decode.Rereads (levels + 5) d.toJson d := by
  have hversion : Decoder.text.Rereads (levels + 3) (.text d.version) d.version :=
    Decoder.restores_text.rereads d.version
  have hroot : FixedBytes.decode.Rereads (levels + 3) d.genesisRoot.toJson d.genesisRoot :=
    FixedBytes.restores.rereads d.genesisRoot
  have hheader : decodeMetadata.Rereads (levels + 4) (.record
      [("interchange_format_version", .text d.version),
        ("genesis_validators_root", d.genesisRoot.toJson)]) (d.version, d.genesisRoot) := by
    refine Decoder.rereads_record ["interchange_format_version", "genesis_validators_root"] rfl
      (by decide) (by decide) ⟨hversion.readable, hroot.readable⟩ fun fs hfs => ?_
    exact seq_value (map_value (hfs.required (by simp) hversion)) (hfs.required (by simp) hroot)
  have hdata : (Decoder.list History.decode).Rereads (levels + 4)
      (.list (d.data.map History.toJson)) d.data :=
    Decoder.rereads_list fun h hh => History.rereads (hkeys h hh)
  refine Decoder.rereads_record ["metadata", "data"] rfl (by decide) (by decide)
    ⟨hheader.readable, hdata.readable⟩ fun fs hfs => ?_
  exact seq_value (map_value (hfs.required (by simp) hheader)) (hfs.required (by simp) hdata)

/-- A document with valid keys is read back from its text. -/
theorem ofText_toText (hkeys : ∀ h ∈ d.data, h.key.Valid) : ofText d.toText = .ok d := by
  have hread : decode.Rereads 5 d.toJson d := rereads hkeys
  rw [ofText, toText, hread.ofText_pretty (by decide)]
  rfl

/-- The keys of a document that was read are valid. -/
theorem valid_of_ofText (h : ofText text = .ok d) : ∀ x ∈ d.data, x.key.Valid := by
  obtain ⟨r, _, hr⟩ := Decoder.ofText_eq_ok (mapError_ok h)
  obtain ⟨fs, _, hread⟩ := Decoder.record_eq_ok hr
  obtain ⟨_, data, hheader, hdata, rfl⟩ := seq_eq_value.mp hread
  obtain ⟨header, _, rfl⟩ := map_eq_value.mp hheader
  obtain ⟨_, part, _, hlist⟩ := Fields.required_eq_value hdata
  intro x hx
  obtain ⟨_, _, hdecode⟩ := Decoder.list_eq_ok hlist hx
  exact History.valid_of_decode hdecode

/-- What a text in any spelling is written as, once it was read. -/
def normalized (text : String) : Protected String := do
  pure (← ofText text).toText

theorem normalized_of_ofText (h : ofText text = .ok d) : normalized text = .ok d.toText := by
  rw [normalized, h]
  rfl

/-- A document is read back from its text exactly if all its keys are valid; version, numbers,
roots and the lengths of its lists do not matter. A text that is read as a document, in whatever
spelling, is in one pass written as a text that is read as the same document, and that a further
pass leaves as it is. -/
theorem interchange_restored :
    (∀ d : Interchange, ofText d.toText = .ok d ↔ ∀ h ∈ d.data, h.key.Valid) ∧
    ∀ (text : String) (d : Interchange), ofText text = .ok d →
      normalized text = .ok d.toText ∧ ofText d.toText = .ok d ∧
        normalized d.toText = .ok d.toText := by
  refine ⟨fun d => ⟨valid_of_ofText, ofText_toText⟩, fun text d h => ?_⟩
  have hagain : ofText d.toText = .ok d := ofText_toText (valid_of_ofText h)
  exact ⟨normalized_of_ofText h, hagain, normalized_of_ofText hagain⟩

/-- A document with bare numbers, a root that is null, keys in capitals and between blanks, and
a validator without lists. -/
def looseHistory : Json :=
  .record [("data", .list [
      .record [("signed_blocks", .list [
          .record [("signing_root", .null), ("slot", .natural 7)],
          .record [("slot", .text "18446744073709551615"), ("signing_root",
            .text "ABABABABABABABABABABABABABABABABABABABABABABABABABABABABABABABAB")]]),
        ("signed_attestations", .list [
          .record [("source_epoch", .natural 2), ("target_epoch", .text "3")]]),
        ("pubkey", .text " 0XAB01\n")],
      .record [("pubkey", .text "0xcd")]]),
    ("metadata", .record [
      ("genesis_validators_root",
        .text "0xCdCdCdCdCdCdCdCdCdCdCdCdCdCdCdCdCdCdCdCdCdCdCdCdCdCdCdCdCdCdCdCd"),
      ("interchange_format_version", .text "5 \"\\\t")])]

/-- The history it stands for. -/
def knownHistory : Interchange where
  version := "5 \"\\\t"
  genesisRoot := .fit 32 (List.replicate 32 0xcd)
  data := [
    ⟨⟨[0xab, 0x01]⟩, [⟨7, none⟩, ⟨18446744073709551615, some (.fit 32 (List.replicate 32 0xab))⟩],
      [⟨2, 3, none⟩]⟩,
    ⟨⟨[0xcd]⟩, [], []⟩]

/-- One pass turns the text of the loose document into that of the history. -/
theorem looseHistory_restored :
    ofText looseHistory.pretty = .ok knownHistory ∧
      normalized looseHistory.pretty = .ok knownHistory.toText ∧
      ofText knownHistory.toText = .ok knownHistory ∧
      normalized knownHistory.toText = .ok knownHistory.toText := by
  have hreadable : looseHistory.Readable Json.nestingBound := by
    simp [looseHistory, Json.Readable, Json.ReadableItems, Json.ReadableMembers, Json.nestingBound,
      Json.natural, Json.Number.legible_natural]
  have hecho : decode Json.nestingBound looseHistory.echo = .ok knownHistory :=
    ok_of_toOption (by decide +kernel)
  have hread : ofText looseHistory.pretty = .ok knownHistory := by
    rw [ofText, Json.ofText_pretty decode hreadable, hecho]
    rfl
  obtain ⟨hnormal, -, hstable⟩ := interchange_restored.2 _ _ hread
  have hkeys : ∀ h ∈ knownHistory.data, h.key.Valid := by
    simp [knownHistory, SignerId.valid_iff]
  exact ⟨hread, hnormal, (interchange_restored.1 knownHistory).mpr hkeys, hstable⟩

end Interchange

end RemoteSigner
