import RemoteSigner.Chain.Container
import RemoteSigner.Proofs.Bytes.Fixed
import RemoteSigner.Proofs.Bytes.Hex
import RemoteSigner.Proofs.Json.Restoring

/-!
# Consensus objects written and read back

Numbers are written as quoted digits and byte strings as marked hexadecimal text, and both
are read back (`restores_quotedUInt64`, `FixedBytes.restores`, `HexBytes.restores`). So is each
object, whatever its fields hold (the lemma `restores` of each).
-/

namespace RemoteSigner

open Json (Decoder Fields Placed)
open Json.Placed (map_value seq_value)

/-! ## Numbers and byte strings -/

variable {levels : Nat}

theorem restores_quotedUInt64 : Decoder.quotedUInt64.Restores quotedUInt64 levels := by
  refine ⟨fun n => Json.wordy_text _ _, fun n depth _ => ?_⟩
  have hdocument : Decoder.document depth (.ofJson (quotedUInt64 n)) = .ok (quotedUInt64 n) := rfl
  rw [Decoder.quotedUInt64, hdocument]
  simp only [quotedUInt64, bind, Except.bind, Numeral.decodeUInt64_encode]
  rfl

theorem Hex.decodeMarked_encodeMarked (bytes : Bytes) :
    decodeMarked (encodeMarked bytes) = .ok bytes := by
  have hmarked : Text.dropMarker (encodeMarked bytes).toList = digits bytes := by
    have happ : (encodeMarked bytes).toList = '0' :: 'x' :: digits bytes := by
      simp [encodeMarked, encode]
    rw [happ]
    rfl
  rw [decodeMarked, hmarked, decodeChars_digits]

theorem FixedBytes.restores {n : Nat} : Decoder.Restores decode (toJson (n := n)) levels := by
  refine Decoder.restores_textWith fun b => ?_
  rw [ofHex, toHex, Hex.decodeMarked_encodeMarked]
  simp only [bind, Except.bind, ofBytes, ofBytes?_bytes]
  rfl

theorem HexBytes.restores : Decoder.Restores decode toJson levels := by
  refine Decoder.restores_textWith fun b => ?_
  rw [ofHex, toHex, Hex.decodeMarked_encodeMarked]
  rfl

/-! ## Chains -/

theorem Fork.restores : Decoder.Restores decode toJson (levels + 1) := by
  refine Decoder.restores_record (fun _ => rfl) (by decide) (fun _ => ?_) fun _ _ field => ?_
  · exact ⟨FixedBytes.restores.wordy _, FixedBytes.restores.wordy _, restores_quotedUInt64.wordy _⟩
  · exact seq_value (seq_value (map_value (field FixedBytes.restores (by simp)))
      (field FixedBytes.restores (by simp))) (field restores_quotedUInt64 (by simp))

theorem ForkInfo.restores : Decoder.Restores decode toJson (levels + 2) := by
  refine Decoder.restores_record (fun _ => rfl) (by decide) (fun _ => ?_) fun _ _ field => ?_
  · exact ⟨Fork.restores.wordy _, FixedBytes.restores.wordy _⟩
  · exact seq_value (map_value (field Fork.restores (by simp)))
      (field FixedBytes.restores (by simp))

/-! ## Blocks and votes -/

theorem BlockHeader.restores : Decoder.Restores decode toJson (levels + 1) := by
  refine Decoder.restores_record (fun _ => rfl) (by decide) (fun _ => ?_) fun _ _ field => ?_
  · exact ⟨restores_quotedUInt64.wordy _, restores_quotedUInt64.wordy _,
      FixedBytes.restores.wordy _, FixedBytes.restores.wordy _, FixedBytes.restores.wordy _⟩
  · exact
      seq_value (seq_value (seq_value (seq_value (map_value (field restores_quotedUInt64 (by simp)))
      (field restores_quotedUInt64 (by simp))) (field FixedBytes.restores (by simp)))
      (field FixedBytes.restores (by simp))) (field FixedBytes.restores (by simp))

theorem VersionedHeader.restores : Decoder.Restores decode toJson (levels + 2) := by
  refine Decoder.restores_record (fun _ => rfl) (by decide) (fun _ => ?_) fun _ _ field => ?_
  · exact ⟨Decoder.restores_text.wordy _, BlockHeader.restores.wordy _⟩
  · exact seq_value (map_value (field Decoder.restores_text (by simp)))
      (field BlockHeader.restores (by simp))

theorem Checkpoint.restores : Decoder.Restores decode toJson (levels + 1) := by
  refine Decoder.restores_record (fun _ => rfl) (by decide) (fun _ => ?_) fun _ _ field => ?_
  · exact ⟨restores_quotedUInt64.wordy _, FixedBytes.restores.wordy _⟩
  · exact seq_value (map_value (field restores_quotedUInt64 (by simp)))
      (field FixedBytes.restores (by simp))

theorem AttestationData.restores : Decoder.Restores decode toJson (levels + 2) := by
  refine Decoder.restores_record (fun _ => rfl) (by decide) (fun _ => ?_) fun _ _ field => ?_
  · exact ⟨restores_quotedUInt64.wordy _, restores_quotedUInt64.wordy _,
      FixedBytes.restores.wordy _, Checkpoint.restores.wordy _, Checkpoint.restores.wordy _⟩
  · exact
      seq_value (seq_value (seq_value (seq_value (map_value (field restores_quotedUInt64 (by simp)))
      (field restores_quotedUInt64 (by simp))) (field FixedBytes.restores (by simp)))
      (field Checkpoint.restores (by simp))) (field Checkpoint.restores (by simp))

theorem Attestation.restores : Decoder.Restores decode toJson (levels + 3) := by
  refine Decoder.restores_record (fun _ => rfl) (by decide) (fun _ => ?_) fun _ _ field => ?_
  · exact ⟨HexBytes.restores.wordy _, AttestationData.restores.wordy _, FixedBytes.restores.wordy _⟩
  · exact seq_value (seq_value (map_value (field HexBytes.restores (by simp)))
      (field AttestationData.restores (by simp))) (field FixedBytes.restores (by simp))

theorem AggregateAndProof.restores : Decoder.Restores decode toJson (levels + 4) := by
  refine Decoder.restores_record (fun _ => rfl) (by decide) (fun _ => ?_) fun _ _ field => ?_
  · exact ⟨restores_quotedUInt64.wordy _, Attestation.restores.wordy _, FixedBytes.restores.wordy _⟩
  · exact seq_value (seq_value (map_value (field restores_quotedUInt64 (by simp)))
      (field Attestation.restores (by simp))) (field FixedBytes.restores (by simp))

theorem AggregationSlot.restores : Decoder.Restores decode toJson (levels + 1) := by
  refine Decoder.restores_record (fun _ => rfl) (by decide) (fun _ => ?_) fun _ _ field => ?_
  · exact restores_quotedUInt64.wordy _
  · exact map_value (field restores_quotedUInt64 (by simp))

/-! ## Sync committees -/

theorem SyncCommitteeMessage.restores : Decoder.Restores decode toJson (levels + 1) := by
  refine Decoder.restores_record (fun _ => rfl) (by decide) (fun _ => ?_) fun _ _ field => ?_
  · exact ⟨FixedBytes.restores.wordy _, restores_quotedUInt64.wordy _⟩
  · exact seq_value (map_value (field FixedBytes.restores (by simp)))
      (field restores_quotedUInt64 (by simp))

theorem SyncSelectionData.restores : Decoder.Restores decode toJson (levels + 1) := by
  refine Decoder.restores_record (fun _ => rfl) (by decide) (fun _ => ?_) fun _ _ field => ?_
  · exact ⟨restores_quotedUInt64.wordy _, restores_quotedUInt64.wordy _⟩
  · exact seq_value (map_value (field restores_quotedUInt64 (by simp)))
      (field restores_quotedUInt64 (by simp))

theorem SyncContribution.restores : Decoder.Restores decode toJson (levels + 1) := by
  refine Decoder.restores_record (fun _ => rfl) (by decide) (fun _ => ?_) fun _ _ field => ?_
  · exact ⟨restores_quotedUInt64.wordy _, FixedBytes.restores.wordy _,
      restores_quotedUInt64.wordy _, HexBytes.restores.wordy _, FixedBytes.restores.wordy _⟩
  · exact
      seq_value (seq_value (seq_value (seq_value (map_value (field restores_quotedUInt64 (by simp)))
      (field FixedBytes.restores (by simp))) (field restores_quotedUInt64 (by simp)))
      (field HexBytes.restores (by simp))) (field FixedBytes.restores (by simp))

theorem ContributionAndProof.restores : Decoder.Restores decode toJson (levels + 2) := by
  refine Decoder.restores_record (fun _ => rfl) (by decide) (fun _ => ?_) fun _ _ field => ?_
  · exact ⟨restores_quotedUInt64.wordy _, SyncContribution.restores.wordy _,
      FixedBytes.restores.wordy _⟩
  · exact seq_value (seq_value (map_value (field restores_quotedUInt64 (by simp)))
      (field SyncContribution.restores (by simp))) (field FixedBytes.restores (by simp))

/-! ## Validators -/

theorem VoluntaryExit.restores : Decoder.Restores decode toJson (levels + 1) := by
  refine Decoder.restores_record (fun _ => rfl) (by decide) (fun _ => ?_) fun _ _ field => ?_
  · exact ⟨restores_quotedUInt64.wordy _, restores_quotedUInt64.wordy _⟩
  · exact seq_value (map_value (field restores_quotedUInt64 (by simp)))
      (field restores_quotedUInt64 (by simp))

theorem RandaoReveal.restores : Decoder.Restores decode toJson (levels + 1) := by
  refine Decoder.restores_record (fun _ => rfl) (by decide) (fun _ => ?_) fun _ _ field => ?_
  · exact restores_quotedUInt64.wordy _
  · exact map_value (field restores_quotedUInt64 (by simp))

theorem DepositMessage.restores : Decoder.Restores decode toJson (levels + 1) := by
  refine Decoder.restores_record (fun _ => rfl) (by decide) (fun _ => ?_) fun _ _ field => ?_
  · exact ⟨FixedBytes.restores.wordy _, FixedBytes.restores.wordy _, restores_quotedUInt64.wordy _,
      FixedBytes.restores.wordy _⟩
  · exact seq_value (seq_value (seq_value (map_value (field FixedBytes.restores (by simp)))
      (field FixedBytes.restores (by simp))) (field restores_quotedUInt64 (by simp)))
      (field FixedBytes.restores (by simp))

theorem ValidatorRegistration.restores : Decoder.Restores decode toJson (levels + 1) := by
  refine Decoder.restores_record (fun _ => rfl) (by decide) (fun _ => ?_) fun _ _ field => ?_
  · exact ⟨FixedBytes.restores.wordy _, restores_quotedUInt64.wordy _,
      restores_quotedUInt64.wordy _, FixedBytes.restores.wordy _⟩
  · exact seq_value (seq_value (seq_value (map_value (field FixedBytes.restores (by simp)))
      (field restores_quotedUInt64 (by simp))) (field restores_quotedUInt64 (by simp)))
      (field FixedBytes.restores (by simp))

end RemoteSigner
