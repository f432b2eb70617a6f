import RemoteSigner.Chain.Fork
import RemoteSigner.Ssz.Bits

/-!
# Sync committee messages and contributions
-/

namespace RemoteSigner

open Ssz

/-- What is signed of a sync committee message. -/
structure SyncCommitteeMessage where
  blockRoot : Root
  slot : Slot
deriving DecidableEq

namespace SyncCommitteeMessage

/-- The document of the object. -/
def toJson (x : SyncCommitteeMessage) : Json :=
  .record [("beacon_block_root", x.blockRoot.toJson), ("slot", quotedUInt64 x.slot)]

/-- Its fields. -/
def shape : List Json.Field :=
  ["beacon_block_root", "slot"]

/-- Decode the object. -/
def decode : Json.Decoder SyncCommitteeMessage :=
  .record "struct SyncCommitteeMessage" shape fun fs =>
    SyncCommitteeMessage.mk <$> fs.required "beacon_block_root" FixedBytes.decode
      <*> fs.required "slot" .quotedUInt64

end SyncCommitteeMessage

/-- What a sync committee aggregator is selected for. -/
structure SyncSelectionData where
  slot : Slot
  subcommitteeIndex : UInt64
deriving DecidableEq

namespace SyncSelectionData

/-- The document of the object. -/
def toJson (x : SyncSelectionData) : Json :=
  .record [("slot", quotedUInt64 x.slot), ("subcommittee_index", quotedUInt64 x.subcommitteeIndex)]

/-- Its fields. -/
def shape : List Json.Field :=
  ["slot", "subcommittee_index"]

/-- Decode the object. -/
def decode : Json.Decoder SyncSelectionData :=
  .record "struct SyncAggregatorSelectionData" shape fun fs =>
    SyncSelectionData.mk <$> fs.required "slot" .quotedUInt64
      <*> fs.required "subcommittee_index" .quotedUInt64

/-- Its hash tree root. -/
def root (hash : Compression) (x : SyncSelectionData) : Root :=
  containerRoot hash [uint64Root x.slot, uint64Root x.subcommitteeIndex]

end SyncSelectionData

/-- The number of bits of a contribution. -/
def syncSubcommitteeSize : Nat := 128

/-- A contribution with the bits of those who made it. -/
structure SyncContribution where
  slot : Slot
  blockRoot : Root
  subcommitteeIndex : UInt64
  aggregationBits : HexBytes
  signature : FixedBytes 96
deriving DecidableEq

namespace SyncContribution

/-- The document of the object. -/
def toJson (x : SyncContribution) : Json :=
  .record [("slot", quotedUInt64 x.slot), ("beacon_block_root", x.blockRoot.toJson),
    ("subcommittee_index", quotedUInt64 x.subcommitteeIndex),
    ("aggregation_bits", x.aggregationBits.toJson), ("signature", x.signature.toJson)]

/-- Its fields. -/
def shape : List Json.Field :=
  ["slot", "beacon_block_root", "subcommittee_index", "aggregation_bits", "signature"]

/-- Decode the object. -/
def decode : Json.Decoder SyncContribution :=
  .record "struct SyncCommitteeContribution" shape fun fs =>
    SyncContribution.mk <$> fs.required "slot" .quotedUInt64
      <*> fs.required "beacon_block_root" FixedBytes.decode
      <*> fs.required "subcommittee_index" .quotedUInt64
      <*> fs.required "aggregation_bits" HexBytes.decode
      <*> fs.required "signature" FixedBytes.decode

/-- Its hash tree root, if it has the right number of bits. -/
def root (hash : Compression) (x : SyncContribution) : Except BitsError Root := do
  let bits ← bitvectorRoot hash x.aggregationBits.bytes syncSubcommitteeSize
  pure (containerRoot hash
    [uint64Root x.slot, x.blockRoot, uint64Root x.subcommitteeIndex, bits,
      bytesRoot hash x.signature.bytes])

end SyncContribution

/-- A contribution with the proof that its sender was selected. -/
structure ContributionAndProof where
  aggregatorIndex : UInt64
  contribution : SyncContribution
  selectionProof : FixedBytes 96
deriving DecidableEq

namespace ContributionAndProof

/-- The document of the object. -/
def toJson (x : ContributionAndProof) : Json :=
  .record [("aggregator_index", quotedUInt64 x.aggregatorIndex),
    ("contribution", x.contribution.toJson), ("selection_proof", x.selectionProof.toJson)]

/-- Its fields. -/
def shape : List Json.Field :=
  ["aggregator_index", "contribution", "selection_proof"]

/-- Decode the object. -/
def decode : Json.Decoder ContributionAndProof :=
  .record "struct ContributionAndProof" shape fun fs =>
    ContributionAndProof.mk <$> fs.required "aggregator_index" .quotedUInt64
      <*> fs.required "contribution" SyncContribution.decode
      <*> fs.required "selection_proof" FixedBytes.decode

/-- Its hash tree root, if its contribution has one. -/
def root (hash : Compression) (x : ContributionAndProof) : Except BitsError Root := do
  let contribution ← x.contribution.root hash
  pure (containerRoot hash
    [uint64Root x.aggregatorIndex, contribution, bytesRoot hash x.selectionProof.bytes])

end ContributionAndProof

end RemoteSigner
