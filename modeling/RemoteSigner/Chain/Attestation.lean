import RemoteSigner.Chain.Fork
import RemoteSigner.Ssz.Bits

/-!
# Attestations and their aggregates
-/

namespace RemoteSigner

open Ssz

/-- A checkpoint of the chain. -/
structure Checkpoint where
  epoch : Epoch
  blockRoot : Root
deriving DecidableEq

namespace Checkpoint

/-- The document of the object. -/
def toJson (x : Checkpoint) : Json :=
  .record [("epoch", quotedUInt64 x.epoch), ("root", x.blockRoot.toJson)]

/-- Its fields. -/
def shape : List Json.Field :=
  ["epoch", "root"]

/-- Decode the object. -/
def decode : Json.Decoder Checkpoint :=
  .record "struct Checkpoint" shape fun fs =>
    Checkpoint.mk <$> fs.required "epoch" .quotedUInt64
      <*> fs.required "root" FixedBytes.decode

/-- Its hash tree root. -/
def root (hash : Compression) (x : Checkpoint) : Root :=
  containerRoot hash [uint64Root x.epoch, x.blockRoot]

end Checkpoint

/-- A vote for a block and a pair of checkpoints. -/
structure AttestationData where
  slot : Slot
  index : UInt64
  blockRoot : Root
  source : Checkpoint
  target : Checkpoint
deriving DecidableEq

namespace AttestationData

/-- The document of the object. -/
def toJson (x : AttestationData) : Json :=
  .record [("slot", quotedUInt64 x.slot), ("index", quotedUInt64 x.index),
    ("beacon_block_root", x.blockRoot.toJson), ("source", x.source.toJson),
    ("target", x.target.toJson)]

/-- Its fields. -/
def shape : List Json.Field :=
  ["slot", "index", "beacon_block_root", "source", "target"]

/-- Decode the object. -/
def decode : Json.Decoder AttestationData :=
  .record "struct AttestationData" shape fun fs =>
    AttestationData.mk <$> fs.required "slot" .quotedUInt64
      <*> fs.required "index" .quotedUInt64
      <*> fs.required "beacon_block_root" FixedBytes.decode
      <*> fs.required "source" Checkpoint.decode
      <*> fs.required "target" Checkpoint.decode

/-- Its hash tree root. -/
def root (hash : Compression) (x : AttestationData) : Root :=
  containerRoot hash [uint64Root x.slot, uint64Root x.index, x.blockRoot, x.source.root hash,
    x.target.root hash]

end AttestationData

/-- The most bits of an aggregation list. -/
def maxValidatorsPerCommittee : Nat := 2048

/-- A vote with the bits of those who cast it. -/
structure Attestation where
  aggregationBits : HexBytes
  data : AttestationData
  signature : FixedBytes 96
deriving DecidableEq

namespace Attestation

/-- The document of the object. -/
def toJson (x : Attestation) : Json :=
  .record [("aggregation_bits", x.aggregationBits.toJson), ("data", x.data.toJson),
    ("signature", x.signature.toJson)]

/-- Its fields. -/
def shape : List Json.Field :=
  ["aggregation_bits", "data", "signature"]

/-- Decode the object. -/
def decode : Json.Decoder Attestation :=
  .record "struct Attestation" shape fun fs =>
    Attestation.mk <$> fs.required "aggregation_bits" HexBytes.decode
      <*> fs.required "data" AttestationData.decode
      <*> fs.required "signature" FixedBytes.decode

/-- Its hash tree root, if its bits are an encoding. -/
def root (hash : Compression) (x : Attestation) : Except BitsError Root := do
  let bits ← bitlistRoot hash x.aggregationBits.bytes maxValidatorsPerCommittee
  pure (containerRoot hash [bits, x.data.root hash, bytesRoot hash x.signature.bytes])

end Attestation

/-- An aggregate with the proof that its sender was selected. -/
structure AggregateAndProof where
  aggregatorIndex : UInt64
  aggregate : Attestation
  selectionProof : FixedBytes 96
deriving DecidableEq

namespace AggregateAndProof

/-- The document of the object. -/
def toJson (x : AggregateAndProof) : Json :=
  .record [("aggregator_index", quotedUInt64 x.aggregatorIndex), ("aggregate", x.aggregate.toJson),
    ("selection_proof", x.selectionProof.toJson)]

/-- Its fields. -/
def shape : List Json.Field :=
  ["aggregator_index", "aggregate", "selection_proof"]

/-- Decode the object. -/
def decode : Json.Decoder AggregateAndProof :=
  .record "struct AggregateAndProof" shape fun fs =>
    AggregateAndProof.mk <$> fs.required "aggregator_index" .quotedUInt64
      <*> fs.required "aggregate" Attestation.decode
      <*> fs.required "selection_proof" FixedBytes.decode

/-- Its hash tree root, if its bits are an encoding. -/
def root (hash : Compression) (x : AggregateAndProof) : Except BitsError Root := do
  let aggregate ← x.aggregate.root hash
  pure (containerRoot hash
    [uint64Root x.aggregatorIndex, aggregate, bytesRoot hash x.selectionProof.bytes])

end AggregateAndProof

/-- The slot an aggregator is selected for. -/
structure AggregationSlot where
  slot : Slot
deriving DecidableEq

namespace AggregationSlot

/-- The document of the object. -/
def toJson (x : AggregationSlot) : Json :=
  .record [("slot", quotedUInt64 x.slot)]

/-- Its fields. -/
def shape : List Json.Field :=
  ["slot"]

/-- Decode the object. -/
def decode : Json.Decoder AggregationSlot :=
  .record "struct AggregationSlot" shape fun fs =>
    AggregationSlot.mk <$> fs.required "slot" .quotedUInt64

end AggregationSlot

end RemoteSigner
