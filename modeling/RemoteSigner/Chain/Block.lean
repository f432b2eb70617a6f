import RemoteSigner.Chain.Fork
import RemoteSigner.Ssz.Bits

/-!
# Block headers
-/

namespace RemoteSigner

open Ssz

/-- The header of a block; the body stands in it by its root. -/
structure BlockHeader where
  slot : Slot
  proposerIndex : UInt64
  parentRoot : Root
  stateRoot : Root
  bodyRoot : Root
deriving DecidableEq

namespace BlockHeader

/-- The document of the object. -/
def toJson (x : BlockHeader) : Json :=
  .record [("slot", quotedUInt64 x.slot), ("proposer_index", quotedUInt64 x.proposerIndex),
    ("parent_root", x.parentRoot.toJson), ("state_root", x.stateRoot.toJson),
    ("body_root", x.bodyRoot.toJson)]

/-- Its fields. -/
def shape : List Json.Field :=
  ["slot", "proposer_index", "parent_root", "state_root", "body_root"]

/-- Decode the object. -/
def decode : Json.Decoder BlockHeader :=
  .record "struct BeaconBlockHeader" shape fun fs =>
    BlockHeader.mk <$> fs.required "slot" .quotedUInt64
      <*> fs.required "proposer_index" .quotedUInt64
      <*> fs.required "parent_root" FixedBytes.decode
      <*> fs.required "state_root" FixedBytes.decode
      <*> fs.required "body_root" FixedBytes.decode

/-- Its hash tree root. -/
def root (hash : Compression) (x : BlockHeader) : Root :=
  containerRoot hash [uint64Root x.slot, uint64Root x.proposerIndex, x.parentRoot, x.stateRoot,
    x.bodyRoot]

end BlockHeader

/-- A header with the name of its fork, which is informational. -/
structure VersionedHeader where
  version : String
  header : BlockHeader
deriving DecidableEq

namespace VersionedHeader

/-- The document of the object. -/
def toJson (x : VersionedHeader) : Json :=
  .record [("version", .text x.version), ("block_header", x.header.toJson)]

/-- Its fields. -/
def shape : List Json.Field :=
  ["version", "block_header"]

/-- Decode the object. -/
def decode : Json.Decoder VersionedHeader :=
  .record "struct BlockV2" shape fun fs =>
    VersionedHeader.mk <$> fs.required "version" .text
      <*> fs.required "block_header" BlockHeader.decode

end VersionedHeader

end RemoteSigner
