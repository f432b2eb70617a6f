import RemoteSigner.Bytes.Fixed

/-!
# Forks

The fork version in force at an epoch, and the chain a message is signed for.
-/

namespace RemoteSigner

/-- A slot of the chain. -/
abbrev Slot := UInt64

/-- An epoch of the chain. -/
abbrev Epoch := UInt64

/-- The document of a 64-bit number: its digits, quoted. -/
def quotedUInt64 (n : UInt64) : Json :=
  .text (Numeral.encode n.toNat)

/-- The fork versions around a transition epoch. -/
structure Fork where
  previous : Version
  current : Version
  epoch : Epoch
deriving DecidableEq

/-- A fork and the chain it belongs to. -/
structure ForkInfo where
  fork : Fork
  genesisRoot : Root
deriving DecidableEq

namespace Fork

/-- The version in force at an epoch. -/
def versionAt (f : Fork) (epoch : Epoch) : Version :=
  if epoch < f.epoch then f.previous else f.current

/-- The document of a fork. -/
def toJson (f : Fork) : Json :=
  .record [("previous_version", f.previous.toJson), ("current_version", f.current.toJson),
    ("epoch", quotedUInt64 f.epoch)]

/-- The fields of a fork. -/
def shape : List Json.Field :=
  ["previous_version", "current_version", "epoch"]

/-- Decode a fork. -/
def decode : Json.Decoder Fork :=
  .record "struct Fork" shape fun fs =>
    Fork.mk <$> fs.required "previous_version" FixedBytes.decode
      <*> fs.required "current_version" FixedBytes.decode
      <*> fs.required "epoch" .quotedUInt64

end Fork

namespace ForkInfo

/-- The document of a fork info. -/
def toJson (f : ForkInfo) : Json :=
  .record [("fork", f.fork.toJson), ("genesis_validators_root", f.genesisRoot.toJson)]

/-- The fields of a fork info. -/
def shape : List Json.Field :=
  ["fork", "genesis_validators_root"]

/-- Decode a fork info. -/
def decode : Json.Decoder ForkInfo :=
  .record "struct ForkInfo" shape fun fs =>
    ForkInfo.mk <$> fs.required "fork" Fork.decode
      <*> fs.required "genesis_validators_root" FixedBytes.decode

end ForkInfo

end RemoteSigner
