import RemoteSigner.Chain.Fork
import RemoteSigner.Ssz.Bits

/-!
# Deposits, exits, reveals and registrations of validators
-/

namespace RemoteSigner

open Ssz

/-- A validator that leaves. -/
structure VoluntaryExit where
  epoch : Epoch
  validatorIndex : UInt64
deriving DecidableEq

namespace VoluntaryExit

/-- The document of the object. -/
def toJson (x : VoluntaryExit) : Json :=
  .record [("epoch", quotedUInt64 x.epoch), ("validator_index", quotedUInt64 x.validatorIndex)]

/-- Its fields. -/
def shape : List Json.Field :=
  ["epoch", "validator_index"]

/-- Decode the object. -/
def decode : Json.Decoder VoluntaryExit :=
  .record "struct VoluntaryExit" shape fun fs =>
    VoluntaryExit.mk <$> fs.required "epoch" .quotedUInt64
      <*> fs.required "validator_index" .quotedUInt64

/-- Its hash tree root. -/
def root (hash : Compression) (x : VoluntaryExit) : Root :=
  containerRoot hash [uint64Root x.epoch, uint64Root x.validatorIndex]

end VoluntaryExit

/-- The epoch of a reveal of randomness. -/
structure RandaoReveal where
  epoch : Epoch
deriving DecidableEq

namespace RandaoReveal

/-- The document of the object. -/
def toJson (x : RandaoReveal) : Json :=
  .record [("epoch", quotedUInt64 x.epoch)]

/-- Its fields. -/
def shape : List Json.Field :=
  ["epoch"]

/-- Decode the object. -/
def decode : Json.Decoder RandaoReveal :=
  .record "struct RandaoReveal" shape fun fs =>
    RandaoReveal.mk <$> fs.required "epoch" .quotedUInt64

end RandaoReveal

/-- A deposit and the fork version its domain is computed with. -/
structure DepositMessage where
  publicKey : FixedBytes 48
  withdrawalCredentials : Root
  amount : UInt64
  genesisForkVersion : Version
deriving DecidableEq

namespace DepositMessage

/-- The document of the object. -/
def toJson (x : DepositMessage) : Json :=
  .record [("pubkey", x.publicKey.toJson),
    ("withdrawal_credentials", x.withdrawalCredentials.toJson), ("amount", quotedUInt64 x.amount),
    ("genesis_fork_version", x.genesisForkVersion.toJson)]

/-- Its fields. -/
def shape : List Json.Field :=
  ["pubkey", "withdrawal_credentials", "amount", "genesis_fork_version"]

/-- Decode the object. -/
def decode : Json.Decoder DepositMessage :=
  .record "struct DepositMessage" shape fun fs =>
    DepositMessage.mk <$> fs.required "pubkey" FixedBytes.decode
      <*> fs.required "withdrawal_credentials" FixedBytes.decode
      <*> fs.required "amount" .quotedUInt64
      <*> fs.required "genesis_fork_version" FixedBytes.decode

/-- Its hash tree root; the fork version is no part of the object. -/
def root (hash : Compression) (x : DepositMessage) : Root :=
  containerRoot hash [bytesRoot hash x.publicKey.bytes, x.withdrawalCredentials,
    uint64Root x.amount]

end DepositMessage

/-- The registration of a validator with builders. -/
structure ValidatorRegistration where
  feeRecipient : FixedBytes 20
  gasLimit : UInt64
  timestamp : UInt64
  publicKey : FixedBytes 48
deriving DecidableEq

namespace ValidatorRegistration

/-- The document of the object. -/
def toJson (x : ValidatorRegistration) : Json :=
  .record [("fee_recipient", x.feeRecipient.toJson), ("gas_limit", quotedUInt64 x.gasLimit),
    ("timestamp", quotedUInt64 x.timestamp), ("pubkey", x.publicKey.toJson)]

/-- Its fields. -/
def shape : List Json.Field :=
  ["fee_recipient", "gas_limit", "timestamp", "pubkey"]

/-- Decode the object. -/
def decode : Json.Decoder ValidatorRegistration :=
  .record "struct ValidatorRegistration" shape fun fs =>
    ValidatorRegistration.mk <$> fs.required "fee_recipient" FixedBytes.decode
      <*> fs.required "gas_limit" .quotedUInt64
      <*> fs.required "timestamp" .quotedUInt64
      <*> fs.required "pubkey" FixedBytes.decode

/-- Its hash tree root. -/
def root (hash : Compression) (x : ValidatorRegistration) : Root :=
  containerRoot hash [bytesRoot hash x.feeRecipient.bytes, uint64Root x.gasLimit,
    uint64Root x.timestamp, bytesRoot hash x.publicKey.bytes]

end ValidatorRegistration

end RemoteSigner
