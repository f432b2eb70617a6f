import RemoteSigner.Protection.Record

/-!
# The rules against slashable messages

Pure rules over what is on record: a block is refused below the watermark, at
the ceiling, or beside a different block of its slot; an attestation likewise,
and beside a record of its target or one that surrounds it or that it
surrounds.
-/

namespace RemoteSigner

/-- Why a signature is refused. -/
inductive Rejection where
  | genesisRootMismatch
  | validatorDisabled
  | blockBelowWatermark (slot watermark : Slot)
  | blockAboveHighWatermark (slot high : Slot)
  | doubleBlockProposal (slot : Slot)
  | sourceAfterTarget (source target : Epoch)
  | sourceBelowWatermark (source watermark : Epoch)
  | targetBelowWatermark (target watermark : Epoch)
  | attestationAboveHighWatermark (source target high : Epoch)
  | doubleVote (target : Epoch)
  | surroundingVote (source target : Epoch)
  | surroundedVote (source target : Epoch)
deriving DecidableEq

/-- The digits of a 64-bit number. -/
def decimal (n : UInt64) : String :=
  Numeral.encode n.toNat

/-- The wording of a refusal. -/
def Rejection.message : Rejection → String
  | .genesisRootMismatch => "genesis validators root does not match the database"
  | .validatorDisabled => "validator is disabled"
  | .blockBelowWatermark slot watermark =>
      "block slot " ++ decimal slot ++ " is below the watermark " ++ decimal watermark
  | .blockAboveHighWatermark slot high =>
      "block slot " ++ decimal slot ++ " is at or above the high watermark " ++ decimal high
  | .doubleBlockProposal slot =>
      "a different block was already signed at slot " ++ decimal slot
  | .sourceAfterTarget source target =>
      "source epoch " ++ decimal source ++ " is after target epoch " ++ decimal target
  | .sourceBelowWatermark source watermark =>
      "source epoch " ++ decimal source ++ " is below the watermark " ++ decimal watermark
  | .targetBelowWatermark target watermark =>
      "target epoch " ++ decimal target ++ " is below the watermark " ++ decimal watermark
  | .attestationAboveHighWatermark source target high =>
      "attestation " ++ decimal source ++ "->" ++ decimal target ++
        " reaches the high watermark " ++ decimal high
  | .doubleVote target =>
      "a different attestation was already signed for target " ++ decimal target
  | .surroundingVote source target =>
      "attestation surrounds signed attestation " ++ decimal source ++ "->" ++ decimal target
  | .surroundedVote source target =>
      "attestation is surrounded by signed attestation " ++ decimal source ++ "->" ++
        decimal target

/-- The outcome of a check. A message already on record needs no new record. -/
inductive Decision where
  | accept (record : Bool)
  | reject (reason : Rejection)
deriving DecidableEq

/-- A block that is to be signed. -/
structure BlockRequest where
  slot : Slot
  root : Root
deriving DecidableEq

/-- An attestation that is to be signed. -/
structure AttestationRequest where
  source : Epoch
  target : Epoch
  root : Root
deriving DecidableEq

namespace Decision

/-- Decide a block by the record at its slot. -/
def block (watermark : Watermark) (high : HighWatermark) (existing : Option SignedBlock)
    (request : BlockRequest) : Decision :=
  match watermark.slot.filter (request.slot < ·) with
  | some low => .reject (.blockBelowWatermark request.slot low)
  | none =>
      match high.slot.filter (· ≤ request.slot) with
      | some top => .reject (.blockAboveHighWatermark request.slot top)
      | none =>
          match existing with
          | none => .accept true
          | some record =>
              if record.root = some request.root then .accept false
              else .reject (.doubleBlockProposal request.slot)

/-- The refusal that one record gives reason for. -/
def conflict? (request : AttestationRequest) (record : SignedAttestation) : Option Rejection :=
  if record.target = request.target then some (.doubleVote request.target)
  else if record.source < request.source ∧ request.target < record.target then
    some (.surroundedVote record.source record.target)
  else if request.source < record.source ∧ record.target < request.target then
    some (.surroundingVote record.source record.target)
  else none

/-- Whether a record is of the very message. -/
def isSame (request : AttestationRequest) (record : SignedAttestation) : Bool :=
  record.source == request.source && record.target == request.target &&
    record.root == some request.root

/-- Decide an attestation by records, among them all that conflict with it. -/
def attestation (watermark : Watermark) (high : HighWatermark)
    (history : List SignedAttestation) (request : AttestationRequest) : Decision :=
  if request.target < request.source then
    .reject (.sourceAfterTarget request.source request.target)
  else
    match watermark.source.filter (request.source < ·) with
    | some low => .reject (.sourceBelowWatermark request.source low)
    | none =>
        match watermark.target.filter (request.target < ·) with
        | some low => .reject (.targetBelowWatermark request.target low)
        | none =>
            match high.epoch.filter fun top => top ≤ request.source ∨ top ≤ request.target with
            | some top =>
                .reject (.attestationAboveHighWatermark request.source request.target top)
            | none =>
                if history.any (isSame request) then .accept false
                else
                  match history.findSome? (conflict? request) with
                  | some reason => .reject reason
                  | none => .accept true

end Decision

end RemoteSigner
