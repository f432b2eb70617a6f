import RemoteSigner.Protection.Database

/-!
# Pruning of signing history

What is kept of a validator's records is counted back from its newest one, not
from a clock. Before older records go the watermark rises to the oldest record
that stays, so nothing that conflicted with them becomes acceptable.
-/

namespace RemoteSigner

/-- How much history is kept, and when pruning runs. -/
structure PruningConfig where
  epochsToKeep : UInt64
  slotsPerEpoch : UInt64
  intervalMillis : Nat
  atBoot : Bool
deriving DecidableEq

/-- What one run removed. -/
structure PruneReport where
  validators : Nat
  blocksDeleted : Nat
  attestationsDeleted : Nat
deriving DecidableEq, Repr

namespace PruningConfig

/-- The fault of a configuration that keeps nothing. -/
def fault? (c : PruningConfig) : Option ProtectionError :=
  if c.epochsToKeep = 0 then some (.invalidArgument "epochs to keep must be positive")
  else if c.slotsPerEpoch = 0 then some (.invalidArgument "slots per epoch must be positive")
  else none

/-- The number of slots kept: a product that stops at 64 bits. -/
def slotsToKeep (c : PruningConfig) : Nat :=
  min (c.epochsToKeep.toNat * c.slotsPerEpoch.toNat) Numeral.maxUInt64

end PruningConfig

namespace Validator

/-- The first of the records from `cutoff` on. -/
def oldestBlock (cutoff : Int) (v : Validator) : Option StoredBlock :=
  v.blocksInOrder.find? (cutoff ≤ ·.slot)

/-- The first of the records from `cutoff` on. -/
def oldestAttestation (cutoff : Int) (v : Validator) : Option StoredAttestation :=
  v.attestationsInOrder.find? (cutoff ≤ ·.target)

/-- Remove block records more than `keep` slots behind the newest. -/
def pruneBlocks (keep : Nat) (v : Validator) : Protected (Nat × Validator) :=
  match Stored.largest (v.blocks.map (·.slot)) with
  | none => .ok (0, v)
  | some newest => do
      let newest ← Stored.toUInt64 newest
      let cutoff := newest.toNat - keep
      if cutoff = 0 then pure (0, v)
      else
        let cutoff ← Stored.ofUInt64 (UInt64.ofNat cutoff)
        let v ← match v.oldestBlock cutoff with
          | none => pure v
          | some b => do
              let record ← b.toRecord
              pure (v.raiseSlot (← Stored.ofUInt64 record.slot))
        let kept := v.blocks.filter (cutoff ≤ ·.slot)
        pure (v.blocks.length - kept.length, { v with blocks := kept })

/-- Remove attestation records more than `keep` epochs behind the newest. -/
def pruneAttestations (keep : Nat) (v : Validator) : Protected (Nat × Validator) :=
  match Stored.largest (v.attestations.map (·.target)) with
  | none => .ok (0, v)
  | some newest => do
      let newest ← Stored.toUInt64 newest
      let cutoff := newest.toNat - keep
      if cutoff = 0 then pure (0, v)
      else
        let cutoff ← Stored.ofUInt64 (UInt64.ofNat cutoff)
        let v ← match v.oldestAttestation cutoff with
          | none => pure v
          | some a => do
              let record ← a.toRecord
              pure (v.raiseEpochs (← Stored.ofUInt64 record.source)
                (← Stored.ofUInt64 record.target))
        let kept := v.attestations.filter (cutoff ≤ ·.target)
        pure (v.attestations.length - kept.length, { v with attestations := kept })

/-- Remove old records. -/
def prune (c : PruningConfig) (v : Validator) : Protected ((Nat × Nat) × Validator) := do
  let (blocks, v) ← v.pruneBlocks c.slotsToKeep
  let (attestations, v) ← v.pruneAttestations c.epochsToKeep.toNat
  pure ((blocks, attestations), v)

end Validator

end RemoteSigner
