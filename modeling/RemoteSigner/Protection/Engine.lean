import RemoteSigner.Protection.Interchange
import RemoteSigner.Protection.Pruning
import RemoteSigner.Protection.Transaction

/-!
# The operations of slashing protection

Each operation is one transaction, except that a pruning run makes one for
each validator. A refusal is a result and is committed; an error undoes all.
-/

namespace RemoteSigner

/-- An open protection database. -/
structure Engine where
  maxAttempts : Nat
  /-- Whether another connection holds the write lock. -/
  locked : Bool
  database : Database
deriving DecidableEq

namespace Database

/-- Check a block and record what is accepted. -/
def mayBlock (key : SignerId) (request : BlockRequest) (genesisRoot : Root) :
    Operation Decision := fun db =>
  match db.admitGenesisRoot genesisRoot with
  | (false, db) => .ok (.reject .genesisRootMismatch, db)
  | (true, db) =>
      db.withValidator key fun v =>
        if !v.enabled then .ok (.reject .validatorDisabled, v)
        else do
          let high ← db.highWatermark
          v.signBlock high request

/-- Check an attestation and record what is accepted. -/
def mayAttest (key : SignerId) (request : AttestationRequest) (genesisRoot : Root) :
    Operation Decision := fun db =>
  match db.admitGenesisRoot genesisRoot with
  | (false, db) => .ok (.reject .genesisRootMismatch, db)
  | (true, db) =>
      db.withValidator key fun v =>
        if !v.enabled then .ok (.reject .validatorDisabled, v)
        else do
          let high ← db.highWatermark
          v.signAttestation high request

/-- Create the rows of validators that have none. -/
def register (keys : List SignerId) : Operation Unit := fun db =>
  .ok ((), keys.foldl (fun db key => db.ensure key) db)

/-- Enable or disable a validator, and tell whether it exists. -/
def setEnabled (key : SignerId) (enabled : Bool) : Operation Bool := fun db =>
  .ok ((db.find? key).isSome, db.update key fun v => { v with enabled := enabled })

/-- Raise the watermark of every validator to at least the given values. The
epoch counts for source and target alike. -/
def raiseLow (slot : Option Slot) (epoch : Option Epoch) : Operation Nat := fun db =>
  if db.validators.isEmpty then .ok (0, db)
  else do
    let slot ← store? slot
    let epoch ← store? epoch
    let raised := db.validators.map fun v =>
      let v := slot.elim v (v.raiseSlot ·)
      epoch.elim v fun e => v.raiseEpochs e e
    pure (db.validators.length, { db with validators := raised })

/-- The ceiling. -/
def readHigh : Operation HighWatermark := fun db => do
  pure (← db.highWatermark, db)

/-- Replace the ceiling. -/
def replaceHigh (high : HighWatermark) : Operation Unit := fun db => do
  pure ((), ← db.storeHighWatermark high)

/-- The keys of all validators. -/
def readKeys : Operation (List SignerId) := fun db =>
  .ok (db.validators.map (·.key), db)

/-- Hand out history. -/
def readHistory (filter : Option (List SignerId)) : Operation Interchange := fun db => do
  pure (← Interchange.ofDatabase filter db, db)

/-- Remove old records of one validator: the number of blocks and attestations
that went. A validator without a row has no records. -/
def pruneOne (c : PruningConfig) (key : SignerId) : Operation (Nat × Nat) := fun db =>
  match db.find? key with
  | none => .ok ((0, 0), db)
  | some v => do
      let (removed, v) ← v.prune c
      pure (removed, db.update key fun _ => v)

/-- Check the version when the database is opened, and write it where it is
missing. -/
def admitVersion : Operation Unit := fun db =>
  match db.version with
  | none => .ok ((), { db with version := some currentVersion })
  | some found =>
      if found = currentVersion then .ok ((), db)
      else .error (.versionMismatch currentVersion found)

end Database

namespace Engine

variable {α : Type}

/-- Run an operation as one transaction. -/
def transact (e : Engine) (body : Operation α) : Protected α × Engine :=
  let (result, db) :=
    Transaction.run e.maxAttempts (Transaction.attempts e.locked body) e.database
  (result, { e with database := db })

/-- Open a database: one attempt, for a busy database is no reason to wait. -/
def openOn (e : Engine) : Protected Engine := do
  if e.locked then .error (.database .locked)
  else
    let (_, db) ← Database.admitVersion e.database
    pure { e with database := db }

/-- Check a block and record what is accepted. -/
def mayBlock (e : Engine) (key : SignerId) (request : BlockRequest) (genesisRoot : Root) :
    Protected Decision × Engine :=
  e.transact (Database.mayBlock key request genesisRoot)

/-- Check an attestation and record what is accepted. -/
def mayAttest (e : Engine) (key : SignerId) (request : AttestationRequest)
    (genesisRoot : Root) : Protected Decision × Engine :=
  e.transact (Database.mayAttest key request genesisRoot)

/-- Create the rows of validators that have none. -/
def register (e : Engine) (keys : List SignerId) : Protected Unit × Engine :=
  if keys.isEmpty then (.ok (), e) else e.transact (Database.register keys)

/-- Enable or disable a validator, and tell whether it exists. -/
def setEnabled (e : Engine) (key : SignerId) (enabled : Bool) : Protected Bool × Engine :=
  e.transact (Database.setEnabled key enabled)

/-- Raise the watermark of every validator, and tell how many there are. -/
def raiseLow (e : Engine) (slot : Option Slot) (epoch : Option Epoch) :
    Protected Nat × Engine :=
  if slot.isNone && epoch.isNone then
    (.error (.invalidArgument "a slot or an epoch is required"), e)
  else e.transact (Database.raiseLow slot epoch)

/-- The ceiling. -/
def highWatermark (e : Engine) : Protected HighWatermark × Engine :=
  e.transact Database.readHigh

/-- Replace the ceiling. -/
def setHighWatermark (e : Engine) (high : HighWatermark) : Protected Unit × Engine :=
  if high.isEmpty then
    (.error (.invalidArgument "a high watermark needs a slot or an epoch"), e)
  else e.transact (Database.replaceHigh high)

/-- Remove the ceiling. -/
def removeHighWatermark (e : Engine) : Protected Unit × Engine :=
  e.transact (Database.replaceHigh .none)

/-- Hand out the history of every validator, or of those that `filter` names. -/
def exportHistory (e : Engine) (filter : Option (List SignerId)) :
    Protected Interchange × Engine :=
  e.transact (Database.readHistory filter)

/-- Take in a document of history. -/
def importHistory (e : Engine) (d : Interchange) : Protected ImportSummary × Engine :=
  e.transact d.importTo

/-- Whether the database answers: it can be read while it is locked, but it
must know its version. -/
def isHealthy (e : Engine) : Bool :=
  e.database.version.isSome

/-- Remove old records of the given validators, one transaction each, adding to
what was removed before. -/
def pruneEach (c : PruningConfig) :
    List SignerId → PruneReport → Engine → Protected PruneReport × Engine
  | [], report, e => (.ok report, e)
  | key :: rest, report, e =>
      match e.transact (Database.pruneOne c key) with
      | (.error fault, e) => (.error fault, e)
      | (.ok (blocks, attestations), e) =>
          pruneEach c rest
            { report with
              blocksDeleted := report.blocksDeleted + blocks
              attestationsDeleted := report.attestationsDeleted + attestations } e

/-- Remove old records of every validator. -/
def prune (e : Engine) (c : PruningConfig) : Protected PruneReport × Engine :=
  match c.fault? with
  | some fault => (.error fault, e)
  | none =>
      match e.transact Database.readKeys with
      | (.error fault, e) => (.error fault, e)
      | (.ok keys, e) => pruneEach c keys ⟨keys.length, 0, 0⟩ e

end Engine

end RemoteSigner
