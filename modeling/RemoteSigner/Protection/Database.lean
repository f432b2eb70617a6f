import RemoteSigner.Protection.Decision
import RemoteSigner.Protection.Error
import RemoteSigner.SignerId

/-!
# The protection database

One row of metadata and the validators in the order of their creation, each
with its watermark and records. Integers are stored signed with 64 bits: a
larger number cannot be stored, a negative one cannot be read. Operations are
functions from a database to a result and the database after it, so a failing
one leaves nothing behind.
-/

namespace RemoteSigner

/-- A block record as stored. -/
structure StoredBlock where
  slot : Int
  root : Option Bytes
deriving DecidableEq

/-- An attestation record as stored. -/
structure StoredAttestation where
  source : Int
  target : Int
  root : Option Bytes
deriving DecidableEq

/-- A watermark as stored. -/
structure StoredWatermark where
  slot : Option Int
  source : Option Int
  target : Option Int
deriving DecidableEq

/-- A validator with its records in the order of insertion. -/
structure Validator where
  key : SignerId
  enabled : Bool
  watermark : Option StoredWatermark
  blocks : List StoredBlock
  attestations : List StoredAttestation
deriving DecidableEq

/-- The row of metadata. -/
structure Metadata where
  genesisRoot : Option Root
  highSlot : Option Int
  highEpoch : Option Int
deriving DecidableEq

/-- A protection database. -/
structure Database where
  version : Option Int
  metadata : Option Metadata
  validators : List Validator
deriving DecidableEq

/-- The result of an operation that can fail. -/
abbrev Protected (α : Type) := Except ProtectionError α

namespace Stored

/-- The largest number a column holds. -/
def bound : Nat := 9223372036854775807

/-- A number as stored. -/
def ofUInt64 (n : UInt64) : Protected Int :=
  if n.toNat ≤ bound then .ok n.toNat else .error (.database .unstorable)

/-- A stored number as read. -/
def toUInt64 (i : Int) : Protected UInt64 :=
  if 0 ≤ i then .ok (UInt64.ofNat i.toNat) else .error (.database .unreadable)

/-- A nullable stored number as read. -/
def toUInt64? : Option Int → Protected (Option UInt64)
  | none => .ok none
  | some i => (toUInt64 i).map some

/-- A nullable stored root as read. -/
def toRoot? : Option Bytes → Protected (Option Root)
  | none => .ok none
  | some bytes =>
      match FixedBytes.ofBytes? bytes with
      | some root => .ok (some root)
      | none => .error (.database .unreadable)

/-- The larger of two nullable numbers. -/
def raise (old : Option Int) (new : Int) : Int :=
  match old with
  | none => new
  | some i => if i < new then new else i

/-- The largest of several numbers. -/
def largest : List Int → Option Int
  | [] => none
  | i :: rest => some (raise (largest rest) i)

end Stored

namespace StoredBlock

/-- A record as stored. -/
def ofRecord (b : SignedBlock) : Protected StoredBlock := do
  pure ⟨← Stored.ofUInt64 b.slot, b.root.map (·.bytes)⟩

/-- A stored record as read. -/
def toRecord (b : StoredBlock) : Protected SignedBlock := do
  pure ⟨← Stored.toUInt64 b.slot, ← Stored.toRoot? b.root⟩

end StoredBlock

namespace StoredAttestation

/-- A record as stored. -/
def ofRecord (a : SignedAttestation) : Protected StoredAttestation := do
  pure ⟨← Stored.ofUInt64 a.source, ← Stored.ofUInt64 a.target, a.root.map (·.bytes)⟩

/-- A stored record as read. -/
def toRecord (a : StoredAttestation) : Protected SignedAttestation := do
  pure ⟨← Stored.toUInt64 a.source, ← Stored.toUInt64 a.target, ← Stored.toRoot? a.root⟩

/-- Whether a record conflicts with a vote from `source` to `target`. -/
def conflicts (source target : Int) (a : StoredAttestation) : Bool :=
  a.target == target || (a.source < source && target < a.target) ||
    (source < a.source && a.target < target)

end StoredAttestation

namespace Validator

/-- A validator without history. -/
def fresh (key : SignerId) : Validator :=
  ⟨key, true, none, [], []⟩

/-- The watermark as read. -/
def lowWatermark (v : Validator) : Protected Watermark :=
  match v.watermark with
  | none => .ok ⟨none, none, none⟩
  | some w => do
      pure ⟨← Stored.toUInt64? w.slot, ← Stored.toUInt64? w.source, ← Stored.toUInt64? w.target⟩

/-- Raise the slot of the watermark to at least `slot`. -/
def raiseSlot (slot : Int) (v : Validator) : Validator :=
  let w := v.watermark.getD ⟨none, none, none⟩
  { v with watermark := some { w with slot := some (Stored.raise w.slot slot) } }

/-- Raise the epochs of the watermark to at least `source` and `target`. -/
def raiseEpochs (source target : Int) (v : Validator) : Validator :=
  let w := v.watermark.getD ⟨none, none, none⟩
  { v with watermark := some { w with
      source := some (Stored.raise w.source source)
      target := some (Stored.raise w.target target) } }

/-- The record at a slot. -/
def findBlock (slot : Int) (v : Validator) : Protected (Option SignedBlock) :=
  match v.blocks.find? (·.slot == slot) with
  | none => .ok none
  | some b => b.toRecord.map some

/-- Add a block record; a slot has at most one. -/
def insertBlock (b : StoredBlock) (v : Validator) : Protected Validator :=
  if v.blocks.any (·.slot == b.slot) then .error (.database .constraint)
  else .ok { v with blocks := v.blocks ++ [b] }

/-- Block records by slot. -/
def blocksInOrder (v : Validator) : List StoredBlock :=
  v.blocks.mergeSort fun a b => a.slot ≤ b.slot

/-- The records that conflict with a vote, by source and then by age. -/
def findConflicts (source target : Int) (v : Validator) : Protected (List SignedAttestation) :=
  ((v.attestations.filter (·.conflicts source target)).mergeSort
    fun a b => a.source ≤ b.source).mapM StoredAttestation.toRecord

/-- Add an attestation record; a target has at most one. -/
def insertAttestation (a : StoredAttestation) (v : Validator) : Protected Validator :=
  if v.attestations.any (·.target == a.target) then .error (.database .constraint)
  else .ok { v with attestations := v.attestations ++ [a] }

/-- Attestation records by target. -/
def attestationsInOrder (v : Validator) : List StoredAttestation :=
  v.attestations.mergeSort fun a b => a.target ≤ b.target

/-- Check a block and record what is accepted. -/
def signBlock (high : HighWatermark) (request : BlockRequest) (v : Validator) :
    Protected (Decision × Validator) := do
  let watermark ← v.lowWatermark
  let slot ← Stored.ofUInt64 request.slot
  let existing ← v.findBlock slot
  let decision := Decision.block watermark high existing request
  match decision with
  | .reject _ => pure (decision, v)
  | .accept false => pure (decision, v.raiseSlot slot)
  | .accept true => do
      let v ← v.insertBlock ⟨slot, some request.root.bytes⟩
      pure (decision, v.raiseSlot slot)

/-- Check an attestation and record what is accepted. A vote that runs
backwards is refused before its epochs are looked up. -/
def signAttestation (high : HighWatermark) (request : AttestationRequest) (v : Validator) :
    Protected (Decision × Validator) := do
  let watermark ← v.lowWatermark
  if request.target < request.source then
    pure (Decision.attestation watermark high [] request, v)
  else
    let source ← Stored.ofUInt64 request.source
    let target ← Stored.ofUInt64 request.target
    let history ← v.findConflicts source target
    let decision := Decision.attestation watermark high history request
    match decision with
    | .reject _ => pure (decision, v)
    | .accept false => pure (decision, v.raiseEpochs source target)
    | .accept true => do
        let v ← v.insertAttestation ⟨source, target, some request.root.bytes⟩
        pure (decision, v.raiseEpochs source target)

end Validator

namespace Database

/-- The version this library writes. -/
def currentVersion : Int := 1

/-- A database nothing was written to but its version. -/
def empty : Database :=
  ⟨some currentVersion, none, []⟩

/-- The stored genesis root. -/
def genesisRoot? (db : Database) : Option Root :=
  db.metadata.bind (·.genesisRoot)

/-- Store a genesis root beside whatever else the metadata holds. -/
def storeGenesisRoot (root : Root) (db : Database) : Database :=
  let m := db.metadata.getD ⟨none, none, none⟩
  { db with metadata := some { m with genesisRoot := some root } }

/-- Store a genesis root if there is none; otherwise tell whether it agrees. -/
def admitGenesisRoot (root : Root) (db : Database) : Bool × Database :=
  match db.genesisRoot? with
  | some existing => (existing == root, db)
  | none => (true, db.storeGenesisRoot root)

/-- The ceiling as read. -/
def highWatermark (db : Database) : Protected HighWatermark :=
  match db.metadata with
  | none => .ok .none
  | some m => do pure ⟨← Stored.toUInt64? m.highSlot, ← Stored.toUInt64? m.highEpoch⟩

/-- A nullable number as stored. -/
def store? : Option UInt64 → Protected (Option Int)
  | none => .ok none
  | some n => (Stored.ofUInt64 n).map some

/-- Replace the ceiling. -/
def storeHighWatermark (high : HighWatermark) (db : Database) : Protected Database := do
  let slot ← store? high.slot
  let epoch ← store? high.epoch
  let m := db.metadata.getD ⟨none, none, none⟩
  pure { db with metadata := some { m with highSlot := slot, highEpoch := epoch } }

/-- The row of a validator. -/
def find? (key : SignerId) (db : Database) : Option Validator :=
  db.validators.find? (·.key == key)

/-- Create the row of a validator that has none. -/
def ensure (key : SignerId) (db : Database) : Database :=
  if (db.find? key).isSome then db
  else { db with validators := db.validators ++ [.fresh key] }

/-- Change the row of a validator. -/
def update (key : SignerId) (f : Validator → Validator) (db : Database) : Database :=
  { db with validators := db.validators.map fun v => if v.key == key then f v else v }

/-- Run an operation on the row of a validator, created if it is missing. -/
def withValidator {α : Type} (key : SignerId) (f : Validator → Protected (α × Validator))
    (db : Database) : Protected (α × Database) := do
  let db := db.ensure key
  match db.find? key with
  | none => .error (.database .noRow)
  | some v => do
      let (a, v) ← f v
      pure (a, db.update key fun _ => v)

end Database

end RemoteSigner
