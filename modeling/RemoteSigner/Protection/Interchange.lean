import RemoteSigner.Protection.Database

/-!
# The interchange format of signing history

A document names its chain and lists the records of each validator. Taking one
in writes the records that conflict with nothing on record and raises the
watermarks to the highest values listed; handing one out lists validators in
the order of creation, blocks by slot and attestations by target.
-/

namespace RemoteSigner

/-- The history of one validator. -/
structure History where
  key : SignerId
  blocks : List SignedBlock
  attestations : List SignedAttestation
deriving DecidableEq

/-- A document of signing history. -/
structure Interchange where
  version : String
  genesisRoot : Root
  data : List History
deriving DecidableEq

/-- The number of records that were written and passed over. -/
structure ImportSummary where
  validators : Nat
  blocksImported : Nat
  blocksSkipped : Nat
  attestationsImported : Nat
  attestationsSkipped : Nat
deriving DecidableEq, Repr

namespace SignedBlock

/-- The member of an optional root. -/
def rootMember (root : Option Root) : List (String × Json) :=
  (root.map fun r => ("signing_root", r.toJson)).toList

/-- The document of a record. -/
def toJson (b : SignedBlock) : Json :=
  .record (("slot", quotedUInt64 b.slot) :: rootMember b.root)

/-- Decode a record. -/
def decode : Json.Decoder SignedBlock :=
  .record "struct InterchangeBlock" ["slot", "signing_root"] fun fs =>
    SignedBlock.mk <$> fs.required "slot" .quotedUInt64
      <*> fs.withDefault "signing_root" (.optional FixedBytes.decode) none

end SignedBlock

namespace SignedAttestation

/-- The document of a record. -/
def toJson (a : SignedAttestation) : Json :=
  .record (("source_epoch", quotedUInt64 a.source) :: ("target_epoch", quotedUInt64 a.target) ::
    SignedBlock.rootMember a.root)

/-- Decode a record. -/
def decode : Json.Decoder SignedAttestation :=
  .record "struct InterchangeAttestation" ["source_epoch", "target_epoch", "signing_root"]
    fun fs =>
      SignedAttestation.mk <$> fs.required "source_epoch" .quotedUInt64
        <*> fs.required "target_epoch" .quotedUInt64
        <*> fs.withDefault "signing_root" (.optional FixedBytes.decode) none

end SignedAttestation

namespace History

/-- The document of a history. -/
def toJson (h : History) : Json :=
  .record [("pubkey", h.key.toJson), ("signed_blocks", .list (h.blocks.map SignedBlock.toJson)),
    ("signed_attestations", .list (h.attestations.map SignedAttestation.toJson))]

/-- Decode a history. -/
def decode : Json.Decoder History :=
  .record "struct InterchangeValidator" ["pubkey", "signed_blocks", "signed_attestations"]
    fun fs =>
      History.mk <$> fs.required "pubkey" SignerId.decode
        <*> fs.withDefault "signed_blocks" (.list SignedBlock.decode) []
        <*> fs.withDefault "signed_attestations" (.list SignedAttestation.decode) []

/-- Take in the block records of a history: the validator after them and how
many were written and passed over. -/
def importBlocks : List SignedBlock → Validator → Protected (Nat × Nat × Validator)
  | [], v => .ok (0, 0, v)
  | b :: rest, v => do
      let slot ← Stored.ofUInt64 b.slot
      match ← v.findBlock slot with
      | some _ => do
          let (imported, skipped, v) ← importBlocks rest v
          pure (imported, skipped + 1, v)
      | none => do
          let v ← v.insertBlock ⟨slot, b.root.map (·.bytes)⟩
          let (imported, skipped, v) ← importBlocks rest v
          pure (imported + 1, skipped, v)

/-- Take in the attestation records of a history from number `index` on. -/
def importAttestations (key : SignerId) :
    Nat → List SignedAttestation → Validator → Protected (Nat × Nat × Validator)
  | _, [], v => .ok (0, 0, v)
  | index, a :: rest, v => do
      if a.target < a.source then
        .error (.interchange
          ("attestation #" ++ toString index ++ " of " ++ key.marked ++ " has source epoch " ++
            decimal a.source ++ " after target epoch " ++ decimal a.target))
      else
        let source ← Stored.ofUInt64 a.source
        let target ← Stored.ofUInt64 a.target
        match ← v.findConflicts source target with
        | [] => do
            let v ← v.insertAttestation ⟨source, target, a.root.map (·.bytes)⟩
            let (imported, skipped, v) ← importAttestations key (index + 1) rest v
            pure (imported + 1, skipped, v)
        | _ :: _ => do
            let (imported, skipped, v) ← importAttestations key (index + 1) rest v
            pure (imported, skipped + 1, v)

/-- The largest of several 64-bit numbers. -/
def maximum? : List UInt64 → Option UInt64
  | [] => none
  | n :: rest => some (match maximum? rest with | none => n | some m => if n < m then m else n)

/-- Raise the slot of the watermark to the largest slot listed. -/
def raiseSlot (h : History) (v : Validator) : Protected Validator :=
  match maximum? (h.blocks.map (·.slot)) with
  | none => .ok v
  | some slot => do pure (v.raiseSlot (← Stored.ofUInt64 slot))

/-- Raise the epochs of the watermark to the largest ones listed. -/
def raiseEpochs (h : History) (v : Validator) : Protected Validator :=
  match maximum? (h.attestations.map (·.source)), maximum? (h.attestations.map (·.target)) with
  | some source, some target => do
      pure (v.raiseEpochs (← Stored.ofUInt64 source) (← Stored.ofUInt64 target))
  | _, _ => .ok v

/-- Take in a history. -/
def importTo (h : History) (v : Validator) : Protected (ImportSummary × Validator) := do
  let (blocks, blocksSkipped, v) ← importBlocks h.blocks v
  let v ← h.raiseSlot v
  let (attestations, attestationsSkipped, v) ← importAttestations h.key 0 h.attestations v
  let v ← h.raiseEpochs v
  pure (⟨1, blocks, blocksSkipped, attestations, attestationsSkipped⟩, v)

/-- The history of a validator as read. -/
def ofValidator (v : Validator) : Protected History := do
  let blocks ← v.blocksInOrder.mapM StoredBlock.toRecord
  let attestations ← v.attestationsInOrder.mapM StoredAttestation.toRecord
  pure ⟨v.key, blocks, attestations⟩

end History

namespace ImportSummary

/-- Nothing taken in. -/
def zero : ImportSummary := ⟨0, 0, 0, 0, 0⟩

/-- Two summaries together. -/
def add (a b : ImportSummary) : ImportSummary :=
  ⟨a.validators + b.validators, a.blocksImported + b.blocksImported,
    a.blocksSkipped + b.blocksSkipped, a.attestationsImported + b.attestationsImported,
    a.attestationsSkipped + b.attestationsSkipped⟩

end ImportSummary

namespace Interchange

/-- The only version of the format that is understood. -/
def formatVersion : String := "5"

/-- The document of a history of several validators. -/
def toJson (d : Interchange) : Json :=
  .record [
    ("metadata", .record [("interchange_format_version", .text d.version),
      ("genesis_validators_root", d.genesisRoot.toJson)]),
    ("data", .list (d.data.map History.toJson))]

/-- Decode the header of a document. -/
def decodeMetadata : Json.Decoder (String × Root) :=
  .record "struct InterchangeMetadata" ["interchange_format_version", "genesis_validators_root"]
    fun fs =>
      Prod.mk <$> fs.required "interchange_format_version" .text
        <*> fs.required "genesis_validators_root" FixedBytes.decode

/-- Decode a document. -/
def decode : Json.Decoder Interchange :=
  .record "struct Interchange" ["metadata", "data"] fun fs =>
    (fun (header : String × Root) data => Interchange.mk header.1 header.2 data)
      <$> fs.required "metadata" decodeMetadata
      <*> fs.required "data" (.list History.decode)

/-- Read a document. -/
def ofText (text : String) : Protected Interchange :=
  (decode.ofText text).mapError fun e => .interchange e.message

/-- The text of a document. -/
def toText (d : Interchange) : String :=
  d.toJson.pretty

/-- Take in the histories of a document one after another. -/
def importHistories : List History → Database → Protected (ImportSummary × Database)
  | [], db => .ok (.zero, db)
  | h :: rest, db => do
      let (first, db) ← db.withValidator h.key h.importTo
      let (others, db) ← importHistories rest db
      pure (first.add others, db)

/-- Take in a document. -/
def importTo (d : Interchange) (db : Database) : Protected (ImportSummary × Database) :=
  if d.version ≠ formatVersion then
    .error (.interchange
      ("expected interchange_format_version " ++ formatVersion ++ ", found " ++ d.version))
  else
    match db.admitGenesisRoot d.genesisRoot with
    | (false, db) =>
        .error (.genesisRootMismatch (db.genesisRoot?.getD (FixedBytes.zero 32)) d.genesisRoot)
    | (true, db) => importHistories d.data db

/-- Hand out the history of every validator, or of those that `filter` names. -/
def ofDatabase (filter : Option (List SignerId)) (db : Database) : Protected Interchange :=
  match db.genesisRoot? with
  | none => .error .missingGenesisRoot
  | some root => do
      let wanted := db.validators.filter fun v => filter.all (·.contains v.key)
      let data ← wanted.mapM History.ofValidator
      pure ⟨formatVersion, root, data⟩

end Interchange

end RemoteSigner
