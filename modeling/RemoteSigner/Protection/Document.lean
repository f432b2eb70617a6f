import RemoteSigner.Json.Decode
import RemoteSigner.Protection.Interchange
import RemoteSigner.Protection.Pruning

/-!
# The protection database as a document

Everything that is in a database, in the order in which it is there, so that a
database can be kept and shown. Numbers are written in digits, bytes in
hexadecimal, and what is missing as null.
-/

namespace RemoteSigner

namespace Stored

/-- A stored number. -/
def number (i : Int) : Json :=
  .text (if i < 0 then "-" ++ Numeral.encode i.natAbs else Numeral.encode i.natAbs)

/-- A nullable stored number. -/
def nullable (i : Option Int) : Json :=
  (i.map number).getD .null

/-- A nullable stored root. -/
def root (bytes : Option Bytes) : Json :=
  (bytes.map fun b => Json.text (Hex.encode b)).getD .null

/-- Decode a stored number. -/
def decodeNumber : Json.Decoder Int :=
  .textWith fun s =>
    match s.toList with
    | '-' :: digits =>
        match Numeral.decode (bound + 1) (String.ofList digits) with
        | .ok n => .ok (-n)
        | .error e => .error e.message
    | _ =>
        match Numeral.decode bound s with
        | .ok n => .ok n
        | .error e => .error e.message

/-- Decode stored bytes. -/
def decodeBytes : Json.Decoder Bytes :=
  .textWith fun s => (Hex.decode s).mapError (·.message)

end Stored

namespace StoredBlock

/-- The document of a record. -/
def toJson (b : StoredBlock) : Json :=
  .list [Stored.number b.slot, Stored.root b.root]

/-- Decode a record. -/
def decode : Json.Decoder StoredBlock :=
  .record "a block record" ["slot", "root"] fun fs =>
    StoredBlock.mk <$> fs.required "slot" Stored.decodeNumber
      <*> fs.required "root" (.optional Stored.decodeBytes)

end StoredBlock

namespace StoredAttestation

/-- The document of a record. -/
def toJson (a : StoredAttestation) : Json :=
  .list [Stored.number a.source, Stored.number a.target, Stored.root a.root]

/-- Decode a record. -/
def decode : Json.Decoder StoredAttestation :=
  .record "an attestation record" ["source", "target", "root"] fun fs =>
    StoredAttestation.mk <$> fs.required "source" Stored.decodeNumber
      <*> fs.required "target" Stored.decodeNumber
      <*> fs.required "root" (.optional Stored.decodeBytes)

end StoredAttestation

namespace StoredWatermark

/-- The document of a watermark. -/
def toJson (w : StoredWatermark) : Json :=
  .list [Stored.nullable w.slot, Stored.nullable w.source, Stored.nullable w.target]

/-- Decode a watermark. -/
def decode : Json.Decoder StoredWatermark :=
  .record "a watermark" ["slot", "source", "target"] fun fs =>
    StoredWatermark.mk <$> fs.required "slot" (.optional Stored.decodeNumber)
      <*> fs.required "source" (.optional Stored.decodeNumber)
      <*> fs.required "target" (.optional Stored.decodeNumber)

end StoredWatermark

namespace Validator

/-- The document of a validator. -/
def toJson (v : Validator) : Json :=
  .record [("key", .text v.key.text), ("enabled", .boolean v.enabled),
    ("watermark", (v.watermark.map StoredWatermark.toJson).getD .null),
    ("blocks", .list (v.blocks.map StoredBlock.toJson)),
    ("attestations", .list (v.attestations.map StoredAttestation.toJson))]

/-- Decode a validator. -/
def decode : Json.Decoder Validator :=
  .record "a validator" ["key", "enabled", "watermark", "blocks", "attestations"] fun fs =>
    Validator.mk <$> fs.required "key" SignerId.decode
      <*> fs.required "enabled" .boolean
      <*> fs.required "watermark" (.optional StoredWatermark.decode)
      <*> fs.required "blocks" (.list StoredBlock.decode)
      <*> fs.required "attestations" (.list StoredAttestation.decode)

/-- The validator with its records by slot and by target. -/
def arranged (v : Validator) : Validator :=
  { v with blocks := v.blocksInOrder, attestations := v.attestationsInOrder }

end Validator

namespace Metadata

/-- The document of the metadata. -/
def toJson (m : Metadata) : Json :=
  .record [("genesis_validators_root", Stored.root (m.genesisRoot.map (·.bytes))),
    ("high_slot", Stored.nullable m.highSlot), ("high_epoch", Stored.nullable m.highEpoch)]

/-- Decode the metadata. -/
def decode : Json.Decoder Metadata :=
  .record "metadata" ["genesis_validators_root", "high_slot", "high_epoch"] fun fs =>
    Metadata.mk <$> fs.required "genesis_validators_root" (.optional FixedBytes.decode)
      <*> fs.required "high_slot" (.optional Stored.decodeNumber)
      <*> fs.required "high_epoch" (.optional Stored.decodeNumber)

end Metadata

namespace Database

/-- The members that hold the metadata and the validators. -/
def members (metadata : Option Metadata) (validators : List Validator) : List (String × Json) :=
  [("metadata", (metadata.map Metadata.toJson).getD .null),
    ("validators", .list (validators.map Validator.toJson))]

/-- The document of a database. -/
def toJson (db : Database) : Json :=
  .record (("version", Stored.nullable db.version) :: members db.metadata db.validators)

/-- Decode a database. -/
def decode : Json.Decoder Database :=
  .record "a protection database" ["version", "metadata", "validators"] fun fs =>
    Database.mk <$> fs.required "version" (.optional Stored.decodeNumber)
      <*> fs.required "metadata" (.optional Metadata.decode)
      <*> fs.required "validators" (.list Validator.decode)

/-- What a database holds, with validators by key and records by slot and by
target. -/
def inventory (db : Database) : Json :=
  .record (members db.metadata
    ((db.validators.mergeSort fun a b => !b.key.before a.key).map Validator.arranged))

end Database

/-- The document of what an import did. -/
def ImportSummary.toJson (s : ImportSummary) : Json :=
  .record [("validators", .count s.validators), ("blocks_imported", .count s.blocksImported),
    ("blocks_skipped", .count s.blocksSkipped),
    ("attestations_imported", .count s.attestationsImported),
    ("attestations_skipped", .count s.attestationsSkipped)]

/-- The document of what pruning removed. -/
def PruneReport.toJson (r : PruneReport) : Json :=
  .record [("validators", .count r.validators), ("blocks_deleted", .count r.blocksDeleted),
    ("attestations_deleted", .count r.attestationsDeleted)]

end RemoteSigner
