import RemoteSigner.Json.Decode
import RemoteSigner.SignerId

/-!
# Key manager requests and answers

Keystores come as texts, each with its password, and may bring signing
history; answers have one outcome for each entry, in the order of the request.
-/

namespace RemoteSigner

/-- A request to take in keystores. -/
structure ImportRequest where
  keystores : List String
  passwords : List String
  history : Option String
deriving DecidableEq

namespace ImportRequest

/-- The document of a request. -/
def toJson (r : ImportRequest) : Json :=
  .record ([("keystores", .list (r.keystores.map .text)),
    ("passwords", .list (r.passwords.map .text))] ++
      (r.history.map fun h => ("slashing_protection", Json.text h)).toList)

/-- Decode a request. -/
def decode : Json.Decoder ImportRequest :=
  .record "struct ImportKeystoresRequest" ["keystores", "passwords", "slashing_protection"]
    fun fs =>
      ImportRequest.mk <$> fs.required "keystores" (.list .text)
        <*> fs.required "passwords" (.list .text)
        <*> fs.withDefault "slashing_protection" (.optional .text) none

end ImportRequest

/-- A request to delete keys. -/
structure DeleteRequest where
  publicKeys : List String
deriving DecidableEq

/-- Decode a request. -/
def DeleteRequest.decode : Json.Decoder DeleteRequest :=
  .record "struct DeleteKeystoresRequest" ["pubkeys"] fun fs =>
    DeleteRequest.mk <$> fs.required "pubkeys" (.list .text)

/-- What became of one keystore. -/
inductive ImportOutcome where
  | imported
  | duplicate
  | failed (detail : String)
deriving DecidableEq, Repr

/-- The document of a status and its message, which is left out when empty. -/
def outcomeToJson (status message : String) : Json :=
  .record (("status", .text status) ::
    if message.isEmpty then [] else [("message", .text message)])

/-- The document of an outcome. -/
def ImportOutcome.toJson : ImportOutcome → Json
  | .imported => outcomeToJson "imported" ""
  | .duplicate => outcomeToJson "duplicate" ""
  | .failed detail => outcomeToJson "error" detail

/-- The answer to an import. -/
structure ImportResponse where
  data : List ImportOutcome
deriving DecidableEq

/-- The document of an answer. -/
def ImportResponse.toJson (r : ImportResponse) : Json :=
  .record [("data", .list (r.data.map ImportOutcome.toJson))]

/-- What became of one key. -/
inductive DeleteOutcome where
  | deleted
  /-- Not loaded, but it has signing history. -/
  | notActive
  | notFound
  | failed (detail : String)
deriving DecidableEq, Repr

/-- The document of an outcome. -/
def DeleteOutcome.toJson : DeleteOutcome → Json
  | .deleted => outcomeToJson "deleted" ""
  | .notActive => outcomeToJson "not_active" ""
  | .notFound => outcomeToJson "not_found" ""
  | .failed detail => outcomeToJson "error" detail

/-- The answer to a deletion, with the history of what is gone. -/
structure DeleteResponse where
  data : List DeleteOutcome
  history : Option String
deriving DecidableEq

/-- The document of an answer. -/
def DeleteResponse.toJson (r : DeleteResponse) : Json :=
  .record (("data", .list (r.data.map DeleteOutcome.toJson)) ::
    (r.history.map fun h => ("slashing_protection", Json.text h)).toList)

/-- The document of the list of loaded keys, all of which can be deleted. -/
def keystoreListToJson (keys : List SignerId) : Json :=
  .record [("data", .list (keys.map fun key =>
    .record [("validating_pubkey", key.toJson), ("readonly", .boolean false)]))]

end RemoteSigner
