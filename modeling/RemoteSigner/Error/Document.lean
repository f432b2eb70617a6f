import RemoteSigner.Error
import RemoteSigner.Json.Decode

/-!
# Documents of shared errors

An error is an object whose only key is its kind.
-/

namespace RemoteSigner

namespace ErrorKind

/-- The kinds with their names. -/
def named : List (String × ErrorKind) := [
  ("Invalid", .invalid), ("NotFound", .notFound), ("Crypto", .crypto),
  ("Serialization", .serialization), ("Storage", .storage), ("Internal", .internal)]

/-- The name of a kind. -/
def name (k : ErrorKind) : String :=
  match k with
  | .invalid => "Invalid"
  | .notFound => "NotFound"
  | .crypto => "Crypto"
  | .serialization => "Serialization"
  | .storage => "Storage"
  | .internal => "Internal"

end ErrorKind

namespace CoreError

/-- The document of an error. -/
def toJson (e : CoreError) : Json :=
  .record [(e.kind.name, .record [("message", .text e.detail)])]

/-- Decode what an error of one kind carries. -/
def decodePayload (kind : ErrorKind) (carried : Option Json.Reading) (depth : Nat) :
    Except Json.DecodeError CoreError :=
  match carried with
  | none => .error (.wrongKind .unitVariant "struct variant")
  | some r =>
      Json.Decoder.record ("struct variant VigilError::" ++ kind.name) ["message"]
        (fun fs => CoreError.mk kind <$> fs.required "message" .text) depth r

/-- Decode an error. -/
def decode : Json.Decoder CoreError :=
  .variant (ErrorKind.named.map (·.1)) fun name =>
    (ErrorKind.named.lookup name).map decodePayload

end CoreError

end RemoteSigner
