import RemoteSigner.Files.Error
import RemoteSigner.KeyType

/-!
# Errors of key material

Each is about one source: a metadata file, a keystore, an entry of a vault.
-/

namespace RemoteSigner

/-- Why key material cannot be had or used. -/
inductive KeyError where
  | metadata (path detail : String)
  | io (path : String) (error : FileError)
  | passwordFile (path detail : String)
  | keystore (detail : String)
  /-- The derived key does not fit the checksum of the keystore. -/
  | checksumMismatch
  | keyMaterial (keyType : KeyType) (detail : String)
  | vault (detail : String)
  /-- No provider serves a kind of vault. -/
  | missingProvider (kind : String)
  /-- A source took too long. -/
  | timeout (path : String)
  | directoryUnreadable (path : String) (error : FileError)
  | signing (detail : String)
  /-- The registry takes no more commands. -/
  | registryClosed
deriving DecidableEq, Repr

namespace KeyError

/-- The wording of an error. -/
def message : KeyError → String
  | .metadata path detail => "invalid signing metadata in " ++ path ++ ": " ++ detail
  | .io path e => "I/O error on " ++ path ++ ": " ++ e.detail
  | .passwordFile path detail => "invalid password file " ++ path ++ ": " ++ detail
  | .keystore detail => "invalid keystore: " ++ detail
  | .checksumMismatch => "keystore checksum mismatch, password is probably wrong"
  | .keyMaterial keyType detail => "invalid " ++ keyType.name ++ " key material: " ++ detail
  | .vault detail => "vault request failed: " ++ detail
  | .missingProvider kind => "no secret provider configured for " ++ kind
  | .timeout path => "timed out loading " ++ path
  | .directoryUnreadable path e => "cannot list key directory " ++ path ++ ": " ++ e.detail
  | .signing detail => "signing failed: " ++ detail
  | .registryClosed => "signer registry is shut down"

/-- The wordings of the causes beneath an error, outermost first. -/
def causes : KeyError → List String
  | .io _ e | .directoryUnreadable _ e => [e.detail]
  | _ => []

/-- The error in the shared vocabulary. -/
def toCore (e : KeyError) : CoreError :=
  match e with
  | .io .. | .directoryUnreadable .. => ⟨.storage, e.message⟩
  | .checksumMismatch | .keyMaterial .. | .signing _ => ⟨.crypto, e.message⟩
  | .registryClosed => ⟨.internal, e.message⟩
  | _ => .invalid e.message

end KeyError

end RemoteSigner
