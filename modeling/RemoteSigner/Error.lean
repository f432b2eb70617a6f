/-!
# Errors of the shared vocabulary

What goes wrong with identifiers, roots and other values that every part of
the signer shares.
-/

namespace RemoteSigner

/-- The kind of a shared error. -/
inductive ErrorKind where
  | invalid
  | notFound
  | crypto
  | serialization
  | storage
  | internal
deriving DecidableEq, Repr

/-- The wording of a kind. -/
def ErrorKind.label : ErrorKind → String
  | .invalid => "Invalid"
  | .notFound => "Not found"
  | .crypto => "Crypto error"
  | .serialization => "Serialization error"
  | .storage => "Storage error"
  | .internal => "Internal error"

/-- A shared error. -/
structure CoreError where
  kind : ErrorKind
  detail : String
deriving DecidableEq, Repr

namespace CoreError

/-- The wording of an error. -/
def message (e : CoreError) : String :=
  e.kind.label ++ ": " ++ e.detail

/-- An error about a value that cannot be used. -/
def invalid (detail : String) : CoreError :=
  ⟨.invalid, detail⟩

end CoreError

end RemoteSigner
