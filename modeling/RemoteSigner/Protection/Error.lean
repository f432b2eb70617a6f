import RemoteSigner.Bytes.Fixed

/-!
# Errors of the protection database

A refusal to sign is no error; these are failures of the store and of what is
given to it.
-/

namespace RemoteSigner

/-- How the database fails. -/
inductive StoreFault where
  /-- Another connection holds a lock, in the words of the store. -/
  | busy (detail : String)
  /-- The store fails in its own words. -/
  | failed (detail : String)
  /-- A number does not fit a signed 64-bit column. -/
  | unstorable
  /-- A column holds what its type does not allow. -/
  | unreadable
  /-- A row is missing. -/
  | noRow
deriving DecidableEq, Repr

/-- The wording of a fault. -/
def StoreFault.message : StoreFault → String
  | .busy detail | .failed detail => detail
  | .unstorable => "out of range integral type conversion attempted"
  | .unreadable => "conversion error in column"
  | .noRow => "query returned no rows"

namespace StoreFault

/-- The fault met while another connection writes. -/
def locked : StoreFault :=
  .busy "database is locked"

/-- The fault of a row that repeats a key. -/
def constraint : StoreFault :=
  .failed "UNIQUE constraint failed"

/-- The fault of a file that cannot be opened. -/
def cannotOpen : StoreFault :=
  .failed "unable to open database file"

end StoreFault

/-- Why an operation on the protection database fails. -/
inductive ProtectionError where
  | database (fault : StoreFault)
  | versionMismatch (expected found : Int)
  | genesisRootAlreadySet (existing : Root)
  | genesisRootMismatch (existing supplied : Root)
  | missingGenesisRoot
  | interchange (detail : String)
  | invalidArgument (detail : String)
  | retriesExhausted (attempts : Nat)
  | io (path detail : String)
  | task (detail : String)
deriving DecidableEq

namespace ProtectionError

/-- The wording of an error. -/
def message : ProtectionError → String
  | .database fault => "slashing protection database error: " ++ fault.message
  | .versionMismatch expected found =>
      "slashing protection database version " ++ toString found ++
        " is not supported, expected " ++ toString expected
  | .genesisRootAlreadySet existing =>
      "genesis validators root is already set to " ++ existing.toHex
  | .genesisRootMismatch existing supplied =>
      "genesis validators root " ++ supplied.toHex ++ " does not match " ++ existing.toHex
  | .missingGenesisRoot => "no genesis validators root is stored yet"
  | .interchange detail => "invalid interchange data: " ++ detail
  | .invalidArgument detail => "invalid argument: " ++ detail
  | .retriesExhausted attempts =>
      "database busy after " ++ toString attempts ++ " attempts"
  | .io path detail => "I/O error on " ++ path ++ ": " ++ detail
  | .task detail => "protection task failed: " ++ detail

/-- The wordings of the causes beneath an error, outermost first. -/
def causes : ProtectionError → List String
  | .database fault => [fault.message]
  | .io _ detail => [detail]
  | _ => []

/-- Whether the caller gave bad data, as opposed to a failure of the store. -/
def isInputError : ProtectionError → Bool
  | .interchange _ | .invalidArgument _ | .genesisRootMismatch .. | .genesisRootAlreadySet _ =>
      true
  | _ => false

/-- Whether the database was busy. -/
def isBusy : ProtectionError → Bool
  | .database (.busy _) => true
  | _ => false

/-- The error in the shared vocabulary. -/
def toCore (e : ProtectionError) : CoreError :=
  if e.isInputError then .invalid e.message
  else
    match e with
    | .task _ => ⟨.internal, e.message⟩
    | _ => ⟨.storage, e.message⟩

end ProtectionError

end RemoteSigner
