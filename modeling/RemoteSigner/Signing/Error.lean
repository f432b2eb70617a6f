import RemoteSigner.Keys.Error
import RemoteSigner.Protection.Decision
import RemoteSigner.Protection.Error

/-!
# Errors of signing

A refusal by slashing protection stands apart from failures, so that a caller
can tell that nothing is broken.
-/

namespace RemoteSigner

/-- Why nothing was signed. -/
inductive SigningError where
  | invalidIdentifier (detail : String)
  | invalidRequest (detail : String)
  | rootMismatch (supplied computed : Root)
  | noSuchKey (identifier : String)
  | protectionEnforced (reason : Rejection)
  | protection (error : ProtectionError)
  | signer (error : KeyError)
  | task (detail : String)
deriving DecidableEq

namespace SigningError

/-- The wording of an error. -/
def message : SigningError → String
  | .invalidIdentifier detail => "invalid signer identifier: " ++ detail
  | .invalidRequest detail => "invalid signing request: " ++ detail
  | .rootMismatch supplied computed =>
      "signing root " ++ supplied.toHex ++ " does not match computed root " ++ computed.toHex
  | .noSuchKey identifier => "no signer for identifier " ++ identifier
  | .protectionEnforced reason => "slashing protection refused to sign: " ++ reason.message
  | .protection e => "slashing protection failed: " ++ e.message
  | .signer e => "signer failed: " ++ e.message
  | .task detail => "signing task failed: " ++ detail

/-- Whether the client can mend the request. -/
def isClientError : SigningError → Bool
  | .invalidIdentifier _ | .invalidRequest _ | .rootMismatch .. => true
  | _ => false

/-- A fault of the request in the shared vocabulary. -/
def ofCore (e : CoreError) : SigningError :=
  .invalidRequest e.message

end SigningError

end RemoteSigner
