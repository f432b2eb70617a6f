import RemoteSigner.Json.Decode
import RemoteSigner.Signing.Error

/-!
# Errors answered over HTTP
-/

namespace RemoteSigner

/-- Why a request to the interface fails. -/
inductive ApiError where
  | badBody (fault : Json.DecodeError)
  | signing (error : SigningError)
  | disabled (feature : String)

namespace ApiError

/-- The wording of an error. -/
def message : ApiError → String
  | .badBody fault => "malformed request body: " ++ fault.message
  | .signing e => e.message
  | .disabled feature => feature ++ " is disabled"

/-- The status of an error. -/
def status : ApiError → Nat
  | .badBody _ => 400
  | .disabled _ => 404
  | .signing (.noSuchKey _) => 404
  | .signing (.protectionEnforced _) => 412
  | .signing e => if e.isClientError then 400 else 500

/-- The document of an error. -/
def toJson (e : ApiError) : Json :=
  .record [("message", .text e.message)]

end ApiError

end RemoteSigner
