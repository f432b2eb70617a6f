import RemoteSigner.Text.Compatibility
import RemoteSigner.Text.Utf8

/-!
# Keystore passwords

A password counts in its compatibility decomposition, without control
characters.
-/

namespace RemoteSigner.Password

/-- The normal form of a password. -/
def normalize (password : String) : String :=
  String.ofList ((Text.compatibilityForm password.toList).filter fun c => !Text.isControl c)

/-- The bytes of the normal form. -/
def bytes (password : String) : Bytes :=
  Utf8.encode (normalize password)

end RemoteSigner.Password
