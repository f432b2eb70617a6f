import RemoteSigner.Files.Disk
import RemoteSigner.Keys.Vault
import RemoteSigner.Keystore.Encryption

/-!
# From descriptions to signers

The one place that knows what to do with each kind of description. A secret
given as text is hexadecimal; a keystore is opened with the first line of its
password file.
-/

namespace RemoteSigner

/-- What comes of decoding one description. -/
inductive Decoding where
  | done (result : Except KeyError Signer)
  /-- Nothing, for as long as anyone waits. -/
  | stalled

/-- What decoding rests on besides the disk. -/
structure Workshop where
  suite : KeySuite
  providers : SecretProviders

/-- The workshop with the standard functions and providers. -/
def Workshop.standard : Workshop :=
  ⟨.standard, .standard⟩

/-- The bytes of a secret given as text. -/
def secretBytes (text : String) : Except KeyError Bytes :=
  match Hex.decodeChars (Text.dropMarkers (Text.trim text.toList)) with
  | .ok bytes => .ok bytes
  | .error e => .error (.keystore ("secret is not hex: " ++ e.message))

/-- The password in a file. -/
def Disk.password (disk : Disk) (path : FilePath) : Except KeyError String :=
  passwordOf path (disk.readBytes path)

/-- The keystore in a file. -/
def Disk.keystore (disk : Disk) (path : FilePath) : Except KeyError Keystore :=
  match disk.readText path with
  | .error e => .error (.io path e)
  | .ok text => Keystore.ofText text

/-- The signer of a keystore file and a password file. -/
def Disk.keystoreSigner (disk : Disk) (suite : KeySuite) (keystorePath passwordPath : FilePath)
    (keyType : KeyType) : Except KeyError Signer := do
  let password ← disk.password passwordPath
  let keystore ← disk.keystore keystorePath
  keystore.toSigner suite password keyType

namespace SigningMetadata

/-- The signer of a secret given as text. -/
def signerOfText (suite : KeySuite) (keyType : KeyType) (text : String) :
    Except KeyError Signer := do
  suite.signer keyType (← secretBytes text)

/-- The signer that a description describes; relative paths start from `base`. -/
def signer (m : SigningMetadata) (shop : Workshop) (disk : Disk) (base : FilePath) : Decoding :=
  match m.source with
  | .fileRaw privateKey => .done (signerOfText shop.suite m.keyType privateKey)
  | .fileKeystore keystoreFile passwordFile =>
      .done (disk.keystoreSigner shop.suite (base.join keystoreFile) (base.join passwordFile)
        m.keyType)
  | _ =>
      match shop.providers.fetch m with
      | .silence => .stalled
      | .answer secret => .done (secret >>= signerOfText shop.suite m.keyType)

end SigningMetadata

/-- Decode the description in a file. -/
def Disk.decodeSource (disk : Disk) (shop : Workshop) (base path : FilePath) : Decoding :=
  match disk.readText path with
  | .error e => .done (.error (.io path e))
  | .ok text =>
      match SigningMetadata.ofText path text with
      | .error e => .done (.error e)
      | .ok m => m.signer shop disk base

end RemoteSigner
