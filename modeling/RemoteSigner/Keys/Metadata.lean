import RemoteSigner.Keys.Error
import RemoteSigner.Toml.Document
import RemoteSigner.Toml.Printer

/-!
# Signing metadata

Each key is described by a document whose `type` names the place of its
secret: the document itself, a keystore with a password file, or an entry of a
vault.
-/

namespace RemoteSigner

/-- A secret in a HashiCorp vault. -/
structure HashicorpSecret where
  serverHost : String
  serverPort : Nat
  tlsEnabled : Bool
  keyPath : String
  keyName : String
  token : String
  timeoutMillis : Nat
deriving DecidableEq, Repr

/-- A secret in an Azure key vault. -/
structure AzureSecret where
  vaultName : String
  secretName : String
  clientId : Option String
  clientSecret : Option String
  tenantId : Option String
deriving DecidableEq, Repr

/-- A secret in the AWS secrets manager. -/
structure AwsSecret where
  region : String
  secretName : String
  authenticationMode : Option String
  accessKeyId : Option String
  secretAccessKey : Option String
deriving DecidableEq, Repr

/-- A secret in the GCP secret manager. -/
structure GcpSecret where
  projectId : String
  secretName : String
deriving DecidableEq, Repr

/-- Where the secret of a key is. -/
inductive SecretSource where
  | fileRaw (privateKey : String)
  | fileKeystore (keystoreFile passwordFile : String)
  | hashicorp (secret : HashicorpSecret)
  | azure (secret : AzureSecret)
  | aws (secret : AwsSecret)
  | gcp (secret : GcpSecret)
deriving DecidableEq, Repr

/-- The description of a key. -/
structure SigningMetadata where
  source : SecretSource
  keyType : KeyType
deriving DecidableEq, Repr

namespace SecretSource

/-- The name of a kind of source. -/
def kind : SecretSource → String
  | fileRaw _ => "file-raw"
  | fileKeystore .. => "file-keystore"
  | hashicorp _ => "hashicorp"
  | azure _ => "azure-secret"
  | aws _ => "aws-secret"
  | gcp _ => "gcp-secret"

/-- A field that may be missing. -/
def optionalField (key : String) (value : Option String) : String × Json :=
  (key, (value.map Json.text).getD .null)

/-- The fields of a source; what is missing is null. -/
def fields : SecretSource → List (String × Json)
  | fileRaw privateKey => [("privateKey", .text privateKey)]
  | fileKeystore keystoreFile passwordFile =>
      [("keystoreFile", .text keystoreFile), ("keystorePasswordFile", .text passwordFile)]
  | hashicorp s =>
      [("serverHost", .text s.serverHost), ("serverPort", .count s.serverPort),
        ("tlsEnabled", .boolean s.tlsEnabled), ("keyPath", .text s.keyPath),
        ("keyName", .text s.keyName), ("token", .text s.token),
        ("timeout", .count s.timeoutMillis)]
  | azure s =>
      [("vaultName", .text s.vaultName), ("secretName", .text s.secretName),
        optionalField "clientId" s.clientId, optionalField "clientSecret" s.clientSecret,
        optionalField "tenantId" s.tenantId]
  | aws s =>
      [("region", .text s.region), ("secretName", .text s.secretName),
        optionalField "authenticationMode" s.authenticationMode,
        optionalField "accessKeyId" s.accessKeyId,
        optionalField "secretAccessKey" s.secretAccessKey]
  | gcp s => [("projectId", .text s.projectId), ("secretName", .text s.secretName)]

end SecretSource

namespace SigningMetadata

/-- The field of the scheme. -/
def keyTypeField (fs : Json.Fields) : Json.Placed KeyType :=
  fs.withDefault "keyType" KeyType.decode .bls

/-- A field that may be missing. -/
def optionalText (fs : Json.Fields) (name : String) : Json.Placed (Option String) :=
  fs.withDefault name (.optional .text) none

/-- The fields of each kind of source. -/
def kinds : List (String × (Json.Fields → Json.Placed SecretSource)) := [
  ("file-raw", fun fs => SecretSource.fileRaw <$> fs.required "privateKey" .text),
  ("file-keystore", fun fs =>
    SecretSource.fileKeystore <$> fs.required "keystoreFile" .text
      <*> fs.required "keystorePasswordFile" .text),
  ("hashicorp", fun fs =>
    (fun host port tls path name token timeout =>
        SecretSource.hashicorp ⟨host, port, tls, path, name, token, timeout⟩)
      <$> fs.required "serverHost" .text
      <*> fs.withDefault "serverPort" (.natural 65535 "u16") 8200
      <*> fs.withDefault "tlsEnabled" .boolean false
      <*> fs.required "keyPath" .text
      <*> fs.withDefault "keyName" .text "value"
      <*> fs.required "token" .text
      <*> fs.withDefault "timeout" (.natural Numeral.maxUInt64 "u64") 10000),
  ("azure-secret", fun fs =>
    (fun vault name client secret tenant =>
        SecretSource.azure ⟨vault, name, client, secret, tenant⟩)
      <$> fs.required "vaultName" .text
      <*> fs.required "secretName" .text
      <*> optionalText fs "clientId"
      <*> optionalText fs "clientSecret"
      <*> optionalText fs "tenantId"),
  ("aws-secret", fun fs =>
    (fun region name mode access secret => SecretSource.aws ⟨region, name, mode, access, secret⟩)
      <$> fs.required "region" .text
      <*> fs.required "secretName" .text
      <*> optionalText fs "authenticationMode"
      <*> optionalText fs "accessKeyId"
      <*> optionalText fs "secretAccessKey"),
  ("gcp-secret", fun fs =>
    (fun project name => SecretSource.gcp ⟨project, name⟩)
      <$> fs.required "projectId" .text
      <*> fs.required "secretName" .text)]

/-- Decode a description. -/
def decode : Json.Decoder SigningMetadata := fun depth r =>
  match r with
  | .record members .kept =>
      match Json.Fields.givenBy (Json.Fields.placed 0 members) "type" with
      | [] => .error (.missingField "type")
      | (_, type) :: _ => do
          let name ← Json.Decoder.variantName depth type
          match kinds.lookup name with
          | none => .error (.unknownVariant name (kinds.map (·.1)))
          | some fields =>
              let fs := Json.Fields.ofMembers [] depth members
              (SigningMetadata.mk <$> fields fs <*> keyTypeField fs).toExcept
  | r => .error (Json.Decoder.mismatch "a description of a key" r)

/-- Read a description. -/
def ofText (path text : String) : Except KeyError SigningMetadata :=
  match Toml.decode? decode text with
  | some m => .ok m
  | none => .error (.metadata path "TOML parse error")

/-- The members of a description. -/
def members (m : SigningMetadata) : List (String × Json) :=
  ("type", .text m.source.kind) :: (m.source.fields ++ [("keyType", .text m.keyType.name)])

/-- The text of a description. -/
def toText (m : SigningMetadata) : String :=
  String.join (m.members.map fun (key, value) => Toml.assignment key value)

end SigningMetadata

/-- The password in a password file: its first line, which must not be empty. -/
def passwordOf (path : String) (content : Except FileError Bytes) : Except KeyError String :=
  match content with
  | .error e => .error (.passwordFile path e.detail)
  | .ok bytes =>
      match Utf8.decode? bytes with
      | none => .error (.passwordFile path (FileError.of .notText).detail)
      | some text =>
          let line := Text.firstLine text
          if line.isEmpty then .error (.passwordFile path "password file is empty") else .ok line

end RemoteSigner
