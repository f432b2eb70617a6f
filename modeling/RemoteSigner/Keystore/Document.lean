import RemoteSigner.Keys.Error

/-!
# Keystore documents

An encrypted secret with the description of how to decrypt it, in version four
of the format. Only the shape is checked on reading; whether the functions
named are known shows on decryption.
-/

namespace RemoteSigner

/-- A function with its parameters and its message. -/
structure KeystoreModule (P : Type) where
  function : String
  params : P
  message : String

/-- The parameters of a key derivation. -/
inductive KdfParams where
  | scrypt (length n r p : Nat) (salt : String)
  | pbkdf2 (rounds length : Nat) (prf salt : String)
deriving DecidableEq, Repr

/-- A keystore. -/
structure Keystore where
  kdf : KeystoreModule KdfParams
  checksum : KeystoreModule Json
  /-- The parameter of the cipher is its initial vector. -/
  cipher : KeystoreModule String
  description : Option String
  publicKey : String
  path : String
  uuid : String
  version : Nat

namespace KeystoreModule

variable {P : Type}

/-- The document of a module. -/
def toJson (render : P → Json) (m : KeystoreModule P) : Json :=
  .record [("function", .text m.function), ("params", render m.params),
    ("message", .text m.message)]

/-- Decode a module. -/
def decode (params : Json.Decoder P) : Json.Decoder (KeystoreModule P) :=
  .record "struct Module" ["function", "params", "message"] fun fs =>
    KeystoreModule.mk <$> fs.required "function" .text
      <*> fs.required "params" params
      <*> fs.required "message" .text

end KeystoreModule

namespace KdfParams

/-- The document of parameters. -/
def toJson : KdfParams → Json
  | .scrypt length n r p salt =>
      .record [("dklen", .count length), ("n", .count n), ("r", .count r), ("p", .count p),
        ("salt", .text salt)]
  | .pbkdf2 rounds length prf salt =>
      .record [("c", .count rounds), ("dklen", .count length), ("prf", .text prf),
        ("salt", .text salt)]

/-- Decode a number of 32 bits. -/
def word : Json.Decoder Nat :=
  .natural 4294967295 "u32"

/-- Decode a length. -/
def size : Json.Decoder Nat :=
  .natural Numeral.maxUInt64 "usize"

/-- Decode the parameters of scrypt. -/
def decodeScrypt : Json.Decoder KdfParams :=
  .record "struct variant KdfParams::Scrypt" ["dklen", "n", "r", "p", "salt"] fun fs =>
    KdfParams.scrypt <$> fs.required "dklen" size
      <*> fs.required "n" word
      <*> fs.required "r" word
      <*> fs.required "p" word
      <*> fs.required "salt" .text

/-- Decode the parameters of pbkdf2. -/
def decodePbkdf2 : Json.Decoder KdfParams :=
  .record "struct variant KdfParams::Pbkdf2" ["c", "dklen", "prf", "salt"] fun fs =>
    KdfParams.pbkdf2 <$> fs.required "c" word
      <*> fs.required "dklen" size
      <*> fs.required "prf" .text
      <*> fs.required "salt" .text

/-- Decode parameters: those of scrypt if they are complete, else those of
pbkdf2. Only an object holds parameters. -/
def decode : Json.Decoder KdfParams := fun depth r => do
  match ← Json.Decoder.document depth r with
  | .record members =>
      let whole := Json.Reading.ofJson (.record members)
      match decodeScrypt Json.nestingBound whole with
      | .ok params => pure params
      | .error _ =>
          match decodePbkdf2 Json.nestingBound whole with
          | .ok params => pure params
          | .error _ => .error (.noAlternative "KdfParams")
  | _ => .error (.noAlternative "KdfParams")

end KdfParams

namespace Keystore

/-- The only version of the format. -/
def formatVersion : Nat := 4

/-- The document of the parameters of a cipher. -/
def cipherParamsToJson (iv : String) : Json :=
  .record [("iv", .text iv)]

/-- Decode the parameters of a cipher. -/
def decodeCipherParams : Json.Decoder String :=
  .record "struct CipherParams" ["iv"] fun fs => fs.required "iv" .text

/-- Decode any document; of equal keys the last counts. -/
def decodeAny : Json.Decoder Json := fun depth r =>
  (Json.Decoder.document depth r).map Json.sorted

/-- The three modules of a keystore. -/
abbrev Crypto :=
  KeystoreModule KdfParams × KeystoreModule Json × KeystoreModule String

/-- Decode the modules. -/
def decodeCrypto : Json.Decoder Crypto :=
  .record "struct KeystoreCrypto" ["kdf", "checksum", "cipher"] fun fs =>
    (fun kdf checksum cipher => (kdf, checksum, cipher))
      <$> fs.required "kdf" (KeystoreModule.decode KdfParams.decode)
      <*> fs.required "checksum" (KeystoreModule.decode decodeAny)
      <*> fs.required "cipher" (KeystoreModule.decode decodeCipherParams)

/-- The document of a keystore. -/
def toJson (k : Keystore) : Json :=
  .record ([("crypto", .record [("kdf", k.kdf.toJson KdfParams.toJson),
      ("checksum", k.checksum.toJson id), ("cipher", k.cipher.toJson cipherParamsToJson)])] ++
    (k.description.map fun d => ("description", Json.text d)).toList ++
    [("pubkey", .text k.publicKey), ("path", .text k.path), ("uuid", .text k.uuid),
      ("version", .count k.version)])

/-- Decode a keystore of any version. -/
def decode : Json.Decoder Keystore :=
  .record "struct Keystore" ["crypto", "description", "pubkey", "path", "uuid", "version"]
    fun fs =>
      (fun (crypto : Crypto) description publicKey path uuid version =>
          Keystore.mk crypto.1 crypto.2.1 crypto.2.2 description publicKey path uuid version)
        <$> fs.required "crypto" decodeCrypto
        <*> fs.withDefault "description" (.optional .text) none
        <*> fs.withDefault "pubkey" .text ""
        <*> fs.withDefault "path" .text ""
        <*> fs.required "uuid" .text
        <*> fs.required "version" KdfParams.word

/-- Read a keystore. -/
def ofText (text : String) : Except KeyError Keystore :=
  match decode.ofText text with
  | .error e => .error (.keystore ("malformed keystore json: " ++ e.message))
  | .ok k =>
      if k.version = formatVersion then .ok k
      else .error (.keystore ("unsupported keystore version " ++ Numeral.encode k.version))

/-- The text of a keystore. -/
def toText (k : Keystore) : String :=
  k.toJson.pretty

end Keystore

end RemoteSigner
