import RemoteSigner.Keystore.Document
import RemoteSigner.Keystore.Password
import RemoteSigner.Keystore.Suite

/-!
# Encryption of secrets in keystores

The password is stretched; half of the outcome keys the cipher and the other
half goes into a checksum that tells a wrong password. Decryption knows both
key derivations of the format, encryption uses pbkdf2.
-/

namespace RemoteSigner.Keystore

/-- The least length of a derived key. -/
def derivedLength : Nat := 32

/-- The bytes of a hexadecimal field, with any number of `0x` in front. -/
def bytesOf (field value : String) : Except KeyError Bytes :=
  match Hex.decodeChars (Text.dropMarkers value.toList) with
  | .ok bytes => .ok bytes
  | .error e => .error (.keystore (field ++ " is not hex: " ++ e.message))

/-- Whether a number is a power of two other than one. -/
def isTableSize (n : Nat) : Bool :=
  2 ≤ n && n == 1 <<< Nat.log2 n

/-- Check the length of a derived key. -/
def checkLength (length : Nat) : Except KeyError Unit :=
  if length < derivedLength then
    .error (.keystore ("derived key length " ++ toString length ++ " is shorter than " ++
      toString derivedLength))
  else .ok ()

/-- Stretch a password as a keystore describes. -/
def deriveKey (suite : KeySuite) (k : Keystore) (password : Bytes) : Except KeyError Bytes :=
  match k.kdf.params, k.kdf.function with
  | .scrypt length n r p salt, "scrypt" => do
      checkLength length
      if !isTableSize n then .error (.keystore "scrypt n must be a power of two")
      else
        let salt ← bytesOf "kdf.params.salt" salt
        if Scrypt.Cost.isValid ⟨n, r, p⟩ length then
          pure (suite.scrypt password salt ⟨n, r, p⟩ length).bytes
        else .error (.keystore "invalid scrypt params: invalid scrypt parameters")
  | .pbkdf2 rounds length prf salt, "pbkdf2" => do
      checkLength length
      if prf ≠ "hmac-sha256" then .error (.keystore ("unsupported pbkdf2 prf " ++ prf))
      else
        let salt ← bytesOf "kdf.params.salt" salt
        pure (suite.pbkdf2 password salt rounds length).bytes
  | _, function =>
      .error (.keystore ("kdf function " ++ function ++ " does not match its params"))

/-- The checksum of a message under a derived key. -/
def checksumOf (suite : KeySuite) (derived message : Bytes) : Bytes :=
  (suite.digest ((derived.drop 16).take 16 ++ message)).bytes

/-- Apply the key stream of a derived key. -/
def applyCipher (suite : KeySuite) (derived iv message : Bytes) : Except KeyError Bytes :=
  let key := derived.take 16
  if key.length = 16 ∧ iv.length = 16 then
    .ok (message.mapIdx fun i b => b ^^^ suite.keyStream key iv i)
  else .error (.keystore "aes-128-ctr needs a 16-byte key and iv")

/-- Decrypt the secret. -/
def decrypt (suite : KeySuite) (k : Keystore) (password : String) : Except KeyError Bytes := do
  let derived ← k.deriveKey suite (Password.bytes password)
  let message ← bytesOf "cipher.message" k.cipher.message
  let expected ← bytesOf "checksum.message" k.checksum.message
  if k.checksum.function ≠ "sha256" then
    .error (.keystore ("unsupported checksum function " ++ k.checksum.function))
  else if checksumOf suite derived message ≠ expected then .error .checksumMismatch
  else if k.cipher.function ≠ "aes-128-ctr" then
    .error (.keystore ("unsupported cipher " ++ k.cipher.function))
  else
    let iv ← bytesOf "cipher.params.iv" k.cipher.params
    applyCipher suite derived iv message

/-- The random bytes that an encryption uses. -/
structure Randomness where
  salt : FixedBytes 32
  iv : FixedBytes 16
  uuid : FixedBytes 16

/-- The text of sixteen random bytes as an identifier of version four. -/
def uuidText (bytes : FixedBytes 16) : String :=
  let marked := bytes.bytes.mapIdx fun i b =>
    if i = 6 then (b &&& 0x0f) ||| 0x40 else if i = 8 then (b &&& 0x3f) ||| 0x80 else b
  let part (start count : Nat) : String := Hex.encode ((marked.drop start).take count)
  Text.join "-" [part 0 4, part 4 2, part 6 2, part 8 2, part 10 6]

/-- Encrypt a secret. -/
def encrypt (suite : KeySuite) (random : Randomness) (secret : Bytes) (password : String)
    (publicKey : Bytes) (rounds : Nat) : Except KeyError Keystore := do
  let derived :=
    (suite.pbkdf2 (Password.bytes password) random.salt.bytes rounds derivedLength).bytes
  let message ← applyCipher suite derived random.iv.bytes secret
  pure {
    kdf :=
      ⟨"pbkdf2", .pbkdf2 rounds derivedLength "hmac-sha256" (Hex.encode random.salt.bytes), ""⟩
    checksum := ⟨"sha256", .record [], Hex.encode (checksumOf suite derived message)⟩
    cipher := ⟨"aes-128-ctr", Hex.encode random.iv.bytes, Hex.encode message⟩
    description := none
    publicKey := Hex.encode publicKey
    path := ""
    uuid := uuidText random.uuid
    version := formatVersion }

/-- The signer of a keystore. A public key that the keystore declares has to be
that of its secret. -/
def toSigner (suite : KeySuite) (k : Keystore) (password : String) (keyType : KeyType) :
    Except KeyError Signer := do
  let secret ← k.decrypt suite password
  let signer ← suite.signer keyType secret
  if !k.publicKey.isEmpty && SignerId.normalize k.publicKey != signer.identifier.text then
    .error (.keystore ("keystore pubkey " ++ k.publicKey ++ " does not match its secret"))
  else pure signer

end RemoteSigner.Keystore
