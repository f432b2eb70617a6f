import RemoteSigner.Custody
import RemoteSigner.KeyManager.Request
import RemoteSigner.Keys.KeystoreFiles
import RemoteSigner.Signing.Error

/-!
# Taking in keystores

A request is refused as a whole if it cannot be understood. The history that
comes with it is stored before any of its keys can sign; then each keystore
has an outcome of its own.
-/

namespace RemoteSigner

/-- What the key manager works with. -/
structure KeyManager where
  suite : KeySuite
  medium : Medium
  /-- The directory of the files of keys. -/
  directory : FilePath

/-- A keystore of a request with its key and password. -/
structure Deposit where
  key : SignerId
  keystore : Keystore
  password : String

/-- The fault of history that came with a request. -/
def SigningError.ofHistory (e : ProtectionError) : SigningError :=
  if e.isInputError then .invalidRequest ("slashing protection data: " ++ e.message)
  else .protection e

namespace ImportRequest

/-- The keystore in a text, with the key that it declares. -/
def readKeystore (text : String) : Except SigningError (SignerId × Keystore) := do
  let keystore ← (Keystore.ofText text).mapError fun e => .invalidRequest e.message
  let id ← (SignerId.parse keystore.publicKey).mapError fun e =>
    .invalidRequest ("keystore pubkey: " ++ e.message)
  pure (id, keystore)

/-- The keystores of a request with their passwords. -/
def deposits (r : ImportRequest) : Except SigningError (List Deposit) := do
  if r.keystores.length ≠ r.passwords.length then
    .error (.invalidRequest (toString r.keystores.length ++ " keystores but " ++
      toString r.passwords.length ++ " passwords"))
  else
    let read ← r.keystores.mapM readKeystore
    pure (read.zipWith (fun k password => ⟨k.1, k.2, password⟩) r.passwords)

end ImportRequest

namespace Custody

/-- Store the history of a request, as far as it is about keys of the request. -/
def importHistory (c : Custody) (history : Option String) (keys : List SignerId) :
    Except SigningError Unit × Custody :=
  match c.protection, history with
  | some engine, some text =>
      match Interchange.ofText text with
      | .error e => (.error (.ofHistory e), c)
      | .ok document =>
          let wanted := { document with data := document.data.filter fun h => keys.contains h.key }
          let (result, engine) := engine.importHistory wanted
          ((result.mapError SigningError.ofHistory).map fun _ => (),
            { c with protection := some engine })
  | _, _ => (.ok (), c)

/-- Let a key sign under protection again. -/
def enable (c : Custody) (key : SignerId) : Protected Unit × Custody :=
  match c.protect () fun e => e.register [key] with
  | (.error e, c) => (.error e, c)
  | (.ok (), c) =>
      match c.protect true fun e => e.setEnabled key true with
      | (.error e, c) => (.error e, c)
      | (.ok _, c) => (.ok (), c)

/-- The disk after deleting the files of a key, whatever comes of it. -/
def removeFiles (c : Custody) (m : KeyManager) (key : SignerId) : Custody :=
  { c with disk := (KeystoreFiles.delete m.directory key c.disk).2 }

/-- Take in one keystore: check it, write its files, enable its key and install
its signer. -/
def importOne (c : Custody) (m : KeyManager) (d : Deposit) : Except SigningError Unit × Custody :=
  match d.keystore.toSigner m.suite d.password .bls with
  | .error e => (.error (.signer e), c)
  | .ok signer =>
      match KeystoreFiles.write m.medium m.directory d.key d.keystore d.password .bls c.disk with
      | (.error e, disk) => (.error (.signer e), { c with disk := disk })
      | (.ok _, disk) =>
          match { c with disk := disk }.enable d.key with
          | (.error e, c) => (.error (.protection e), c)
          | (.ok (), c) =>
              match c.registry.addSigner signer with
              | (.error e, registry) =>
                  (.error (.signer e), { c with registry := registry }.removeFiles m d.key)
              | (.ok (), registry) => (.ok (), { c with registry := registry })

/-- Take in keystores one after another; `seen` are the keys that are installed
or were taken in before. -/
def importEach (m : KeyManager) :
    List SignerId → List Deposit → Custody → List ImportOutcome × Custody
  | _, [], c => ([], c)
  | seen, d :: rest, c =>
      if seen.contains d.key then
        let (outcomes, c) := importEach m seen rest c
        (.duplicate :: outcomes, c)
      else
        match c.importOne m d with
        | (.ok (), c) =>
            let (outcomes, c) := importEach m (d.key :: seen) rest c
            (.imported :: outcomes, c)
        | (.error e, c) =>
            let (outcomes, c) := importEach m seen rest c
            (.failed ("error importing keystore: " ++ e.message) :: outcomes, c)

/-- Take in keystores. -/
def importKeys (c : Custody) (m : KeyManager) (request : ImportRequest) :
    Except SigningError ImportResponse × Custody :=
  match request.deposits with
  | .error e => (.error e, c)
  | .ok [] => (.ok ⟨[]⟩, c)
  | .ok deposits =>
      match c.importHistory request.history (deposits.map (·.key)) with
      | (.error e, c) => (.error e, c)
      | (.ok (), c) =>
          let (outcomes, c) := importEach m c.snapshot.identifiers deposits c
          (.ok ⟨outcomes⟩, c)

end Custody

end RemoteSigner
