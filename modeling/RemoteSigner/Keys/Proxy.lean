import RemoteSigner.Keys.Source

/-!
# Proxy keys on disk

The keystores of the proxies of a consensus key are in a directory of its own,
one below it for each scheme; all of them share one password file. A new proxy
is written where a later load finds it.
-/

namespace RemoteSigner

/-- Where proxy keys are. -/
structure ProxyConfig where
  directory : FilePath
  passwordFile : FilePath
deriving DecidableEq, Repr

/-- The random bytes that a new proxy needs. -/
structure ProxyEntropy where
  draws : List Root
  keystore : Keystore.Randomness

namespace ProxyConfig

/-- The directory of the proxies of a key under a scheme. -/
def keyDirectory (c : ProxyConfig) (consensus : SignerId) (keyType : KeyType) : FilePath :=
  (c.directory.join consensus.marked).join keyType.name

/-- Whether a name is that of a keystore. -/
def isKeystore (name : String) : Bool :=
  (FilePath.extensionOf? name).any (Text.sameIgnoringCase "json")

/-- The results of the keystores in a directory. -/
def resultsIn (c : ProxyConfig) (suite : KeySuite) (disk : Disk) (directory : FilePath)
    (keyType : KeyType) : List (Except KeyError Signer) :=
  match disk.names directory with
  | .error _ => []
  | .ok names =>
      (((names.filter isKeystore).map directory.join).filter disk.isFile).map fun path =>
        disk.keystoreSigner suite path c.passwordFile keyType

/-- The results of the keystores of all proxies of a key. -/
def results (c : ProxyConfig) (suite : KeySuite) (disk : Disk) (consensus : SignerId) :
    List (Except KeyError Signer) :=
  c.resultsIn suite disk (c.keyDirectory consensus .bls) .bls ++
    c.resultsIn suite disk (c.keyDirectory consensus .secp256k1) .secp256k1

/-- The proxies of a key, and the number of keystores that give none. -/
def load (c : ProxyConfig) (suite : KeySuite) (disk : Disk) (consensus : SignerId) :
    List Signer × Nat :=
  let rs := c.results suite disk consensus
  let signers := rs.filterMap Except.toOption
  (signers, rs.length - signers.length)

/-- The path of the keystore of a proxy. -/
def keystorePath (c : ProxyConfig) (consensus : SignerId) (keyType : KeyType) (proxy : SignerId) :
    FilePath :=
  (c.keyDirectory consensus keyType).join (proxy.marked ++ ".json")

/-- Make a proxy of a key: the signer and its keystore, not yet written. -/
def make (c : ProxyConfig) (suite : KeySuite) (entropy : ProxyEntropy) (keyType : KeyType)
    (rounds : Nat) (disk : Disk) : Except KeyError (Signer × Keystore) := do
  let password ← disk.password c.passwordFile
  let secret ← suite.newSecret keyType entropy.draws
  let signer ← suite.signer keyType secret
  let keystore ←
    Keystore.encrypt suite entropy.keystore secret password signer.identifier.key rounds
  pure (signer, keystore)

/-- Write the keystore of a proxy where nothing is yet. What cannot be written
is removed again. -/
def store (c : ProxyConfig) (medium : Medium) (consensus : SignerId) (keyType : KeyType)
    (signer : Signer) (keystore : Keystore) (disk : Disk) : Except KeyError Unit × Disk :=
  let directory := c.keyDirectory consensus keyType
  match disk.createDirectories directory with
  | .error e => (.error (.io directory e), disk)
  | .ok disk =>
      let path := c.keystorePath consensus keyType signer.identifier
      match disk.writeNew medium path (Utf8.encode keystore.toText) with
      | (.ok (), _, disk) => (.ok (), disk)
      | (.error e, created, disk) =>
          let cleared := if created then (disk.remove path).toOption.getD disk else disk
          (.error (.io path e), cleared)

/-- Generate a proxy of a key. -/
def generate (c : ProxyConfig) (suite : KeySuite) (medium : Medium) (entropy : ProxyEntropy)
    (consensus : SignerId) (keyType : KeyType) (rounds : Nat) (disk : Disk) :
    Except KeyError Signer × Disk :=
  match c.make suite entropy keyType rounds disk with
  | .error e => (.error e, disk)
  | .ok (signer, keystore) =>
      match c.store medium consensus keyType signer keystore disk with
      | (.error e, disk) => (.error e, disk)
      | (.ok (), disk) => (.ok signer, disk)

end ProxyConfig

end RemoteSigner
