import RemoteSigner.Keys.Source

/-!
# Keystores as files

A key that is taken in becomes three files named after it: its keystore, its
password, and last the description that refers to both, so that a load never
finds half a key. Deletion looks for descriptions by the key that their
keystore declares.
-/

namespace RemoteSigner.KeystoreFiles

/-- The path of a file of a key. -/
def path (directory : FilePath) (id : SignerId) (ext : String) : FilePath :=
  directory.join (id.marked ++ ext)

/-- The description of the files of a key. -/
def description (id : SignerId) (keyType : KeyType) : SigningMetadata :=
  ⟨.fileKeystore (id.marked ++ ".json") (id.marked ++ ".password"), keyType⟩

/-- The files of a key with what goes into them, in the order of writing. -/
def contents (directory : FilePath) (id : SignerId) (keystore : Keystore) (password : String)
    (keyType : KeyType) : List (FilePath × Bytes) := [
  (path directory id ".json", Utf8.encode keystore.toText),
  (path directory id ".password", Utf8.encode password),
  (path directory id ".toml", Utf8.encode (description id keyType).toText)]

/-- Remove the files at paths, as far as that is possible. -/
def clear (paths : List FilePath) (disk : Disk) : Disk :=
  paths.foldl (fun disk p => (disk.remove p).toOption.getD disk) disk

/-- Write files that are not there; `made` are those written before. A failure
removes all that was made. -/
def writeAll (medium : Medium) (made : List FilePath) :
    List (FilePath × Bytes) → Disk → Except KeyError Unit × Disk
  | [], disk => (.ok (), disk)
  | (p, content) :: rest, disk =>
      match disk.writeNew medium p content with
      | (.ok (), _, disk) => writeAll medium (made ++ [p]) rest disk
      | (.error e, created, disk) =>
          (.error (.io p e), clear (if created then made ++ [p] else made) disk)

/-- Write the files of a key: all of them, or none. -/
def write (medium : Medium) (directory : FilePath) (id : SignerId) (keystore : Keystore)
    (password : String) (keyType : KeyType) (disk : Disk) : Except KeyError FilePath × Disk :=
  match writeAll medium [] (contents directory id keystore password keyType) disk with
  | (.error e, disk) => (.error e, disk)
  | (.ok (), disk) => (.ok (path directory id ".toml"), disk)

/-- Whether a name is that of a description. -/
def isDescription (name : String) : Bool :=
  (FilePath.extensionOf? name).any (Text.sameIgnoringCase "toml")

/-- The paths of keystore and password that a description in a file refers to. -/
def references? (disk : Disk) (directory p : FilePath) : Option (FilePath × FilePath) := do
  let text ← (disk.readText p).toOption
  let m ← (SigningMetadata.ofText p text).toOption
  match m.source with
  | .fileKeystore keystoreFile passwordFile =>
      some (directory.join keystoreFile, directory.join passwordFile)
  | _ => none

/-- Whether a keystore declares the key of an identifier. -/
def declares (disk : Disk) (keystorePath : FilePath) (id : SignerId) : Bool :=
  match disk.keystore keystorePath with
  | .ok k => SignerId.normalize k.publicKey == id.text
  | .error _ => false

/-- The files to delete for a description: the description, its keystore and
its password, if the keystore declares the key. -/
def doomed (disk : Disk) (directory : FilePath) (id : SignerId) (p : FilePath) : List FilePath :=
  match references? disk directory p with
  | none => []
  | some (keystorePath, passwordPath) =>
      if declares disk keystorePath id then [p, keystorePath, passwordPath] else []

/-- Remove files that may be missing. -/
def removeEach : List FilePath → Disk → Except KeyError Unit × Disk
  | [], disk => (.ok (), disk)
  | p :: rest, disk =>
      match disk.remove p with
      | .ok disk => removeEach rest disk
      | .error e =>
          if e.fault = .notFound then removeEach rest disk else (.error (.io p e), disk)

/-- Delete the files of a key as told by descriptions, and tell whether there
were any. -/
def deleteEach (directory : FilePath) (id : SignerId) (found : Bool) :
    List FilePath → Disk → Except KeyError Bool × Disk
  | [], disk => (.ok found, disk)
  | p :: rest, disk =>
      match doomed disk directory id p with
      | [] => deleteEach directory id found rest disk
      | files =>
          match removeEach files disk with
          | (.error e, disk) => (.error e, disk)
          | (.ok (), disk) => deleteEach directory id true rest disk

/-- Delete the files of a key, and tell whether there were any. -/
def delete (directory : FilePath) (id : SignerId) (disk : Disk) : Except KeyError Bool × Disk :=
  match disk.names directory with
  | .error e => (.error (.io directory e), disk)
  | .ok names =>
      deleteEach directory id false ((names.filter isDescription).map directory.join) disk

end RemoteSigner.KeystoreFiles
