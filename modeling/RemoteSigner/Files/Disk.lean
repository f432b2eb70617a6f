import RemoteSigner.Files.Error
import RemoteSigner.Files.Path
import RemoteSigner.Text.Utf8

/-!
# Files and directories

A disk holds files and directories by their places, the lists of names that
lead to them from the root. A path is looked up name by name and must pass
through directories only. Listings give names in the order in which the disk
holds them, so what is said of every disk holds for every order.
-/

namespace RemoteSigner

/-- The names that lead to a file or directory from the root. -/
abbrev Place := List String

/-- A file with the time of its last change. -/
structure StoredFile where
  content : Bytes
  modified : Nat
deriving DecidableEq

/-- Files and directories. -/
structure Disk where
  files : List (Place × StoredFile)
  directories : List Place
  /-- Where relative paths start. -/
  current : Place
  /-- The time that the next change gets. -/
  clock : Nat
deriving DecidableEq

/-- Which files can be created and written. -/
structure Medium where
  creating : FilePath → Option FileError
  writing : FilePath → Option FileError

/-- A medium on which nothing fails. -/
def Medium.sound : Medium :=
  ⟨fun _ => none, fun _ => none⟩

namespace Disk

/-- A disk without anything. -/
def empty : Disk :=
  ⟨[], [], [], 0⟩

/-- The file at a place. -/
def fileAt? (disk : Disk) (place : Place) : Option StoredFile :=
  disk.files.lookup place

/-- Whether a directory is at a place; the root always is one. -/
def hasDirectoryAt (disk : Disk) (place : Place) : Bool :=
  place.isEmpty || disk.directories.contains place

/-- The longest name in bytes. -/
def nameLimit : Nat := 255

/-- The longest path in bytes. -/
def pathLimit : Nat := 4095

/-- Follow names from a place. -/
def follow (disk : Disk) (place : Place) : List String → Except FileFault Place
  | [] => .ok place
  | name :: rest =>
      if !disk.hasDirectoryAt place then
        .error (if (disk.fileAt? place).isSome then .notDirectory else .notFound)
      else if name = "" ∨ name = "." then follow disk place rest
      else if name = ".." then follow disk place.dropLast rest
      else if nameLimit < name.utf8ByteSize then .error .nameTooLong
      else follow disk (place ++ [name]) rest

/-- The place that a path names, whether anything is there or not. -/
def find (disk : Disk) (path : FilePath) : Except FileFault Place :=
  if path.toList.contains '\x00' then .error .nulInName
  else if path.isEmpty then .error .notFound
  else if pathLimit < path.utf8ByteSize then .error .nameTooLong
  else disk.follow (if path.isAbsolute then [] else disk.current) path.parts

/-- Whether a path names a file. -/
def isFile (disk : Disk) (path : FilePath) : Bool :=
  match disk.find path with
  | .ok place => (disk.fileAt? place).isSome
  | .error _ => false

/-- Whether a path names a directory. -/
def isDirectory (disk : Disk) (path : FilePath) : Bool :=
  match disk.find path with
  | .ok place => disk.hasDirectoryAt place
  | .error _ => false

/-- The file that a path names. -/
def file (disk : Disk) (path : FilePath) : Except FileError StoredFile :=
  match disk.find path with
  | .error fault => .error (.of fault)
  | .ok place =>
      match disk.fileAt? place with
      | some f => .ok f
      | none =>
          .error (.of (if disk.hasDirectoryAt place then .isDirectory else .notFound))

/-- The bytes of a file. -/
def readBytes (disk : Disk) (path : FilePath) : Except FileError Bytes :=
  (disk.file path).map (·.content)

/-- The text of a file. -/
def readText (disk : Disk) (path : FilePath) : Except FileError String :=
  match disk.readBytes path with
  | .error e => .error e
  | .ok bytes =>
      match Utf8.decode? bytes with
      | some text => .ok text
      | none => .error (.of .notText)

/-- The name of something right below a place. -/
def nameBelow? (place : Place) (inner : Place) : Option String :=
  if inner.dropLast = place then inner.getLast? else none

/-- The names in a directory. -/
def names (disk : Disk) (path : FilePath) : Except FileError (List String) :=
  match disk.find path with
  | .error fault => .error (.of fault)
  | .ok place =>
      if disk.hasDirectoryAt place then
        .ok (disk.files.filterMap (fun f => nameBelow? place f.1) ++
          disk.directories.filterMap (nameBelow? place))
      else
        .error (.of (if (disk.fileAt? place).isSome then .notDirectory else .notFound))

/-- Put a file at a place, in the position of one that was there. -/
def putAt (place : Place) (f : StoredFile) : List (Place × StoredFile) → List (Place × StoredFile)
  | [] => [(place, f)]
  | (p, g) :: rest => if p = place then (place, f) :: rest else (p, g) :: putAt place f rest

/-- Write a file at a place. -/
def store (disk : Disk) (place : Place) (content : Bytes) : Disk :=
  { disk with files := putAt place ⟨content, disk.clock⟩ disk.files, clock := disk.clock + 1 }

/-- Whether a place has a parent in which something can be created. -/
def admits (disk : Disk) (place : Place) : Except FileFault Unit :=
  if disk.hasDirectoryAt place.dropLast then .ok ()
  else .error (if (disk.fileAt? place.dropLast).isSome then .notDirectory else .notFound)

/-- Create an empty file where nothing is. -/
def create (disk : Disk) (path : FilePath) : Except FileError Disk :=
  match disk.find path with
  | .error fault => .error (.of fault)
  | .ok place =>
      if (disk.fileAt? place).isSome || disk.hasDirectoryAt place then
        .error (.of .alreadyExists)
      else
        match disk.admits place with
        | .error fault => .error (.of fault)
        | .ok () => .ok (disk.store place [])

/-- Write a file, in place of what it held. -/
def overwrite (disk : Disk) (path : FilePath) (content : Bytes) : Except FileError Disk :=
  match disk.find path with
  | .error fault => .error (.of fault)
  | .ok place =>
      if disk.hasDirectoryAt place then .error (.of .isDirectory)
      else
        match disk.admits place with
        | .error fault => .error (.of fault)
        | .ok () => .ok (disk.store place content)

/-- Remove a file. -/
def remove (disk : Disk) (path : FilePath) : Except FileError Disk :=
  match disk.find path with
  | .error fault => .error (.of fault)
  | .ok place =>
      if (disk.fileAt? place).isSome then
        .ok { disk with files := disk.files.filter fun f => f.1 ≠ place }
      else .error (.of (if disk.hasDirectoryAt place then .isDirectory else .notFound))

/-- Remove a directory with all that is in it. -/
def removeTree (disk : Disk) (path : FilePath) : Except FileError Disk :=
  match disk.find path with
  | .error fault => .error (.of fault)
  | .ok place =>
      if disk.hasDirectoryAt place then
        .ok { disk with
          files := disk.files.filter fun f => !place.isPrefixOf f.1
          directories := disk.directories.filter fun d => !place.isPrefixOf d }
      else
        .error (.of (if (disk.fileAt? place).isSome then .notDirectory else .notFound))

/-- Create the directories along names from a place that are missing. -/
def createAlong (disk : Disk) (place : Place) : List String → Except FileFault Disk
  | [] => .ok disk
  | name :: rest =>
      if name = "" ∨ name = "." then createAlong disk place rest
      else if name = ".." then createAlong disk place.dropLast rest
      else
        let next := place ++ [name]
        if disk.hasDirectoryAt next then createAlong disk next rest
        else if (disk.fileAt? next).isSome then
          .error (if rest.isEmpty then .alreadyExists else .notDirectory)
        else if nameLimit < name.utf8ByteSize then .error .nameTooLong
        else createAlong { disk with directories := disk.directories ++ [next] } next rest

/-- Create a directory and those above it that are missing. -/
def createDirectories (disk : Disk) (path : FilePath) : Except FileError Disk :=
  if path.toList.contains '\x00' then .error (.of .nulInName)
  else
    match disk.createAlong (if path.isAbsolute then [] else disk.current) path.parts with
    | .ok disk => .ok disk
    | .error fault => .error (.of fault)

/-- Write a file with the directories above it that are missing. -/
def place (disk : Disk) (path : FilePath) (content : Bytes) : Except FileError Disk := do
  let disk ← disk.createDirectories path.parent
  disk.overwrite path content

/-- Set the time of the last change of a file. -/
def touch (disk : Disk) (path : FilePath) (modified : Nat) : Disk :=
  match disk.find path with
  | .error _ => disk
  | .ok place =>
      match disk.fileAt? place with
      | none => disk
      | some f => { disk with files := putAt place { f with modified := modified } disk.files }

/-- The paths of all files below a directory, relative to it. -/
def filesBelow (disk : Disk) (path : FilePath) : List FilePath :=
  match disk.find path with
  | .error _ => []
  | .ok place =>
      disk.files.filterMap fun f =>
        if place.isPrefixOf f.1 then some (String.intercalate "/" (f.1.drop place.length)) else none

/-- Create a file that is not there and write it. The result tells whether it
was created, which it may have been although writing failed. -/
def writeNew (medium : Medium) (path : FilePath) (content : Bytes) (disk : Disk) :
    Except FileError Unit × Bool × Disk :=
  match medium.creating path with
  | some e => (.error e, false, disk)
  | none =>
      match disk.create path with
      | .error e => (.error e, false, disk)
      | .ok created =>
          match medium.writing path with
          | some e => (.error e, true, created)
          | none =>
              match created.overwrite path content with
              | .error e => (.error e, true, created)
              | .ok written => (.ok (), true, written)

end Disk

end RemoteSigner
