import RemoteSigner.Error

/-!
# Errors of the file system
-/

namespace RemoteSigner

/-- What the file system refuses to do. -/
inductive FileFault where
  | notFound
  | alreadyExists
  | isDirectory
  | notDirectory
  | denied
  | notText
  | nameTooLong
  | nulInName
deriving DecidableEq, Repr

/-- An error of the file system in its own words. -/
structure FileError where
  fault : FileFault
  detail : String
deriving DecidableEq, Repr

namespace FileError

/-- The usual wording of a fault. -/
def wording : FileFault → String
  | .notFound => "No such file or directory (os error 2)"
  | .alreadyExists => "File exists (os error 17)"
  | .isDirectory => "Is a directory (os error 21)"
  | .notDirectory => "Not a directory (os error 20)"
  | .denied => "Permission denied (os error 13)"
  | .notText => "stream did not contain valid UTF-8"
  | .nameTooLong => "File name too long (os error 36)"
  | .nulInName => "file name contained an unexpected NUL byte"

/-- An error in the usual wording. -/
def of (fault : FileFault) : FileError :=
  ⟨fault, wording fault⟩

/-- The error in the shared vocabulary. -/
def toCore (e : FileError) : CoreError :=
  if e.fault = .notFound then ⟨.notFound, e.detail⟩ else ⟨.storage, e.detail⟩

end FileError

end RemoteSigner
