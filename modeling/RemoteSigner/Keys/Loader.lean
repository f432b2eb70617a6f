import RemoteSigner.Keys.Source

/-!
# Bulk loading

A load lists the descriptions in a directory, passes over those that did not
change since they were decoded, and decodes the others in batches that run
side by side. A file that fails or takes too long is counted and harms no
other. The signers come out in the order of their paths, whatever the batches
and the order in which they finish.
-/

namespace RemoteSigner

/-- A description on disk, as it was last changed. -/
structure Source where
  path : FilePath
  modified : Nat
deriving DecidableEq, Repr

/-- Where descriptions are and how they are loaded. -/
structure LoaderConfig where
  directory : FilePath
  /-- The extension of descriptions, without point. -/
  extension : String
  /-- The number of batches that may run at a time; every core if not given. -/
  parallelism : Option Nat
  /-- The least number of files in a batch. -/
  minBatchSize : Nat
  decodeTimeoutSeconds : Nat
deriving DecidableEq, Repr

/-- The usual settings for a directory. -/
def LoaderConfig.of (directory : FilePath) : LoaderConfig :=
  ⟨directory, "toml", none, 20, 30⟩

/-- A description that was decoded, with the keys it provides. -/
structure CachedSource where
  source : Source
  identifiers : List SignerId
deriving DecidableEq

/-- What earlier loads decoded. -/
abbrev LoadCache := List CachedSource

/-- A signer with the description it comes from. -/
structure LoadedSource where
  source : Source
  signer : Signer

/-- What a load brings. -/
structure LoadOutcome where
  loaded : List LoadedSource
  /-- Keys that no unchanged description provides any more. -/
  stale : List SignerId
  errors : Nat

namespace LoadCache

/-- Remember what a description provides. -/
def record (entry : CachedSource) (cache : LoadCache) : LoadCache :=
  cache.filter (fun c => c.source.path ≠ entry.source.path) ++ [entry]

/-- Whether some remembered description provides a key. -/
def provides (cache : LoadCache) (id : SignerId) : Bool :=
  cache.any fun c => c.identifiers.contains id

/-- Whether a description is remembered. -/
def hasPath (cache : LoadCache) (path : FilePath) : Bool :=
  cache.any fun c => c.source.path == path

/-- What is remembered of descriptions that are listed unchanged. -/
def unchanged (listed : List Source) (cache : LoadCache) : LoadCache :=
  cache.filter fun c => listed.contains c.source

/-- The keys of descriptions that are gone or changed, and that no other one
provides, in order. -/
def stale (listed : List Source) (cache : LoadCache) : List SignerId :=
  let gone := cache.filter fun c => !listed.contains c.source
  (SignerId.sorted (gone.flatMap (·.identifiers))).filter fun id =>
    !(cache.unchanged listed).provides id

end LoadCache

namespace Loader

/-- Whether a name is that of a description: it is not hidden and has the
extension, in any case. -/
def isCandidate (ext name : String) : Bool :=
  name.toList.head? != some '.' &&
    (FilePath.extensionOf? name).any (Text.sameIgnoringCase ext)

/-- The descriptions in a directory. -/
def list (disk : Disk) (directory : FilePath) (ext : String) : Except KeyError (List Source) :=
  match disk.names directory with
  | .error e => .error (.directoryUnreadable directory e)
  | .ok names =>
      .ok ((names.filter (isCandidate ext)).filterMap fun name =>
        let path := directory.join name
        match disk.file path with
        | .ok f => some ⟨path, f.modified⟩
        | .error _ => none)

/-- Cut a list into parts of a size; a size of nothing counts as one. -/
def batches {α : Type} (size : Nat) (as : List α) : List (List α) :=
  match as with
  | [] => []
  | a :: rest =>
      ((a :: rest).take (max 1 size)) :: batches size ((a :: rest).drop (max 1 size))
termination_by as.length
decreasing_by simp only [List.length_drop, List.length_cons]; omega

/-- The number of files in a batch. -/
def batchSize (workers minimum count : Nat) : Nat :=
  max ((count + workers - 1) / workers) (max minimum 1)

/-- The result of a file: an answer that does not come is an error. -/
def resultOf (source : Source) : Decoding → Except KeyError Signer
  | .done result => result
  | .stalled => .error (.timeout source.path)

/-- A file with its result. -/
abbrev Result := Source × Except KeyError Signer

/-- The signer of a result. -/
def loaded? (r : Result) : Option LoadedSource :=
  r.2.toOption.map (LoadedSource.mk r.1)

/-- Gather the batches that finished, of `expected` files in all: the signers
by path, and the number of files without one. A file of a batch that did not
finish is an error. -/
def gather (expected : Nat) (finished : List (List Result)) : List LoadedSource × Nat :=
  let results := finished.flatten
  let loaded := results.filterMap loaded?
  (loaded.mergeSort fun a b => !b.source.path.before a.source.path,
    (results.length - loaded.length) + (expected - results.length))

/-- Decode a file. -/
def decodeOne (decode : Source → Decoding) (source : Source) : Result :=
  (source, resultOf source (decode source))

/-- Decode all files in batches. -/
def decodeAll (decode : Source → Decoding) (workers minimum : Nat) (pending : List Source) :
    List LoadedSource × Nat :=
  gather pending.length
    ((batches (batchSize workers minimum pending.length) pending).map
      (·.map (decodeOne decode)))

/-- The number of batches that run at a time if none is configured. -/
def defaultWorkers : Nat := 8

/-- The number of batches that run at a time. -/
def workers (c : LoaderConfig) : Nat :=
  max 1 (c.parallelism.getD defaultWorkers)

/-- The listed files that have to be decoded. -/
def pending (listed : List Source) (cache : LoadCache) : List Source :=
  listed.filter fun s => !(cache.unchanged listed).hasPath s.path

/-- Load what is listed. -/
def load (c : LoaderConfig) (decode : Source → Decoding) (listed : List Source)
    (cache : LoadCache) : LoadOutcome :=
  let (loaded, errors) := decodeAll decode (workers c) c.minBatchSize (pending listed cache)
  ⟨loaded, cache.stale listed, errors⟩

/-- The seconds that a load waits for answers that do not come: batches wait
side by side, the files of one batch in turn. -/
def waitedSeconds (c : LoaderConfig) (decode : Source → Decoding) (listed : List Source)
    (cache : LoadCache) : Nat :=
  let stalls (batch : List Source) : Nat :=
    batch.countP fun s => match decode s with | .stalled => true | .done _ => false
  let waiting := pending listed cache
  ((batches (batchSize (workers c) c.minBatchSize waiting.length) waiting).map stalls).foldl
    max 0 * c.decodeTimeoutSeconds

end Loader

end RemoteSigner
