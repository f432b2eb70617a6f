import RemoteSigner.Keys.Loader
import RemoteSigner.Keys.Proxy

/-!
# The registry of signers

The signers that are installed, the proxies of each, and an index of proxies
by their own key. Loads bring in what descriptions on disk provide, and take
out what none of them provides any more; keys can also be added and removed by
hand.
-/

namespace RemoteSigner

/-- What is installed at a time. -/
structure Snapshot where
  signers : List Signer
  /-- The proxies of consensus keys, which need not be installed. -/
  proxies : List (SignerId × List Signer)
  proxyIndex : List Signer

namespace Snapshot

/-- Nothing installed. -/
def empty : Snapshot :=
  ⟨[], [], []⟩

/-- The signer with an identifier. -/
def find? (s : Snapshot) (id : SignerId) : Option Signer :=
  s.signers.find? (·.identifier == id)

/-- The proxy with an identifier. -/
def findProxy? (s : Snapshot) (id : SignerId) : Option Signer :=
  s.proxyIndex.find? (·.identifier == id)

/-- The identifiers of the signers, in order. -/
def identifiers (s : Snapshot) : List SignerId :=
  SignerId.sorted (s.signers.map (·.identifier))

/-- The proxies of a key. -/
def proxiesOf (s : Snapshot) (consensus : SignerId) : List Signer :=
  (s.proxies.lookup consensus).getD []

/-- The identifiers of the proxies of a key under a scheme, in order. -/
def proxyIdentifiers (s : Snapshot) (consensus : SignerId) (keyType : KeyType) : List SignerId :=
  (((s.proxiesOf consensus).filter (·.keyType == keyType)).map (·.identifier)).mergeSort
    fun a b => !b.before a

/-- The proxies of a key as a document: their identifiers by scheme. -/
def proxiesToJson (s : Snapshot) (consensus : SignerId) : Json :=
  .record ([KeyType.bls, KeyType.secp256k1].filterMap fun keyType =>
    match s.proxyIdentifiers consensus keyType with
    | [] => none
    | ids => some (keyType.name, .list (ids.map SignerId.toJson)))

/-- What is installed as a document: the signers with their proxies. -/
def toJson (s : Snapshot) : Json :=
  .record (s.identifiers.map fun id => (id.marked, s.proxiesToJson id))

/-- A list of signers without those of an identifier. -/
def without (id : SignerId) (signers : List Signer) : List Signer :=
  signers.filter (·.identifier != id)

/-- Install a signer in place of one with its identifier. -/
def put (s : Snapshot) (signer : Signer) : Snapshot :=
  { s with signers := without signer.identifier s.signers ++ [signer] }

/-- Take the proxies of a key out of the index, and forget them. -/
def dropProxies (s : Snapshot) (consensus : SignerId) : Snapshot :=
  { s with
    proxies := s.proxies.filter (·.1 != consensus)
    proxyIndex := (s.proxiesOf consensus).foldl (fun index p => without p.identifier index)
      s.proxyIndex }

/-- Take out a signer with its proxies, and tell whether it was installed. -/
def remove (s : Snapshot) (id : SignerId) : Bool × Snapshot :=
  let dropped := s.dropProxies id
  ((s.find? id).isSome, { dropped with signers := without id dropped.signers })

/-- Attach a proxy to a key. -/
def addProxy (s : Snapshot) (consensus : SignerId) (proxy : Signer) : Snapshot :=
  let listed := without proxy.identifier (s.proxiesOf consensus) ++ [proxy]
  { s with
    proxies := s.proxies.filter (·.1 != consensus) ++ [(consensus, listed)]
    proxyIndex := without proxy.identifier s.proxyIndex ++ [proxy] }

/-- Replace the proxies of a key. -/
def replaceProxies (s : Snapshot) (consensus : SignerId) (proxies : List Signer) : Snapshot :=
  proxies.foldl (fun s p => s.addProxy consensus p) (s.dropProxies consensus)

/-- Replace the proxies of keys, visited in the given order. -/
def replaceAllProxies (s : Snapshot) (proxiesOf : SignerId → List Signer) (order : List SignerId) :
    Snapshot :=
  order.foldl (fun s id => s.replaceProxies id (proxiesOf id)) s

/-- Take out stale keys. -/
def removeStale (s : Snapshot) (stale : List SignerId) : Snapshot :=
  stale.foldl (fun s id => (s.remove id).2) s

/-- Install what was loaded; of several signers of one key the first stays. The
number counts those that were installed. -/
def install (s : Snapshot) : List LoadedSource → Nat × Snapshot
  | [] => (0, s)
  | l :: rest =>
      if (s.find? l.signer.identifier).isSome then install s rest
      else
        let (count, s) := install (s.put l.signer) rest
        (count + 1, s)

end Snapshot

/-- What a load reports. -/
structure LoadReport where
  loaded : Nat
  errors : Nat
deriving DecidableEq, Repr

/-- The document of a report. -/
def LoadReport.toJson (r : LoadReport) : Json :=
  .record [("loaded", .count r.loaded), ("errors", .count r.errors)]

/-- What a load sees of the world outside the registry. -/
structure LoadView where
  config : LoaderConfig
  listing : Except KeyError (List Source)
  decode : Source → Decoding
  /-- The proxies of a key and the number of those that failed, if there are
  proxies at all. -/
  proxies : Option (SignerId → List Signer × Nat)
  /-- The order in which keys are visited for their proxies. -/
  order : List SignerId → List SignerId

/-- The registry. -/
structure Registry where
  snapshot : Snapshot
  cache : LoadCache
  lastErrors : Nat
  /-- A closed registry answers but changes no more. -/
  isClosed : Bool

namespace Registry

/-- A registry without keys. -/
def empty : Registry :=
  ⟨.empty, [], 0, false⟩

/-- Record what a load decoded. -/
def recordAll (loaded : List LoadedSource) (cache : LoadCache) : LoadCache :=
  loaded.foldl (fun cache l => cache.record ⟨l.source, [l.signer.identifier]⟩) cache

/-- Load the proxies of all installed keys; the number counts failures. -/
def loadProxies (view : LoadView) (s : Snapshot) : Nat × Snapshot :=
  match view.proxies with
  | none => (0, s)
  | some find =>
      let order := view.order s.identifiers
      (order.foldr (fun id n => (find id).2 + n) 0,
        s.replaceAllProxies (fun id => (find id).1) order)

/-- The load of a directory that could be listed. -/
def absorb (r : Registry) (view : LoadView) (listed : List Source) : LoadReport × Registry :=
  let outcome := Loader.load view.config view.decode listed r.cache
  let (loaded, s) := (r.snapshot.removeStale outcome.stale).install outcome.loaded
  let (failed, s) := loadProxies view s
  let errors := outcome.errors + failed
  (⟨loaded, errors⟩,
    { r with
      snapshot := s
      cache := recordAll outcome.loaded (r.cache.unchanged listed)
      lastErrors := errors })

/-- Load what is on disk. A directory that cannot be listed changes nothing
but the count of errors. -/
def tryLoad (r : Registry) (view : Option LoadView) : Except KeyError LoadReport × Registry :=
  if r.isClosed then (.error .registryClosed, r)
  else
    match view with
    | none => (.ok ⟨0, 0⟩, r)
    | some view =>
        match view.listing with
        | .error e => (.error e, { r with lastErrors := 1 })
        | .ok listed =>
            let (report, r) := r.absorb view listed
            (.ok report, r)

/-- Load what is on disk, where a directory that cannot be listed counts as one
error. -/
def load (r : Registry) (view : Option LoadView) : Except KeyError LoadReport × Registry :=
  match r.tryLoad view with
  | (.error (.directoryUnreadable ..), r) => (.ok ⟨0, 1⟩, r)
  | outcome => outcome

/-- Change what is installed, unless the registry is closed. -/
def change {α : Type} (r : Registry) (f : Snapshot → α × Snapshot) : Except KeyError α × Registry :=
  if r.isClosed then (.error .registryClosed, r)
  else
    let (a, s) := f r.snapshot
    (.ok a, { r with snapshot := s })

/-- Install or replace a signer. -/
def addSigner (r : Registry) (signer : Signer) : Except KeyError Unit × Registry :=
  r.change fun s => ((), s.put signer)

/-- Attach a proxy to a key. -/
def addProxy (r : Registry) (consensus : SignerId) (proxy : Signer) :
    Except KeyError Unit × Registry :=
  r.change fun s => ((), s.addProxy consensus proxy)

/-- Take out a signer with its proxies, and tell whether it was installed. The
proxies of a key that is not installed stay. -/
def removeSigner (r : Registry) (id : SignerId) : Except KeyError Bool × Registry :=
  r.change fun s =>
    match s.remove id with
    | (true, s) => (true, s)
    | (false, _) => (false, s)

/-- Close the registry. -/
def close (r : Registry) : Registry :=
  { r with isClosed := true }

end Registry

/-- What a load sees of a disk. -/
def LoadView.ofDisk (shop : Workshop) (c : LoaderConfig) (proxies : Option ProxyConfig)
    (disk : Disk) : LoadView where
  config := c
  listing := Loader.list disk c.directory c.extension
  decode source := disk.decodeSource shop c.directory source.path
  proxies := proxies.map fun p => p.load shop.suite disk
  order ids := ids

end RemoteSigner
