import RemoteSigner.Command.Arguments
import RemoteSigner.Command.Report
import RemoteSigner.Daemon

/-!
# Commands

Commands act on a site: a disk and the protection databases on it. Each opens
the database that the settings name, which creates it where it is missing.
-/

namespace RemoteSigner

/-- A disk with protection databases. -/
structure Site where
  disk : Disk
  databases : List (Place × Database)
  /-- The databases whose write lock another connection holds. -/
  locked : List Place

/-- The result of a step of a command. -/
abbrev Commanded (α : Type) := Except Report α × Site

namespace Site

/-- The database at a place: one that was made before, or a new one where there
is no file or an empty one. -/
def databaseAt (s : Site) (place : Place) : Protected Database :=
  match s.databases.lookup place with
  | some db => .ok db
  | none =>
      if s.disk.hasDirectoryAt place || !s.disk.hasDirectoryAt place.dropLast then
        .error (.database .cannotOpen)
      else
        match s.disk.fileAt? place with
        | none => .ok ⟨none, none, []⟩
        | some f =>
            if f.content.isEmpty then .ok ⟨none, none, []⟩
            else .error (.database (.failed "file is not a database"))

/-- The site with a database at a place. -/
def putDatabase (s : Site) (place : Place) (db : Database) : Site :=
  { s with databases := (place, db) :: s.databases.filter (·.1 ≠ place) }

/-- Open the database at a path. -/
def openDatabase (s : Site) (path : FilePath) : Protected (Place × Engine) :=
  match s.disk.find path with
  | .error _ => .error (.database .cannotOpen)
  | .ok place => do
      let db ← s.databaseAt place
      let engine ← Engine.openOn ⟨Settings.maxAttempts, s.locked.contains place, db⟩
      pure (place, engine)

/-- Run an operation on the database that the settings name. -/
def protect {α : Type} (s : Site) (settings : Settings)
    (f : Engine → Except Report α × Engine) : Commanded α :=
  let path := settings.protection.database
  match s.openDatabase path with
  | .error e =>
      (.error (.within ("failed to open slashing protection database " ++ path)
        (.ofProtection e)), s)
  | .ok (place, engine) =>
      let (result, engine) := f engine
      (result, s.putDatabase place engine.database)

/-- The outcome of an operation with its failure as a report. -/
def reported {α : Type} (outcome : Protected α × Engine) : Except Report α × Engine :=
  (outcome.1.mapError .ofProtection, outcome.2)

/-- The identifiers of keys in arguments. -/
def keysOf (keys : List String) : Except Report (List SignerId) :=
  keys.mapM fun key =>
    (SignerId.parse key).mapError fun e => .within ("public key " ++ key) (.of e.message)

/-- Write history to a file, and tell of how many validators. -/
def exportHistory (s : Site) (settings : Settings) (target : FilePath) (keys : List String) :
    Commanded Nat :=
  match keysOf keys with
  | .error e => (.error e, s)
  | .ok ids =>
      let filter := if keys.isEmpty then none else some ids
      match s.protect settings fun e => reported (e.exportHistory filter) with
      | (.error e, s) => (.error e, s)
      | (.ok document, s) =>
          match s.disk.overwrite target (Utf8.encode document.toText) with
          | .ok disk => (.ok document.data.length, { s with disk := disk })
          | .error e =>
              let cause := .ofProtection (.io target e.detail)
              (.error (.within ("failed to write " ++ target) cause), s)

/-- The document of history in a file. -/
def readHistory (s : Site) (path : FilePath) : Protected Interchange :=
  match s.disk.readText path with
  | .error e => .error (.io path e.detail)
  | .ok text => Interchange.ofText text

/-- Take history in from a file. -/
def importHistory (s : Site) (settings : Settings) (path : FilePath) :
    Commanded ImportSummary :=
  match s.readHistory path with
  | .error e => (.error (.within ("failed to read " ++ path) (.ofProtection e)), s)
  | .ok document => s.protect settings fun e => reported (e.importHistory document)

/-- Remove the ceiling, then set it or raise the watermarks of all validators,
as far as that is asked for. -/
def repair (r : WatermarkRepair) (e : Engine) : Protected Unit × Engine :=
  let nothing := r.slot.isNone && r.epoch.isNone
  let (removed, e) := if r.removesHigh then e.removeHighWatermark else (.ok (), e)
  match removed with
  | .error fault => (.error fault, e)
  | .ok () =>
      if r.removesHigh && nothing then (.ok (), e)
      else if r.setsHigh then e.setHighWatermark ⟨r.slot, r.epoch⟩
      else
        let (result, e) := e.raiseLow r.slot r.epoch
        (result.map fun _ => (), e)

/-- Repair watermarks. -/
def repairWatermarks (s : Site) (settings : Settings) (r : WatermarkRepair) : Commanded Unit :=
  if r.slot.isNone && r.epoch.isNone && !r.removesHigh then
    (.error (.of "nothing to do: pass --slot, --epoch or --remove-high-watermark"), s)
  else s.protect settings fun e => reported (repair r e)

/-- Open the database of settings that ask for one. -/
def openFor (s : Site) (settings : Settings) : Except Report (Option (Place × Engine)) :=
  let path := settings.protection.database
  if settings.protection.enabled then
    match s.openDatabase path with
    | .ok found => .ok (some found)
    | .error e =>
        .error (.within ("failed to open slashing protection database " ++ path)
          (.ofProtection e))
  else .ok none

/-- The signer that settings describe, with nothing loaded yet. -/
def daemon (shop : Workshop) (s : Site) (settings : Settings) (engine : Option Engine) :
    Except Report Daemon := do
  let network ← (Network.of settings.network.genesisForkVersion
    settings.network.slotsPerEpoch).mapError fun e => .of e.message
  let manager : KeyManager := ⟨shop.suite, .sound, settings.keys.directory⟩
  pure {
    registry := .empty
    engine := engine.getD ⟨Settings.maxAttempts, false, .empty⟩
    isProtected := engine.isSome
    disk := s.disk
    workshop := shop
    loading := some settings.loader
    proxies := settings.proxies
    registers := engine.isSome
    loads := []
    service := {
      network := network
      keyManager := if settings.keyManagerEnabled then some manager else none
      mint := settings.proxies.map fun c => ⟨shop.suite, .sound, c, CommitBoost.kdfRounds⟩ }
    duties := .empty
    beats := [] }

/-- The first load of keys, of which an unreadable directory is a failure. -/
def loadKeys (d : Daemon) : Except Report LoadReport × Daemon :=
  let (result, d) := d.loadAndWait true
  (result.mapError fun e => .within "initial key load failed" (.ofKey e), d)

/-- A signer with its regular duties, which serves if its address is there. -/
def ready (settings : Settings) (d : Daemon) : Except Report Daemon := do
  let d ←
    if d.isProtected && settings.protection.pruningEnabled then
      (d.schedulePruning settings.pruning).mapError .ofProtection
    else pure d
  if settings.server.listen.isAssignable then pure d
  else
    .error (.within "API server failed" (.of "Cannot assign requested address (os error 99)"))

/-- What serving starts from: a signer with its keys, behind the place of its
protection database if there is one. -/
def start (shop : Workshop) (s : Site) (settings : Settings) :
    Except Report (Option Place × Daemon) × Site :=
  let opened : Except Report (Option Place × Daemon) := do
    let found ← s.openFor settings
    let d ← s.daemon shop settings (found.map (·.2))
    pure (found.map (·.1), d)
  match opened with
  | .error e => (.error e, s)
  | .ok (place, d) =>
      let (loaded, d) := loadKeys d
      let s := place.elim s fun place => s.putDatabase place d.engine.database
      (loaded.bind fun _ => (ready settings d).map fun d => (place, d), s)

end Site

namespace Invocation

/-- The settings of an invocation in an environment. -/
def resolve (i : Invocation) (disk : Disk) (environment : List (String × String)) :
    Except Report Settings := do
  let s ← match i.settings with
    | none => pure {}
    | some path => (Settings.ofFile disk path).mapError .ofSettings
  let (merged, s) := Settings.applyVariables environment s
  merged.mapError .ofSettings
  let s := match i.command with
    | .run flags => flags.apply s
    | _ => s
  s.validate.mapError fun e => .within "configuration rejected" (.ofSettings e)
  pure s

end Invocation

/-- How a command ends. -/
inductive Ending where
  | done
  | failed (report : Report)
  /-- The signer serves from here on. -/
  | serving (place : Option Place) (daemon : Daemon)

namespace Site

/-- The ending of a command with a result. -/
def ending {α : Type} (outcome : Commanded α) : Ending × Site :=
  match outcome with
  | (.ok _, s) => (.done, s)
  | (.error e, s) => (.failed e, s)

/-- Execute a command in an environment. -/
def execute (shop : Workshop) (s : Site) (environment : List (String × String))
    (i : Invocation) : Ending × Site :=
  match i.resolve s.disk environment with
  | .error e => (.failed e, s)
  | .ok settings =>
      match i.command with
      | .exportHistory target keys => ending (s.exportHistory settings target keys)
      | .importHistory path => ending (s.importHistory settings path)
      | .repairWatermarks r => ending (s.repairWatermarks settings r)
      | .run _ =>
          match start shop s settings with
          | (.error e, s) => (.failed e, s)
          | (.ok (place, d), s) => (.serving place d, s)

end Site

end RemoteSigner
