import RemoteSigner.Http.Service
import RemoteSigner.Protection.Pruner
import RemoteSigner.Tasks

/-!
# A running signer

The keys in custody, how they are loaded, the interface over them, and what the
signer does by itself. Everything happens at a time of one clock, and a duty
gets its turn when nothing else is going on.
-/

namespace RemoteSigner

/-- What a signer does by itself. -/
inductive Duty where
  /-- Load keys once. -/
  | reload
  /-- Remove old records again and again. -/
  | prune (config : PruningConfig)
  /-- A heartbeat counts its turns under a name, and may have a last one. -/
  | heartbeat (name : String) (last : Option Nat)
deriving DecidableEq

/-- A running signer. -/
structure Daemon where
  registry : Registry
  engine : Engine
  /-- Whether the engine is asked before anything is signed. -/
  isProtected : Bool
  disk : Disk
  workshop : Workshop
  /-- How descriptions are loaded, if they are. -/
  loading : Option LoaderConfig
  proxies : Option ProxyConfig
  /-- Whether a load creates the protection rows of what it installed. -/
  registers : Bool
  /-- What was installed after each load. -/
  loads : List (List SignerId)
  service : Http.Service
  duties : TaskRegistry Duty
  /-- The heartbeats with their counts. -/
  beats : List (String × Nat)

namespace Daemon

variable {α : Type}

/-- What requests act on. -/
def custody (d : Daemon) : Custody :=
  ⟨d.registry, if d.isProtected then some d.engine else none, d.disk⟩

/-- Run an operation on what requests act on. -/
def withCustody (d : Daemon) (f : Custody → α × Custody) : α × Daemon :=
  let (a, c) := f d.custody
  (a, { d with registry := c.registry, engine := c.protection.getD d.engine, disk := c.disk })

/-- Run an operation on the registry. -/
def withRegistry (d : Daemon) (f : Registry → α × Registry) : α × Daemon :=
  let (a, registry) := f d.registry
  (a, { d with registry := registry })

/-- Run an operation on the engine. -/
def withEngine (d : Daemon) (f : Engine → α × Engine) : α × Daemon :=
  let (a, engine) := f d.engine
  (a, { d with engine := engine })

/-- What a load sees. -/
def view? (d : Daemon) : Option LoadView :=
  d.loading.map fun config => LoadView.ofDisk d.workshop config d.proxies d.disk

/-- What a load that is going to happen sees and lists. -/
def listing? (d : Daemon) : Option (LoadView × List Source) :=
  if d.registry.isClosed then none
  else d.view?.bind fun view => view.listing.toOption.map fun listed => (view, listed)

/-- Note what a load installed, and create protection rows for it. What fails
here shows when a key signs. -/
def noteLoad (d : Daemon) : Daemon :=
  let installed := d.registry.snapshot.identifiers
  { d with
    loads := d.loads ++ [installed]
    engine := if d.registers then (d.engine.register installed).2 else d.engine }

/-- Load keys. A directory that cannot be listed is an error if `strict`, and
otherwise part of the report. -/
def load (strict : Bool) (d : Daemon) : Except KeyError LoadReport × Daemon :=
  let (result, after) :=
    d.withRegistry fun r => if strict then r.tryLoad d.view? else r.load d.view?
  (result, if d.listing?.isSome then after.noteLoad else after)

/-- The time that a load takes: that of the descriptions that give no answer. -/
def loadMillis (d : Daemon) : Nat :=
  match d.listing? with
  | none => 0
  | some (view, listed) =>
      Loader.waitedSeconds view.config view.decode listed d.registry.cache * 1000

/-- Count a beat: its number, and the counts after it. -/
def beat (name : String) (d : Daemon) : Nat × Daemon :=
  let n := (d.beats.lookup name).getD 0 + 1
  (n, { d with beats := d.beats.map fun b => if b.1 = name then (name, n) else b })

/-- One turn of a duty: whether it goes on, and the signer after it. -/
def perform (duty : Duty) (d : Daemon) : Bool × Daemon :=
  match duty with
  | .reload => (false, (d.load false).2)
  | .prune config => (true, (d.withEngine fun e => e.withPruner config Pruner.prune).2)
  | .heartbeat name last =>
      let (n, d) := d.beat name
      (last.all (n < ·), d)

/-- Let time pass. -/
def pass (millis : Nat) (d : Daemon) : Daemon :=
  let (duties, d) := d.duties.advance perform millis d
  { d with duties := duties }

/-- Load keys, and let the time pass that it takes. -/
def loadAndWait (strict : Bool) (d : Daemon) : Except KeyError LoadReport × Daemon :=
  let millis := d.loadMillis
  let (result, d) := d.load strict
  (result, if millis = 0 then d else d.pass millis)

/-- The signer with other duties. -/
def withDuties (d : Daemon) (f : TaskRegistry Duty → TaskRegistry Duty) : Daemon :=
  { d with duties := f d.duties }

/-- Prune at intervals. -/
def schedulePruning (c : PruningConfig) (d : Daemon) : Except ProtectionError Daemon :=
  match c.fault? with
  | some e => .error e
  | none => .ok (d.withDuties fun r => r.spawnInterval c.intervalMillis c.atBoot (.prune c))

/-- Know a heartbeat. -/
def withBeat (name : String) (d : Daemon) : Daemon :=
  if (d.beats.lookup name).isSome then d else { d with beats := d.beats ++ [(name, 0)] }

/-- Start a heartbeat with turns at intervals. -/
def beatEvery (name : String) (interval : Nat) (atOnce : Bool) (last : Option Nat) (d : Daemon) :
    Daemon :=
  (d.withBeat name).withDuties fun r => r.spawnInterval interval atOnce (.heartbeat name last)

/-- Start a heartbeat with one turn. -/
def beatOnce (name : String) (delay : Nat) (d : Daemon) : Daemon :=
  (d.withBeat name).withDuties fun r => r.spawnCancellable delay (.heartbeat name none)

/-- Generate a proxy from random bytes. -/
def generateProxy (entropy : ProxyEntropy) (request : ProxyKeyRequest) (d : Daemon) :
    Except SigningError SignedDelegation × Daemon :=
  d.withCustody fun c =>
    c.generateProxy d.service.network.genesisForkVersion d.service.mint entropy request

/-- Answer a request to the interface. A reload that it asks for is a duty. -/
def respond (entropy : ProxyEntropy) (request : Http.Request) (d : Daemon) :
    Http.Response × Daemon :=
  let served := d.service.respond entropy d.custody request
  let d := (d.withCustody fun _ => ((), served.custody)).2
  (served.response,
    if served.reloads then d.withDuties (·.spawnCancellable 0 .reload) else d)

end Daemon

end RemoteSigner
