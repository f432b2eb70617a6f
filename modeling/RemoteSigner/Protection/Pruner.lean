import RemoteSigner.Protection.Engine

/-!
# Pruning one run at a time

A pruner removes old records of an engine by one configuration. While a run is
under way another one is passed over, so runs of a pruner never overlap.
-/

namespace RemoteSigner

/-- A pruner of an engine. -/
structure Pruner where
  config : PruningConfig
  engine : Engine
  /-- Whether a run is under way. -/
  isRunning : Bool

namespace Pruner

/-- A pruner by a configuration that keeps something. -/
def of (c : PruningConfig) (e : Engine) : Protected Pruner :=
  match c.fault? with
  | some fault => .error fault
  | none => .ok ⟨c, e, false⟩

/-- Begin a run, unless one is under way. -/
def start? (p : Pruner) : Option Pruner :=
  if p.isRunning then none else some { p with isRunning := true }

/-- Carry out the run that is under way. -/
def finish (p : Pruner) : Protected PruneReport × Pruner :=
  let (result, engine) := p.engine.prune p.config
  (result, { p with engine := engine, isRunning := false })

/-- Prune, and report it, unless a run is under way. -/
def prune (p : Pruner) : Protected (Option PruneReport) × Pruner :=
  match p.start? with
  | none => (.ok none, p)
  | some p =>
      let (result, p) := p.finish
      (result.map some, p)

/-- Prune twice at once: the second run is asked for before the first one is
carried out. -/
def pruneTwice (p : Pruner) : Protected (Option PruneReport × Option PruneReport) × Pruner :=
  match p.start? with
  | none => (.ok (none, none), p)
  | some p =>
      match p.prune with
      | (.error fault, p) => (.error fault, p)
      | (.ok second, p) =>
          let (first, p) := p.finish
          (first.map fun report => (some report, second), p)

end Pruner

/-- Prune an engine by a configuration, with a pruner of its own. -/
def Engine.withPruner {α : Type} (c : PruningConfig) (f : Pruner → Protected α × Pruner)
    (e : Engine) : Protected α × Engine :=
  match Pruner.of c e with
  | .error fault => (.error fault, e)
  | .ok p =>
      let (result, p) := f p
      (result, p.engine)

end RemoteSigner
