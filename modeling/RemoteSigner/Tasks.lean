/-!
# Background tasks

Tasks wait for their turns on a common clock. A cancellable task has one turn;
an interval task has one after every interval, until its work asks to stop or
it finds the signal to shut down. Shutting down ends every task there is. The
signal is kept only if some task is there to receive it.
-/

namespace RemoteSigner

/-- A task. -/
structure Task (α : Type) where
  work : α
  /-- The time of the next turn. -/
  due : Nat
  /-- The time between turns, for a task that has several. -/
  period : Option Nat
deriving DecidableEq, Repr

/-- The tasks that are alive. -/
structure TaskRegistry (α : Type) where
  now : Nat
  /-- Whether the signal to shut down was kept. -/
  signalled : Bool
  tasks : List (Task α)
deriving DecidableEq, Repr

namespace TaskRegistry

variable {α σ : Type}

/-- A registry without tasks. -/
def empty : TaskRegistry α :=
  ⟨0, false, []⟩

/-- Start a task that does its work once, after a delay. -/
def spawnCancellable (delay : Nat) (work : α) (r : TaskRegistry α) : TaskRegistry α :=
  { r with tasks := r.tasks ++ [⟨work, r.now + delay, none⟩] }

/-- Start a task that does its work at every interval, and at once if asked. -/
def spawnInterval (interval : Nat) (atOnce : Bool) (work : α) (r : TaskRegistry α) :
    TaskRegistry α :=
  { r with tasks := r.tasks ++ [⟨work, if atOnce then r.now else r.now + interval, some interval⟩] }

/-- Whether the registry tells that it was shut down. -/
def isShutdown (r : TaskRegistry α) : Bool :=
  r.signalled

/-- Shut down: end every task, and keep the signal if there was one. -/
def shutdown (r : TaskRegistry α) : TaskRegistry α :=
  { r with signalled := r.signalled || !r.tasks.isEmpty, tasks := [] }

/-- The earliest of the tasks with a turn before `limit`, with those in front
of it and behind it. Of tasks with one time the first comes first. -/
def earliest? (limit : Nat) : List (Task α) → Option (List (Task α) × Task α × List (Task α))
  | [] => none
  | t :: rest =>
      match earliest? limit rest with
      | none => if t.due < limit then some ([], t, rest) else none
      | some (front, u, back) =>
          if t.due < limit ∧ t.due ≤ u.due then some ([], t, rest)
          else some (t :: front, u, back)

/-- One turn of a task: what it leaves of itself, and the state after its work.
An interval task that finds the signal does no work and ends. -/
def turn (perform : α → σ → Bool × σ) (signalled : Bool) (t : Task α) (s : σ) :
    Option (Task α) × σ :=
  match t.period with
  | none => (none, (perform t.work s).2)
  | some period =>
      if signalled then (none, s)
      else
        let (goesOn, s) := perform t.work s
        (if goesOn then some { t with due := t.due + period } else none, s)

/-- Take turns before `limit` in the order of time, at most `fuel` of them. -/
def run (perform : α → σ → Bool × σ) (limit : Nat) :
    Nat → TaskRegistry α → σ → TaskRegistry α × σ
  | 0, r, s => (r, s)
  | fuel + 1, r, s =>
      match earliest? limit r.tasks with
      | none => (r, s)
      | some (front, t, back) =>
          let (left, s) := turn perform r.signalled t s
          run perform limit fuel
            { r with now := max r.now t.due, tasks := front ++ left.toList ++ back } s

/-- The turns that one task without interval may take at one time. -/
def burst : Nat := 100000

/-- A bound on the turns of a task before `limit`. -/
def turnBound (limit : Nat) (t : Task α) : Nat :=
  match t.period with
  | none => 1
  | some 0 => burst
  | some period => (limit - t.due) / period + 1

/-- A bound on the turns of all tasks before `limit`. -/
def turnsBefore (limit : Nat) (tasks : List (Task α)) : Nat :=
  tasks.foldr (fun t n => turnBound limit t + n) 0

/-- Let time pass. A turn that falls on the very end is still to come. -/
def advance (perform : α → σ → Bool × σ) (duration : Nat) (r : TaskRegistry α) (s : σ) :
    TaskRegistry α × σ :=
  let limit := r.now + duration
  let (r, s) := run perform limit (turnsBefore limit r.tasks) r s
  ({ r with now := limit }, s)

end TaskRegistry

end RemoteSigner
