import RemoteSigner.Protection.Database

/-!
# Transactions

An operation runs between taking and giving back the write lock. An attempt
that fails at any point leaves the database as it was; one that fails because
the database is busy is made again, up to a bound.
-/

namespace RemoteSigner

/-- An operation on the database: its result and the database after it. -/
abbrev Operation (α : Type) := Database → Protected (α × Database)

/-- One attempt at an operation. -/
structure Attempt (α : Type) where
  /-- Taking the write lock. -/
  begins : Protected Unit
  body : Operation α
  /-- Giving it back. -/
  commits : Protected Unit

namespace Attempt

variable {α : Type}

/-- The result of an attempt, with the database it leaves when it succeeds. -/
def perform (a : Attempt α) (db : Database) : Protected (α × Database) := do
  a.begins
  let result ← a.body db
  a.commits
  pure result

end Attempt

namespace Transaction

variable {α : Type}

/-- Make attempts from number `made + 1` on while they find the database busy
and some are left. -/
def retry (attempt : Nat → Attempt α) (db : Database) : Nat → Nat → Protected α × Database
  | 0, made => (.error (.retriesExhausted made), db)
  | left + 1, made =>
      match (attempt made).perform db with
      | .ok (a, after) => (.ok a, after)
      | .error e =>
          if e.isBusy then retry attempt db left (made + 1) else (.error e, db)

/-- Run an operation with at most `maxAttempts` attempts, at least one. -/
def run (maxAttempts : Nat) (attempt : Nat → Attempt α) (db : Database) :
    Protected α × Database :=
  retry attempt db (max 1 maxAttempts) 0

/-- The attempts at an operation while the write lock is free or held by
someone else. -/
def attempts (locked : Bool) (body : Operation α) (_ : Nat) : Attempt α where
  begins := if locked then .error (.database .locked) else .ok ()
  body := body
  commits := .ok ()

end Transaction

end RemoteSigner
