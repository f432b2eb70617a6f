import Mathlib.Order.Nat
import RemoteSigner.Proofs.Outcome
import RemoteSigner.Protection.Transaction

/-!
# Attempts at a transaction

An attempt either `Succeeds`, and then its operation was carried out on the database it found
and its writes were kept, or `Fails` when it takes the write lock, in the operation or when it
gives the lock back (`perform_eq_ok_iff`, `perform_eq_error_iff`).

On a connection an operation writes to a working copy, also where it fails in the end. A failed
attempt drops the copy, so the next one finds the database as the first one did (`make_idle`).
Attempts that find the database busy are passed over (`retry_skip`), and the first one that
does not decides: how a run ends is determined (`Ending.unique`). Main result:
`run_commits_once`.
-/

namespace RemoteSigner

variable {α : Type} {db : Database}

/-! ## One attempt -/

namespace Attempt

/-- The write lock is had, the operation has a result, and what it wrote is kept. -/
structure Succeeds (a : Attempt α) (db : Database) (x : α) (after : Database) : Prop where
  begins : a.begins = .ok ()
  body : a.body db = .ok (x, after)
  commits : a.commits = .ok ()

/-- A step fails, after those before it succeeded. -/
inductive Fails (a : Attempt α) (db : Database) (e : ProtectionError) : Prop
  | start (h : a.begins = .error e)
  | inside (hbegins : a.begins = .ok ()) (h : a.body db = .error e)
  | finish {x : α} {after : Database} (hbegins : a.begins = .ok ())
      (hbody : a.body db = .ok (x, after)) (h : a.commits = .error e)

/-- It fails because the database is busy. -/
def Busy (a : Attempt α) (db : Database) : Prop :=
  ∃ e, a.Fails db e ∧ e.isBusy = true

variable {a : Attempt α} {x : α} {after : Database} {e : ProtectionError}

theorem perform_eq_ok_iff : a.perform db = .ok (x, after) ↔ a.Succeeds db x after := by
  simp only [perform, bind_eq_ok, pure_eq_ok]
  constructor
  · rintro ⟨_, hbegins, _, hbody, _, hcommits, rfl⟩
    exact ⟨hbegins, hbody, hcommits⟩
  · intro h
    exact ⟨(), h.begins, _, h.body, (), h.commits, rfl⟩

theorem perform_eq_error_iff : a.perform db = .error e ↔ a.Fails db e := by
  simp only [perform, bind_eq_error]
  constructor
  · rintro (h | ⟨_, hbegins, h | ⟨_, hbody, h | ⟨_, _, h⟩⟩⟩)
    · exact .start h
    · exact .inside hbegins h
    · exact .finish hbegins hbody h
    · cases h
  · intro h
    cases h with
    | start h => exact .inl h
    | inside hbegins h => exact .inr ⟨(), hbegins, .inl h⟩
    | finish hbegins hbody h => exact .inr ⟨(), hbegins, .inr ⟨_, hbody, .inl h⟩⟩

end Attempt

/-! ## Attempts on a connection -/

/-- What is stored, and the working copy of an open transaction. -/
structure Connection where
  stored : Database
  working? : Option Database

namespace Connection

/-- A connection without an open transaction. -/
def idle (db : Database) : Connection :=
  ⟨db, none⟩

/-- Open a transaction, on a copy of what is stored. -/
def opened (c : Connection) : Connection :=
  { c with working? := some c.stored }

/-- Write in the open transaction. -/
def written (c : Connection) (db : Database) : Connection :=
  { c with working? := some db }

/-- Store the working copy. -/
def committed (c : Connection) : Connection :=
  ⟨c.working?.getD c.stored, none⟩

/-- Drop the working copy. -/
def rolledBack (c : Connection) : Connection :=
  { c with working? := none }

/-- Make an attempt: a transaction that was opened is committed or rolled back. When the
operation fails, it has written `scratch` of what it found. -/
def make (a : Attempt α) (scratch : Database → Database) (c : Connection) :
    Protected α × Connection :=
  match a.begins with
  | .error e => (.error e, c)
  | .ok () =>
      match a.body c.stored with
      | .error e => (.error e, (c.opened.written (scratch c.stored)).rolledBack)
      | .ok (x, after) =>
          match a.commits with
          | .error e => (.error e, (c.opened.written after).rolledBack)
          | .ok () => (.ok x, (c.opened.written after).committed)

/-- Make attempts from number `made + 1` on while they find the database busy and some are
left. What each of them found stored is noted. -/
def retry (attempt : Nat → Attempt α) (scratch : Nat → Database → Database) :
    Nat → Nat → Connection × List Database → Protected α × Connection × List Database
  | 0, made, x => (.error (.retriesExhausted made), x)
  | left + 1, made, (c, found) =>
      match make (attempt made) (scratch made) c with
      | (.ok a, c') => (.ok a, c', found ++ [c.stored])
      | (.error e, c') =>
          if e.isBusy then retry attempt scratch left (made + 1) (c', found ++ [c.stored])
          else (.error e, c', found ++ [c.stored])

variable {attempt : Nat → Attempt α} {scratch : Nat → Database → Database} {made : Nat}

/-- An attempt that fails leaves nothing behind, and one that succeeds its database. -/
theorem make_idle (a : Attempt α) (scratch : Database → Database) (db : Database) :
    make a scratch (idle db) =
      match a.perform db with
      | .error e => (.error e, idle db)
      | .ok (x, after) => (.ok x, idle after) := by
  cases hperform : a.perform db with
  | error e =>
      cases Attempt.perform_eq_error_iff.mp hperform with
      | start h => simp [make, h]
      | inside hbegins h => simp [make, hbegins, idle, h, rolledBack, written, opened]
      | finish hbegins hbody h =>
          simp [make, hbegins, idle, hbody, h, rolledBack, written, opened]
  | ok result =>
      obtain ⟨x, after⟩ := result
      obtain ⟨hbegins, hbody, hcommits⟩ := Attempt.perform_eq_ok_iff.mp hperform
      simp [make, hbegins, idle, hbody, hcommits, committed, written, opened]

theorem retry_success {x : α} {after : Database} (h : (attempt made).Succeeds db x after)
    (left : Nat) (found : List Database) :
    retry attempt scratch (left + 1) made (idle db, found) =
      (.ok x, idle after, found ++ [db]) := by
  rw [retry, make_idle, Attempt.perform_eq_ok_iff.mpr h]
  rfl

theorem retry_failure {e : ProtectionError} (h : (attempt made).Fails db e)
    (he : e.isBusy = false) (left : Nat) (found : List Database) :
    retry attempt scratch (left + 1) made (idle db, found) =
      (.error e, idle db, found ++ [db]) := by
  rw [retry, make_idle, Attempt.perform_eq_error_iff.mpr h]
  simp [he, idle]

theorem retry_busy (h : (attempt made).Busy db) (left : Nat) (found : List Database) :
    retry attempt scratch (left + 1) made (idle db, found) =
      retry attempt scratch left (made + 1) (idle db, found ++ [db]) := by
  obtain ⟨e, hfails, hbusy⟩ := h
  rw [retry, make_idle, Attempt.perform_eq_error_iff.mpr hfails]
  simp [hbusy, idle]

/-- Attempts that find the database busy are passed over. -/
theorem retry_skip (scratch : Nat → Database → Database) {n made : Nat}
    (h : ∀ k < n, (attempt (made + k)).Busy db) (left : Nat) (found : List Database) :
    retry attempt scratch (n + left) made (idle db, found) =
      retry attempt scratch left (made + n) (idle db, found ++ List.replicate n db) := by
  induction n generalizing made found with
  | zero => simp
  | succ n ih =>
      have hfirst : (attempt made).Busy db := h 0 (Nat.zero_lt_succ n)
      have hrest : ∀ k < n, (attempt (made + 1 + k)).Busy db := fun k hk => by
        rw [Nat.add_right_comm]
        exact h (k + 1) (Nat.succ_lt_succ hk)
      rw [Nat.succ_add, retry_busy hfirst, ih hrest, List.replicate_succ, List.append_assoc,
        Nat.add_assoc, Nat.add_comm 1 n]
      rfl

/-- The connection ends with what a run of the transaction gives. -/
theorem retry_eq (attempt : Nat → Attempt α) (scratch : Nat → Database → Database)
    (db : Database) (left made : Nat) (found : List Database) :
    (retry attempt scratch left made (idle db, found)).1 =
        (Transaction.retry attempt db left made).1 ∧
      (retry attempt scratch left made (idle db, found)).2.1 =
        idle (Transaction.retry attempt db left made).2 := by
  induction left generalizing made found with
  | zero => exact ⟨rfl, rfl⟩
  | succ left ih =>
      rw [retry, make_idle, Transaction.retry]
      cases (attempt made).perform db with
      | ok result => exact ⟨rfl, rfl⟩
      | error e =>
          by_cases hbusy : e.isBusy = true
          · simp only [hbusy, if_true]
            exact ih _ _
          · simp only [hbusy]
            exact ⟨rfl, rfl⟩

end Connection

/-! ## How a run ends -/

namespace Transaction

/-- After how many attempts, of at most `limit`, a run on a database ends, with its result and
the database it leaves. -/
inductive Ending (attempt : Nat → Attempt α) (limit : Nat) (db : Database) :
    Nat → Protected α → Database → Prop
  | success {before : Nat} {x : α} {after : Database} (hlimit : before < limit)
      (hbusy : ∀ k < before, (attempt k).Busy db) (h : (attempt before).Succeeds db x after) :
      Ending attempt limit db (before + 1) (.ok x) after
  | failure {before : Nat} {e : ProtectionError} (hlimit : before < limit)
      (hbusy : ∀ k < before, (attempt k).Busy db) (h : (attempt before).Fails db e)
      (he : e.isBusy = false) : Ending attempt limit db (before + 1) (.error e) db
  | exhausted (hbusy : ∀ k < limit, (attempt k).Busy db) :
      Ending attempt limit db limit (.error (.retriesExhausted limit)) db

variable {attempt : Nat → Attempt α} {limit made : Nat} {result : Protected α}
  {after : Database}

theorem exists_ending (attempt : Nat → Attempt α) (limit : Nat) (db : Database) :
    ∃ made result after, Ending attempt limit db made result after := by
  classical
  by_cases hall : ∀ k < limit, (attempt k).Busy db
  · exact ⟨_, _, _, .exhausted hall⟩
  · have hfree : ∃ k, k < limit ∧ ¬ (attempt k).Busy db := by
      simpa using hall
    -- the first attempt that does not find the database busy
    obtain ⟨hlimit, hfirst⟩ := Nat.find_spec hfree
    have hbusy : ∀ k < Nat.find hfree, (attempt k).Busy db := fun k hk => by
      by_contra hnot
      exact Nat.find_min hfree hk ⟨hk.trans hlimit, hnot⟩
    cases hperform : (attempt (Nat.find hfree)).perform db with
    | ok r =>
        exact ⟨_, _, _, .success hlimit hbusy (Attempt.perform_eq_ok_iff.mp hperform)⟩
    | error e =>
        have hfails := Attempt.perform_eq_error_iff.mp hperform
        have he : e.isBusy = false := by
          by_contra hbusy
          exact hfirst ⟨e, hfails, by simpa using hbusy⟩
        exact ⟨_, _, _, .failure hlimit hbusy hfails he⟩

/-- The connection ends as the run does, and each attempt found the database as it was. -/
theorem Ending.retry_eq (h : Ending attempt limit db made result after)
    (scratch : Nat → Database → Database) :
    Connection.retry attempt scratch limit 0 (.idle db, []) =
      (result, .idle after, List.replicate made db) := by
  cases h with
  | @success before x after hlimit hbusy h =>
      obtain ⟨left, rfl⟩ : ∃ left, limit = before + (left + 1) :=
        ⟨limit - before - 1, by omega⟩
      rw [Connection.retry_skip scratch (by simpa using hbusy),
        Connection.retry_success (by simpa using h), List.replicate_succ']
      rfl
  | @failure before e hlimit hbusy h he =>
      obtain ⟨left, rfl⟩ : ∃ left, limit = before + (left + 1) :=
        ⟨limit - before - 1, by omega⟩
      rw [Connection.retry_skip scratch (by simpa using hbusy),
        Connection.retry_failure (by simpa using h) he, List.replicate_succ']
      rfl
  | exhausted hbusy =>
      have hpassed : ∀ k < limit, (attempt (0 + k)).Busy db := by
        simpa using hbusy
      simpa [Connection.retry] using Connection.retry_skip scratch hpassed 0 []

/-- There is one way in which a run can end. -/
theorem Ending.unique {made' : Nat} {result' : Protected α} {after' : Database}
    (h : Ending attempt limit db made result after)
    (h' : Ending attempt limit db made' result' after') :
    made' = made ∧ result' = result ∧ after' = after := by
  have hsame := (h'.retry_eq fun _ => id).symm.trans (h.retry_eq fun _ => id)
  obtain ⟨hresult, hconnection, hfound⟩ : result' = result ∧
      Connection.idle after' = .idle after ∧ List.replicate made' db = List.replicate made db := by
    simpa using hsame
  have hmade := congrArg List.length hfound
  rw [List.length_replicate, List.length_replicate] at hmade
  exact ⟨hmade, hresult, congrArg Connection.stored hconnection⟩

/-- A run gives what it ends with. -/
theorem Ending.run_eq {maxAttempts : Nat}
    (h : Ending attempt (max 1 maxAttempts) db made result after) :
    run maxAttempts attempt db = (result, after) := by
  obtain ⟨hresult, hstored⟩ :=
    Connection.retry_eq attempt (fun _ => id) db (max 1 maxAttempts) 0 []
  rw [h.retry_eq] at hresult hstored
  exact Prod.ext hresult.symm (congrArg Connection.stored hstored).symm

/-- What becomes of attempts, `limit` at most, that all give the same. -/
def settle (limit : Nat) (db : Database) : Protected (α × Database) → Protected α × Database
  | .ok (x, after) => (.ok x, after)
  | .error e => (.error (if e.isBusy then .retriesExhausted limit else e), db)

/-- Only a database that stays busy makes a run differ from each of its attempts. -/
theorem run_same {r : Protected (α × Database)} (h : ∀ k, (attempt k).perform db = r)
    (maxAttempts : Nat) :
    run maxAttempts attempt db = settle (max 1 maxAttempts) db r := by
  have hlimit : 0 < max 1 maxAttempts := by omega
  cases r with
  | ok r =>
      have hsucceeds := Attempt.perform_eq_ok_iff.mp (h 0)
      exact (Ending.success hlimit (by simp) hsucceeds).run_eq
  | error e =>
      have hfails : ∀ k, (attempt k).Fails db e := fun k => Attempt.perform_eq_error_iff.mp (h k)
      by_cases hbusy : e.isBusy = true
      · rw [(Ending.exhausted fun k _ => ⟨e, hfails k, hbusy⟩).run_eq]
        simp [settle, hbusy]
      · rw [(Ending.failure hlimit (by simp) (hfails 0) (by simpa using hbusy)).run_eq]
        simp [settle, hbusy]

/-- A run makes at least one attempt and at most `maxAttempts`, or one. It ends with the first
attempt that does not find the database busy, or when no attempt is left. An attempt that
succeeds was carried out once, on the database that the run found; otherwise that database is
left. Whatever the operations write before they fail, each attempt finds the same, and nothing
is left open. -/
theorem run_commits_once (maxAttempts : Nat) (attempt : Nat → Attempt α) (db : Database) :
    ∃ made result after, Ending attempt (max 1 maxAttempts) db made result after ∧
      (∀ made' result' after', Ending attempt (max 1 maxAttempts) db made' result' after' →
        made' = made ∧ result' = result ∧ after' = after) ∧
      1 ≤ made ∧ made ≤ max 1 maxAttempts ∧
      run maxAttempts attempt db = (result, after) ∧
      ∀ scratch, Connection.retry attempt scratch (max 1 maxAttempts) 0 (.idle db, []) =
        (result, .idle after, List.replicate made db) := by
  obtain ⟨made, result, after, hending⟩ := exists_ending attempt (max 1 maxAttempts) db
  have hbounds : 1 ≤ made ∧ made ≤ max 1 maxAttempts := by
    cases hending <;> omega
  exact ⟨made, result, after, hending, fun _ _ _ h => hending.unique h, hbounds.1, hbounds.2,
    hending.run_eq, hending.retry_eq⟩

end Transaction

end RemoteSigner
