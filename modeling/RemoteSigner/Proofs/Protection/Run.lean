import RemoteSigner.Proofs.Protection.Operation
import RemoteSigner.Proofs.Protection.Retrying

/-!
# Runs of the protection engine

Every way to use the engine is a `Call`; `perform` makes one, `after` and
`trace` make several in order. Besides the public operations there is a call for
one transaction of a pruning run, so that others may come in between, and one
for someone else taking or giving back the write lock.

* `transact_cases` — an operation is carried out as a whole or not at all;
* `perform_step`, `after_step` — no call, and so no run, leaves the database
  unsound or moves it back;
* `reachable_consistent` — the invariant of the store in every reachable state.
-/

namespace RemoteSigner

namespace Engine

/-! ## Calls -/

/-- A use of the engine. -/
inductive Call where
  | block (key : SignerId) (request : BlockRequest) (genesisRoot : Root)
  | attest (key : SignerId) (request : AttestationRequest) (genesisRoot : Root)
  | register (keys : List SignerId)
  | setEnabled (key : SignerId) (enabled : Bool)
  | raiseLow (slot : Option Slot) (epoch : Option Epoch)
  | highWatermark
  | setHighWatermark (high : HighWatermark)
  | removeHighWatermark
  | exportHistory (filter : Option (List SignerId))
  | importHistory (d : Interchange)
  | prune (c : PruningConfig)
  /-- One transaction of a pruning run. -/
  | pruneOne (c : PruningConfig) (key : SignerId)
  /-- Another connection takes or gives back the write lock. -/
  | lock (held : Bool)

/-- What a call is answered with when it succeeds. -/
inductive Answer where
  | decision (d : Decision)
  | done
  | found (known : Bool)
  | count (n : Nat)
  | ceiling (high : HighWatermark)
  | history (d : Interchange)
  | imported (summary : ImportSummary)
  | pruned (report : PruneReport)
  | removed (blocks attestations : Nat)
deriving DecidableEq

/-- A call and its answer. -/
abbrev Entry := Call × Protected Answer

variable {α β : Type}

/-- The answer of a kind of call. -/
def answer (f : α → Answer) (r : Protected α × Engine) : Protected Answer × Engine :=
  (r.1.map f, r.2)

/-- Make a call. -/
def perform (e : Engine) : Call → Protected Answer × Engine
  | .block key request root => answer .decision (e.mayBlock key request root)
  | .attest key request root => answer .decision (e.mayAttest key request root)
  | .register keys => answer (fun _ => .done) (e.register keys)
  | .setEnabled key enabled => answer .found (e.setEnabled key enabled)
  | .raiseLow slot epoch => answer .count (e.raiseLow slot epoch)
  | .highWatermark => answer .ceiling e.highWatermark
  | .setHighWatermark high => answer (fun _ => .done) (e.setHighWatermark high)
  | .removeHighWatermark => answer (fun _ => .done) e.removeHighWatermark
  | .exportHistory filter => answer .history (e.exportHistory filter)
  | .importHistory d => answer .imported (e.importHistory d)
  | .prune c => answer .pruned (e.prune c)
  | .pruneOne c key => answer (fun n => .removed n.1 n.2) (e.transact (Database.pruneOne c key))
  | .lock held => (.ok .done, { e with locked := held })

/-- The engine after several calls. -/
def after : Engine → List Call → Engine
  | e, [] => e
  | e, c :: rest => (e.perform c).2.after rest

/-- Several calls with their answers. -/
def trace : Engine → List Call → List Entry
  | _, [] => []
  | e, c :: rest => (c, (e.perform c).1) :: (e.perform c).2.trace rest

/-- An engine over a database nothing was written to. -/
def fresh (maxAttempts : Nat) : Engine :=
  ⟨maxAttempts, false, .empty⟩

theorem after_append (e : Engine) (cs ds : List Call) :
    e.after (cs ++ ds) = (e.after cs).after ds := by
  induction cs generalizing e with
  | nil => rfl
  | cons c rest ih => exact ih _

theorem trace_append (e : Engine) (cs ds : List Call) :
    e.trace (cs ++ ds) = e.trace cs ++ (e.after cs).trace ds := by
  induction cs generalizing e with
  | nil => rfl
  | cons c rest ih =>
      rw [List.cons_append, trace, ih]
      rfl

/-- An entry of a trace is a call made after the calls before it. -/
theorem mem_trace {e : Engine} {cs : List Call} {x : Entry} (h : x ∈ e.trace cs) :
    ∃ before c, x = (c, ((e.after before).perform c).1) := by
  induction cs generalizing e with
  | nil => exact absurd h (by simp [trace])
  | cons c rest ih =>
      rcases List.mem_cons.mp h with rfl | h
      · exact ⟨[], c, rfl⟩
      · obtain ⟨before, d, rfl⟩ := ih h
        exact ⟨c :: before, d, rfl⟩

/-! ## Transactions -/

/-- An attempt is the operation itself, where the write lock is free. -/
theorem perform_attempts (locked : Bool) (body : Operation α) (made : Nat) (db : Database) :
    (Transaction.attempts locked body made).perform db =
      if locked then .error (.database .locked) else body db := by
  cases locked with
  | true => rfl
  | false =>
      show (body db >>= fun result => pure result) = body db
      cases body db <;> rfl

/-- While someone else holds the write lock, no attempt succeeds. -/
theorem transact_locked {e : Engine} (h : e.locked = true) (body : Operation α) :
    e.transact body = (.error (.retriesExhausted (max 1 e.maxAttempts)), e) := by
  have hattempt : ∀ made, (Transaction.attempts e.locked body made).perform e.database =
      .error (.database .locked) := fun made => by rw [perform_attempts, h, if_pos rfl]
  rw [transact, Transaction.run_same hattempt]
  rfl

/-- Where the write lock is free, an operation that succeeds is carried out. -/
theorem transact_of_ok {e : Engine} (body : Operation α) {a : α} {db : Database}
    (hfree : e.locked = false) (h : body e.database = .ok (a, db)) :
    e.transact body = (.ok a, { e with database := db }) := by
  have hattempt : ∀ made, (Transaction.attempts e.locked body made).perform e.database =
      .ok (a, db) := fun made => by rw [perform_attempts, hfree, if_neg Bool.false_ne_true, h]
  rw [transact, Transaction.run_same hattempt]
  rfl

/-- An operation that fails by itself is tried again if the database was busy. -/
theorem transact_of_error {e : Engine} (body : Operation α) {fault : ProtectionError}
    (hfree : e.locked = false) (h : body e.database = .error fault) :
    e.transact body =
      (.error (if fault.isBusy then .retriesExhausted (max 1 e.maxAttempts) else fault), e) := by
  have hattempt : ∀ made, (Transaction.attempts e.locked body made).perform e.database =
      .error fault := fun made => by rw [perform_attempts, hfree, if_neg Bool.false_ne_true, h]
  rw [transact, Transaction.run_same hattempt]
  rfl

/-- An operation is carried out as a whole or not at all. -/
theorem transact_cases (e : Engine) (body : Operation α) :
    (∃ fault, e.transact body = (.error fault, e)) ∨
    ∃ a db, body e.database = .ok (a, db) ∧
      e.transact body = (.ok a, { e with database := db }) := by
  by_cases hlocked : e.locked = true
  · exact .inl ⟨_, transact_locked hlocked body⟩
  · have hfree : e.locked = false := by simpa using hlocked
    cases hbody : body e.database with
    | error fault => exact .inl ⟨_, transact_of_error body hfree hbody⟩
    | ok r => exact .inr ⟨r.1, r.2, rfl, transact_of_ok body hfree hbody⟩

/-- An operation that fails leaves nothing behind. -/
theorem transact_error {e : Engine} {body : Operation α} {fault : ProtectionError}
    (h : (e.transact body).1 = .error fault) : (e.transact body).2 = e := by
  rcases transact_cases e body with ⟨_, hf⟩ | ⟨a, db, _, hok⟩
  · rw [hf]
  · rw [hok] at h
    cases h

/-- A call that is answered was carried out. -/
theorem answer_transact_ok {e : Engine} {body : Operation α} {f : α → Answer} {b : Answer}
    (h : (answer f (e.transact body)).1 = .ok b) :
    ∃ a db, f a = b ∧ body e.database = .ok (a, db) ∧
      (answer f (e.transact body)).2 = { e with database := db } := by
  unfold answer at h ⊢
  rcases transact_cases e body with ⟨fault, hf⟩ | ⟨a, db, hbody, hok⟩
  · rw [hf] at h
    exact absurd h (by simp [Except.map])
  · rw [hok] at h ⊢
    exact ⟨a, db, Except.ok.inj h, hbody, rfl⟩

/-- An operation that fails was out of attempts, or failed by itself. -/
theorem transact_fault {e : Engine} {body : Operation α} {fault : ProtectionError}
    (h : (e.transact body).1 = .error fault) :
    (∃ n, fault = .retriesExhausted n) ∨ body e.database = .error fault := by
  cases hlocked : e.locked with
  | true =>
      -- a lock held by someone else is a reason to try again
      rw [transact_locked hlocked] at h
      exact .inl ⟨_, (Except.error.inj h).symm⟩
  | false =>
      cases hbody : body e.database with
      | ok r =>
          rw [transact_of_ok body hlocked hbody] at h
          cases h
      | error found =>
          rw [transact_of_error body hlocked hbody] at h
          obtain rfl := Except.error.inj h
          by_cases hbusy : found.isBusy = true
          · exact .inl ⟨_, if_pos hbusy⟩
          · rw [if_neg hbusy]
            exact .inr rfl

/-- An operation succeeds exactly if the write lock is free and it has a result. -/
theorem transact_ok_iff {e : Engine} {body : Operation α} {a : α} :
    (e.transact body).1 = .ok a ↔ e.locked = false ∧ ∃ db, body e.database = .ok (a, db) := by
  constructor
  · intro h
    have hfree : e.locked = false := by
      by_contra hlocked
      rw [transact_locked (by simpa using hlocked)] at h
      cases h
    rcases transact_cases e body with ⟨fault, hf⟩ | ⟨b, db, hbody, hok⟩
    · rw [hf] at h
      cases h
    · rw [hok] at h
      obtain rfl := Except.ok.inj h
      exact ⟨hfree, db, hbody⟩
  · rintro ⟨hfree, db, hbody⟩
    rw [transact_of_ok body hfree hbody]

section SideBySide

variable {s : α → α → Prop} {R : Database → Database → Prop} {body : Operation α}

/-- An operation that answers alike on two databases does so on engines over them. -/
theorem transact_agree {e e' : Engine} (hattempts : e.maxAttempts = e'.maxAttempts)
    (hlocked : e.locked = e'.locked) (h : R e.database e'.database)
    (hbody : Agree (fun r r' => s r.1 r'.1 ∧ R r.2 r'.2) (body e.database) (body e'.database)) :
    Agree s (e.transact body).1 (e'.transact body).1 ∧
      R (e.transact body).2.database (e'.transact body).2.database := by
  cases hheld : e.locked with
  | true =>
      rw [transact_locked hheld, transact_locked (hlocked.symm.trans hheld), hattempts]
      exact ⟨.error _, h⟩
  | false =>
      have hfree := hlocked.symm.trans hheld
      generalize hx : body e.database = x at hbody
      generalize hy : body e'.database = y at hbody
      cases hbody with
      | error fault =>
          rw [transact_of_error body hheld hx, transact_of_error body hfree hy, hattempts]
          exact ⟨.error _, h⟩
      | ok hr =>
          rw [transact_of_ok body hheld hx, transact_of_ok body hfree hy]
          exact ⟨.ok hr.1, hr.2⟩

end SideBySide

/-! ## Steps -/

/-- An engine moves on to another over the same deployment. -/
def Step (e e' : Engine) : Prop :=
  e'.database.Sound ∧ e.database.Advances e'.database

theorem Step.trans {e e' e'' : Engine} (h : e.Step e') (h' : e'.Step e'') : e.Step e'' :=
  ⟨h'.1, h.2.trans h'.2⟩

theorem transact_step {e : Engine} (h : e.database.Sound) {body : Operation α}
    (hsafe : body.Safe) : e.Step (e.transact body).2 := by
  rcases transact_cases e body with ⟨fault, hf⟩ | ⟨a, db, hbody, hok⟩
  · rw [hf]
    exact ⟨h, .refl _⟩
  · rw [hok]
    exact hsafe h hbody

theorem pruneEach_step {c : PruningConfig} {keys : List SignerId} {report : PruneReport}
    {e : Engine} (h : e.database.Sound) : e.Step (pruneEach c keys report e).2 := by
  induction keys generalizing report e with
  | nil => exact ⟨h, .refl _⟩
  | cons key rest ih =>
      have hone := transact_step h (Database.safe_pruneOne c key)
      rw [pruneEach]
      generalize e.transact (Database.pruneOne c key) = r at hone ⊢
      obtain ⟨result, e₁⟩ := r
      cases result with
      | error fault => exact hone
      | ok counts =>
          exact hone.trans (ih hone.1)

theorem prune_step {e : Engine} (h : e.database.Sound) (c : PruningConfig) :
    e.Step (e.prune c).2 := by
  unfold prune
  cases c.fault? with
  | some fault => exact ⟨h, .refl _⟩
  | none =>
      have hkeys := transact_step h Database.reads_readKeys.safe
      generalize e.transact Database.readKeys = r at hkeys ⊢
      obtain ⟨result, e₁⟩ := r
      cases result with
      | error fault => exact hkeys
      | ok keys =>
          exact hkeys.trans (pruneEach_step hkeys.1)

/-- No call leaves the database unsound or moves it back. -/
theorem perform_step {e : Engine} (h : e.database.Sound) (c : Call) : e.Step (e.perform c).2 := by
  have hstay : e.Step e := ⟨h, .refl _⟩
  cases c with
  | block key request root => exact transact_step h (Database.safe_mayBlock key request root)
  | attest key request root => exact transact_step h (Database.safe_mayAttest key request root)
  | register keys =>
      show e.Step (e.register keys).2
      unfold register
      split
      · exact hstay
      · exact transact_step h (Database.safe_register keys)
  | setEnabled key enabled => exact transact_step h (Database.safe_setEnabled key enabled)
  | raiseLow slot epoch =>
      show e.Step (e.raiseLow slot epoch).2
      unfold raiseLow
      split
      · exact hstay
      · exact transact_step h (Database.safe_raiseLow slot epoch)
  | highWatermark => exact transact_step h Database.reads_readHigh.safe
  | setHighWatermark high =>
      show e.Step (e.setHighWatermark high).2
      unfold setHighWatermark
      split
      · exact hstay
      · exact transact_step h (Database.safe_replaceHigh high)
  | removeHighWatermark => exact transact_step h (Database.safe_replaceHigh .none)
  | exportHistory filter => exact transact_step h (Database.reads_readHistory filter).safe
  | importHistory d => exact transact_step h (Interchange.safe_importTo d)
  | prune c => exact prune_step h c
  | pruneOne c key => exact transact_step h (Database.safe_pruneOne c key)
  | lock held => exact hstay

/-- No run leaves the database unsound or moves it back. -/
theorem after_step {e : Engine} (h : e.database.Sound) (cs : List Call) : e.Step (e.after cs) := by
  induction cs generalizing e with
  | nil => exact ⟨h, .refl _⟩
  | cons c rest ih =>
      have hone := perform_step h c
      exact hone.trans (ih hone.1)

theorem sound_after_fresh (maxAttempts : Nat) (cs : List Call) :
    ((fresh maxAttempts).after cs).database.Sound :=
  (after_step Database.sound_empty cs).1

/-- In every reachable state validators are distinct and each is consistent: it
has one block for a slot and one attestation for a target, no vote that runs
backwards or surrounds another, and watermarks set and no lower than anything on
record. And the next call keeps every validator and lowers or clears no part of
its watermark. -/
theorem reachable_consistent (maxAttempts : Nat) (calls : List Call) (next : Call) :
    let e := (fresh maxAttempts).after calls
    (e.database.validators.map (·.key)).Nodup ∧
    (∀ v ∈ e.database.validators, v.Consistent) ∧
    ∀ v ∈ e.database.validators, ∃ v' ∈ (e.perform next).2.database.validators,
      v'.key = v.key ∧ Raised v.slotMark v'.slotMark ∧ Raised v.sourceMark v'.sourceMark ∧
        Raised v.targetMark v'.targetMark := by
  intro e
  have he : e.database.Sound := sound_after_fresh maxAttempts calls
  refine ⟨he.keys_distinct, fun v hv => (he.rows v hv).toConsistent, fun v hv => ?_⟩
  obtain ⟨_, hadv⟩ := perform_step he next
  have hfound := he.find?_eq hv
  obtain ⟨v', hv'⟩ := Option.isSome_iff_exists.mp (hadv.kept v.key (by rw [hfound]; rfl))
  have hrow : v.Advances v' := by
    have hrows := hadv.rows v.key
    rwa [Database.row_eq hfound, Database.row_eq hv'] at hrows
  exact ⟨v', (Database.find?_mem hv').1, hrow.key_eq, hrow.slot, hrow.source, hrow.target⟩

end Engine

end RemoteSigner
