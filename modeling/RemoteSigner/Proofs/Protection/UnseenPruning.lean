import RemoteSigner.Proofs.Protection.Retention
import RemoteSigner.Proofs.Protection.TwinRun

/-!
# Pruning goes unseen

Of what a run answers, `lasting` leaves out the pruning calls and which records
were listed, written or passed over. All the rest is the same with and without
pruning:

* `Twins.perform` — a call on twin engines;
* `PrunedBetween.lasting_eq` — two runs from twin engines, by induction on the
  second;
* `pruning_unseen` — two runs from an empty database.
-/

namespace RemoteSigner

namespace Engine

open Database

variable {e e' : Engine}

/-- Whether a call removes old records. -/
def Call.prunes : Call → Bool
  | .prune _ | .pruneOne _ _ => true
  | _ => false

/-- An answer without the records that it lists or counts. -/
def Answer.lasting : Answer → Answer
  | .history _ | .imported _ => .done
  | a => a

/-- What remains of a trace without pruning: every decision, and whether
histories were taken in or handed out. -/
def lasting (t : List Entry) : List Entry :=
  (t.filter (!·.1.prunes)).map fun x => (x.1, x.2.map Answer.lasting)

/-- The second run makes the calls of the first, and pruning calls in between. -/
inductive PrunedBetween : List Call → List Call → Prop
  | nil : PrunedBetween [] []
  | both (c : Call) {calls pruned : List Call} (h : PrunedBetween calls pruned) :
      PrunedBetween (c :: calls) (c :: pruned)
  | pruning (c : Call) {calls pruned : List Call} (hc : c.prunes = true)
      (h : PrunedBetween calls pruned) : PrunedBetween calls (c :: pruned)

theorem lasting_cons (x : Entry) (t : List Entry) :
    lasting (x :: t) =
      if x.1.prunes then lasting t else (x.1, x.2.map Answer.lasting) :: lasting t := by
  cases hx : x.1.prunes <;> simp [lasting, hx]

/-! ## One call -/

/-- Answers that are alike in what lasts. -/
def SameLasting (a a' : Answer) : Prop := a.lasting = a'.lasting

/-- A pruning call leaves a twin. -/
theorem perform_prunes_twins (h : e.database.Sound) {c : Call} (hc : c.prunes = true) :
    e.Twins anyKey (e.perform c).2 := by
  cases c with
  | prune c => exact prune_twins h c
  | pruneOne c key => exact transact_pruneOne_twins h c key
  | _ => cases hc

/-- Twins answer every other call alike, and stay twins. -/
theorem Twins.perform (h : e.Twins anyKey e') (hs : e.database.Sound) (hs' : e'.database.Sound)
    {c : Call} (hc : c.prunes = false) :
    TwinsAfter anyKey SameLasting (e.perform c) (e'.perform c) := by
  have hsame : ∀ {α : Type} {f : α → Answer} (a a' : α), a = a' → SameLasting (f a) (f a') := by
    rintro α f a _ rfl
    exact rfl
  have hstay : ∀ fault, TwinsAfter anyKey SameLasting (.error fault, e) (.error fault, e') :=
    fun fault => ⟨.error fault, h⟩
  cases c with
  | block key request root =>
      exact h.answer (h.database.mayBlock hs hs' trivial request) hsame
  | attest key request root =>
      exact h.answer (h.database.mayAttest hs hs' trivial request) hsame
  | register keys =>
      show TwinsAfter anyKey SameLasting (Engine.answer _ (e.register keys))
        (Engine.answer _ (e'.register keys))
      unfold Engine.register
      split
      · exact ⟨.ok rfl, h⟩
      · exact h.answer (h.database.register keys) hsame
  | setEnabled key enabled => exact h.answer (h.database.setEnabled key enabled) hsame
  | raiseLow slot epoch =>
      show TwinsAfter anyKey SameLasting (Engine.answer _ (e.raiseLow slot epoch))
        (Engine.answer _ (e'.raiseLow slot epoch))
      unfold Engine.raiseLow
      split
      · exact hstay _
      · exact h.answer (h.database.raiseLow hs hs' slot epoch) hsame
  | highWatermark => exact h.answer h.database.readHigh hsame
  | setHighWatermark high =>
      show TwinsAfter anyKey SameLasting (Engine.answer _ (e.setHighWatermark high))
        (Engine.answer _ (e'.setHighWatermark high))
      unfold Engine.setHighWatermark
      split
      · exact hstay _
      · exact h.answer (h.database.replaceHigh high) hsame
  | removeHighWatermark => exact h.answer (h.database.replaceHigh .none) hsame
  | exportHistory filter =>
      exact h.answer (h.database.readHistory hs hs' filter) fun _ _ _ => rfl
  | importHistory d => exact h.answer (h.database.importTo hs hs' d) fun _ _ _ => rfl
  | prune c => cases hc
  | pruneOne c key => cases hc
  | lock held => exact ⟨.ok rfl, h.maxAttempts_eq, rfl, h.database⟩

/-! ## Runs -/

/-- Twins answer two runs alike that differ in pruning calls. -/
theorem PrunedBetween.lasting_eq {calls pruned : List Call} (h : PrunedBetween calls pruned)
    (ht : e.Twins anyKey e') (hs : e.database.Sound) (hs' : e'.database.Sound) :
    lasting (e.trace calls) = lasting (e'.trace pruned) := by
  induction h generalizing e e' with
  | nil => rfl
  | pruning c hc _ ih =>
      have htwin := ht.trans (perform_prunes_twins hs' hc)
      rw [trace, lasting_cons, if_pos hc]
      exact ih htwin hs (perform_step hs' c).1
  | both c _ ih =>
      have hsound := (perform_step hs c).1
      have hsound' := (perform_step hs' c).1
      rw [trace, trace, lasting_cons, lasting_cons]
      cases hc : c.prunes with
      | true =>
          -- a pruning call of both runs: what it removes may differ
          have htwin := (perform_prunes_twins hs hc).symm.trans
            (ht.trans (perform_prunes_twins hs' hc))
          exact ih htwin hsound hsound'
      | false =>
          obtain ⟨hanswer, htwin⟩ := ht.perform hs hs' hc
          have hsame := hanswer.map_eq (f := Answer.lasting) (g := Answer.lasting) fun _ _ h => h
          simp only [hsame, ih htwin hsound hsound', Bool.false_eq_true, if_false]

/-- Pruning is not seen in what the engine answers. Of two runs from an empty
database let the second make the calls of the first with any pruning calls in
between. Then every check of a block or an attestation gets the same decision,
and every history is taken in by both or by neither. -/
theorem pruning_unseen (maxAttempts : Nat) {calls pruned : List Call}
    (h : PrunedBetween calls pruned) :
    lasting ((fresh maxAttempts).trace calls) = lasting ((fresh maxAttempts).trace pruned) :=
  h.lasting_eq (.refl anyKey _) sound_empty sound_empty

/-- A vote for epoch 6, and then one for epoch 8. -/
def twoVotes : List Call :=
  [.attest ⟨List.replicate 48 1⟩ ⟨5, 6, .fit 32 [2]⟩ (.zero 32),
    .attest ⟨List.replicate 48 1⟩ ⟨6, 8, .fit 32 [3]⟩ (.zero 32)]

/-- A document that lists another vote for epoch 6, and a vote for epoch 9. -/
def relistedVote : List Call :=
  [.importHistory ⟨Interchange.formatVersion, .zero 32,
      [⟨⟨List.replicate 48 1⟩, [], [⟨4, 6, none⟩]⟩]⟩,
    .attest ⟨List.replicate 48 1⟩ ⟨7, 9, .fit 32 [4]⟩ (.zero 32)]

/-- What is on record after the votes, of which the older ones may be gone. -/
def votesStore (votes : List StoredAttestation) : Engine :=
  ⟨1, false, ⟨some 1, some ⟨some (.zero 32), none, none⟩,
    [⟨⟨List.replicate 48 1⟩, true, some ⟨none, some 6, some 8⟩, [], votes⟩]⟩⟩

/-- The record of the later vote. -/
def laterVote : StoredAttestation :=
  ⟨6, 8, some (FixedBytes.fit 32 [3]).bytes⟩

theorem after_twoVotes : (fresh 1).after twoVotes =
    votesStore [⟨5, 6, some (FixedBytes.fit 32 [2]).bytes⟩, laterVote] := by
  decide +kernel

/-- The older of the votes is pruned. -/
theorem prune_twoVotes : ((fresh 1).after twoVotes).prune ⟨1, 32, 0, true⟩ =
    (.ok ⟨1, 0, 1⟩, votesStore [laterVote]) := by
  have hreadable := (sound_after_fresh 1 twoVotes).readable
  rw [after_twoVotes] at hreadable ⊢
  rw [prune_row hreadable rfl rfl rfl, Validator.pruned_of_ordered (by decide)]
  decide +kernel

/-- The listed vote is passed over beside the record of epoch 6, and written
where that record was pruned. -/
theorem relistedVote_unseen :
    PrunedBetween (twoVotes ++ relistedVote) (twoVotes ++ .prune ⟨1, 32, 0, true⟩ :: relistedVote) ∧
      ((fresh 1).trace (twoVotes ++ relistedVote)).map (·.2) =
        [.ok (.decision (.accept true)), .ok (.decision (.accept true)),
          .ok (.imported ⟨1, 0, 0, 0, 1⟩), .ok (.decision (.accept true))] ∧
      ((fresh 1).trace (twoVotes ++ .prune ⟨1, 32, 0, true⟩ :: relistedVote)).map (·.2) =
        [.ok (.decision (.accept true)), .ok (.decision (.accept true)),
          .ok (.pruned ⟨1, 0, 1⟩), .ok (.imported ⟨1, 0, 0, 1, 0⟩),
          .ok (.decision (.accept true))] ∧
      lasting ((fresh 1).trace (twoVotes ++ relistedVote)) =
        lasting ((fresh 1).trace (twoVotes ++ .prune ⟨1, 32, 0, true⟩ :: relistedVote)) := by
  have hrun : PrunedBetween (twoVotes ++ relistedVote)
      (twoVotes ++ .prune ⟨1, 32, 0, true⟩ :: relistedVote) :=
    .both _ (.both _ (.pruning _ rfl (.both _ (.both _ .nil))))
  refine ⟨hrun, by decide +kernel, ?_, pruning_unseen 1 hrun⟩
  have hprune : ((fresh 1).after twoVotes).perform (.prune ⟨1, 32, 0, true⟩) =
      (.ok (.pruned ⟨1, 0, 1⟩), votesStore [laterVote]) := by
    rw [perform, prune_twoVotes]
    rfl
  rw [trace_append, trace, hprune]
  decide +kernel

end Engine

end RemoteSigner
