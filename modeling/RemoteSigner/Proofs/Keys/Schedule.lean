import Mathlib.Algebra.Ring.Nat
import Mathlib.Logic.Relation
import RemoteSigner.Proofs.Files.PathOrder
import RemoteSigner.Proofs.Keys.Loading

/-!
# Decoding side by side

The batches of a load wait for a permit, decode their files one after the other, and hand in
their results or die (`Step`). Whatever the order, no batch gets lost (`Step.batches`) and no
result but those of decoding appears (`Step.mem_results`), so both hold of a whole schedule
(`Accounted.run`). No schedule goes on forever (`wellFounded_step`), none gets stuck
(`exists_step`), and batches can finish or die in every order (`exists_schedule`).

What is gathered depends on the results alone, not on their order, if their paths differ
(`gather_perm`). Main result: `decoding_any_schedule`.
-/

namespace RemoteSigner

namespace Loader

/-! ## Steps -/

/-- A batch with a permit: its results so far and the files still to come. -/
structure Running where
  results : List Result
  left : List Source

/-- The files of a batch. -/
def Running.sources (b : Running) : List Source :=
  b.results.map (·.1) ++ b.left

/-- Where the batches stand. -/
structure Progress where
  waiting : List (List Source)
  running : List Running
  /-- The results of batches that finished, in the order in which they did. -/
  finished : List (List Result)
  /-- Batches that died without a result. -/
  lost : List (List Source)

/-- What can happen next, with so many permits. -/
inductive Step (decode : Source → Decoding) (permits : Nat) (p : Progress) : Progress → Prop
  | start {front back : List (List Source)} {batch : List Source}
      (h : p.waiting = front ++ batch :: back) (hfree : p.running.length < permits) :
      Step decode permits p
        { p with waiting := front ++ back, running := ⟨[], batch⟩ :: p.running }
  | next {front back : List Running} {results : List Result} {s : Source} {left : List Source}
      (h : p.running = front ++ ⟨results, s :: left⟩ :: back) :
      Step decode permits p
        { p with running := front ++ ⟨results ++ [decodeOne decode s], left⟩ :: back }
  | finish {front back : List Running} {results : List Result}
      (h : p.running = front ++ ⟨results, []⟩ :: back) :
      Step decode permits p
        { p with running := front ++ back, finished := p.finished ++ [results] }
  | die {front back : List Running} {batch : Running}
      (h : p.running = front ++ batch :: back) :
      Step decode permits p
        { p with running := front ++ back, lost := p.lost ++ [batch.sources] }

variable {decode : Source → Decoding} {permits : Nat} {p q : Progress}

/-- The steps that are left at most. -/
def Progress.remaining (p : Progress) : Nat :=
  (p.waiting.map fun batch => batch.length + 2).sum +
    (p.running.map fun b => b.left.length + 1).sum

theorem Step.remaining_lt (h : Step decode permits p q) : q.remaining < p.remaining := by
  cases h with
  | start h hfree =>
      simp only [Progress.remaining, h, List.map_append, List.map_cons, List.sum_append,
        List.sum_cons]
      omega
  | next h =>
      simp only [Progress.remaining, h, List.map_append, List.map_cons, List.sum_append,
        List.sum_cons, List.length_cons]
      omega
  | finish h =>
      simp only [Progress.remaining, h, List.map_append, List.map_cons, List.sum_append,
        List.sum_cons]
      omega
  | die h =>
      simp only [Progress.remaining, h, List.map_append, List.map_cons, List.sum_append,
        List.sum_cons]
      omega

/-- No schedule goes on forever. -/
theorem wellFounded_step (decode : Source → Decoding) (permits : Nat) :
    WellFounded fun q p => Step decode permits p q :=
  Subrelation.wf (fun h => Step.remaining_lt h) (measure Progress.remaining).wf

/-- With a permit, something can happen as long as a batch waits or runs. -/
theorem exists_step (hpermits : 0 < permits) :
    (∃ q, Step decode permits p q) ∨ p.waiting = [] ∧ p.running = [] := by
  cases hrunning : p.running with
  | cons b rest =>
      obtain ⟨results, left⟩ := b
      cases left with
      | nil =>
          exact .inl ⟨_, @Step.finish _ _ _ [] rest _ hrunning⟩
      | cons s left =>
          exact .inl ⟨_, @Step.next _ _ _ [] rest _ _ _ hrunning⟩
  | nil =>
      cases hwaiting : p.waiting with
      | nil => exact .inr ⟨rfl, rfl⟩
      | cons batch rest =>
          have hfree : p.running.length < permits := by simpa [hrunning] using hpermits
          exact .inl ⟨_, @Step.start _ _ _ [] rest batch hwaiting hfree⟩

/-! ## What a schedule keeps -/

/-- All batches, wherever they stand. -/
def Progress.batches (p : Progress) : List (List Source) :=
  p.waiting ++ p.running.map Running.sources ++ p.finished.map (·.map (·.1)) ++ p.lost

/-- The results of batches that run or finished. -/
def Progress.results (p : Progress) : List Result :=
  p.running.flatMap Running.results ++ p.finished.flatten

/-- A step loses no batch, and no file of one. -/
theorem Step.batches (h : Step decode permits p q) : q.batches.Perm p.batches := by
  rw [List.perm_iff_count]
  intro batch
  cases h with
  | start h hfree =>
      simp only [Progress.batches, Running.sources, h, List.map_cons, List.map_nil,
        List.nil_append, List.count_append, List.count_cons]
      omega
  | next h =>
      simp [Progress.batches, Running.sources, decodeOne, h]
  | finish h =>
      simp only [Progress.batches, Running.sources, h, List.map_append, List.map_cons,
        List.map_nil, List.append_nil, List.count_append, List.count_cons, List.count_nil]
      omega
  | die h =>
      simp only [Progress.batches, h, List.map_append, List.map_cons, List.count_append,
        List.count_cons, List.count_nil]
      omega

/-- A step adds no results but those of decoding. -/
theorem Step.mem_results (h : Step decode permits p q) {r : Result} (hr : r ∈ q.results) :
    r ∈ p.results ∨ r = decodeOne decode r.1 := by
  cases h with
  | start h hfree => exact .inl hr
  | @next front back results s left h =>
      by_cases hnew : r = decodeOne decode s
      · exact .inr (by rw [hnew]; rfl)
      · refine .inl ?_
        simpa [Progress.results, h, hnew] using hr
  | finish h =>
      refine .inl ?_
      simp only [Progress.results, h, List.flatMap_append, List.flatMap_cons,
        List.flatten_append, List.flatten_singleton, List.mem_append] at hr ⊢
      tauto
  | die h =>
      refine .inl ?_
      simp only [Progress.results, h, List.flatMap_append, List.flatMap_cons,
        List.mem_append] at hr ⊢
      tauto

/-- Every batch stands in one place, and results are those of decoding. -/
structure Accounted (decode : Source → Decoding) (parts : List (List Source)) (p : Progress) :
    Prop where
  placed : p.batches.Perm parts
  decoded : ∀ r ∈ p.results, r = decodeOne decode r.1

namespace Accounted

variable {parts : List (List Source)}

theorem step (h : Accounted decode parts p) (hstep : Step decode permits p q) :
    Accounted decode parts q where
  placed := hstep.batches.trans h.placed
  decoded r hr := by
    rcases hstep.mem_results hr with hold | hnew
    · exact h.decoded r hold
    · exact hnew

theorem run (h : Accounted decode parts p)
    (hrun : Relation.ReflTransGen (Step decode permits) p q) : Accounted decode parts q := by
  induction hrun with
  | refl => exact h
  | tail _ hstep ih => exact ih.step hstep

end Accounted

/-! ## Every order -/

/-- A batch decodes its files one after the other. -/
theorem decode_left (waiting lost : List (List Source)) (back : List Running)
    (finished : List (List Result)) (results : List Result) (left : List Source) :
    Relation.ReflTransGen (Step decode permits)
      ⟨waiting, ⟨results, left⟩ :: back, finished, lost⟩
      ⟨waiting, ⟨results ++ left.map (decodeOne decode), []⟩ :: back, finished, lost⟩ := by
  induction left generalizing results with
  | nil =>
      rw [List.map_nil, List.append_nil]
  | cons s left ih =>
      have hnext : Step decode permits ⟨waiting, ⟨results, s :: left⟩ :: back, finished, lost⟩
          ⟨waiting, ⟨results ++ [decodeOne decode s], left⟩ :: back, finished, lost⟩ :=
        @Step.next _ _ _ [] back _ _ _ rfl
      rw [List.map_cons, List.append_cons]
      exact .head hnext (ih _)

/-- Where no batch runs, any that waits can start. -/
theorem exists_start (hpermits : 0 < permits) {waiting rest lost : List (List Source)}
    {finished : List (List Result)} {batch : List Source} (h : waiting.Perm (batch :: rest)) :
    ∃ others, others.Perm rest ∧
      Step decode permits ⟨waiting, [], finished, lost⟩
        ⟨others, [⟨[], batch⟩], finished, lost⟩ := by
  obtain ⟨front, back, rfl⟩ := List.append_of_mem (h.mem_iff.mpr List.mem_cons_self)
  exact ⟨front ++ back, (List.perm_middle.symm.trans h).cons_inv, .start rfl hpermits⟩

/-- All batches that wait can die. -/
theorem exists_deaths (decode : Source → Decoding) (hpermits : 0 < permits)
    {waiting died : List (List Source)} (h : waiting.Perm died) (finished : List (List Result))
    (lost : List (List Source)) :
    Relation.ReflTransGen (Step decode permits) ⟨waiting, [], finished, lost⟩
      ⟨[], [], finished, lost ++ died⟩ := by
  induction died generalizing waiting lost with
  | nil =>
      obtain rfl := h.eq_nil
      rw [List.append_nil]
  | cons batch rest ih =>
      obtain ⟨others, hothers, hstart⟩ := exists_start hpermits h
      have hdie : Step decode permits ⟨others, [⟨[], batch⟩], finished, lost⟩
          ⟨others, [], finished, lost ++ [batch]⟩ := @Step.die _ _ _ [] [] ⟨[], batch⟩ rfl
      rw [List.append_cons]
      exact .head hstart (.head hdie (ih hothers _))

/-- Batches can finish in every order, and the others die. -/
theorem exists_schedule (decode : Source → Decoding) (hpermits : 0 < permits)
    {waiting order died : List (List Source)} (h : waiting.Perm (order ++ died))
    (finished : List (List Result)) (lost : List (List Source)) :
    Relation.ReflTransGen (Step decode permits) ⟨waiting, [], finished, lost⟩
      ⟨[], [], finished ++ order.map (·.map (decodeOne decode)), lost ++ died⟩ := by
  induction order generalizing waiting finished with
  | nil =>
      rw [List.map_nil, List.append_nil]
      exact exists_deaths decode hpermits h finished lost
  | cons batch rest ih =>
      obtain ⟨others, hothers, hstart⟩ := exists_start hpermits h
      have hfinish : Step decode permits
          ⟨others, [⟨batch.map (decodeOne decode), []⟩], finished, lost⟩
          ⟨others, [], finished ++ [batch.map (decodeOne decode)], lost⟩ :=
        @Step.finish _ _ _ [] [] _ rfl
      rw [List.map_cons, List.append_cons]
      exact .head hstart ((decode_left others lost [] finished [] batch).trans
        (.head hfinish (ih hothers _)))

/-! ## What is gathered -/

section Gathering

variable {sources sources' : List Source} {finished finished' : List (List Result)}
  {expected : Nat}

/-- A file that is expected yields a signer or counts as an error. -/
theorem length_gather (h : finished.flatten = sources.map (decodeOne decode))
    (hexpected : sources.length ≤ expected) :
    (gather expected finished).1.length + (gather expected finished).2 = expected := by
  have hloaded := List.length_filterMap_le loaded? (sources.map (decodeOne decode))
  rw [List.length_map] at hloaded
  simp only [gather, h, List.length_mergeSort, List.length_map]
  omega

theorem ordered_gather (h : finished.flatten = sources.map (decodeOne decode))
    (hdistinct : (sources.map (·.path.components)).Nodup) :
    (gather expected finished).1.Pairwise fun a b => a.source.path.before b.source.path = true := by
  have htrans : ∀ a b c : LoadedSource, (!b.source.path.before a.source.path) = true →
      (!c.source.path.before b.source.path) = true →
      (!c.source.path.before a.source.path) = true :=
    fun a b c hab hbc => FilePath.not_before_trans hab hbc
  have htotal : ∀ a b : LoadedSource,
      (!b.source.path.before a.source.path || !a.source.path.before b.source.path) = true :=
    fun a b => FilePath.not_before_total a.source.path b.source.path
  have hsorted : (gather expected finished).1.Pairwise fun a b =>
      (!b.source.path.before a.source.path) = true := List.pairwise_mergeSort htrans htotal _
  have hne : (gather expected finished).1.Pairwise fun a b =>
      a.source.path.components ≠ b.source.path.components :=
    List.pairwise_map.mp (distinct_gather (·.path.components) h hdistinct)
  exact (hsorted.and hne).imp fun hab => FilePath.before_of_not_before hab.1 hab.2

/-- The order of the results does not matter. -/
theorem gather_perm (h : finished.flatten = sources.map (decodeOne decode))
    (h' : finished'.flatten = sources'.map (decodeOne decode)) (hperm : sources.Perm sources')
    (hdistinct : (sources.map (·.path.components)).Nodup) :
    gather expected finished = gather expected finished' := by
  have hresults : finished.flatten.Perm finished'.flatten := by
    rw [h, h']
    exact hperm.map _
  have hloaded := hresults.filterMap loaded?
  have hdistinct' := (hperm.map (·.path.components)).nodup_iff.mp hdistinct
  have hsame : (gather expected finished).1 = (gather expected finished').1 := by
    refine List.Perm.eq_of_pairwise (fun a b _ _ hab hba => absurd hba (FilePath.before_asymm hab))
      (ordered_gather h hdistinct) (ordered_gather h' hdistinct') ?_
    exact (List.mergeSort_perm _ _).trans (hloaded.trans (List.mergeSort_perm _ _).symm)
  have hcount : (gather expected finished).2 = (gather expected finished').2 := by
    simp only [gather, hresults.length_eq, hloaded.length_eq]
  exact Prod.ext hsame hcount

end Gathering

/-! ## Any schedule -/

/-- The batches of a load. -/
def parts (c : LoaderConfig) (pending : List Source) : List (List Source) :=
  batches (batchSize (workers c) c.minBatchSize pending.length) pending

/-- A schedule that decodes the files of a load ends here. -/
def Ends (decode : Source → Decoding) (c : LoaderConfig) (pending : List Source) (p : Progress) :
    Prop :=
  Relation.ReflTransGen (Step decode (workers c)) ⟨parts c pending, [], [], []⟩ p ∧
    ∀ q, ¬ Step decode (workers c) p q

variable {c : LoaderConfig} {pending : List Source}

theorem workers_pos (c : LoaderConfig) : 0 < workers c :=
  Nat.le_max_left 1 _

/-- In the end every batch was handed in or has died. -/
theorem Ends.survivors (h : Ends decode c pending p) :
    ∃ survivors : List Source, p.finished.flatten = survivors.map (decodeOne decode) ∧
      (survivors ++ p.lost.flatten).Perm pending := by
  obtain ⟨hrun, hstuck⟩ := h
  have hstart : Accounted decode (parts c pending) ⟨parts c pending, [], [], []⟩ :=
    ⟨by simp [Progress.batches], by simp [Progress.results]⟩
  have hend := hstart.run hrun
  obtain ⟨hwaiting, hrunning⟩ : p.waiting = [] ∧ p.running = [] :=
    (exists_step (workers_pos c)).resolve_left fun ⟨q, hq⟩ => hstuck q hq
  -- the files of the batches that were handed in
  refine ⟨p.finished.flatten.map (·.1), ?_, ?_⟩
  · have hdecoded : ∀ r ∈ p.finished.flatten, decodeOne decode r.1 = r := fun r hr =>
      (hend.decoded r (List.mem_append_right _ hr)).symm
    rw [List.map_map]
    exact ((List.map_congr_left hdecoded).trans (List.map_id _)).symm
  · have hplaced := hend.placed.flatten
    rw [parts, flatten_batches] at hplaced
    simpa [Progress.batches, hwaiting, hrunning, List.map_flatten] using hplaced

/-- Files with paths of their own survive if their batch does. -/
theorem mem_survivors {survivors : List Source} {lost : List (List Source)} {s : Source}
    (hplaced : (survivors ++ lost.flatten).Perm pending)
    (hdistinct : (survivors.map (·.path.components) ++
      lost.flatten.map (·.path.components)).Nodup) :
    s ∈ survivors ↔ s ∈ pending ∧ ∀ batch ∈ lost, s ∉ batch := by
  have hlost : s ∈ lost.flatten ↔ ¬ ∀ batch ∈ lost, s ∉ batch := by simp
  rw [← hplaced.mem_iff, List.mem_append]
  constructor
  · intro hs
    refine ⟨.inl hs, ?_⟩
    by_contra h
    exact List.disjoint_of_nodup_append hdistinct (List.mem_map_of_mem hs)
      (List.mem_map_of_mem (hlost.mpr h))
  · rintro ⟨hs, hkept⟩
    exact hs.resolve_right fun h => hlost.mp h hkept

/-- Decoding side by side comes to an end, and batches can finish in every order and die in
every way. Wherever it ends, the signers are those of the files that can be decoded and whose
batch did not die, by path; every other file is an error. If no batch died, this is what
decoding gives for all workers and batch sizes. Paths are distinct if their components are. -/
theorem decoding_any_schedule (hdistinct : (pending.map (·.path.components)).Nodup)
    (decode : Source → Decoding) (c : LoaderConfig) :
    (WellFounded fun q p => Step decode (workers c) p q) ∧
    (∀ order died, (order ++ died).Perm (parts c pending) →
      Ends decode c pending ⟨[], [], order.map (·.map (decodeOne decode)), died⟩) ∧
    ∀ p, Ends decode c pending p →
      let outcome := gather pending.length p.finished
      outcome.1.Pairwise (fun a b => a.source.path.before b.source.path = true) ∧
      (∀ l, l ∈ outcome.1 ↔ l.source ∈ pending ∧ (∀ batch ∈ p.lost, l.source ∉ batch) ∧
        decode l.source = .done (.ok l.signer)) ∧
      outcome.1.length + outcome.2 = pending.length ∧
      (p.lost = [] → ∀ c' : LoaderConfig,
        outcome = decodeAll decode (workers c') c'.minBatchSize pending) := by
  refine ⟨wellFounded_step decode _, fun order died hperm => ⟨?_, ?_⟩, fun p hp => ?_⟩
  · simpa using exists_schedule decode (workers_pos c) hperm.symm [] []
  · intro q hq
    cases hq <;> simp_all
  · intro outcome
    obtain ⟨survivors, hfinished, hplaced⟩ := hp.survivors
    have hall := (hplaced.map (·.path.components)).nodup_iff.mpr hdistinct
    rw [List.map_append] at hall
    have hsurvivors := hall.of_append_left
    refine ⟨ordered_gather hfinished hsurvivors, fun l => ?_, length_gather hfinished ?_,
      fun hlost c' => ?_⟩
    · rw [mem_gather hfinished, mem_survivors hplaced hall, and_assoc]
    · rw [← hplaced.length_eq, List.length_append]
      exact Nat.le_add_right _ _
    · have hwhole : survivors.Perm pending := by simpa [hlost] using hplaced
      exact gather_perm hfinished (flatten_decoded _ pending) hwhole hsurvivors

/-- A signer that every file may provide. -/
def sampleSigner : Signer := ⟨⟨[1]⟩, .bls, fun _ => .error (.signing "no secret")⟩

/-- Of three batches the second one dies, and the last one is the first to finish. -/
theorem lostBatch_decoded :
    let files : List Source := [⟨"c", 1⟩, ⟨"a", 1⟩, ⟨"b", 1⟩]
    let decode : Source → Decoding := fun _ => .done (.ok sampleSigner)
    let finished := [[decodeOne decode ⟨"b", 1⟩], [decodeOne decode ⟨"c", 1⟩]]
    (files.map (·.path.components)).Nodup ∧
      Ends decode ⟨"keys", "toml", some 3, 1, 30⟩ files ⟨[], [], finished, [[⟨"a", 1⟩]]⟩ ∧
      (gather 3 finished).1.Pairwise (fun a b => a.source.path.before b.source.path = true) ∧
      ⟨⟨"c", 1⟩, sampleSigner⟩ ∈ (gather 3 finished).1 ∧
      (gather 3 finished).1.length + (gather 3 finished).2 = 3 := by
  intro files decode finished
  have hdistinct : (files.map (·.path.components)).Nodup := by decide
  have hparts : parts ⟨"keys", "toml", some 3, 1, 30⟩ files =
      [[⟨"c", 1⟩], [⟨"a", 1⟩], [⟨"b", 1⟩]] := by
    simp [parts, files, batchSize, workers, batches]
  obtain ⟨_, hreach, hany⟩ :=
    decoding_any_schedule hdistinct decode ⟨"keys", "toml", some 3, 1, 30⟩
  have hends := hreach [[⟨"b", 1⟩], [⟨"c", 1⟩]] [[⟨"a", 1⟩]] (by rw [hparts]; decide)
  obtain ⟨hsorted, hmem, hlength, _⟩ := hany _ hends
  exact ⟨hdistinct, hends, hsorted, (hmem _).mpr ⟨by decide, by decide, rfl⟩, hlength⟩

end Loader

end RemoteSigner
