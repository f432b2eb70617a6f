import Mathlib.Data.List.Infix
import RemoteSigner.Tasks

/-!
# What shutting down ends

A registry is used by a sequence of events, and the work of its tasks is noted in the order in
which it is done. Where a shutdown found a task to receive its signal, or an earlier one did,
the signal stays and from then on exactly the cancellable tasks do work that are started
afterwards and come due before the next shutdown: intervals find the signal and tasks from
before are gone (`play_signalled`). Where no task was there, the shutdown leaves the registry
as a new one (`shutdown_unheard`).

So being shut down is final exactly if the signal was received and no such task comes due
(`shutdown_final_iff`).
-/

namespace RemoteSigner

namespace TaskRegistry

variable {α σ : Type}

/-! ## Events -/

/-- A use of a registry. Tasks are completed as time passes. -/
inductive Event (α : Type) where
  | spawnCancellable (delay : Nat) (work : α)
  | spawnInterval (interval : Nat) (atOnce : Bool) (work : α)
  | advance (duration : Nat)
  | shutdown

/-- A registry and the state its tasks work on after several events. -/
def play (perform : α → σ → Bool × σ) : List (Event α) → TaskRegistry α × σ → TaskRegistry α × σ
  | [], x => x
  | .spawnCancellable delay work :: rest, x =>
      play perform rest (x.1.spawnCancellable delay work, x.2)
  | .spawnInterval interval atOnce work :: rest, x =>
      play perform rest (x.1.spawnInterval interval atOnce work, x.2)
  | .advance duration :: rest, x => play perform rest (advance perform duration x.1 x.2)
  | .shutdown :: rest, x => play perform rest (x.1.shutdown, x.2)

/-- Do work and note it. -/
def noted (perform : α → σ → Bool × σ) (work : α) (s : List α × σ) : Bool × (List α × σ) :=
  ((perform work s.2).1, s.1 ++ [work], (perform work s.2).2)

/-- The time that passes until the next shutdown. -/
def timeLeft : List (Event α) → Nat
  | [] => 0
  | .shutdown :: _ => 0
  | .advance duration :: rest => duration + timeLeft rest
  | _ :: rest => timeLeft rest

/-- A cancellable task with the given work is started and comes due before the next
shutdown. -/
inductive ComesDue (work : α) : List (Event α) → Prop
  | here {delay : Nat} {rest : List (Event α)} (h : delay < timeLeft rest) :
      ComesDue work (.spawnCancellable delay work :: rest)
  | later {event : Event α} {rest : List (Event α)} (h : ComesDue work rest) :
      ComesDue work (event :: rest)

theorem timeLeft_append (events more : List (Event α)) :
    timeLeft events ≤ timeLeft (events ++ more) := by
  induction events with
  | nil => exact Nat.zero_le _
  | cons event rest ih =>
      cases event with
      | shutdown => exact Nat.le_refl _
      | advance duration => exact Nat.add_le_add_left ih duration
      | _ => exact ih

theorem ComesDue.append {work : α} {events : List (Event α)} (h : ComesDue work events)
    (more : List (Event α)) : ComesDue work (events ++ more) := by
  induction h with
  | here h => exact .here (h.trans_le (timeLeft_append _ more))
  | later _ ih => exact .later ih

theorem comesDue_cons {work : α} {event : Event α} {rest : List (Event α)} :
    ComesDue work (event :: rest) ↔
      (∃ delay, event = .spawnCancellable delay work ∧ delay < timeLeft rest) ∨
        ComesDue work rest := by
  constructor
  · intro h
    cases h with
    | here h => exact .inl ⟨_, rfl, h⟩
    | later h => exact .inr h
  · rintro (⟨delay, rfl, h⟩ | h)
    · exact .here h
    · exact .later h

/-! ## Turns -/

variable {limit : Nat} {r : TaskRegistry α}

theorem earliest?_some {l front back : List (Task α)} {t : Task α}
    (h : earliest? limit l = some (front, t, back)) : l = front ++ t :: back ∧ t.due < limit := by
  induction l generalizing front t back with
  | nil => cases h
  | cons u rest ih =>
      rw [earliest?] at h
      cases hrest : earliest? limit rest with
      | none =>
          rw [hrest] at h
          obtain ⟨hdue, h⟩ := Option.ite_none_right_eq_some.mp h
          cases h
          exact ⟨rfl, hdue⟩
      | some found =>
          obtain ⟨f, v, b⟩ := found
          obtain ⟨hsplit, hdue⟩ := ih hrest
          rw [hrest] at h
          by_cases hfirst : u.due < limit ∧ u.due ≤ v.due
          · simp only [hfirst, and_self, if_true] at h
            cases h
            exact ⟨rfl, hfirst.1⟩
          · simp only [hfirst, if_false] at h
            cases h
            exact ⟨by rw [hsplit, List.cons_append], hdue⟩

theorem earliest?_none {l : List (Task α)} (h : earliest? limit l = none) :
    ∀ t ∈ l, limit ≤ t.due := by
  induction l with
  | nil => simp
  | cons u rest ih =>
      rw [earliest?] at h
      cases hrest : earliest? limit rest with
      | none =>
          simp only [hrest, ite_eq_right_iff, reduceCtorEq, imp_false] at h
          intro t ht
          rcases List.mem_cons.mp ht with rfl | ht
          · exact Nat.not_lt.mp h
          · exact ih hrest t ht
      | some found =>
          simp only [hrest] at h
          split at h <;> simp at h

/-- A task that finds the signal ends, and only a cancellable one has done its work. -/
theorem turn_signalled (perform : α → σ → Bool × σ) (t : Task α) (s : List α × σ) :
    ∃ s' mine, turn (noted perform) true t s = (none, s') ∧ s'.1 = s.1 ++ mine ∧
      ∀ w, w ∈ mine ↔ t.work = w ∧ t.period = none := by
  unfold turn
  cases hperiod : t.period with
  | none => exact ⟨_, [t.work], rfl, rfl, by simp [eq_comm]⟩
  | some period => exact ⟨s, [], by simp, by simp, by simp⟩

/-- Where the signal was kept, turns are taken by the tasks that are due, each of them ends,
and the cancellable ones do their work. -/
theorem run_signalled (perform : α → σ → Bool × σ) (limit : Nat) {fuel : Nat}
    (hsignal : r.signalled = true) (hfuel : r.tasks.length ≤ fuel) (s : List α × σ) :
    ∃ r' s' works, run (noted perform) limit fuel r s = (r', s') ∧ r'.signalled = true ∧
      s'.1 = s.1 ++ works ∧ (∀ t, t ∈ r'.tasks ↔ t ∈ r.tasks ∧ limit ≤ t.due) ∧
      ∀ w, w ∈ works ↔ ∃ t ∈ r.tasks, (t.work = w ∧ t.period = none) ∧ t.due < limit := by
  -- every turn ends a task, so as many turns as tasks are enough
  induction fuel generalizing r s with
  | zero =>
      have hnone : r.tasks = [] := List.length_eq_zero_iff.mp (by omega)
      exact ⟨r, s, [], rfl, hsignal, by simp, by simp [hnone], by simp [hnone]⟩
  | succ fuel ih =>
      rw [run]
      cases hearliest : earliest? limit r.tasks with
      | none =>
          have hlate := earliest?_none hearliest
          refine ⟨r, s, [], rfl, hsignal, by simp, fun t => ⟨fun ht => ⟨ht, hlate t ht⟩, And.left⟩,
            fun w => ⟨fun hw => absurd hw List.not_mem_nil, ?_⟩⟩
          rintro ⟨t, ht, _, hdue⟩
          exact absurd (hlate t ht) (Nat.not_le.mpr hdue)
      | some found =>
          obtain ⟨front, t, back⟩ := found
          obtain ⟨htasks, hdue⟩ := earliest?_some hearliest
          have hmem : ∀ u, u ∈ r.tasks ↔ u = t ∨ u ∈ front ++ back := fun u => by
            rw [htasks]
            simp only [List.mem_append, List.mem_cons]
            tauto
          have hlength : (front ++ back).length ≤ fuel := by
            rw [htasks, List.length_append, List.length_cons] at hfuel
            rw [List.length_append]
            omega
          obtain ⟨s₁, mine, hturn, hmine, hworks⟩ := turn_signalled perform t s
          obtain ⟨r', s', works, hrun, hkept, hlog, hleft, hothers⟩ :=
            ih (r := ⟨max r.now t.due, true, front ++ back⟩) rfl hlength s₁
          refine ⟨r', s', mine ++ works, ?_, hkept, ?_, fun u => ?_, fun w => ?_⟩
          · simp only [hsignal, hturn, Option.toList_none, List.append_nil, hrun]
          · rw [hlog, hmine, List.append_assoc]
          · rw [hleft, hmem]
            refine and_congr_left fun hlate => ⟨.inr, fun hu => hu.resolve_left ?_⟩
            rintro rfl
            omega
          · rw [List.mem_append, hworks, hothers]
            constructor
            · rintro (hw | ⟨u, hu, hrest⟩)
              · exact ⟨t, (hmem t).mpr (.inl rfl), hw, hdue⟩
              · exact ⟨u, (hmem u).mpr (.inr hu), hrest⟩
            · rintro ⟨u, hu, hw, hrest⟩
              rcases (hmem u).mp hu with rfl | hu
              · exact .inl hw
              · exact .inr ⟨u, hu, hw, hrest⟩

/-- Every task has a turn in the bound on the turns. -/
theorem length_le_turnsBefore (limit : Nat) (tasks : List (Task α)) :
    tasks.length ≤ turnsBefore limit tasks := by
  induction tasks with
  | nil => exact Nat.le_refl _
  | cons t rest ih =>
      have hone : 1 ≤ turnBound limit t := by
        unfold turnBound burst
        split
        · exact Nat.le_refl 1
        · decide
        · exact Nat.le_add_left ..
      show rest.length + 1 ≤ turnBound limit t + turnsBefore limit rest
      omega

/-! ## After a shutdown -/

/-- A cancellable task with the given work that is there, or is still to come, comes due
before the next shutdown. -/
def Pending (r : TaskRegistry α) (events : List (Event α)) (work : α) : Prop :=
  (∃ t ∈ r.tasks, (t.work = work ∧ t.period = none) ∧ t.due < r.now + timeLeft events) ∨
    ComesDue work events

variable {events : List (Event α)} {w : α}

theorem pending_nil (hdue : ∀ t ∈ r.tasks, r.now ≤ t.due) : ¬ r.Pending [] w := by
  rintro (⟨t, ht, _, hlate⟩ | h)
  · exact absurd (hdue t ht) (Nat.not_le.mpr hlate)
  · cases h

theorem pending_spawnCancellable {delay : Nat} {work : α} :
    (r.spawnCancellable delay work).Pending events w ↔
      r.Pending (.spawnCancellable delay work :: events) w := by
  unfold Pending
  rw [comesDue_cons]
  simp only [spawnCancellable, List.mem_append, List.mem_singleton, timeLeft,
    Event.spawnCancellable.injEq]
  constructor
  · rintro (⟨t, ht | rfl, hw, hlt⟩ | h)
    · exact .inl ⟨t, ht, hw, hlt⟩
    · exact .inr (.inl ⟨delay, ⟨rfl, hw.1⟩, by simpa using hlt⟩)
    · exact .inr (.inr h)
  · rintro (⟨t, ht, hw, hlt⟩ | ⟨_, ⟨rfl, rfl⟩, hlt⟩ | h)
    · exact .inl ⟨t, .inl ht, hw, hlt⟩
    · exact .inl ⟨_, .inr rfl, ⟨rfl, rfl⟩, by simpa using hlt⟩
    · exact .inr h

theorem pending_spawnInterval {interval : Nat} {atOnce : Bool} {work : α} :
    (r.spawnInterval interval atOnce work).Pending events w ↔
      r.Pending (.spawnInterval interval atOnce work :: events) w := by
  unfold Pending
  rw [comesDue_cons]
  simp only [spawnInterval, List.mem_append, List.mem_singleton, timeLeft, reduceCtorEq,
    false_and, exists_false, false_or]
  refine or_congr_left ⟨?_, fun ⟨t, ht, h⟩ => ⟨t, .inl ht, h⟩⟩
  rintro ⟨t, ht | rfl, hw, hlt⟩
  · exact ⟨t, ht, hw, hlt⟩
  · cases hw.2

theorem pending_shutdown (hdue : ∀ t ∈ r.tasks, r.now ≤ t.due) :
    r.shutdown.Pending events w ↔ r.Pending (.shutdown :: events) w := by
  unfold Pending
  rw [comesDue_cons]
  simp only [shutdown, List.not_mem_nil, false_and, exists_false, timeLeft, reduceCtorEq,
    false_or, Nat.add_zero]
  refine ⟨.inr, fun h => h.resolve_left ?_⟩
  rintro ⟨t, ht, _, hlt⟩
  exact absurd (hdue t ht) (Nat.not_le.mpr hlt)

/-- What is pending before time passes came due meanwhile, or is pending afterwards. -/
theorem pending_advance {duration : Nat} {r' : TaskRegistry α}
    (hleft : ∀ t, t ∈ r'.tasks ↔ t ∈ r.tasks ∧ r.now + duration ≤ t.due) :
    (∃ t ∈ r.tasks, (t.work = w ∧ t.period = none) ∧ t.due < r.now + duration) ∨
        Pending { r' with now := r.now + duration } events w ↔
      r.Pending (.advance duration :: events) w := by
  unfold Pending
  rw [comesDue_cons, ← or_assoc]
  simp only [hleft, timeLeft, reduceCtorEq, false_and, exists_false, false_or]
  refine or_congr_left ⟨?_, ?_⟩
  · rintro (⟨t, ht, hw, hlt⟩ | ⟨t, ⟨ht, _⟩, hw, hlt⟩)
    · exact ⟨t, ht, hw, by omega⟩
    · exact ⟨t, ht, hw, by omega⟩
  · rintro ⟨t, ht, hw, hlt⟩
    rcases Nat.lt_or_ge t.due (r.now + duration) with hsoon | hlate
    · exact .inl ⟨t, ht, hw, hsoon⟩
    · exact .inr ⟨t, ⟨ht, hlate⟩, hw, by omega⟩

/-- A new task is not overdue. -/
theorem due_concat {t : Task α} (hdue : ∀ u ∈ r.tasks, r.now ≤ u.due) (ht : r.now ≤ t.due) :
    ∀ u ∈ r.tasks ++ [t], r.now ≤ u.due := by
  intro u hu
  rcases List.mem_append.mp hu with hu | hu
  · exact hdue u hu
  · rwa [List.mem_singleton.mp hu]

/-- Where the signal was kept it stays, and exactly the cancellable tasks do work that are
pending. -/
theorem play_signalled (perform : α → σ → Bool × σ) (events : List (Event α))
    (hsignal : r.signalled = true) (hdue : ∀ t ∈ r.tasks, r.now ≤ t.due) (s : List α × σ) :
    ∃ r' s' works, play (noted perform) events (r, s) = (r', s') ∧ r'.signalled = true ∧
      s'.1 = s.1 ++ works ∧ ∀ w, w ∈ works ↔ r.Pending events w := by
  -- no task is overdue between events, so what is pending is told from the time that is left
  induction events generalizing r s with
  | nil => exact ⟨r, s, [], rfl, hsignal, by simp, fun w => by simp [pending_nil hdue]⟩
  | cons event rest ih =>
      cases event with
      | spawnCancellable delay work =>
          obtain ⟨r', s', works, hplay, hkept, hlog, hworks⟩ :=
            ih (r := r.spawnCancellable delay work) hsignal
              (due_concat hdue (Nat.le_add_right ..)) s
          exact ⟨r', s', works, hplay, hkept, hlog,
            fun w => (hworks w).trans pending_spawnCancellable⟩
      | spawnInterval interval atOnce work =>
          have hnew : r.now ≤ if atOnce then r.now else r.now + interval := by
            split <;> omega
          obtain ⟨r', s', works, hplay, hkept, hlog, hworks⟩ :=
            ih (r := r.spawnInterval interval atOnce work) hsignal (due_concat hdue hnew) s
          exact ⟨r', s', works, hplay, hkept, hlog,
            fun w => (hworks w).trans pending_spawnInterval⟩
      | advance duration =>
          obtain ⟨r₁, s₁, first, hrun, hsignal₁, hlog₁, hleft, hfirst⟩ :=
            run_signalled perform (r.now + duration) hsignal
              (length_le_turnsBefore (r.now + duration) r.tasks) s
          obtain ⟨r', s', works, hplay, hkept, hlog, hworks⟩ :=
            ih (r := { r₁ with now := r.now + duration }) hsignal₁
              (fun t ht => ((hleft t).mp ht).2) s₁
          refine ⟨r', s', first ++ works, ?_, hkept, ?_, fun w => ?_⟩
          · simp only [play, advance, hrun, hplay]
          · rw [hlog, hlog₁, List.append_assoc]
          · rw [List.mem_append, hfirst, hworks, pending_advance hleft]
      | shutdown =>
          obtain ⟨r', s', works, hplay, hkept, hlog, hworks⟩ :=
            ih (r := r.shutdown) (by simp [shutdown, hsignal]) (by simp [shutdown]) s
          exact ⟨r', s', works, hplay, hkept, hlog,
            fun w => (hworks w).trans (pending_shutdown hdue)⟩

/-- Whether the signal of a shutdown would be kept: some task is there to receive it, or it
was kept before. -/
def Heard (r : TaskRegistry α) : Prop :=
  r.isShutdown = true ∨ r.tasks ≠ []

theorem signalled_shutdown (h : r.Heard) : r.shutdown.signalled = true := by
  rcases h with h | h
  · simp [shutdown, show r.signalled = true from h]
  · simp [shutdown, h]

/-- A shutdown that no task heard leaves the registry as a new one. -/
theorem shutdown_unheard (h : ¬ r.Heard) : r.shutdown = { empty with now := r.now } := by
  obtain ⟨hsignal, htasks⟩ := not_or.mp h
  obtain ⟨now, signalled, tasks⟩ := r
  obtain rfl : signalled = false := by simpa [isShutdown] using hsignal
  obtain rfl : tasks = [] := not_not.mp htasks
  rfl

/-- After whatever events, a shutdown is final along the events that follow — at every point
of them the registry is shut down and no task has done any work — exactly if the shutdown was
heard and none of the events starts a cancellable task that comes due before another shutdown.
If it was heard, the registry stays shut down and these tasks alone do work; if not, it is as
a new one. -/
theorem shutdown_final_iff (perform : α → σ → Bool × σ) (s : σ) (before after : List (Event α)) :
    let used := play (noted perform) before (empty, [], s)
    let later events := play (noted perform) (.shutdown :: events) used
    ((∀ events, events <+: after →
        (later events).1.isShutdown = true ∧ (later events).2.1 = used.2.1) ↔
      used.1.Heard ∧ ∀ w, ¬ ComesDue w after) ∧
    (used.1.Heard → ∀ events, (later events).1.isShutdown = true ∧
      ∃ works, (later events).2.1 = used.2.1 ++ works ∧ ∀ w, w ∈ works ↔ ComesDue w events) ∧
    (¬ used.1.Heard → (later []).1 = { empty with now := used.1.now }) := by
  intro used later
  have hheard : used.1.Heard → ∀ events, (later events).1.isShutdown = true ∧
      ∃ works, (later events).2.1 = used.2.1 ++ works ∧ ∀ w, w ∈ works ↔ ComesDue w events := by
    intro h events
    obtain ⟨r', s', works, hplay, hkept, hlog, hworks⟩ :=
      play_signalled perform events (signalled_shutdown h) (by simp [shutdown]) used.2
    have hlater : later events = (r', s') := hplay
    rw [hlater]
    exact ⟨hkept, works, hlog, fun w => by simp [hworks, Pending, shutdown]⟩
  refine ⟨⟨fun hfinal => ?_, fun ⟨h, hnone⟩ events hprefix => ?_⟩, hheard, shutdown_unheard⟩
  · have h : used.1.Heard := by
      by_contra hun
      have hshut := (hfinal [] List.nil_prefix).1
      have hnew : (later []).1 = { empty with now := used.1.now } := shutdown_unheard hun
      rw [hnew] at hshut
      cases hshut
    refine ⟨h, fun w hw => ?_⟩
    obtain ⟨_, works, hlog, hworks⟩ := hheard h after
    rw [(hfinal after (List.prefix_refl _)).2, List.self_eq_append_right] at hlog
    rw [hlog] at hworks
    exact List.not_mem_nil ((hworks w).mpr hw)
  · obtain ⟨hshut, works, hlog, hworks⟩ := hheard h events
    refine ⟨hshut, ?_⟩
    obtain ⟨more, rfl⟩ := hprefix
    have hempty : works = [] := List.eq_nil_iff_forall_not_mem.mpr fun w hw =>
      hnone w (((hworks w).mp hw).append more)
    rw [hlog, hempty, List.append_nil]

/-- Work that counts. -/
def count : Unit → Nat → Bool × Nat :=
  fun _ n => (true, n + 1)

/-- A task is started after the shutdown, and time passes. -/
def lateTask : List (Event Unit) :=
  [.spawnCancellable 10 (), .advance 55]

/-- Shutting down is not final: where no task hears it, the registry is not shut down and a
task that is started later does its work. -/
theorem shutdown_not_final :
    ¬ ∀ before after : List (Event Unit),
      let used := play (noted count) before (empty, [], 0)
      let later := play (noted count) (.shutdown :: after) used
      later.1.isShutdown = true ∧ later.2.1 = used.2.1 := by
  intro h
  have hlate := h [] lateTask
  revert hlate
  decide

/-- Also where an interval task hears it and the registry stays shut down. -/
theorem lateTask_works :
    let used := play (noted count) [.spawnInterval 1000 false ()] (empty, [], 0)
    (play (noted count) (.shutdown :: lateTask) used).1.isShutdown = true ∧
      ¬ ∀ events, events <+: lateTask →
        (play (noted count) (.shutdown :: events) used).1.isShutdown = true ∧
          (play (noted count) (.shutdown :: events) used).2.1 = used.2.1 := by
  intro used
  obtain ⟨hiff, hheard, _⟩ :=
    shutdown_final_iff count 0 [.spawnInterval 1000 false ()] lateTask
  have hused : used.1.Heard := .inr (by decide)
  refine ⟨(hheard hused lateTask).1, fun hfinal => (hiff.mp hfinal).2 () ?_⟩
  exact .here (by decide)

end TaskRegistry

end RemoteSigner
