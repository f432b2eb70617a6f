import RemoteSigner.Protection.Decision

/-!
# What the rules accept

The rules try refusals one after another. Read as conditions they say: nothing
is below the watermark or at the ceiling, and what is on record is absent or
the very message (`block_eq_accept`, `attestation_eq_accept`).
-/

namespace RemoteSigner.Decision

theorem filter_lt_eq_none {o : Option UInt64} {n : UInt64} :
    o.filter (n < ·) = none ↔ ∀ low ∈ o, low ≤ n := by
  simp [Option.filter_eq_none_iff]

theorem filter_le_eq_none {o : Option UInt64} {n : UInt64} :
    o.filter (· ≤ n) = none ↔ ∀ top ∈ o, n < top := by
  simp [Option.filter_eq_none_iff]

/-- A block is accepted within the bounds, without a record at its slot or
beside its own record, which is then not written again. -/
theorem block_eq_accept {watermark : Watermark} {high : HighWatermark}
    {existing : Option SignedBlock} {request : BlockRequest} {record : Bool} :
    block watermark high existing request = .accept record ↔
      (∀ low ∈ watermark.slot, low ≤ request.slot) ∧
      (∀ top ∈ high.slot, request.slot < top) ∧
      (existing = none ∧ record = true ∨
        (∃ r ∈ existing, r.root = some request.root) ∧ record = false) := by
  rw [← filter_lt_eq_none, ← filter_le_eq_none]
  unfold block
  cases watermark.slot.filter (request.slot < ·) with
  | some low => simp
  | none =>
      cases high.slot.filter (· ≤ request.slot) with
      | some top => simp
      | none =>
          cases existing with
          | none => simp [eq_comm]
          | some r =>
              by_cases hr : r.root = some request.root
              · simp [hr, eq_comm]
              · simp [hr]

/-- Below the watermark no record is looked at. -/
theorem block_of_below {watermark : Watermark} {high : HighWatermark} {request : BlockRequest}
    (h : ¬ ∀ low ∈ watermark.slot, low ≤ request.slot) (existing existing' : Option SignedBlock) :
    block watermark high existing request = block watermark high existing' request := by
  rw [← filter_lt_eq_none] at h
  unfold block
  cases hlow : watermark.slot.filter (request.slot < ·) with
  | none => exact absurd hlow h
  | some low => rfl

/-- What the records that were looked up decide: the very message is accepted
again, any conflict refused, and all else accepted as new. -/
theorem history_eq_accept {history : List SignedAttestation} {request : AttestationRequest}
    {record : Bool} :
    (if history.any (isSame request) then accept false
      else
        match history.findSome? (conflict? request) with
        | some reason => .reject reason
        | none => accept true) = accept record ↔
      ((∃ a ∈ history, isSame request a = true) ∧ record = false ∨
        (∀ a ∈ history, isSame request a = false ∧ conflict? request a = none) ∧
          record = true) := by
  by_cases hsame : ∃ a ∈ history, isSame request a = true
  · rw [if_pos (List.any_eq_true.mpr hsame)]
    have hnot : ¬ ∀ b ∈ history, isSame request b = false ∧ conflict? request b = none := by
      intro h
      obtain ⟨a, ha, hs⟩ := hsame
      rw [(h a ha).1] at hs
      exact absurd hs (by simp)
    cases record <;> simp only [hsame, hnot] <;> simp
  · have hnone : ∀ b ∈ history, isSame request b = false := by
      simpa using hsame
    rw [if_neg (by rwa [List.any_eq_true])]
    cases hc : history.findSome? (conflict? request) with
    | some reason =>
        obtain ⟨b, hb, hr⟩ := List.exists_of_findSome?_eq_some hc
        have hnot : ¬ ∀ c ∈ history, isSame request c = false ∧ conflict? request c = none := by
          intro h
          rw [(h b hb).2] at hr
          exact absurd hr (by simp)
        simp only [hsame, hnot]
        simp
    | none =>
        have hall : ∀ c ∈ history, isSame request c = false ∧ conflict? request c = none :=
          fun c hm => ⟨hnone c hm, List.findSome?_eq_none_iff.mp hc c hm⟩
        have hiff : (∀ c ∈ history, isSame request c = false ∧ conflict? request c = none) ↔ True :=
          iff_true_intro hall
        rw [hiff]
        cases record <;> simp [hsame]

/-- An attestation is accepted within the bounds, beside its own record or if no
record that was looked up gives a reason against it. -/
theorem attestation_eq_accept {watermark : Watermark} {high : HighWatermark}
    {history : List SignedAttestation} {request : AttestationRequest} {record : Bool} :
    attestation watermark high history request = .accept record ↔
      request.source ≤ request.target ∧
      (∀ low ∈ watermark.source, low ≤ request.source) ∧
      (∀ low ∈ watermark.target, low ≤ request.target) ∧
      (∀ top ∈ high.epoch, request.source < top ∧ request.target < top) ∧
      ((∃ a ∈ history, isSame request a = true) ∧ record = false ∨
        (∀ a ∈ history, isSame request a = false ∧ conflict? request a = none) ∧
          record = true) := by
  have hceiling :
      (high.epoch.filter fun top => top ≤ request.source ∨ top ≤ request.target) = none ↔
        ∀ top ∈ high.epoch, request.source < top ∧ request.target < top := by
    simp [Option.filter_eq_none_iff]
  rw [← filter_lt_eq_none, ← filter_lt_eq_none, ← hceiling, ← history_eq_accept]
  unfold attestation
  by_cases hback : request.target < request.source
  · have hno : ¬ request.source ≤ request.target := UInt64.not_le.mpr hback
    simp [hback, hno]
  · have hforth : request.source ≤ request.target := UInt64.not_lt.mp hback
    rw [if_neg hback]
    cases watermark.source.filter (request.source < ·) with
    | some low => simp
    | none =>
        cases watermark.target.filter (request.target < ·) with
        | some low => simp
        | none =>
            cases high.epoch.filter fun top => top ≤ request.source ∨ top ≤ request.target with
            | some top => simp
            | none =>
                exact ⟨fun h => ⟨hforth, rfl, rfl, rfl, h⟩, fun h => h.2.2.2.2⟩

/-- What is accepted as new respects the watermark and conflicts with nothing
that was looked up. -/
theorem attestation_new {watermark : Watermark} {high : HighWatermark}
    {history : List SignedAttestation} {request : AttestationRequest}
    (h : attestation watermark high history request = .accept true) :
    (∀ low ∈ watermark.target, low ≤ request.target) ∧
      ∀ a ∈ history, conflict? request a = none := by
  obtain ⟨_, _, hlow, _, ⟨_, hno⟩ | ⟨hnew, _⟩⟩ := attestation_eq_accept.mp h
  · exact absurd hno (by simp)
  · exact ⟨hlow, fun a ha => (hnew a ha).2⟩

/-- Below the watermark no record is looked at. -/
theorem attestation_of_below {watermark : Watermark} {high : HighWatermark}
    {request : AttestationRequest}
    (h : ¬ ((∀ low ∈ watermark.source, low ≤ request.source) ∧
      ∀ low ∈ watermark.target, low ≤ request.target))
    (history history' : List SignedAttestation) :
    attestation watermark high history request = attestation watermark high history' request := by
  rw [← filter_lt_eq_none, ← filter_lt_eq_none] at h
  unfold attestation
  split
  · rfl
  · cases hsource : watermark.source.filter (request.source < ·) with
    | some low => rfl
    | none =>
        cases htarget : watermark.target.filter (request.target < ·) with
        | some low => rfl
        | none => exact absurd ⟨hsource, htarget⟩ h

/-- A record is no reason against a vote exactly if it has another target and
neither surrounds the other. -/
theorem conflict?_eq_none {request : AttestationRequest} {a : SignedAttestation} :
    conflict? request a = none ↔
      a.target ≠ request.target ∧
      ¬ (a.source < request.source ∧ request.target < a.target) ∧
      ¬ (request.source < a.source ∧ a.target < request.target) := by
  unfold conflict?
  split
  · simp_all
  · split
    · simp_all
    · split <;> simp_all

theorem isSame_iff {request : AttestationRequest} {a : SignedAttestation} :
    isSame request a = true ↔
      a.source = request.source ∧ a.target = request.target ∧ a.root = some request.root := by
  simp [isSame, and_assoc]

end RemoteSigner.Decision
