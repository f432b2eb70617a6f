import RemoteSigner.Proofs.Protection.Signing

/-!
# What the lookup may leave out

Which records conflict with a vote is decided twice: by the lookup, over columns
and in whatever order the store hands rows out, and by the rules, which go
through what was looked up and stop at the first conflict.

* `attestation_finds` — the rules answer on the records that the lookup finds
  exactly as on all records;
* `attestation_accept_congr` — order and repetition may change the reason of a
  refusal, but not whether a vote is accepted, nor whether it is written;
* `findConflicts_perm` — the lookup hands out the records it finds, reordered.
-/

namespace RemoteSigner

/-- The columns that a record is written to. -/
def SignedAttestation.columns (a : SignedAttestation) : StoredAttestation :=
  ⟨a.source.toNat, a.target.toNat, a.root.map (·.bytes)⟩

/-- Whether the lookup for a request finds a record. -/
def AttestationRequest.finds (request : AttestationRequest) (a : SignedAttestation) : Bool :=
  a.columns.conflicts request.source.toNat request.target.toNat

/-- What is read from columns is written to the same columns. -/
theorem StoredAttestation.columns_record {a : StoredAttestation} (hs : Stored.InRange a.source)
    (ht : Stored.InRange a.target) (hr : Stored.RootOk a.root) : a.record.columns = a := by
  rw [SignedAttestation.columns, record, Stored.toNat_read hs, Stored.toNat_read ht,
    Stored.bytes_readRoot hr]

namespace Decision

variable {watermark : Watermark} {high : HighWatermark} {request : AttestationRequest}
  {a : SignedAttestation}

theorem finds_iff :
    request.finds a = true ↔
      a.target = request.target ∨ (a.source < request.source ∧ request.target < a.target) ∨
        (request.source < a.source ∧ a.target < request.target) := by
  rw [AttestationRequest.finds, Validator.conflicts_iff]
  simp only [SignedAttestation.columns, Int.ofNat_lt, Int.natCast_inj, UInt64.toNat_inj,
    UInt64.lt_iff_toNat_lt]

/-- The rules have something against a record exactly if the lookup finds it. -/
theorem conflict?_eq_none_iff_finds : conflict? request a = none ↔ request.finds a = false := by
  rw [conflict?_eq_none, ← Bool.not_eq_true, finds_iff]
  simp only [not_or, ne_eq]

/-- The lookup does not miss the record of the very message. -/
theorem finds_of_isSame (h : isSame request a = true) : request.finds a = true :=
  finds_iff.mpr (.inl (isSame_iff.mp h).2.1)

/-- The record of the very message is among those found if it is on record at all. -/
theorem any_isSame_finds (history : List SignedAttestation) :
    (history.filter request.finds).any (isSame request) = history.any (isSame request) := by
  rw [Bool.eq_iff_iff, List.any_eq_true, List.any_eq_true]
  constructor
  · rintro ⟨a, ha, hs⟩
    exact ⟨a, (List.mem_filter.mp ha).1, hs⟩
  · rintro ⟨a, ha, hs⟩
    exact ⟨a, List.mem_filter.mpr ⟨ha, finds_of_isSame hs⟩, hs⟩

/-- The first conflict on record is the first among those found. -/
theorem findSome?_conflict?_finds (history : List SignedAttestation) :
    (history.filter request.finds).findSome? (conflict? request) =
      history.findSome? (conflict? request) := by
  induction history with
  | nil => rfl
  | cons a rest ih =>
      cases hf : request.finds a with
      | false =>
          rw [List.filter_cons_of_neg (by simp [hf]), List.findSome?_cons,
            conflict?_eq_none_iff_finds.mpr hf, ih]
      | true => rw [List.filter_cons_of_pos hf, List.findSome?_cons, List.findSome?_cons, ih]

/-- The rules answer on the records that the lookup finds as on all of them. -/
theorem attestation_finds (history : List SignedAttestation) :
    attestation watermark high (history.filter request.finds) request =
      attestation watermark high history request := by
  unfold attestation
  rw [any_isSame_finds, findSome?_conflict?_finds]

/-- Whether a vote is accepted, and as a new one or not, depends only on which
records there are. -/
theorem attestation_accept_congr {history history' : List SignedAttestation}
    (h : ∀ a, a ∈ history ↔ a ∈ history') (record : Bool) :
    attestation watermark high history request = .accept record ↔
      attestation watermark high history' request = .accept record := by
  simp only [attestation_eq_accept, h]

end Decision

namespace Validator

variable {v : Validator} {request : AttestationRequest} {source target : Int}

/-- The lookup hands out the records that it finds, in an order of its own. -/
theorem findConflicts_perm
    (h : ∀ a ∈ v.attestations,
      Stored.InRange a.source ∧ Stored.InRange a.target ∧ Stored.RootOk a.root)
    (hs : Stored.ofUInt64 request.source = .ok source)
    (ht : Stored.ofUInt64 request.target = .ok target) :
    ∃ found, v.findConflicts source target = .ok found ∧
      found.Perm ((v.attestations.map (·.record)).filter request.finds) := by
  obtain ⟨-, rfl⟩ := Stored.ofUInt64_eq_ok.mp hs
  obtain ⟨-, rfl⟩ := Stored.ofUInt64_eq_ok.mp ht
  refine ⟨_, findConflicts_eq h _ _, ((List.mergeSort_perm _ _).map _).trans (.of_eq ?_)⟩
  rw [List.filter_map]
  congr 1
  refine List.filter_congr fun a ha => ?_
  obtain ⟨has, hat, har⟩ := h a ha
  simp only [Function.comp_apply, AttestationRequest.finds,
    StoredAttestation.columns_record has hat har]

end Validator

/-- The lookup and the rules agree on every list of records. The rules answer on
the records that the lookup finds, in their order, exactly as on the whole list;
whether they accept, and with which flag, is the same for every list of the same
records in whatever order and number; and what the lookup hands out of a
validator's readable records is what its predicate selects, reordered. -/
theorem lookup_agrees_with_rules (watermark : Watermark) (high : HighWatermark)
    (history : List SignedAttestation) (request : AttestationRequest) :
    Decision.attestation watermark high (history.filter request.finds) request =
      Decision.attestation watermark high history request ∧
    (∀ history' : List SignedAttestation, (∀ a, a ∈ history' ↔ a ∈ history) → ∀ record,
      Decision.attestation watermark high history' request = .accept record ↔
        Decision.attestation watermark high history request = .accept record) ∧
    ∀ v : Validator, (∀ a ∈ v.attestations,
        Stored.InRange a.source ∧ Stored.InRange a.target ∧ Stored.RootOk a.root) →
      ∀ source target, Stored.ofUInt64 request.source = .ok source →
        Stored.ofUInt64 request.target = .ok target →
        ∃ found, v.findConflicts source target = .ok found ∧
          found.Perm ((v.attestations.map (·.record)).filter request.finds) :=
  ⟨Decision.attestation_finds history, fun _ h => Decision.attestation_accept_congr h,
    fun _ h _ _ hs ht => Validator.findConflicts_perm h hs ht⟩

/-- Beside a vote from 3 to 6: a vote it has nothing to do with, one around it,
one within it, and another one for its target. -/
def tangledVotes : List SignedAttestation :=
  [⟨1, 2, none⟩, ⟨2, 8, none⟩, ⟨4, 5, some (.zero 32)⟩, ⟨3, 6, some (.zero 32)⟩]

/-- A validator with the tangled votes on record. -/
def tangledValidator : Validator :=
  ⟨⟨[1]⟩, true, none, [], tangledVotes.map (·.columns)⟩

/-- Among several kinds of conflict, the lookup leaves the reason of the refusal
as it is. Reversed and doubled, the list gives another reason, but no acceptance. -/
theorem tangled_votes_looked_up :
    let request : AttestationRequest := ⟨3, 6, ⟨List.replicate 32 1, List.length_replicate⟩⟩
    let decide := fun history => Decision.attestation ⟨none, none, none⟩ .none history request
    decide (tangledVotes.filter request.finds) = .reject (.surroundedVote 2 8) ∧
    decide (tangledVotes.reverse ++ tangledVotes) = .reject (.doubleVote 6) ∧
    (∀ record, decide (tangledVotes.reverse ++ tangledVotes) = .accept record ↔
      decide tangledVotes = .accept record) ∧
    ∃ found, tangledValidator.findConflicts 3 6 = .ok found ∧ found.Perm (tangledVotes.drop 1) := by
  intro request decide
  obtain ⟨hfilter, hsame, hfound⟩ :=
    lookup_agrees_with_rules ⟨none, none, none⟩ .none tangledVotes request
  have hreadable : ∀ a ∈ tangledValidator.attestations,
      Stored.InRange a.source ∧ Stored.InRange a.target ∧ Stored.RootOk a.root := by
    simp [tangledValidator, tangledVotes, SignedAttestation.columns, Stored.InRange, Stored.bound,
      Stored.RootOk, FixedBytes.zero]
  refine ⟨hfilter.trans rfl, rfl, hsame _ (by simp), ?_⟩
  exact hfound tangledValidator hreadable 3 6 rfl rfl

end RemoteSigner
