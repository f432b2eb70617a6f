import Mathlib.Data.List.Nodup
import RemoteSigner.Proofs.Protection.Validator

/-!
# The newest record

Records are ordered by a key: blocks by their slot, attestations by their
target. Two lists may hold different records and still have the `SameNewest`
one. That survives whatever happens to the lists below it:

* `SameNewest.offer` — a record that is offered to both may be added to one and
  passed over by the other, unless it comes after all others;
* `SameNewest.of_filter` — records below a cutoff that some record reaches may
  go from one of them;
* `SameNewest.find?_eq`, `SameNewest.filter_eq` — at a key that no record comes
  after, both hold the same.
-/

namespace RemoteSigner

variable {α : Type} {key : α → Int} {xs ys : List α} {a : α} {k : Int}

/-- A record of a list that no other comes after. -/
def Newest (key : α → Int) (xs : List α) (a : α) : Prop :=
  a ∈ xs ∧ ∀ x ∈ xs, key x ≤ key a

/-- The same records come last in two lists. -/
def SameNewest (key : α → Int) (xs ys : List α) : Prop :=
  ∀ a, Newest key xs a ↔ Newest key ys a

theorem exists_newest (key : α → Int) (h : xs ≠ []) : ∃ a, Newest key xs a := by
  cases hm : Stored.largest (xs.map key) with
  | none => exact absurd (List.map_eq_nil_iff.mp (Stored.largest_eq_none.mp hm)) h
  | some m =>
      obtain ⟨hmem, hle⟩ := Stored.largest_spec hm
      obtain ⟨a, ha, rfl⟩ := List.mem_map.mp hmem
      exact ⟨a, ha, fun x hx => hle _ (List.mem_map_of_mem hx)⟩

namespace SameNewest

theorem refl (key : α → Int) (xs : List α) : SameNewest key xs xs :=
  fun _ => Iff.rfl

theorem symm (h : SameNewest key xs ys) : SameNewest key ys xs :=
  fun a => (h a).symm

theorem trans {zs : List α} (h : SameNewest key xs ys) (h' : SameNewest key ys zs) :
    SameNewest key xs zs :=
  fun a => (h a).trans (h' a)

/-- Lists of the same records, in whatever order. -/
theorem of_mem_iff (h : ∀ a, a ∈ xs ↔ a ∈ ys) : SameNewest key xs ys := by
  intro a
  simp only [Newest, h]

/-- What comes after all records of one list comes after those of the other. -/
theorem lt_of_lt (h : SameNewest key xs ys) (hx : ∀ x ∈ xs, key x < k) : ∀ y ∈ ys, key y < k := by
  intro y hy
  obtain ⟨a, ha⟩ := exists_newest key (List.ne_nil_of_mem hy)
  have hlt : key a < k := hx a ((h a).mpr ha).1
  exact Int.lt_of_le_of_lt (ha.2 y hy) hlt

/-- A record added before another one is not the newest. -/
theorem append_below (h : ∃ x ∈ xs, key a < key x) : SameNewest key xs (xs ++ [a]) := by
  obtain ⟨x, hx, hlt⟩ := h
  intro b
  constructor
  · rintro ⟨hb, hle⟩
    refine ⟨List.mem_append_left _ hb, fun y hy => ?_⟩
    rcases List.mem_append.mp hy with hy | hy
    · exact hle y hy
    · rw [List.mem_singleton.mp hy]
      exact Int.le_of_lt (Int.lt_of_lt_of_le hlt (hle x hx))
  · rintro ⟨hb, hle⟩
    have hmem : b ∈ xs := by
      rcases List.mem_append.mp hb with hb | hb
      · exact hb
      · -- the record itself lies below `x`
        have hxb := hle x (List.mem_append_left _ hx)
        rw [List.mem_singleton.mp hb] at hxb
        omega
    exact ⟨hmem, fun y hy => hle y (List.mem_append_left _ hy)⟩

theorem newest_append (h : ∀ x ∈ xs, key x < key a) (b : α) :
    Newest key (xs ++ [a]) b ↔ b = a := by
  constructor
  · rintro ⟨hb, hle⟩
    rcases List.mem_append.mp hb with hb | hb
    · have hab := hle a (List.mem_append_right _ List.mem_cons_self)
      have hlt := h b hb
      omega
    · exact List.mem_singleton.mp hb
  · rintro rfl
    refine ⟨List.mem_append_right _ List.mem_cons_self, fun y hy => ?_⟩
    rcases List.mem_append.mp hy with hy | hy
    · exact Int.le_of_lt (h y hy)
    · exact Int.le_of_eq (congrArg key (List.mem_singleton.mp hy))

/-- A record after all others is the newest of both lists. -/
theorem append_above (hx : ∀ x ∈ xs, key x < key a) (hy : ∀ y ∈ ys, key y < key a) :
    SameNewest key (xs ++ [a]) (ys ++ [a]) :=
  fun b => (newest_append hx b).trans (newest_append hy b).symm

/-- What offering a record to a list comes to: it is passed over, or added under
a key that is free. -/
def Offered (key : α → Int) (a : α) (xs xs' : List α) : Prop :=
  xs' = xs ∨ xs' = xs ++ [a] ∧ ∀ x ∈ xs, key x ≠ key a

theorem Offered.mem {xs' : List α} (ho : Offered key a xs xs') {x : α} (hx : x ∈ xs') :
    x ∈ xs ∨ x = a := by
  rcases ho with rfl | ⟨rfl, _⟩
  · exact .inl hx
  · simpa using hx

theorem of_offered {xs' : List α} (ho : Offered key a xs xs')
    (h : ¬ ∀ x ∈ xs, key x < key a) : SameNewest key xs xs' := by
  rcases ho with rfl | ⟨rfl, hfree⟩
  · exact refl key _
  · simp only [not_forall] at h
    obtain ⟨x, hx, hle⟩ := h
    have hne := hfree x hx
    exact append_below ⟨x, hx, by omega⟩

/-- A record may be added to one list and passed over by the other, unless it
comes after all others. -/
theorem offer {xs' ys' : List α} (h : SameNewest key xs ys) (hx : Offered key a xs xs')
    (hy : Offered key a ys ys')
    (hnew : (∀ x ∈ xs, key x < key a) → (∀ y ∈ ys, key y < key a) →
      (xs' = xs ↔ ys' = ys)) : SameNewest key xs' ys' := by
  by_cases habove : ∀ x ∈ xs, key x < key a
  · have habove' := h.lt_of_lt habove
    have hiff := hnew habove habove'
    rcases hx with rfl | ⟨rfl, _⟩
    · rw [hiff.mp rfl]
      exact h
    · rcases hy with rfl | ⟨rfl, _⟩
      · exact absurd (hiff.mpr rfl) (by simp)
      · exact append_above habove habove'
  · have habove' : ¬ ∀ y ∈ ys, key y < key a := fun hlt => habove (h.symm.lt_of_lt hlt)
    exact (of_offered hx habove).symm.trans (h.trans (of_offered hy habove'))

/-- Records below a cutoff that some record reaches may go. -/
theorem of_filter {cutoff : Int} (h : ∃ x ∈ xs, cutoff ≤ key x) :
    SameNewest key xs (xs.filter (cutoff ≤ key ·)) := by
  obtain ⟨x, hx, hreach⟩ := h
  have hkept : x ∈ xs.filter (cutoff ≤ key ·) := List.mem_filter.mpr ⟨hx, by simpa using hreach⟩
  intro a
  constructor
  · rintro ⟨ha, hle⟩
    have hxa := hle x hx
    exact ⟨List.mem_filter.mpr ⟨ha, by simp only [decide_eq_true_eq]; omega⟩,
      fun y hy => hle y (List.mem_filter.mp hy).1⟩
  · rintro ⟨ha, hle⟩
    have hxa := hle x hkept
    refine ⟨(List.mem_filter.mp ha).1, fun y hy => ?_⟩
    by_cases hcut : cutoff ≤ key y
    · exact hle y (List.mem_filter.mpr ⟨hy, by simpa using hcut⟩)
    · omega

/-! ## Looking records up -/

/-- Under distinct keys a record is found by its key. -/
theorem find?_key_eq_some (hd : (xs.map key).Nodup) :
    xs.find? (key · == k) = some a ↔ a ∈ xs ∧ key a = k := by
  constructor
  · intro h
    exact ⟨List.mem_of_find?_eq_some h, by simpa using List.find?_some h⟩
  · rintro ⟨ha, rfl⟩
    cases hf : xs.find? (key · == key a) with
    | none => exact absurd (List.find?_eq_none.mp hf a ha) (by simp)
    | some b =>
        have hb : key b = key a := by simpa using List.find?_some hf
        rw [List.inj_on_of_nodup_map hd (List.mem_of_find?_eq_some hf) ha hb]

/-- At a key that no record comes after, both lists hold the same. -/
theorem find?_eq (h : SameNewest key xs ys) (hdx : (xs.map key).Nodup) (hdy : (ys.map key).Nodup)
    (hx : ∀ x ∈ xs, key x ≤ k) (hy : ∀ y ∈ ys, key y ≤ k) :
    xs.find? (key · == k) = ys.find? (key · == k) := by
  ext a
  rw [find?_key_eq_some hdx, find?_key_eq_some hdy]
  constructor
  · rintro ⟨ha, rfl⟩
    exact ⟨((h a).mp ⟨ha, hx⟩).1, rfl⟩
  · rintro ⟨ha, rfl⟩
    exact ⟨((h a).mpr ⟨ha, hy⟩).1, rfl⟩

/-- Under distinct keys at most one record has a key. -/
theorem filter_key_eq (hd : (xs.map key).Nodup) (k : Int) :
    xs.filter (key · == k) = (xs.find? (key · == k)).toList := by
  induction xs with
  | nil => rfl
  | cons x rest ih =>
      obtain ⟨hx, hrest⟩ := List.nodup_cons.mp hd
      by_cases hk : key x = k
      · have hnone : rest.filter (key · == k) = [] := by
          rw [List.filter_eq_nil_iff]
          intro y hy heq
          refine hx (List.mem_map.mpr ⟨y, hy, ?_⟩)
          rw [hk]
          simpa using heq
        simp [hk, hnone]
      · simp [hk, ih hrest]

theorem filter_eq (h : SameNewest key xs ys) (hdx : (xs.map key).Nodup) (hdy : (ys.map key).Nodup)
    (hx : ∀ x ∈ xs, key x ≤ k) (hy : ∀ y ∈ ys, key y ≤ k) :
    xs.filter (key · == k) = ys.filter (key · == k) := by
  rw [filter_key_eq hdx, filter_key_eq hdy, h.find?_eq hdx hdy hx hy]

end SameNewest

end RemoteSigner
