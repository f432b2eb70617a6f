import Mathlib.Data.List.Basic

/-!
# Lists by key

Association lists, and lists in the order of a number.
-/

namespace RemoteSigner

/-! ## Association lists -/

section Lookup

variable {α β : Type} [BEq α] [LawfulBEq α] [DecidableEq α]

/-- Taking out the entries of a key hides that key alone. -/
theorem lookup_filter_key {key : α} {p : α × β → Bool}
    (hp : ∀ entry, p entry = true ↔ entry.1 ≠ key)
    (entries : List (α × β)) (other : α) :
    (entries.filter p).lookup other = if other = key then none else entries.lookup other := by
  induction entries with
  | nil => simp
  | cons entry rest ih =>
      obtain ⟨k, b⟩ := entry
      by_cases hkey : k = key
      · rw [List.filter_cons_of_neg (by simpa [hp] using hkey), ih]
        split
        · rfl
        · rename_i hother
          rw [List.lookup_cons, beq_false_of_ne (hkey ▸ hother)]
      · rw [List.filter_cons_of_pos ((hp _).mpr hkey), List.lookup_cons, ih, List.lookup_cons]
        by_cases hother : other = k
        · subst hother
          simp [hkey]
        · rw [beq_false_of_ne hother]

end Lookup

/-! ## Sorted lists -/

section Sorting

variable {α : Type} {le : α → α → Bool}

/-- What comes before a pivot and what does not are told apart in a list of the one and then
the other. -/
theorem filter_split {a : α} (xs ys : List α) (hx : ∀ b ∈ xs, (!le a b) = true)
    (hy : ∀ b ∈ ys, le a b = true) :
    (xs ++ ys).filter (!le a ·) = xs ∧ (xs ++ ys).filter (le a ·) = ys := by
  have hx' : ∀ b ∈ xs, ¬ le a b = true := fun b hb => by simpa using hx b hb
  have hy' : ∀ b ∈ ys, ¬ (!le a b) = true := fun b hb => by simpa using hy b hb
  rw [List.filter_append, List.filter_append]
  rw [List.filter_eq_self.mpr hx, List.filter_eq_nil_iff.mpr hy', List.filter_eq_nil_iff.mpr hx',
    List.filter_eq_self.mpr hy]
  exact ⟨List.append_nil xs, List.nil_append ys⟩

/-- Sorting is stable, so it may be done before or after some entries are left out. -/
theorem filter_mergeSort (htrans : ∀ a b c, le a b = true → le b c = true → le a c = true)
    (htotal : ∀ a b, (le a b || le b a) = true) (p : α → Bool) (l : List α) :
    (l.mergeSort le).filter p = (l.filter p).mergeSort le := by
  induction l with
  | nil => simp
  | cons a l ih =>
      obtain ⟨l₁, l₂, hsorted, hl, hbefore⟩ := List.mergeSort_cons htrans htotal a l
      by_cases hp : p a = true
      · obtain ⟨m₁, m₂, hsorted', hm, hbefore'⟩ :=
          List.mergeSort_cons htrans htotal a (l.filter p)
        have hafter {xs ys : List α} (h : List.Pairwise (le · ·) (xs ++ a :: ys)) :
            ∀ b ∈ ys, le a b = true :=
          (List.pairwise_cons.mp (List.pairwise_append.mp h).2.1).1
        have hl₂ := hafter (hsorted ▸ List.pairwise_mergeSort htrans htotal (a :: l))
        have hm₂ := hafter (hsorted' ▸ List.pairwise_mergeSort htrans htotal (a :: l.filter p))
        -- both ways leave the same entries, in front of `a` and behind it
        have hsame : l₁.filter p ++ l₂.filter p = m₁ ++ m₂ := by
          rw [← hm, ← ih, hl, List.filter_append]
        obtain ⟨hleft, hright⟩ := filter_split (l₁.filter p) (l₂.filter p)
          (fun b hb => hbefore b (List.mem_filter.mp hb).1)
          fun b hb => hl₂ b (List.mem_filter.mp hb).1
        obtain ⟨hleft', hright'⟩ := filter_split m₁ m₂ hbefore' hm₂
        rw [hsame] at hleft hright
        rw [hsorted, List.filter_append, List.filter_cons_of_pos hp, List.filter_cons_of_pos hp,
          hsorted', ← hleft, ← hright, hleft', hright']
      · rw [hsorted, List.filter_append, List.filter_cons_of_neg hp, List.filter_cons_of_neg hp,
          ← ih, hl, List.filter_append]

/-! ### By a number -/

variable (key : α → Int) (p : α → Bool)

theorem key_le_trans : ∀ a b c : α, decide (key a ≤ key b) = true →
    decide (key b ≤ key c) = true → decide (key a ≤ key c) = true := by
  simp only [decide_eq_true_eq]
  exact fun _ _ _ => Int.le_trans

theorem key_le_total (a b : α) : (decide (key a ≤ key b) || decide (key b ≤ key a)) = true := by
  simpa using Int.le_total (key a) (key b)

/-- The first entry in order that satisfies a condition is the same where the others are left
out. -/
theorem find?_mergeSort_filter (l : List α) :
    ((l.filter p).mergeSort fun a b => key a ≤ key b).find? p =
      (l.mergeSort fun a b => key a ≤ key b).find? p := by
  rw [← List.head?_filter, ← List.head?_filter,
    filter_mergeSort (key_le_trans key) (key_le_total key),
    filter_mergeSort (key_le_trans key) (key_le_total key), List.filter_filter]
  simp only [Bool.and_self]

end Sorting

end RemoteSigner
