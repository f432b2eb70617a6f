import Mathlib.Data.List.Lex
import Mathlib.Data.Prod.Lex
import Mathlib.Data.String.Basic
import RemoteSigner.Files.Path

/-!
# The order of paths

Components are compared as pairs of a kind and a text, and lists of them as words over such
pairs (`allBefore_iff`). So paths are in a linear order, but for the spellings of one path
(`not_before_trans`, `not_before_total`, `components_eq`).
-/

namespace RemoteSigner.FilePath

namespace Component

/-- The kind and the text of a component. -/
def key : Component → Nat ×ₗ String
  | .name text => toLex (Component.rank (.name text), text)
  | c => toLex (c.rank, "")

theorem key_injective : Function.Injective key := by
  intro a b h
  cases a <;> cases b <;> simp_all [key, rank]

theorem before_iff_key {a b : Component} : a.before b = true ↔ a.key < b.key := by
  cases a <;> cases b <;> simp [before, key, rank, Prod.Lex.lt_iff]

theorem allBefore_iff {as bs : List Component} :
    allBefore as bs = true ↔ as.map key < bs.map key := by
  induction as generalizing bs with
  | nil => cases bs <;> simp [allBefore]
  | cons a as ih =>
      cases bs with
      | nil => simp [allBefore]
      | cons b bs =>
          rw [List.map_cons, List.map_cons, List.cons_lt_cons_iff, ← ih, ← before_iff_key,
            key_injective.eq_iff, allBefore]
          simp

end Component

variable {a b c : FilePath}

theorem before_iff : a.before b = true ↔
    a.components.map Component.key < b.components.map Component.key :=
  Component.allBefore_iff

theorem before_asymm (h : a.before b = true) : ¬ b.before a = true := by
  rw [before_iff] at h ⊢
  exact lt_asymm h

theorem not_before_iff : (!b.before a) = true ↔
    a.components.map Component.key ≤ b.components.map Component.key := by
  rw [Bool.not_eq_true', ← Bool.not_eq_true, before_iff, not_lt]

theorem not_before_trans (h : (!b.before a) = true) (h' : (!c.before b) = true) :
    (!c.before a) = true := by
  rw [not_before_iff] at h h' ⊢
  exact h.trans h'

theorem not_before_total (a b : FilePath) : (!b.before a || !a.before b) = true := by
  rw [Bool.or_eq_true, not_before_iff, not_before_iff]
  exact le_total _ _

/-- Only spellings of one path come neither before nor after each other. -/
theorem components_eq (h : (!b.before a) = true) (h' : (!a.before b) = true) :
    a.components = b.components := by
  rw [not_before_iff] at h h'
  exact Component.key_injective.list_map (le_antisymm h h')

theorem before_of_not_before (h : (!b.before a) = true) (hne : a.components ≠ b.components) :
    a.before b = true := by
  by_contra hnot
  exact hne (components_eq h (by simpa using hnot))

end RemoteSigner.FilePath
