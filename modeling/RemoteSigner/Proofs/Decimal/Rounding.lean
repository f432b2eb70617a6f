import Mathlib.Algebra.Order.Field.Power
import Mathlib.Data.Nat.Log
import Mathlib.Tactic.FieldSimp
import Mathlib.Tactic.Linarith
import Mathlib.Tactic.NormNum
import Mathlib.Tactic.Positivity
import Mathlib.Tactic.Ring
import RemoteSigner.Decimal.Binary64

/-!
# Rounding to a double

A double stands for its `magnitude`, a rational number, and a pair of natural numbers
`(n, d)` for its `ratio`. Rounding to the nearest number is off by at most one half
(`roundHalfEven_bounds`), and `exponentOf` names a unit of which a quotient has less than
`2 ^ 53`, and at least `2 ^ 52` unless the unit is the least (`exponentOf_spec`). A quotient
below `overflow` therefore rounds to a double, and is off by its `slack` at most: one part in
`2 ^ 53` and half the least unit (`ofQuotient?_spec`). So do products, quotients and powers
of ten (`mul?_spec`, `div?_spec`, `powerOfTen?_spec`).
-/

namespace RemoteSigner.Binary64

/-! ## Ratios -/

/-- The rational number that a pair of natural numbers stands for. -/
def ratio (p : Nat × Nat) : ℚ := p.1 / p.2

/-- The rational number that a double stands for, without its sign. -/
def magnitude (v : Binary64) : ℚ := v.mantissa * 2 ^ v.exponent

theorem magnitude_nonneg (v : Binary64) : 0 ≤ v.magnitude := by
  unfold magnitude
  positivity

theorem zpow_of_nonneg (b : ℚ) {e : ℤ} (h : 0 ≤ e) : b ^ e = b ^ e.toNat := by
  rw [← zpow_natCast, Int.toNat_of_nonneg h]

theorem zpow_of_neg (b : ℚ) {e : ℤ} (h : e < 0) : b ^ e = (b ^ (-e).toNat)⁻¹ := by
  rw [← zpow_of_nonneg b (by omega), zpow_neg, inv_inv]

theorem ratio_scaled (num : Nat) {den : Nat} (hden : 0 < den) (e : ℤ) :
    ratio (scaled num den e) = ratio (num, den) / 2 ^ e ∧ 0 < (scaled num den e).2 := by
  unfold scaled ratio
  split
  · rw [zpow_of_neg 2 ‹_›]
    refine ⟨?_, hden⟩
    simp only [Nat.shiftLeft_eq]
    push_cast
    field_simp
  · rw [zpow_of_nonneg 2 (by omega)]
    simp only [Nat.shiftLeft_eq]
    refine ⟨?_, by positivity⟩
    push_cast
    field_simp

theorem ratio_toQuotient (v : Binary64) :
    ratio v.toQuotient = v.magnitude ∧ 0 < v.toQuotient.2 := by
  unfold toQuotient ratio magnitude
  split
  · rw [zpow_of_neg 2 ‹_›]
    simp only [Nat.shiftLeft_eq]
    refine ⟨?_, by positivity⟩
    push_cast
    rw [one_mul, div_eq_mul_inv]
  · rw [zpow_of_nonneg 2 (by omega)]
    simp [Nat.shiftLeft_eq]

/-! ## Rounding to a whole number -/

theorem roundHalfEven_bounds (n : Nat) {d : Nat} (hd : 0 < d) :
    ratio (n, d) - 1 / 2 ≤ roundHalfEven n d ∧ (roundHalfEven n d : ℚ) ≤ ratio (n, d) + 1 / 2 := by
  have hdiv := Nat.div_add_mod n d
  have hmod := Nat.mod_lt n hd
  have hnat : 2 * n ≤ 2 * (d * roundHalfEven n d) + d ∧
      2 * (d * roundHalfEven n d) ≤ 2 * n + d := by
    unfold roundHalfEven
    simp only
    generalize n / d = q at hdiv
    generalize n % d = r at hdiv hmod
    have hnext : d * (q + 1) = d * q + d := by ring
    split_ifs <;> (try rw [hnext]) <;> omega
  have hd' : (0 : ℚ) < d := by exact_mod_cast hd
  obtain ⟨hlow, hhigh⟩ := hnat
  have hlow' : (2 * n : ℚ) ≤ 2 * (d * roundHalfEven n d) + d := by exact_mod_cast hlow
  have hhigh' : (2 * (d * roundHalfEven n d) : ℚ) ≤ 2 * n + d := by exact_mod_cast hhigh
  have hn : (n : ℚ) = ratio (n, d) * d := by
    unfold ratio
    field_simp
  rw [hn] at hlow' hhigh'
  constructor <;> nlinarith

/-! ## The unit of a quotient -/

theorem ratio_log2 {num den : Nat} (hnum : num ≠ 0) (hden : den ≠ 0) :
    (2 : ℚ) ^ ((Nat.log2 num : ℤ) - Nat.log2 den - 1) ≤ ratio (num, den) ∧
      ratio (num, den) < 2 ^ ((Nat.log2 num : ℤ) - Nat.log2 den + 1) := by
  have hnum₁ : (2 : ℚ) ^ Nat.log2 num ≤ num := by exact_mod_cast Nat.log2_self_le hnum
  have hnum₂ : (num : ℚ) < 2 ^ (Nat.log2 num + 1) := by exact_mod_cast Nat.lt_log2_self
  have hden₁ : (2 : ℚ) ^ Nat.log2 den ≤ den := by exact_mod_cast Nat.log2_self_le hden
  have hden₂ : (den : ℚ) < 2 ^ (Nat.log2 den + 1) := by exact_mod_cast Nat.lt_log2_self
  have hpos : (0 : ℚ) < den := by positivity
  unfold ratio
  constructor
  · rw [le_div_iff₀ hpos]
    calc (2 : ℚ) ^ ((Nat.log2 num : ℤ) - Nat.log2 den - 1) * den
        ≤ 2 ^ ((Nat.log2 num : ℤ) - Nat.log2 den - 1) * 2 ^ (Nat.log2 den + 1) := by gcongr
      _ = 2 ^ Nat.log2 num := by
          rw [← zpow_natCast, ← zpow_natCast, ← zpow_add₀ two_ne_zero]
          congr 1
          push_cast
          ring
      _ ≤ num := hnum₁
  · rw [div_lt_iff₀ hpos]
    calc (num : ℚ) < 2 ^ (Nat.log2 num + 1) := hnum₂
      _ = 2 ^ ((Nat.log2 num : ℤ) - Nat.log2 den + 1) * 2 ^ Nat.log2 den := by
          rw [← zpow_natCast, ← zpow_natCast, ← zpow_add₀ two_ne_zero]
          congr 1
          push_cast
          ring
      _ ≤ 2 ^ ((Nat.log2 num : ℤ) - Nat.log2 den + 1) * den := by gcongr

/-- A quotient of which a mantissa is the whole part, in a unit. -/
theorem div_lt_unit_iff (num : Nat) {den : Nat} (hden : 0 < den) (e : ℤ) :
    (scaled num den e).1 / (scaled num den e).2 < unit ↔ ratio (num, den) < 2 ^ (e + 52) := by
  obtain ⟨hratio, hpos⟩ := ratio_scaled num hden e
  have hpos' : (0 : ℚ) < (scaled num den e).2 := by exact_mod_cast hpos
  have hunit : ((unit : Nat) : ℚ) = 2 ^ (52 : ℤ) := by norm_num [unit]
  rw [Nat.div_lt_iff_lt_mul hpos, ← Nat.cast_lt (α := ℚ), Nat.cast_mul, ← div_lt_iff₀ hpos', hunit]
  rw [show ((scaled num den e).1 / (scaled num den e).2 : ℚ) = ratio (scaled num den e) from rfl,
    hratio, div_lt_iff₀ (by positivity), ← zpow_add₀ two_ne_zero, add_comm]

theorem exponentOf_spec {num den : Nat} (hnum : num ≠ 0) (hden : den ≠ 0) :
    minExponent ≤ exponentOf num den ∧
      ratio (num, den) < 2 ^ (exponentOf num den + 53) ∧
      (exponentOf num den = minExponent ∨ 2 ^ (exponentOf num den + 52) ≤ ratio (num, den)) := by
  obtain ⟨hlow, hhigh⟩ := ratio_log2 hnum hden
  have hguess := div_lt_unit_iff num (Nat.pos_of_ne_zero hden)
    ((Nat.log2 num : ℤ) - Nat.log2 den - 52)
  have hmono : ∀ {a b : ℤ}, a ≤ b → (2 : ℚ) ^ a ≤ 2 ^ b := fun h =>
    zpow_le_zpow_right₀ one_le_two h
  unfold exponentOf
  simp only
  generalize (Nat.log2 num : ℤ) - Nat.log2 den = g at hlow hhigh hguess ⊢
  -- the unit before it is raised to the least one
  obtain ⟨e, he, hbelow, habove⟩ : ∃ e : ℤ,
      (if (scaled num den (g - 52)).1 / (scaled num den (g - 52)).2 < unit then g - 52 - 1
        else g - 52) = e ∧ ratio (num, den) < 2 ^ (e + 53) ∧ 2 ^ (e + 52) ≤ ratio (num, den) := by
    split
    · refine ⟨_, rfl, ?_, ?_⟩
      · exact (hguess.mp ‹_›).trans_le (hmono (by omega))
      · exact (hmono (by omega)).trans hlow
    · refine ⟨_, rfl, ?_, ?_⟩
      · exact hhigh.trans_le (hmono (by omega))
      · exact not_lt.mp (mt hguess.mpr ‹_›)
  rw [he]
  split
  · exact ⟨le_rfl, hbelow.trans_le (hmono (by omega)), .inl rfl⟩
  · exact ⟨by omega, hbelow, .inr habove⟩

/-! ## Rounding to a double -/

/-- A double as rounding leaves it. -/
structure Finite (v : Binary64) : Prop where
  mantissa : v.mantissa < 2 * unit
  exponent : v.exponent ≤ maxExponent

/-- The least quotient that rounds to an infinite double. -/
def overflow : ℚ := (2 ^ (53 : ℤ) - 1 / 2) * 2 ^ maxExponent

/-- A mantissa of which rounding made one bit too many, in twice the unit. -/
def carried (m : Nat) (e : ℤ) : Nat × ℤ :=
  if m = 2 * unit then (unit, e + 1) else (m, e)

theorem carried_magnitude (m : Nat) (e : ℤ) :
    ((carried m e).1 : ℚ) * 2 ^ (carried m e).2 = m * 2 ^ e := by
  unfold carried
  split
  · subst_vars
    rw [zpow_add_one₀ two_ne_zero]
    push_cast
    ring
  · rfl

theorem carried_lt {m : Nat} (h : m ≤ 2 * unit) (e : ℤ) : (carried m e).1 < 2 * unit := by
  unfold carried
  split
  · exact (by decide : unit < 2 * unit)
  · exact lt_of_le_of_ne h ‹_›

variable {num den : Nat} {negative : Bool} {v : Binary64}

/-- A quotient other than zero is rounded to a mantissa of a unit. -/
theorem ofQuotient?_eq (negative : Bool) (hnum : num ≠ 0) (hden : den ≠ 0) : ∃ (m : Nat) (e : ℤ),
    (ofQuotient? negative num den =
      if (carried m e).2 > maxExponent then none else
      some ⟨negative, (carried m e).1, (carried m e).2⟩) ∧
      m ≤ 2 * unit ∧ ratio (num, den) ≤ (m + 1 / 2) * 2 ^ e ∧
      (m - 1 / 2) * 2 ^ e ≤ ratio (num, den) ∧
      (e = minExponent ∨ 2 ^ (e + 52) ≤ ratio (num, den)) := by
  obtain ⟨_, hbelow, hunit⟩ := exponentOf_spec hnum hden
  obtain ⟨hratio, hpos⟩ := ratio_scaled num (Nat.pos_of_ne_zero hden) (exponentOf num den)
  obtain ⟨hlow, hhigh⟩ := roundHalfEven_bounds (scaled num den (exponentOf num den)).1 hpos
  refine ⟨roundHalfEven (scaled num den (exponentOf num den)).1
    (scaled num den (exponentOf num den)).2,
    exponentOf num den, if_neg hnum, ?_⟩
  generalize exponentOf num den = e at hbelow hunit hratio hlow hhigh ⊢
  generalize scaled num den e = s at hratio hlow hhigh ⊢
  generalize roundHalfEven s.1 s.2 = m at hlow hhigh ⊢
  have hscaled : ratio (num, den) = ratio s * 2 ^ e := by
    rw [hratio, div_mul_cancel₀ _ (by positivity)]
  have hlt : ratio s < 2 ^ 53 := by
    rw [hratio, div_lt_iff₀ (by positivity), ← zpow_natCast, ← zpow_add₀ two_ne_zero, add_comm]
    exact hbelow
  refine ⟨?_, ?_, ?_, hunit⟩
  · have hm : (m : ℚ) < (2 * unit + 1 : Nat) := by
      refine (hhigh.trans_lt (add_lt_add_left hlt _)).trans_le ?_
      norm_num [unit]
    exact Nat.lt_succ_iff.mp (by exact_mod_cast hm)
  · rw [hscaled]
    gcongr
    exact sub_le_iff_le_add.mp hlow
  · rw [hscaled]
    gcongr
    exact sub_le_iff_le_add.mpr hhigh

theorem finite_of_ofQuotient? (hden : den ≠ 0) (h : ofQuotient? negative num den = some v) :
    v.Finite := by
  by_cases hnum : num = 0
  · rw [ofQuotient?, if_pos hnum] at h
    obtain rfl := Option.some.inj h
    exact ⟨Nat.zero_lt_succ _, show minExponent ≤ maxExponent by decide⟩
  · obtain ⟨m, e, heq, hm, _⟩ := ofQuotient?_eq negative hnum hden
    rw [heq] at h
    split at h
    · cases h
    · obtain rfl := Option.some.inj h
      exact ⟨carried_lt hm e, not_lt.mp ‹_›⟩

/-- By how much a quotient is rounded at most: one part in `2 ^ 53` and half the least unit. -/
def slack (q : ℚ) : ℚ := q * 2 ^ (-53 : ℤ) + 2 ^ (minExponent - 1)

theorem slack_nonneg {q : ℚ} (h : 0 ≤ q) : 0 ≤ slack q := by
  unfold slack
  positivity

/-- A quotient that is not too large is rounded to a finite double. -/
theorem ofQuotient?_spec (negative : Bool) (hden : den ≠ 0) (h : ratio (num, den) < overflow) :
    ∃ v, ofQuotient? negative num den = some v ∧
      |v.magnitude - ratio (num, den)| ≤ slack (ratio (num, den)) := by
  by_cases hnum : num = 0
  · refine ⟨⟨negative, 0, minExponent⟩, by rw [ofQuotient?, if_pos hnum], ?_⟩
    simpa [magnitude, ratio, hnum] using slack_nonneg le_rfl
  · obtain ⟨m, e, heq, _, hhigh, hlow, hunit⟩ := ofQuotient?_eq negative hnum hden
    have hmono : ∀ {a b : ℤ}, a ≤ b → (2 : ℚ) ^ a ≤ 2 ^ b := zpow_le_zpow_right₀ one_le_two
    have hmax : ¬ (carried m e).2 > maxExponent := by
      intro hlarge
      refine absurd h (not_lt.mpr ?_)
      unfold carried at hlarge
      split at hlarge
      · -- the mantissa was `2 ^ 53` at the largest exponent
        refine le_trans ?_ hlow
        subst_vars
        calc overflow = ((2 * unit : Nat) - 1 / 2) * 2 ^ maxExponent := by norm_num [overflow, unit]
          _ ≤ ((2 * unit : Nat) - 1 / 2) * 2 ^ e := by
              refine mul_le_mul_of_nonneg_left (hmono ?_) (by norm_num [unit])
              exact Int.lt_add_one_iff.mp hlarge
      · refine le_trans ?_ (hunit.resolve_left ?_)
        · calc overflow ≤ 2 ^ (53 : ℤ) * 2 ^ maxExponent := by
                unfold overflow
                gcongr
                norm_num
            _ = 2 ^ (maxExponent + 53) := by rw [← zpow_add₀ two_ne_zero, add_comm]
            _ ≤ 2 ^ (e + 52) := hmono (by simp only at hlarge; omega)
        · rintro rfl
          exact absurd hlarge (show ¬ minExponent > maxExponent by decide)
    refine ⟨⟨negative, (carried m e).1, (carried m e).2⟩, by rw [heq, if_neg hmax], ?_⟩
    have hhalf : (2 : ℚ) ^ (e - 1) ≤ slack (ratio (num, den)) := by
      rcases hunit with rfl | hunit
      · exact le_add_of_nonneg_left (mul_nonneg (by unfold ratio; positivity) (by positivity))
      · calc (2 : ℚ) ^ (e - 1) = 2 ^ (e + 52) * 2 ^ (-53 : ℤ) := by
              rw [← zpow_add₀ two_ne_zero]
              congr 1
              ring
          _ ≤ ratio (num, den) * 2 ^ (-53 : ℤ) := by gcongr
          _ ≤ _ := le_add_of_nonneg_right (by positivity)
    have hmagnitude : magnitude ⟨negative, (carried m e).1, (carried m e).2⟩ = m * 2 ^ e :=
      carried_magnitude m e
    have hunits : (2 : ℚ) ^ (e - 1) = 1 / 2 * 2 ^ e := by
      rw [zpow_sub_one₀ two_ne_zero]
      ring
    rw [hmagnitude, abs_le]
    rw [hunits] at hhalf
    constructor <;> linarith

/-! ## Products and quotients -/

variable {a b : Binary64}

theorem mul?_eq (a b : Binary64) :
    ∃ num den, den ≠ 0 ∧ ratio (num, den) = a.magnitude * b.magnitude ∧
    a.mul? b = ofQuotient? (a.negative != b.negative) num den := by
  obtain ⟨ha, hapos⟩ := ratio_toQuotient a
  obtain ⟨hb, hbpos⟩ := ratio_toQuotient b
  refine ⟨a.toQuotient.1 * b.toQuotient.1, a.toQuotient.2 * b.toQuotient.2,
    Nat.mul_ne_zero hapos.ne' hbpos.ne', ?_, rfl⟩
  rw [← ha, ← hb]
  simp only [ratio]
  push_cast
  rw [mul_div_mul_comm]

theorem div?_eq (a : Binary64) (hb : b.magnitude ≠ 0) : ∃ num den, den ≠ 0 ∧
    ratio (num, den) = a.magnitude / b.magnitude ∧
      a.div? b = ofQuotient? (a.negative != b.negative) num den := by
  obtain ⟨ha, hapos⟩ := ratio_toQuotient a
  obtain ⟨hratio, hbpos⟩ := ratio_toQuotient b
  have hnum : b.toQuotient.1 ≠ 0 := by
    intro hzero
    rw [← hratio, ratio, hzero, Nat.cast_zero, zero_div] at hb
    exact hb rfl
  refine ⟨a.toQuotient.1 * b.toQuotient.2, a.toQuotient.2 * b.toQuotient.1,
    Nat.mul_ne_zero hapos.ne' hnum, ?_, rfl⟩
  rw [← ha, ← hratio]
  simp only [ratio]
  push_cast
  rw [div_div_div_eq]

theorem mul?_spec (h : a.magnitude * b.magnitude < overflow) : ∃ v, a.mul? b = some v ∧
    |v.magnitude - a.magnitude * b.magnitude| ≤ slack (a.magnitude * b.magnitude) := by
  obtain ⟨num, den, hden, hratio, heq⟩ := mul?_eq a b
  rw [heq, ← hratio]
  exact ofQuotient?_spec _ hden (hratio ▸ h)

theorem div?_spec (hb : b.magnitude ≠ 0) (h : a.magnitude / b.magnitude < overflow) :
    ∃ v, a.div? b = some v ∧
      |v.magnitude - a.magnitude / b.magnitude| ≤ slack (a.magnitude / b.magnitude) := by
  obtain ⟨num, den, hden, hratio, heq⟩ := div?_eq a hb
  rw [heq, ← hratio]
  exact ofQuotient?_spec _ hden (hratio ▸ h)

theorem finite_of_mul? (h : a.mul? b = some v) : v.Finite := by
  obtain ⟨num, den, hden, _, heq⟩ := mul?_eq a b
  exact finite_of_ofQuotient? hden (heq ▸ h)

theorem finite_of_div? (hb : b.magnitude ≠ 0) (h : a.div? b = some v) : v.Finite := by
  obtain ⟨num, den, hden, _, heq⟩ := div?_eq a hb
  exact finite_of_ofQuotient? hden (heq ▸ h)

/-! ## Powers of ten -/

theorem overflow_eq : overflow = ((2 ^ 1024 : Nat) : ℚ) - ((2 ^ 970 : Nat) : ℚ) := by
  have hlarge : ((2 ^ 1024 : Nat) : ℚ) = 2 ^ (53 : ℤ) * 2 ^ maxExponent := by
    rw [← zpow_add₀ two_ne_zero, Nat.cast_pow, ← zpow_natCast]
    rfl
  have hsmall : ((2 ^ 970 : Nat) : ℚ) = 1 / 2 * 2 ^ maxExponent := by
    rw [one_div, mul_comm, ← zpow_sub_one₀ two_ne_zero, Nat.cast_pow, ← zpow_natCast]
    rfl
  rw [hlarge, hsmall, overflow]
  ring

/-- Powers of ten up to the largest one are rounded to finite doubles. -/
theorem powerOfTen?_spec {n : Nat} (h : n ≤ 308) :
    ∃ v, powerOfTen? n = some v ∧ |v.magnitude - 10 ^ n| ≤ slack (10 ^ n) := by
  have hratio : ratio (Nat.pow 10 n, 1) = 10 ^ n := by simp [ratio]
  have hlarge : (10 : ℚ) ^ n < overflow := by
    have hnat : 10 ^ 308 + 2 ^ 970 < 2 ^ 1024 := by decide +kernel
    have hcast : ((10 ^ 308 : Nat) : ℚ) + ((2 ^ 970 : Nat) : ℚ) < ((2 ^ 1024 : Nat) : ℚ) := by
      rw [← Nat.cast_add]
      exact Nat.cast_lt.mpr hnat
    have hmono : (10 : ℚ) ^ n ≤ ((10 ^ 308 : Nat) : ℚ) := by
      rw [Nat.cast_pow]
      exact pow_le_pow_right₀ (by norm_num) h
    rw [overflow_eq]
    exact hmono.trans_lt (lt_sub_iff_add_lt.mpr hcast)
  rw [← hratio] at hlarge ⊢
  exact ofQuotient?_spec false one_ne_zero hlarge

end RemoteSigner.Binary64
