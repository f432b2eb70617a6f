import RemoteSigner.Json.Number
import RemoteSigner.Proofs.Decimal.Rounding
import RemoteSigner.Proofs.Outcome

/-!
# Scaling by powers of ten

Reading a decimal number multiplies or divides a double by rounded powers of ten. The result
is finite (`finite_of_scale`). Dividing never fails (`scale_down`); multiplying does not if
the product leaves room for the three roundings (`scale_up`). So the double of significant
digits and an exponent exists where the exponent is negative, or the number is at most
`roundable`, seven halves of a unit below the first power of two that is infinite
(`toDouble_eq_ok`).
-/

namespace RemoteSigner.Binary64

variable {q : ℚ}

theorem zpow_mono {a b : ℤ} (h : a ≤ b) : (2 : ℚ) ^ a ≤ 2 ^ b :=
  zpow_le_zpow_right₀ one_le_two h

theorem slack_le (h : 0 ≤ q) : slack q ≤ (q + 1) / 4 := by
  have hunit : (2 : ℚ) ^ (minExponent - 1) ≤ 2 ^ (-2 : ℤ) := zpow_mono (by decide)
  have hpart : q * 2 ^ (-53 : ℤ) ≤ q * 2 ^ (-2 : ℤ) := by
    refine mul_le_mul_of_nonneg_left (zpow_mono ?_) h
    decide
  unfold slack
  norm_num at hunit hpart ⊢
  linarith

/-- The relative part of the slack, and enough for the other part where a number is not
below one. -/
def precision : ℚ := 2 ^ (-53 : ℤ) + 2 ^ (-60 : ℤ)

theorem add_slack_le (h : 1 ≤ q) : q + slack q ≤ q * (1 + precision) := by
  have hunit : (2 : ℚ) ^ (minExponent - 1) ≤ 2 ^ (-60 : ℤ) := zpow_mono (by decide)
  have hpart : (2 : ℚ) ^ (-60 : ℤ) ≤ q * 2 ^ (-60 : ℤ) := le_mul_of_one_le_left (by positivity) h
  unfold slack precision
  linarith

theorem pow_lt_overflow : (2 : ℚ) ^ (200 : ℤ) < overflow := by
  have hmono : (2 : ℚ) ^ (200 : ℤ) ≤ 2 ^ maxExponent := zpow_mono (by decide)
  refine hmono.trans_lt ?_
  unfold overflow
  rw [lt_mul_iff_one_lt_left (by positivity)]
  norm_num

/-- A power of ten up to the largest one is rounded to a number that is not below half of it. -/
theorem exists_powerOfTen {n : Nat} (h : n ≤ 308) : ∃ p, powerOfTen? n = some p ∧
    |p.magnitude - 10 ^ n| ≤ slack (10 ^ n) ∧ 10 ^ n / 2 ≤ p.magnitude := by
  obtain ⟨p, hp, hnear⟩ := powerOfTen?_spec h
  have hone : (1 : ℚ) ≤ 10 ^ n := one_le_pow₀ (by norm_num)
  have hslack := slack_le (q := 10 ^ n) (by positivity)
  exact ⟨p, hp, hnear, by linarith [(abs_le.mp hnear).1]⟩

/-- Rounded powers of ten are not small, and the largest one is large. -/
theorem powerOfTen_ge {n : Nat} {p : Binary64} (hn : n ≤ 308) (hp : powerOfTen? n = some p) :
    1 / 2 ≤ p.magnitude ∧ (n = 308 → 8 ≤ p.magnitude) := by
  obtain ⟨q, hq, _, hhalf⟩ := exists_powerOfTen hn
  obtain rfl := Option.some.inj (hp.symm.trans hq)
  have hmono : ∀ {k : Nat}, k ≤ n → (10 : ℚ) ^ k / 2 ≤ p.magnitude := fun hk =>
    (div_le_div_of_nonneg_right (pow_le_pow_right₀ (by norm_num) hk) zero_le_two).trans hhalf
  refine ⟨(hmono (Nat.zero_le n)).trans' (by norm_num), fun h => ?_⟩
  exact (hmono (k := 2) (by omega)).trans' (by norm_num)

theorem exists_largestPower : ∃ p, powerOfTen? 308 = some p ∧ 8 ≤ p.magnitude := by
  obtain ⟨n, hn⟩ : ∃ n, n = 308 := ⟨_, rfl⟩
  obtain ⟨p, hp, _⟩ := exists_powerOfTen hn.le
  exact ⟨p, hn ▸ hp, (powerOfTen_ge hn.le hp).2 hn⟩

end RemoteSigner.Binary64

namespace RemoteSigner.Json.Numeral

open Binary64 (overflow slack slack_le slack_nonneg precision add_slack_le Finite)

variable {v w : Binary64} {fuel : Nat} {e : ℤ}

-- the unfolding must not compute the power of ten
attribute [local irreducible] Binary64.powerOfTen? in
theorem scale_succ (fuel : Nat) (v : Binary64) (e : ℤ) : scale (fuel + 1) v e =
    if e.natAbs ≤ 308 then
      match Binary64.powerOfTen? e.natAbs with
      | none => .error .numberOutOfRange
      | some power =>
          (if e ≥ 0 then v.mul? power else v.div? power).elim (.error .numberOutOfRange) .ok
    else if v.mantissa = 0 then .ok v
    else if e ≥ 0 then .error .numberOutOfRange
    else
      match Binary64.powerOfTen? 308 with
      | none => .error .numberOutOfRange
      | some power => scale fuel ((v.div? power).getD v) (e + 308) := rfl

theorem finite_of_scale (hv : v.Finite) (h : scale fuel v e = .ok w) : w.Finite := by
  induction fuel generalizing v e with
  | zero => exact Except.ok.inj h ▸ hv
  | succ fuel ih =>
      rw [scale_succ] at h
      split at h
      · split at h
        · cases h
        · rename_i hn _ p hp
          have hpos : p.magnitude ≠ 0 := by linarith [(Binary64.powerOfTen_ge hn hp).1]
          split at h
          · cases hmul : v.mul? p with
            | none => simp [hmul] at h
            | some r =>
                rw [hmul] at h
                exact Except.ok.inj h ▸ Binary64.finite_of_mul? hmul
          · cases hdiv : v.div? p with
            | none => simp [hdiv] at h
            | some r =>
                rw [hdiv] at h
                exact Except.ok.inj h ▸ Binary64.finite_of_div? hpos hdiv
      · split at h
        · exact Except.ok.inj h ▸ hv
        · split at h
          · cases h
          · obtain ⟨p, hp, hlarge⟩ := Binary64.exists_largestPower
            have hpos : p.magnitude ≠ 0 := by linarith
            rw [hp] at h
            refine ih ?_ h
            cases hdiv : v.div? p with
            | none => exact hv
            | some r => exact Binary64.finite_of_div? hpos hdiv

/-- A magnitude that stays small when it is divided by powers of ten. -/
def Small (v : Binary64) : Prop := v.magnitude ≤ 2 ^ (100 : ℤ)

/-- A small magnitude can be divided by what is not much smaller than one. -/
theorem exists_div? {p : Binary64} {d : ℚ} (hv : Small v) (hd : 1 / 2 ≤ d) (hp : d ≤ p.magnitude) :
    ∃ r, v.div? p = some r ∧ r.magnitude ≤ 2 * (2 ^ (100 : ℤ) / d) + 1 := by
  have hpos : 0 < d := one_half_pos.trans_le hd
  have hquotient : v.magnitude / p.magnitude ≤ 2 ^ (100 : ℤ) / d :=
    div_le_div₀ (by positivity) hv hpos hp
  have hbound : (2 : ℚ) ^ (100 : ℤ) / d ≤ 2 ^ (200 : ℤ) := by
    refine (div_le_div_of_nonneg_left (by positivity) one_half_pos hd).trans ?_
    norm_num
  obtain ⟨r, hr, hnear⟩ := Binary64.div?_spec (hpos.trans_le hp).ne'
    ((hquotient.trans hbound).trans_lt Binary64.pow_lt_overflow)
  have hnonneg := div_nonneg v.magnitude_nonneg p.magnitude_nonneg
  have hslack := slack_le hnonneg
  exact ⟨r, hr, by linarith [(abs_le.mp hnear).2]⟩

/-- Dividing never fails. -/
theorem scale_down (hv : Small v) (he : e < 0) : ∃ w, scale fuel v e = .ok w := by
  induction fuel generalizing v e with
  | zero => exact ⟨v, rfl⟩
  | succ fuel ih =>
      rw [scale_succ]
      split
      · obtain ⟨p, hp, _⟩ := Binary64.exists_powerOfTen ‹_›
        obtain ⟨r, hr, _⟩ := exists_div? hv le_rfl (Binary64.powerOfTen_ge ‹_› hp).1
        rw [hp]
        simp only
        rw [if_neg (by omega), hr]
        exact ⟨r, rfl⟩
      · split
        · exact ⟨v, rfl⟩
        · rw [if_neg (by omega)]
          obtain ⟨p, hp, hlarge⟩ := Binary64.exists_largestPower
          obtain ⟨r, hr, hsmall⟩ := exists_div? hv (by norm_num) hlarge
          rw [hp]
          simp only
          rw [hr]
          exact ih (hsmall.trans (by norm_num)) (by omega)

/-- The largest number whose significant digits and power of ten can be rounded, and their
product too. -/
def roundable : ℚ := (2 ^ (53 : ℤ) - 7 / 2) * 2 ^ Binary64.maxExponent

theorem roundable_mul_lt : roundable * ((1 + precision) * (1 + precision)) < overflow := by
  unfold roundable overflow precision
  rw [mul_right_comm]
  gcongr
  norm_num

/-- The least power of two that is infinite. -/
theorem infinite_eq : ((2 ^ 1024 : Nat) : ℚ) = 2 ^ (53 : ℤ) * 2 ^ Binary64.maxExponent := by
  rw [← zpow_add₀ two_ne_zero, Nat.cast_pow, ← zpow_natCast]
  rfl

theorem roundable_le : roundable ≤ ((2 ^ 1024 : Nat) : ℚ) := by
  rw [infinite_eq]
  unfold roundable
  gcongr
  norm_num

/-- A power of ten that is not infinite is not above the largest one. -/
theorem exponent_le {i : ℤ} (h : (10 : ℚ) ^ i ≤ ((2 ^ 1024 : Nat) : ℚ)) : i ≤ 308 := by
  have hnat : 2 ^ 1024 < 10 ^ 309 := by decide +kernel
  refine not_lt.mp fun hi => ?_
  have hpow : ((10 ^ 309 : Nat) : ℚ) ≤ 10 ^ i := by
    rw [Nat.cast_pow, ← zpow_natCast]
    exact zpow_le_zpow_right₀ (by norm_num) hi
  exact absurd (hpow.trans h) (not_le.mpr (Nat.cast_lt.mpr hnat))

/-- The double of a whole number. -/
theorem exists_ofNat {n : Nat} (h : n < 2 ^ 64) : ∃ v, Binary64.ofQuotient? false n 1 = some v ∧
    |v.magnitude - n| ≤ slack n ∧ Small v := by
  have hratio : Binary64.ratio (n, 1) = n := by simp [Binary64.ratio]
  have hn : (n : ℚ) < 2 ^ (64 : ℤ) := by exact_mod_cast h
  have hlarge : Binary64.ratio (n, 1) < overflow := by
    rw [hratio]
    exact (hn.trans_le (Binary64.zpow_mono (by norm_num))).trans Binary64.pow_lt_overflow
  obtain ⟨v, hv, hnear⟩ := Binary64.ofQuotient?_spec false one_ne_zero hlarge
  rw [hratio] at hnear
  have hslack := slack_le (q := n) (by positivity)
  refine ⟨v, hv, hnear, ?_⟩
  have hbound : (n : ℚ) + (n + 1) / 4 ≤ 2 ^ (100 : ℤ) := by
    refine (by linarith : (n : ℚ) + (n + 1) / 4 ≤ 2 * 2 ^ (64 : ℤ) + 1).trans ?_
    norm_num
  exact (by linarith [(abs_le.mp hnear).2] : v.magnitude ≤ n + (n + 1) / 4).trans hbound

/-- Multiplying does not fail if the product is roundable. -/
theorem scale_up {n : Nat} (hn : n ≠ 0) (hnear : |v.magnitude - n| ≤ slack n) (he : 0 ≤ e)
    (h : (n : ℚ) * 10 ^ e ≤ roundable) : ∃ w, scale (fuel + 1) v e = .ok w := by
  obtain ⟨k, rfl⟩ := Int.eq_ofNat_of_zero_le he
  rw [zpow_natCast] at h
  have hone : (1 : ℚ) ≤ n := by exact_mod_cast Nat.one_le_iff_ne_zero.mpr hn
  have hpow : (1 : ℚ) ≤ 10 ^ k := one_le_pow₀ (by norm_num)
  have hk : k ≤ 308 := by
    have hpower := (le_mul_of_one_le_left (by positivity) hone).trans (h.trans roundable_le)
    rw [← zpow_natCast] at hpower
    exact_mod_cast exponent_le hpower
  obtain ⟨p, hp, hpnear, _⟩ := Binary64.exists_powerOfTen hk
  have hproduct : v.magnitude * p.magnitude < overflow :=
    calc v.magnitude * p.magnitude ≤ (n * (1 + precision)) * (10 ^ k * (1 + precision)) := by
          have hv := add_slack_le hone
          have hq := add_slack_le hpow
          refine mul_le_mul ?_ ?_ p.magnitude_nonneg ?_
          · linarith [(abs_le.mp hnear).2]
          · linarith [(abs_le.mp hpnear).2]
          · linarith [slack_nonneg (zero_le_one.trans hone)]
      _ = (n * 10 ^ k) * ((1 + precision) * (1 + precision)) := by ring
      _ ≤ roundable * ((1 + precision) * (1 + precision)) := by
          gcongr
          unfold precision
          positivity
      _ < overflow := roundable_mul_lt
  obtain ⟨r, hr, _⟩ := Binary64.mul?_spec hproduct
  refine ⟨r, ?_⟩
  rw [scale_succ, Int.natAbs_natCast, if_pos hk, hp]
  simp only
  rw [if_pos he, hr]
  rfl

/-- Significant digits and an exponent have a double, unless the number is very large. -/
theorem toDouble_eq_ok (negative : Bool) {n : Nat} (hn : n ≠ 0) (hfits : n < 2 ^ 64)
    (h : e < 0 ∨ (n : ℚ) * 10 ^ e ≤ roundable) : ∃ w, toDouble negative n e = .ok w := by
  obtain ⟨v, hv, hnear, hsmall⟩ := exists_ofNat hfits
  obtain ⟨w, hw⟩ : ∃ w, scale (e.natAbs / 308 + 2) v e = .ok w := by
    rcases lt_or_ge e 0 with he | he
    · exact scale_down hsmall he
    · exact scale_up hn hnear he (h.resolve_left (not_lt.mpr he))
  unfold toDouble
  rw [hv]
  simp only
  rw [hw]
  exact ⟨_, rfl⟩

theorem finite_of_toDouble {negative : Bool} {n : Nat} (h : toDouble negative n e = .ok w) :
    w.Finite := by
  unfold toDouble at h
  split at h
  · cases h
  · rename_i v hv
    have hfinite := Binary64.finite_of_ofQuotient? one_ne_zero hv
    cases hscale : scale (e.natAbs / 308 + 2) v e with
    | error fault => simp [hscale, Except.map] at h
    | ok r =>
        obtain ⟨hm, he⟩ := finite_of_scale hfinite hscale
        rw [hscale] at h
        obtain rfl := Except.ok.inj h
        split
        · exact ⟨hm, he⟩
        · exact ⟨hm, he⟩

end RemoteSigner.Json.Numeral
