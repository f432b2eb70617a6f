import Mathlib.Data.List.TakeWhile
import Mathlib.Data.Nat.Cast.Order.Field
import RemoteSigner.Proofs.Decimal.Rounding
import RemoteSigner.Proofs.Text.Numeral

/-!
# The fewest digits

A value lies between the powers of ten that the position of its point names
(`pointPosition_spec`). What is off by one part in `2 ^ 54` at most is inside the interval of
the magnitudes that round to a double (`inside_of_near`), and the nearest point of the grid of
seventeen digits is not further off: the search for the shortest digits finds some
(`gridPoint?_seventeen`). They are `Written` as they should be: none is wasted, and they name
a number that does not exceed the interval (`written_shortest`).
-/

namespace RemoteSigner.Binary64

open RemoteSigner.Numeral (digits push foldl_digits toDigits_eq)

/-! ## The position of the point -/

theorem pow_digitCount {n : Nat} (h : n ≠ 0) :
    10 ^ (digitCount n - 1) ≤ n ∧ n < 10 ^ digitCount n := by
  rw [digitCount, toDigits_eq]
  exact ⟨RemoteSigner.Numeral.pow_le_of_length h, RemoteSigner.Numeral.lt_pow_length n⟩

theorem digitCount_pos (n : Nat) : 0 < digitCount n := by
  rw [digitCount, toDigits_eq]
  exact List.length_pos_iff.mpr (RemoteSigner.Numeral.digits_ne_nil n)

/-- A quotient lies between powers of ten if its numerator does between such multiples of its
denominator. -/
theorem ratio_between {num den k : Nat} (hden : den ≠ 0) (hlow : 10 ^ k * den ≤ num)
    (hhigh : num < 10 ^ (k + 1) * den) :
    (10 : ℚ) ^ (k : ℤ) ≤ ratio (num, den) ∧ ratio (num, den) < 10 ^ ((k : ℤ) + 1) := by
  have hpos : (0 : ℚ) < den := by positivity
  rw [ratio, le_div_iff₀ hpos, div_lt_iff₀ hpos, ← Nat.cast_succ, zpow_natCast, zpow_natCast]
  constructor
  · exact_mod_cast hlow
  · exact_mod_cast hhigh

/-- A quotient lies between negative powers of ten if its denominator does between multiples of
its numerator. -/
theorem ratio_between_inv {num den k : Nat} (hden : den ≠ 0) (hlow : den ≤ num * 10 ^ (k + 1))
    (hhigh : num * 10 ^ k < den) :
    (10 : ℚ) ^ (-(k : ℤ) - 1) ≤ ratio (num, den) ∧ ratio (num, den) < 10 ^ (-(k : ℤ)) := by
  have hpos : (0 : ℚ) < den := by positivity
  have hlow' : (den : ℚ) ≤ 10 ^ (k + 1) * num := by
    rw [mul_comm]
    exact_mod_cast hlow
  have hhigh' : (num : ℚ) * 10 ^ k < den := by exact_mod_cast hhigh
  rw [ratio, le_div_iff₀ hpos, div_lt_iff₀ hpos, ← neg_add', ← Nat.cast_succ, zpow_neg, zpow_neg,
    zpow_natCast, zpow_natCast]
  constructor
  · rwa [inv_mul_le_iff₀ (by positivity)]
  · rwa [← div_eq_inv_mul, lt_div_iff₀ (by positivity)]

/-- Rounding a quotient up adds less than one to it. -/
theorem ceilDiv_bounds {num : Nat} (hnum : num ≠ 0) (den : Nat) :
    den ≤ num * ((den + num - 1) / num) ∧ num * ((den + num - 1) / num) < den + num := by
  have hdiv := Nat.div_add_mod (den + num - 1) num
  have hmod := Nat.mod_lt (den + num - 1) (Nat.pos_of_ne_zero hnum)
  omega

/-- The value lies between the powers of ten that the position of its point names. -/
theorem pointPosition_spec {num den : Nat} (hnum : num ≠ 0) (hden : den ≠ 0) :
    (10 : ℚ) ^ (pointPosition num den - 1) ≤ ratio (num, den) ∧
      ratio (num, den) < 10 ^ pointPosition num den := by
  unfold pointPosition
  simp only
  split
  · rename_i hq
    obtain ⟨hlow, hhigh⟩ := pow_digitCount hq.ne'
    obtain ⟨k, hk⟩ := Nat.exists_eq_succ_of_ne_zero (digitCount_pos (num / den)).ne'
    rw [hk] at hlow hhigh ⊢
    rw [Nat.cast_succ, add_sub_cancel_right]
    exact ratio_between hden ((Nat.le_div_iff_mul_le (Nat.pos_of_ne_zero hden)).mp hlow)
      ((Nat.div_lt_iff_lt_mul (Nat.pos_of_ne_zero hden)).mp hhigh)
  · rename_i hq
    have hlt : num < den := by
      by_contra hge
      exact hq (Nat.div_pos (not_lt.mp hge) (Nat.pos_of_ne_zero hden))
    -- `c` is the quotient of the other way round, rounded up
    obtain ⟨hc₁, hc₂⟩ := ceilDiv_bounds hnum den
    generalize (den + num - 1) / num = c at hc₁ hc₂
    obtain ⟨hlow, hhigh⟩ := pow_digitCount (n := c) (by rintro rfl; omega)
    obtain ⟨k, hk⟩ := Nat.exists_eq_succ_of_ne_zero (digitCount_pos c).ne'
    rw [hk] at hlow hhigh ⊢
    rw [Nat.succ_sub_one] at hlow ⊢
    have habove : num * 10 ^ k < 10 * den :=
      calc num * 10 ^ k ≤ num * c := Nat.mul_le_mul_left num hlow
        _ < den + num := hc₂
        _ ≤ 10 * den := by omega
    have hbelow : den ≤ num * 10 ^ (k + 1) := hc₁.trans (Nat.mul_le_mul_left num hhigh.le)
    split
    · rename_i hge
      -- one zero less than the digits of `c` have places
      cases k with
      | zero => exact absurd (hge.trans_eq (Nat.mul_one num)) hlt.not_ge
      | succ j =>
          have hnear : num * 10 ^ j < den := by
            rw [Nat.pow_succ, ← Nat.mul_assoc] at habove
            omega
          have hpoint : (1 : ℤ) - ((j + 1 : Nat) : ℤ) = -(j : ℤ) := by omega
          rw [hpoint]
          exact ratio_between_inv hden hge hnear
    · rename_i hnot
      rw [zero_sub]
      exact ratio_between_inv hden hbelow (not_le.mp hnot)

/-! ## The interval -/

/-- The end of the magnitudes that round to a double: half a unit above it. -/
def ceiling (v : Binary64) : ℚ := (v.mantissa + 1 / 2) * 2 ^ v.exponent

theorem mantissa_le {v : Binary64} (hv : v.mantissa < 2 * unit) : (v.mantissa : ℚ) ≤ 2 ^ 53 := by
  have hm : (v.mantissa : ℚ) ≤ (2 * unit : Nat) := by exact_mod_cast hv.le
  exact hm.trans_eq (by norm_num [unit])

/-- The interval ends at half a unit above, and begins as far below, or half as far where the
gap is half as wide: what is off by one part in `2 ^ 54` at most is inside. -/
theorem interval_spec {v : Binary64} (hzero : v.mantissa ≠ 0) (hv : v.mantissa < 2 * unit) :
    ∃ lo hi den closed, v.interval = (lo, hi, den, closed) ∧ 0 < den ∧
      ratio (lo, den) ≤ v.magnitude - v.magnitude * 2 ^ (-54 : ℤ) ∧
      ratio (hi, den) = v.ceiling := by
  have hends : ∃ lo hi den closed, v.interval = (lo, hi, den, closed) ∧ 0 < den ∧
      ratio (lo, den) = ((if v.mantissa = unit ∧ v.exponent > minExponent then 4 * v.mantissa - 1
        else 4 * v.mantissa - 2 : Nat) : ℚ) * 2 ^ (v.exponent - 2) ∧
      ratio (hi, den) = ((4 * v.mantissa + 2 : Nat) : ℚ) * 2 ^ (v.exponent - 2) := by
    unfold interval
    simp only
    generalize (if v.mantissa = unit ∧ v.exponent > minExponent then 4 * v.mantissa - 1
      else 4 * v.mantissa - 2) = low
    generalize 4 * v.mantissa + 2 = high
    unfold ratio
    split
    · refine ⟨_, _, _, _, rfl, by rw [Nat.shiftLeft_eq]; positivity, ?_⟩
      simp [zpow_of_neg 2 ‹_›, Nat.shiftLeft_eq, div_eq_mul_inv]
    · refine ⟨_, _, _, _, rfl, Nat.one_pos, ?_⟩
      simp [zpow_of_nonneg 2 (not_lt.mp ‹_›), Nat.shiftLeft_eq]
  obtain ⟨lo, hi, den, closed, heq, hden, hlo, hhi⟩ := hends
  have hquarter : (2 : ℚ) ^ (v.exponent - 2) = 2 ^ v.exponent / 4 := by
    rw [zpow_sub₀ two_ne_zero]
    norm_num
  have hmagnitude : v.magnitude - v.magnitude * 2 ^ (-54 : ℤ) =
      (4 * v.mantissa - v.mantissa * 2 ^ (-52 : ℤ)) * (2 ^ v.exponent / 4) := by
    unfold magnitude
    norm_num
    ring
  refine ⟨lo, hi, den, closed, heq, hden, ?_, ?_⟩
  · rw [hlo, hquarter, hmagnitude]
    gcongr
    split
    · rename_i hnarrow
      rw [hnarrow.1]
      norm_num [unit]
    · rw [Nat.cast_sub (by omega)]
      push_cast
      norm_num
      linarith [mantissa_le hv]
  · rw [hhi, hquarter, ceiling]
    push_cast
    ring

theorem le_ceiling {v : Binary64} (hv : v.mantissa < 2 * unit) :
    v.magnitude + v.magnitude * 2 ^ (-54 : ℤ) ≤ v.ceiling := by
  have hmagnitude : v.magnitude + v.magnitude * 2 ^ (-54 : ℤ) =
      (v.mantissa + v.mantissa * 2 ^ (-54 : ℤ)) * 2 ^ v.exponent := by
    unfold magnitude
    ring
  rw [hmagnitude, ceiling]
  gcongr
  norm_num
  linarith [mantissa_le hv]

/-! ## The grid -/

/-- The value in units of `10 ^ e`, as a quotient. -/
def gridRatio (v : Binary64) (e : ℤ) : Nat × Nat :=
  if e < 0 then (v.toQuotient.1 * Nat.pow 10 e.natAbs, v.toQuotient.2)
  else (v.toQuotient.1, v.toQuotient.2 * Nat.pow 10 e.natAbs)

/-- Units of `10 ^ e`, as a quotient. -/
def unitsRatio (u : Nat) (e : ℤ) : Nat × Nat :=
  if e < 0 then (u, Nat.pow 10 e.natAbs) else (u * Nat.pow 10 e.natAbs, 1)

/-- Whether a number of units of `10 ^ e` reads back. -/
def inside (v : Binary64) (e : ℤ) (u : Nat) : Bool :=
  let (x, y) := unitsRatio u e
  let (lo, hi, den, closed) := v.interval
  let l := compare (lo * y) (x * den)
  let h := compare (x * den) (hi * y)
  if closed then l != .gt && h != .gt else l == .lt && h == .lt

theorem gridPoint?_eq (v : Binary64) (point : ℤ) (count : Nat) :
    v.gridPoint? point count =
      let e := point - count
      let below := (v.gridRatio e).1 / (v.gridRatio e).2
      let nearest := roundHalfEven (v.gridRatio e).1 (v.gridRatio e).2
      let other := if nearest = below then below + 1 else below
      if nearest ≠ 0 ∧ v.inside e nearest then some nearest
      else if other ≠ 0 ∧ v.inside e other then some other
      else none := rfl

theorem gridRatio_spec (v : Binary64) (e : ℤ) :
    ratio (v.gridRatio e) = v.magnitude / 10 ^ e ∧ 0 < (v.gridRatio e).2 := by
  obtain ⟨hratio, hpos⟩ := ratio_toQuotient v
  rw [← hratio]
  unfold gridRatio
  split
  · rw [zpow_of_neg 10 ‹_›, show e.natAbs = (-e).toNat by omega]
    simp only [ratio, Nat.pow_eq]
    refine ⟨?_, hpos⟩
    push_cast
    field_simp
  · rw [zpow_of_nonneg 10 (not_lt.mp ‹_›), show e.natAbs = e.toNat by omega]
    simp only [ratio, Nat.pow_eq]
    refine ⟨?_, by positivity⟩
    push_cast
    field_simp

theorem unitsRatio_spec (u : Nat) (e : ℤ) :
    ratio (unitsRatio u e) = u * 10 ^ e ∧ 0 < (unitsRatio u e).2 := by
  unfold unitsRatio
  split
  · rw [zpow_of_neg 10 ‹_›, show e.natAbs = (-e).toNat by omega]
    simp only [ratio, Nat.pow_eq]
    refine ⟨?_, by positivity⟩
    push_cast
    rw [div_eq_mul_inv]
  · rw [zpow_of_nonneg 10 (not_lt.mp ‹_›), show e.natAbs = e.toNat by omega]
    simp [ratio]

theorem ratio_lt_ratio {a b c d : Nat} (hb : 0 < b) (hd : 0 < d) :
    ratio (a, b) < ratio (c, d) ↔ a * d < c * b := by
  have hb' : (0 : ℚ) < b := by exact_mod_cast hb
  have hd' : (0 : ℚ) < d := by exact_mod_cast hd
  unfold ratio
  rw [div_lt_div_iff₀ hb' hd']
  exact_mod_cast Iff.rfl

variable {v : Binary64} {e : ℤ} {u : Nat}

theorem le_ceiling_of_inside (hzero : v.mantissa ≠ 0) (hv : v.mantissa < 2 * unit)
    (h : v.inside e u = true) : (u : ℚ) * 10 ^ e ≤ v.ceiling := by
  obtain ⟨lo, hi, den, closed, heq, hden, _, hhi⟩ := interval_spec hzero hv
  obtain ⟨hunits, hpos⟩ := unitsRatio_spec u e
  rw [← hunits, ← hhi]
  unfold inside at h
  rw [heq] at h
  simp only at h
  refine not_lt.mp fun hlt => ?_
  have hnat := (ratio_lt_ratio hden hpos).mp hlt
  have hgt : compare ((unitsRatio u e).1 * den) (hi * (unitsRatio u e).2) = .gt :=
    Nat.compare_eq_gt.mpr hnat
  rw [hgt] at h
  cases closed <;> simp at h

theorem inside_of_near (hzero : v.mantissa ≠ 0) (hv : v.mantissa < 2 * unit)
    (h : |(u : ℚ) * 10 ^ e - v.magnitude| < v.magnitude * 2 ^ (-54 : ℤ)) : v.inside e u = true := by
  obtain ⟨lo, hi, den, closed, heq, hden, hlo, hhi⟩ := interval_spec hzero hv
  obtain ⟨hunits, hpos⟩ := unitsRatio_spec u e
  obtain ⟨hbelow, habove⟩ := abs_lt.mp h
  have hceiling := le_ceiling hv
  have hl : ratio (lo, den) < ratio (unitsRatio u e) := by
    rw [hunits]
    linarith
  have hh : ratio (unitsRatio u e) < ratio (hi, den) := by
    rw [hunits, hhi]
    linarith
  have hl' : compare (lo * (unitsRatio u e).2) ((unitsRatio u e).1 * den) = .lt :=
    Nat.compare_eq_lt.mpr ((ratio_lt_ratio hden hpos).mp hl)
  have hh' : compare ((unitsRatio u e).1 * den) (hi * (unitsRatio u e).2) = .lt :=
    Nat.compare_eq_lt.mpr ((ratio_lt_ratio hpos hden).mp hh)
  unfold inside
  rw [heq]
  simp only [hl', hh']
  cases closed <;> rfl

/-- A point that was found on the grid is not zero, not above the interval and no more than
one unit above the value. -/
theorem of_gridPoint? {point : ℤ} {count : Nat} (hzero : v.mantissa ≠ 0)
    (hv : v.mantissa < 2 * unit) (h : v.gridPoint? point count = some u) :
    u ≠ 0 ∧ (u : ℚ) * 10 ^ (point - count) ≤ v.ceiling ∧
      (u : ℚ) ≤ v.magnitude / 10 ^ (point - count) + 1 := by
  obtain ⟨hratio, hpos⟩ := gridRatio_spec v (point - count)
  obtain ⟨_, hnearest⟩ := roundHalfEven_bounds (v.gridRatio (point - count)).1 hpos
  have hfloor : (((v.gridRatio (point - count)).1 / (v.gridRatio (point - count)).2 : Nat) : ℚ) ≤
      v.magnitude / 10 ^ (point - count) := by
    rw [← hratio]
    exact Nat.cast_div_le
  rw [← hratio] at hfloor ⊢
  rw [gridPoint?_eq] at h
  simp only at h
  generalize (v.gridRatio (point - count)).1 / (v.gridRatio (point - count)).2 = below at hfloor h
  generalize roundHalfEven (v.gridRatio (point - count)).1 (v.gridRatio (point - count)).2 = nearest
    at hnearest h
  obtain ⟨other, hother, heq⟩ : ∃ other ≤ below + 1,
      (if nearest = below then below + 1 else below) = other := by
    split <;> exact ⟨_, by omega, rfl⟩
  rw [heq] at h
  have hother' : (other : ℚ) ≤ below + 1 := by exact_mod_cast hother
  split at h
  · obtain rfl := Option.some.inj h
    obtain ⟨hne, hinside⟩ := ‹_ ∧ _›
    exact ⟨hne, le_ceiling_of_inside hzero hv hinside, hnearest.trans (by gcongr; norm_num)⟩
  · split at h
    · obtain rfl := Option.some.inj h
      obtain ⟨hne, hinside⟩ := ‹_ ∧ _›
      exact ⟨hne, le_ceiling_of_inside hzero hv hinside, hother'.trans (by gcongr)⟩
    · cases h

/-- Seventeen digits are enough. -/
theorem gridPoint?_seventeen {point : ℤ} (hzero : v.mantissa ≠ 0) (hv : v.mantissa < 2 * unit)
    (hpoint : (10 : ℚ) ^ (point - 1) ≤ v.magnitude) : ∃ u, v.gridPoint? point 17 = some u := by
  obtain ⟨hratio, hpos⟩ := gridRatio_spec v (point - (17 : Nat))
  obtain ⟨hlow, hhigh⟩ := roundHalfEven_bounds (v.gridRatio (point - (17 : Nat))).1 hpos
  rw [gridPoint?_eq]
  simp only
  generalize hnearest : roundHalfEven (v.gridRatio (point - (17 : Nat))).1
    (v.gridRatio (point - (17 : Nat))).2 = nearest at hlow hhigh ⊢
  rw [show
      ratio ((v.gridRatio (point - (17 : Nat))).1, (v.gridRatio (point - (17 : Nat))).2) = _ from
    hratio] at hlow hhigh
  -- the value has at least `10 ^ 16` of the units of the grid
  have hunits : (10 : ℚ) ^ (point - 1) = 10 ^ 16 * 10 ^ (point - (17 : Nat)) := by
    rw [← zpow_natCast, ← zpow_add₀ (by norm_num)]
    congr 1
    push_cast
    ring
  have hten : (0 : ℚ) < 10 ^ (point - (17 : Nat)) := by positivity
  have hlarge : (10 : ℚ) ^ 16 ≤ v.magnitude / 10 ^ (point - (17 : Nat)) :=
    (le_div_iff₀ hten).mpr (hunits ▸ hpoint)
  have hne : nearest ≠ 0 := by
    rintro rfl
    norm_num at hlow
    linarith
  have hinside : v.inside (point - (17 : Nat)) nearest = true := by
    refine inside_of_near hzero hv ?_
    have hmagnitude : v.magnitude =
        v.magnitude / 10 ^ (point - (17 : Nat)) * 10 ^ (point - (17 : Nat)) :=
      (div_mul_cancel₀ _ hten.ne').symm
    rw [hmagnitude]
    generalize v.magnitude / 10 ^ (point - (17 : Nat)) = x at hlow hhigh hlarge
    rw [← sub_mul, abs_mul, abs_of_pos hten, mul_right_comm]
    gcongr
    calc |(nearest : ℚ) - x| ≤ 1 / 2 := abs_le.mpr ⟨by linarith, by linarith⟩
      _ < 10 ^ 16 * 2 ^ (-54 : ℤ) := by norm_num
      _ ≤ x * 2 ^ (-54 : ℤ) := by gcongr
  rw [if_pos ⟨hne, hinside⟩]
  exact ⟨nearest, rfl⟩

/-! ## The digits -/

/-- The digits of a magnitude and the position of its point, as they are written: no digit
is wasted, and the digits name a number within the interval. -/
structure Written (v : Binary64) (ds : List Char) (point : ℤ) : Prop where
  isDigit : ∀ c ∈ ds, RemoteSigner.Numeral.isDigit c = true
  leading : ds.head? ≠ some '0'
  ne_zero : ds.foldl push 0 ≠ 0
  le_pow : ds.foldl push 0 ≤ 10 ^ 17
  le_ceiling : ((ds.foldl push 0 : Nat) : ℚ) * 10 ^ (point - ds.length) ≤ v.ceiling

/-- What stands behind the digits that are kept is zeros. -/
theorem trimmed_append (cs : List Char) : ∃ k,
    (cs.reverse.dropWhile (· == '0')).reverse ++ List.replicate k '0' = cs := by
  have happend := congrArg List.reverse
    (List.takeWhile_append_dropWhile (p := (· == '0')) (l := cs.reverse))
  rw [List.reverse_append, List.reverse_reverse] at happend
  refine ⟨(cs.reverse.takeWhile (· == '0')).length, ?_⟩
  have hzeros : (cs.reverse.takeWhile (· == '0')).reverse =
      List.replicate (cs.reverse.takeWhile (· == '0')).length '0' := by
    rw [List.eq_replicate_iff, List.length_reverse]
    refine ⟨rfl, fun c hc => ?_⟩
    simpa using List.mem_takeWhile_imp (List.mem_reverse.mp hc)
  rw [← hzeros, happend]

theorem magnitude_ne_zero (hzero : v.mantissa ≠ 0) : v.magnitude ≠ 0 := by
  unfold magnitude
  positivity

/-- The shortest digits are those of a point of a grid of seventeen digits at most. -/
theorem shortest_eq (hzero : v.mantissa ≠ 0) (hv : v.mantissa < 2 * unit) :
    ∃ point u count, count ≤ 17 ∧ v.magnitude < 10 ^ point ∧ v.gridPoint? point count = some u ∧
      v.shortest = (((digits u).reverse.dropWhile (· == '0')).reverse,
        point + ((digits u).length - count)) := by
  obtain ⟨hratio, hpos⟩ := ratio_toQuotient v
  have hnum : v.toQuotient.1 ≠ 0 := by
    intro h
    refine magnitude_ne_zero hzero ?_
    rw [← hratio, ratio, h, Nat.cast_zero, zero_div]
  obtain ⟨hlow, hhigh⟩ := pointPosition_spec hnum hpos.ne'
  rw [show ratio (v.toQuotient.1, v.toQuotient.2) = _ from hratio] at hlow hhigh
  unfold shortest
  simp only [toDigits_eq]
  generalize pointPosition v.toQuotient.1 v.toQuotient.2 = point at hlow hhigh ⊢
  obtain ⟨u₁₇, hu₁₇⟩ := gridPoint?_seventeen hzero hv hlow
  cases hfound : (List.range 17).findSome? fun i =>
      (v.gridPoint? point (i + 1)).map fun u => (u, i + 1) with
  | none =>
      have hnone := List.findSome?_eq_none_iff.mp hfound 16 (by decide)
      rw [hu₁₇] at hnone
      cases hnone
  | some found =>
      obtain ⟨i, hi, hpoint⟩ := List.exists_of_findSome?_eq_some hfound
      obtain ⟨u, hu, rfl⟩ := Option.map_eq_some_iff.mp hpoint
      exact ⟨point, u, i + 1, List.mem_range.mp hi, hhigh, hu, rfl⟩

theorem written_shortest (hzero : v.mantissa ≠ 0) (hv : v.mantissa < 2 * unit) :
    v.Written v.shortest.1 v.shortest.2 := by
  obtain ⟨point, u, count, hcount, hpoint, hu, hshortest⟩ := shortest_eq hzero hv
  obtain ⟨hne, hceiling, hnear⟩ := of_gridPoint? hzero hv hu
  obtain ⟨k, hk⟩ := trimmed_append (digits u)
  rw [hshortest]
  simp only
  generalize ((digits u).reverse.dropWhile (· == '0')).reverse = ds at hk ⊢
  have hvalue : ds.foldl push 0 * 10 ^ k = u := by
    rw [← RemoteSigner.Numeral.foldl_zeros, ← List.foldl_append, hk, foldl_digits]
  have hlength : ds.length + k = (digits u).length := by
    rw [← hk, List.length_append, List.length_replicate]
  have hpos : ds.foldl push 0 ≠ 0 := by
    intro h
    rw [h, Nat.zero_mul] at hvalue
    exact hne hvalue.symm
  have hnil : ds ≠ [] := by
    rintro rfl
    exact hpos rfl
  refine ⟨fun c hc => ?_, ?_, hpos, ?_, ?_⟩
  · exact RemoteSigner.Numeral.isDigit_of_mem_digits (hk ▸ List.mem_append_left _ hc)
  · intro hhead
    obtain ⟨d, hd, hfirst, hzero⟩ := RemoteSigner.Numeral.head?_digits u
    rw [← hk, List.head?_append_of_ne_nil _ hnil, hhead] at hfirst
    have hdigit : ∀ d < 10, '0' = RemoteSigner.Numeral.digit d → d = 0 := by decide
    exact hne (hzero (hdigit d hd (Option.some.inj hfirst)))
  · have hbound : (u : ℚ) < (10 ^ count + 1 : Nat) := by
      push_cast
      refine hnear.trans_lt ?_
      gcongr
      rw [div_lt_iff₀ (by positivity), ← zpow_natCast, ← zpow_add₀ (by norm_num)]
      simpa using hpoint
    calc ds.foldl push 0 ≤ ds.foldl push 0 * 10 ^ k := Nat.le_mul_of_pos_right _ (by positivity)
      _ = u := hvalue
      _ ≤ 10 ^ count := Nat.lt_succ_iff.mp (by exact_mod_cast hbound)
      _ ≤ 10 ^ 17 := Nat.pow_le_pow_right (by decide) hcount
  · have hexponent : point + (((digits u).length : ℤ) - count) - ds.length =
        k + (point - count) := by
      omega
    rw [hexponent, zpow_add₀ (by norm_num), zpow_natCast, ← mul_assoc]
    exact_mod_cast hvalue ▸ hceiling

end RemoteSigner.Binary64
