import RemoteSigner.Proofs.Decimal.Shortest
import RemoteSigner.Proofs.Json.Number
import RemoteSigner.Proofs.Json.Scaling

/-!
# Doubles that can be read back

The digits of a double and the position of their point are laid out as a numeral
(`toList_encode`) that follows the grammar (`grammatical_layout`). Its value is that of the
digits with the exponent that the position names (`value_layout`), which exists: with a
negative exponent by division, and otherwise since the digits name a number within the
interval, which is roundable but for the last three doubles (`ceiling_le_roundable`), and
those are computed (`toDouble_last`). So every number that was read can be written and read
again (`legible_of_value`).
-/

namespace RemoteSigner.Json

open RemoteSigner.Numeral (digits push foldl_digits toDigits_eq maxUInt64)
open Binary64 (Written Finite)

/-! ## The values of numerals with few digits -/

namespace Numeral

variable {negative down : Bool} {whole part es : List Char} {fraction : Option (List Char)}

/-- Where all digits are significant, they are read as one number. -/
theorem significant_append (h : (whole ++ part).foldl push 0 ≤ maxUInt64) :
    significant 0 whole = (whole.foldl push 0, []) ∧
      significant (whole.foldl push 0) part = ((whole ++ part).foldl push 0, []) := by
  rw [List.foldl_append] at h ⊢
  exact ⟨significant_eq ((RemoteSigner.Numeral.le_foldl_push _ part).trans h), significant_eq h⟩

theorem value_fraction {w : Binary64} (h : (whole ++ part).foldl push 0 ≤ maxUInt64)
    (hw : toDouble negative ((whole ++ part).foldl push 0) (-(part.length : ℤ)) = .ok w) :
    ∃ m, (Numeral.mk negative whole (some part) none).value = .ok m := by
  obtain ⟨hwhole, hpart⟩ := significant_append h
  have hvalue : (Numeral.mk negative whole (some part) none).value =
      (toDouble negative ((whole ++ part).foldl push 0) ((0 : ℤ) - (part.length - 0 : Nat))).map
        .double := by
    unfold value
    simp only [hwhole, Option.getD_some, hpart]
    rfl
  have hexponent : (0 : ℤ) - (part.length - 0 : Nat) = -(part.length : ℤ) := by omega
  rw [hvalue, hexponent, hw]
  exact ⟨.double w, rfl⟩

theorem value_exponent {w : Binary64} {i : ℤ}
    (h : (whole ++ fraction.getD []).foldl push 0 ≤ maxUInt64) (hi : i ≤ 2147483647)
    (hw : toDouble negative ((whole ++ fraction.getD []).foldl push 0)
      (i - (fraction.getD []).length) = .ok w) :
    ∃ m, (Numeral.mk negative whole fraction
      (some (decide (i < 0), digits i.natAbs))).value = .ok m := by
  obtain ⟨hwhole, hpart⟩ := significant_append h
  have hexponent : valueOf (digits i.natAbs) = i.natAbs := foldl_digits _
  have hvalue : (Numeral.mk negative whole fraction
      (some (decide (i < 0), digits i.natAbs))).value =
      if i.natAbs > 2147483647 then
        if (whole ++ fraction.getD []).foldl push 0 ≠ 0 ∧ !decide (i < 0) then
          .error .numberOutOfRange
        else .ok (.double ⟨negative, 0, Binary64.minExponent⟩)
      else (toDouble negative ((whole ++ fraction.getD []).foldl push 0)
        (if decide (i < 0) then (0 : ℤ) - ((fraction.getD []).length - 0 : Nat) - i.natAbs
          else (0 : ℤ) - ((fraction.getD []).length - 0 : Nat) + i.natAbs)).map .double := by
    unfold value
    simp only [hwhole, hpart, hexponent]
    rfl
  rw [hvalue]
  split
  · rw [if_neg (by simp; omega)]
    exact ⟨_, rfl⟩
  · refine ⟨.double w, ?_⟩
    have hscale : (if decide (i < 0) then (0 : ℤ) - ((fraction.getD []).length - 0 : Nat) - i.natAbs
        else (0 : ℤ) - ((fraction.getD []).length - 0 : Nat) + i.natAbs) =
          i - (fraction.getD []).length := by
      simp only [decide_eq_true_eq]
      split <;> omega
    rw [hscale, hw]
    rfl

end Numeral

/-! ## The digits of a double are read -/

namespace Number

variable {v : Binary64} {ds : List Char} {point : ℤ}

theorem ceiling_le (hv : v.Finite) : v.ceiling ≤ ((2 ^ 1024 : Nat) : ℚ) := by
  have hm : (v.mantissa : ℚ) + 1 ≤ (2 * Binary64.unit : Nat) := by exact_mod_cast hv.mantissa
  rw [Numeral.infinite_eq, Binary64.ceiling]
  refine mul_le_mul ?_ (Binary64.zpow_mono hv.exponent) (by positivity) (by positivity)
  norm_num [Binary64.unit] at hm ⊢
  linarith

/-- The digits of a double name a number that is not below the power of ten that the position of
their point names. -/
theorem pow_le_ceiling (h : v.Written ds point) : (10 : ℚ) ^ (point - 1) ≤ v.ceiling := by
  refine le_trans ?_ h.le_ceiling
  cases ds with
  | nil => exact absurd rfl h.ne_zero
  | cons d rest =>
      have hfirst : 1 ≤ push 0 d := by
        obtain ⟨k, hk, rfl⟩ :=
          RemoteSigner.Numeral.eq_digit_of_isDigit (h.isDigit d List.mem_cons_self)
        have hk0 : k ≠ 0 := by
          rintro rfl
          exact h.leading rfl
        rw [push, RemoteSigner.Numeral.value?_digit hk, Option.getD_some]
        omega
      have hpow : 10 ^ rest.length ≤ (d :: rest).foldl push 0 :=
        calc 10 ^ rest.length ≤ push 0 d * 10 ^ rest.length := Nat.le_mul_of_pos_left _ hfirst
          _ ≤ (d :: rest).foldl push 0 := RemoteSigner.Numeral.mul_pow_le_foldl_push _ rest
      calc (10 : ℚ) ^ (point - 1) =
          ((10 ^ rest.length : Nat) : ℚ) * 10 ^ (point - (d :: rest).length) := by
            rw [Nat.cast_pow, Nat.cast_ofNat, ← zpow_natCast, ← zpow_add₀ (by norm_num),
              List.length_cons]
            congr 1
            push_cast
            ring
        _ ≤ (((d :: rest).foldl push 0 : Nat) : ℚ) * 10 ^ (point - (d :: rest).length) := by
            gcongr

/-- The digits of all finite doubles but the last three are roundable. -/
theorem ceiling_le_roundable (hv : v.Finite)
    (h : v.exponent = Binary64.maxExponent → v.mantissa < 2 * Binary64.unit - 3) :
    v.ceiling ≤ Numeral.roundable := by
  unfold Binary64.ceiling Numeral.roundable
  rcases hv.exponent.lt_or_eq with hlt | heq
  · have hm : (v.mantissa : ℚ) + 1 ≤ (2 * Binary64.unit : Nat) := by exact_mod_cast hv.mantissa
    have hhalf : (2 : ℚ) ^ v.exponent ≤ 1 / 2 * 2 ^ Binary64.maxExponent := by
      rw [one_div, mul_comm, ← zpow_sub_one₀ two_ne_zero]
      exact Binary64.zpow_mono (by omega)
    calc ((v.mantissa : ℚ) + 1 / 2) * 2 ^ v.exponent
        ≤ 2 ^ (53 : ℤ) * (1 / 2 * 2 ^ Binary64.maxExponent) := by
          refine mul_le_mul ?_ hhalf (by positivity) (by positivity)
          norm_num [Binary64.unit] at hm ⊢
          linarith
      _ = (2 ^ (53 : ℤ) * (1 / 2)) * 2 ^ Binary64.maxExponent := by ring
      _ ≤ (2 ^ (53 : ℤ) - 7 / 2) * 2 ^ Binary64.maxExponent := by
          gcongr
          norm_num
  · have hm : (v.mantissa : ℚ) + 1 ≤ (2 * Binary64.unit - 3 : Nat) := by exact_mod_cast h heq
    rw [heq]
    gcongr
    norm_num [Binary64.unit] at hm ⊢
    linarith

/-- The digits of the last three doubles are read too. -/
theorem toDouble_last : ∀ negative : Bool, ∀ i < 3,
    let v : Binary64 := ⟨negative, 2 * Binary64.unit - 1 - i, Binary64.maxExponent⟩
    (Numeral.toDouble negative (v.shortest.1.foldl push 0)
      (v.shortest.2 - v.shortest.1.length)).isOk =
      true := by
  decide +kernel

/-- The digits of a double and the position of their point are read. -/
theorem toDouble_shortest (hzero : v.mantissa ≠ 0) (hv : v.Finite) :
    ∃ w, Numeral.toDouble v.negative (v.shortest.1.foldl push 0)
      (v.shortest.2 - v.shortest.1.length) =
      .ok w := by
  by_cases hlast : v.exponent = Binary64.maxExponent ∧ 2 * Binary64.unit - 3 ≤ v.mantissa
  · obtain ⟨negative, mantissa, exponent⟩ := v
    obtain ⟨rfl, hlow⟩ := hlast
    have hhigh : mantissa < 2 * Binary64.unit := hv.mantissa
    have hread := toDouble_last negative (2 * Binary64.unit - 1 - mantissa)
      (by simp only at hlow; omega)
    rw [show 2 * Binary64.unit - 1 - (2 * Binary64.unit - 1 - mantissa) =
      mantissa by omega] at hread
    exact exists_of_isOk hread
  · have hwritten := Binary64.written_shortest hzero hv.mantissa
    have hroundable := ceiling_le_roundable hv fun he => not_le.mp fun hm => hlast ⟨he, hm⟩
    exact Numeral.toDouble_eq_ok v.negative hwritten.ne_zero (hwritten.le_pow.trans_lt (by decide))
      (.inr (hwritten.le_ceiling.trans hroundable))

/-! ## The numeral of a double -/

/-- How digits and the position of their point are laid out: the whole digits, the fraction and
the exponent. -/
def layout (ds : List Char) (point : ℤ) :
    List Char × Option (List Char) × Option (Bool × List Char) :=
  if ds.length ≤ point ∧ point ≤ 16 then
    (ds ++ List.replicate (point - ds.length).toNat '0', some ['0'], none)
  else if 0 < point ∧ point ≤ 16 then
    (ds.take point.toNat, some (ds.drop point.toNat), none)
  else if -5 < point ∧ point ≤ 0 then
    (['0'], some (List.replicate (-point).toNat '0' ++ ds), none)
  else
    (ds.take 1, if ds.drop 1 = [] then none else some (ds.drop 1),
      some (decide (point - 1 < 0), digits (point - 1).natAbs))

/-- The numeral of a double other than zero. -/
def spelling (v : Binary64) : Numeral :=
  let (whole, fraction, exponent) := layout v.shortest.1 v.shortest.2
  ⟨v.negative, whole, fraction, exponent⟩

theorem toList_toString (i : ℤ) :
    (toString i).toList = (if decide (i < 0) then ['-'] else []) ++ digits i.natAbs := by
  cases i with
  | ofNat n =>
      show (Nat.repr n).toList = _
      rw [Nat.repr_eq_ofList_toDigits, String.toList_ofList, toDigits_eq]
      rfl
  | negSucc n =>
      show ("-" ++ Nat.repr n.succ).toList = _
      simp only [String.toList_append, Nat.repr_eq_ofList_toDigits, String.toList_ofList,
        toDigits_eq,
        Int.natAbs_negSucc, Int.negSucc_lt_zero, decide_true, if_true]
      rfl

theorem toList_encode (hzero : v.mantissa ≠ 0) (hne : v.shortest.1 ≠ []) :
    v.encode.toList = (spelling v).chars := by
  have hsign : (if v.negative then "-" else "").toList = if v.negative then ['-'] else [] := by
    cases v.negative <;> rfl
  unfold Binary64.encode spelling Numeral.chars Numeral.tail
  simp only [if_neg hzero]
  rw [String.toList_append, hsign]
  congr 1
  generalize v.shortest.1 = ds at hne ⊢
  generalize v.shortest.2 = point
  unfold layout
  by_cases hwhole : ds.length ≤ point ∧ point ≤ 16
  · simp only [if_pos hwhole]
    simp
  by_cases hmixed : 0 < point ∧ point ≤ 16
  · simp only [if_neg hwhole, if_pos hmixed]
    simp
  by_cases hfraction : -5 < point ∧ point ≤ 0
  · simp only [if_neg hwhole, if_neg hmixed, if_pos hfraction]
    simp
  · simp only [if_neg hwhole, if_neg hmixed, if_neg hfraction]
    have hexponent := toList_toString (point - 1)
    generalize toString (point - 1) = text at hexponent ⊢
    obtain ⟨d, rest, rfl⟩ := List.exists_cons_of_ne_nil hne
    cases rest <;> simpa using hexponent

/-- Digits without those that the other ones stand behind. -/
theorem digits_sublist {cs : List Char} (hdigits : ∀ c ∈ ds, RemoteSigner.Numeral.isDigit c = true)
    (hsub : cs.Sublist ds) (hne : cs ≠ []) : Digits cs :=
  ⟨hne, fun c hc => hdigits c (hsub.subset hc)⟩

theorem digits_zero : Digits ['0'] :=
  ⟨List.cons_ne_nil _ _, fun _ hc => List.mem_singleton.mp hc ▸ rfl⟩

theorem digits_zeros_append (hne : ds ≠ [])
    (hdigits : ∀ c ∈ ds, RemoteSigner.Numeral.isDigit c = true) (k : Nat) :
    Digits (List.replicate k '0' ++ ds) ∧ Digits (ds ++ List.replicate k '0') := by
  have hzeros : ∀ c ∈ List.replicate k '0', RemoteSigner.Numeral.isDigit c = true := by
    intro c hc
    obtain rfl := (List.mem_replicate.mp hc).2
    decide
  exact ⟨⟨by simp [hne], fun c hc => (List.mem_append.mp hc).elim (hzeros c) (hdigits c)⟩,
    ⟨by simp [hne], fun c hc => (List.mem_append.mp hc).elim (hdigits c) (hzeros c)⟩⟩

theorem grammatical_layout (negative : Bool) (point : ℤ) (hne : ds ≠ [])
    (hdigits : ∀ c ∈ ds, RemoteSigner.Numeral.isDigit c = true) (hlead : ds.head? ≠ some '0') :
    (Numeral.mk negative (layout ds point).1 (layout ds point).2.1
      (layout ds point).2.2).Grammatical := by
  unfold layout
  split
  · obtain ⟨_, hwhole⟩ := digits_zeros_append hne hdigits (point - ds.length).toNat
    refine ⟨hwhole, fun h => ?_, ?_, nofun⟩
    · simp only at h
      rw [List.head?_append_of_ne_nil _ hne] at h
      exact absurd h hlead
    · rintro _ ⟨rfl⟩
      exact digits_zero
  split
  · rename_i hwhole hmixed
    have htake : ds.take point.toNat ≠ [] := by
      rw [Ne, List.take_eq_nil_iff, or_iff_left hne]
      omega
    have hdrop : ds.drop point.toNat ≠ [] := by
      rw [Ne, List.drop_eq_nil_iff]
      omega
    refine ⟨digits_sublist hdigits (List.take_sublist _ _) htake, fun h => ?_, ?_, nofun⟩
    · simp only at h
      rw [List.head?_take, if_neg (by omega)] at h
      exact absurd h hlead
    · rintro _ ⟨rfl⟩
      exact digits_sublist hdigits (List.drop_sublist _ _) hdrop
  split
  · refine ⟨digits_zero, fun _ => rfl, ?_, nofun⟩
    rintro _ ⟨rfl⟩
    exact (digits_zeros_append hne hdigits _).1
  · have htake : ds.take 1 ≠ [] := by simpa [List.take_eq_nil_iff] using hne
    refine ⟨digits_sublist hdigits (List.take_sublist _ _) htake, fun h => ?_, fun f hf => ?_, ?_⟩
    · simp only at h
      rw [List.head?_take, if_neg (by omega)] at h
      exact absurd h hlead
    · simp only at hf
      split at hf
      · cases hf
      · obtain rfl := Option.some.inj hf
        exact digits_sublist hdigits (List.drop_sublist _ _) ‹_›
    · rintro _ ⟨rfl⟩
      exact Numeral.digits_isDigits _

/-- Digits that are laid out have a value, if they have one with the exponent that the position
of their point names. -/
theorem value_layout {negative : Bool} {w : Binary64} (hne : ds ≠ [])
    (hdigits : ∀ c ∈ ds, RemoteSigner.Numeral.isDigit c = true) (hzero : ds.foldl push 0 ≠ 0)
    (hsmall : ds.foldl push 0 ≤ 10 ^ 17) (hpoint : point ≤ 309)
    (hw : Numeral.toDouble negative (ds.foldl push 0) (point - ds.length) = .ok w) :
    ∃ m, (Numeral.mk negative (layout ds point).1 (layout ds point).2.1
      (layout ds point).2.2).value =
      .ok m := by
  have hlength := List.length_pos_iff.mpr hne
  -- a fraction makes the exponent negative
  have hdown : ∀ {n k : Nat}, n ≠ 0 → n ≤ 10 ^ 17 → 0 < k →
      ∃ r, Numeral.toDouble negative n (-(k : ℤ)) = .ok r := fun hn hle hk =>
    Numeral.toDouble_eq_ok negative hn (hle.trans_lt (by decide)) (.inl (by omega))
  have hfits : ∀ {n : Nat}, n ≤ 10 ^ 17 → n ≤ maxUInt64 := fun h => h.trans (by decide)
  unfold layout
  split
  · have hvalue : ((ds ++ List.replicate (point - ds.length).toNat '0') ++ ['0']).foldl push 0 =
        ds.foldl push 0 * 10 ^ ((point - ds.length).toNat + 1) := by
      rw [List.append_assoc, List.foldl_append, ← List.replicate_succ',
        RemoteSigner.Numeral.foldl_zeros]
    have hbound : ds.foldl push 0 * 10 ^ ((point - ds.length).toNat + 1) ≤ 10 ^ 17 :=
      calc ds.foldl push 0 * 10 ^ ((point - ds.length).toNat + 1)
          ≤ 1 * 10 ^ ds.length * 10 ^ ((point - ds.length).toNat + 1) :=
            Nat.mul_le_mul_right _
              (RemoteSigner.Numeral.foldl_push_lt Nat.zero_lt_one hdigits).le
        _ = 10 ^ (ds.length + ((point - ds.length).toNat + 1)) := by rw [Nat.one_mul, ← Nat.pow_add]
        _ ≤ 10 ^ 17 := Nat.pow_le_pow_right (by decide) (by omega)
    rw [← hvalue] at hbound
    have hne' :
        ((ds ++ List.replicate (point - ds.length).toNat '0') ++ ['0']).foldl push 0 ≠ 0 := by
      rw [hvalue]
      positivity
    obtain ⟨r, hr⟩ := hdown hne' hbound (k := ['0'].length) Nat.one_pos
    exact Numeral.value_fraction (hfits hbound) hr
  split
  · have hvalue : (ds.take point.toNat ++ ds.drop point.toNat).foldl push 0 = ds.foldl push 0 := by
      rw [List.take_append_drop]
    rw [← hvalue] at hzero hsmall
    obtain ⟨r, hr⟩ := hdown hzero hsmall (k := (ds.drop point.toNat).length)
      (by rw [List.length_drop]; omega)
    exact Numeral.value_fraction (hfits hsmall) hr
  split
  · have hvalue : (['0'] ++ (List.replicate (-point).toNat '0' ++ ds)).foldl push 0 =
        ds.foldl push 0 := by
      rw [← List.append_assoc, List.singleton_append, ← List.replicate_succ, List.foldl_append,
        RemoteSigner.Numeral.foldl_zeros, Nat.zero_mul]
    rw [← hvalue] at hzero hsmall
    obtain ⟨r, hr⟩ := hdown hzero hsmall (k := (List.replicate (-point).toNat '0' ++ ds).length)
      (by rw [List.length_append]; omega)
    exact Numeral.value_fraction (hfits hsmall) hr
  · have hrest : (if ds.drop 1 = [] then none else some (ds.drop 1)).getD [] = ds.drop 1 := by
      split
      · exact ‹ds.drop 1 = []›.symm
      · rfl
    have hvalue : (ds.take 1 ++ (if ds.drop 1 = [] then none else some (ds.drop 1)).getD []).foldl
        push 0 = ds.foldl push 0 := by
      rw [hrest, List.take_append_drop]
    have hexponent :
        point - 1 - ((if ds.drop 1 = [] then none else some (ds.drop 1)).getD []).length =
        point - ds.length := by
      rw [hrest, List.length_drop]
      omega
    rw [← hvalue] at hsmall hw
    rw [← hexponent] at hw
    exact Numeral.value_exponent (hfits hsmall) (by omega) hw

theorem legible_double (hv : v.Finite) : (Number.double v).Legible := by
  by_cases hzero : v.mantissa = 0
  · have hencode : v.encode.toList = (if v.negative then ['-'] else []) ++ ['0', '.', '0'] := by
      unfold Binary64.encode
      rw [if_pos hzero]
      cases v.negative <;> rfl
    refine ⟨⟨v.negative, ['0'], some ['0'], none⟩, ⟨digits_zero, fun _ => rfl, ?_, nofun⟩,
      hencode, ?_⟩
    · rintro _ ⟨rfl⟩
      exact digits_zero
    · have hvalue : ∀ negative : Bool,
          (Numeral.mk negative ['0'] (some ['0']) none).value.isOk = true := by decide +kernel
      exact exists_of_isOk (hvalue v.negative)
  · have hwritten := Binary64.written_shortest hzero hv.mantissa
    have hne : v.shortest.1 ≠ [] := fun h => hwritten.ne_zero (by rw [h]; rfl)
    obtain ⟨w, hw⟩ := toDouble_shortest hzero hv
    have hpoint : v.shortest.2 ≤ 309 := by
      have := Numeral.exponent_le ((pow_le_ceiling hwritten).trans (ceiling_le hv))
      omega
    exact ⟨spelling v, grammatical_layout v.negative _ hne hwritten.isDigit hwritten.leading,
      toList_encode hzero hne, value_layout hne hwritten.isDigit hwritten.ne_zero hwritten.le_pow
        hpoint hw⟩

theorem legible_of_toDouble {negative : Bool} {significand : Nat} {e : ℤ} {n : Number}
    (h : (Numeral.toDouble negative significand e).map .double = .ok n) : n.Legible := by
  cases hw : Numeral.toDouble negative significand e with
  | error fault => simp [hw, Except.map] at h
  | ok w =>
      rw [hw] at h
      obtain rfl := Except.ok.inj h
      exact legible_double (Numeral.finite_of_toDouble hw)

theorem legible_zero (negative : Bool) :
    (Number.double ⟨negative, 0, Binary64.minExponent⟩).Legible :=
  legible_double ⟨Nat.zero_lt_succ _, show Binary64.minExponent ≤ Binary64.maxExponent by decide⟩

/-- The value of a numeral can be written and read back. -/
theorem legible_of_value {u : Numeral} {n : Number} (h : u.value = .ok n) : n.Legible := by
  unfold Numeral.value at h
  generalize Numeral.significant 0 u.whole = p at h
  obtain ⟨whole, dropped⟩ := p
  simp only at h
  split at h
  · split at h
    · exact Except.ok.inj h ▸ legible_natural _
    split at h
    · exact Except.ok.inj h ▸ legible_zero true
    split at h
    · exact Except.ok.inj h ▸ legible_negative (by omega)
    · exact legible_of_toDouble h
  · split at h
    · exact legible_of_toDouble h
    · split at h
      · split at h
        · cases h
        · exact Except.ok.inj h ▸ legible_zero _
      · exact legible_of_toDouble h

end Number

end RemoteSigner.Json
