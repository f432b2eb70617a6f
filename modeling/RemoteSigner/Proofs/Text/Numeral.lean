import Mathlib.Data.List.Basic
import Mathlib.Data.Nat.Digits.Defs
import RemoteSigner.Text.Numeral

/-!
# Decimal digits

The digits of a number are the library's (`toDigits_eq`). They are digits, at least one,
and the first is zero for zero alone (`head?_digits`); their value is the number
(`foldl_digits`), which lies between the powers of ten that their count names
(`pow_le_of_length`, `lt_pow_length`). Reading undoes writing (`decode_encode`).
-/

namespace RemoteSigner.Numeral

/-- Take one digit to the value of those before it. -/
def push (acc : Nat) (c : Char) : Nat :=
  acc * 10 + (value? c).getD 0

theorem value?_digit {n : Nat} (h : n < 10) : value? (digit n) = some n := by
  revert n
  decide

theorem isDigit_digit {n : Nat} (h : n < 10) : isDigit (digit n) = true := by
  rw [isDigit, value?_digit h]
  rfl

theorem eq_digit_of_isDigit {c : Char} (h : isDigit c = true) : ∃ d < 10, c = digit d := by
  obtain ⟨d, hd⟩ := Option.isSome_iff_exists.mp h
  unfold value? at hd
  split at hd
  · rename_i hrange
    refine ⟨c.toNat - 48, by omega, ?_⟩
    rw [digit, Nat.add_sub_cancel' hrange.1, Char.ofNat_toNat]
  · cases hd

theorem digits_lt {n : Nat} (h : n < 10) : digits n = [digit n] := by
  rw [digits, if_pos h]

theorem digits_ge {n : Nat} (h : 10 ≤ n) : digits n = digits (n / 10) ++ [digit (n % 10)] := by
  rw [digits, if_neg (by omega)]

theorem toDigits_eq (n : Nat) : Nat.toDigits 10 n = digits n := by
  have hchar : ∀ d < 10, d.digitChar = digit d := by decide
  induction n using Nat.strong_induction_on with
  | _ n ih =>
      rw [Nat.toDigits_eq_if (by decide)]
      split
      · rw [digits_lt ‹_›, hchar n ‹_›]
      · rw [digits_ge (by omega), ih _ (by omega), hchar _ (by omega)]

theorem isDigit_of_mem_digits {n : Nat} {c : Char} (h : c ∈ digits n) : isDigit c = true := by
  induction n using Nat.strong_induction_on with
  | _ n ih =>
      rcases Nat.lt_or_ge n 10 with hn | hn
      · rw [digits_lt hn, List.mem_singleton] at h
        exact h ▸ isDigit_digit hn
      · rw [digits_ge hn, List.mem_append, List.mem_singleton] at h
        rcases h with h | rfl
        · exact ih _ (by omega) h
        · exact isDigit_digit (by omega)

theorem digits_ne_nil (n : Nat) : digits n ≠ [] := by
  rw [← toDigits_eq]
  exact Nat.toDigits_ne_nil

/-- The first digit is that of a number below ten, which is zero for zero alone. -/
theorem head?_digits (n : Nat) : ∃ d < 10, (digits n).head? = some (digit d) ∧ (d = 0 → n = 0) := by
  induction n using Nat.strong_induction_on with
  | _ n ih =>
      rcases Nat.lt_or_ge n 10 with hn | hn
      · exact ⟨n, hn, by rw [digits_lt hn]; rfl, id⟩
      · obtain ⟨d, hd, hhead, hzero⟩ := ih (n / 10) (by omega)
        refine ⟨d, hd, ?_, fun h => absurd (hzero h) (by omega)⟩
        rw [digits_ge hn, List.head?_append_of_ne_nil _ (digits_ne_nil _), hhead]

theorem foldl_digits (n : Nat) : (digits n).foldl push 0 = n := by
  induction n using Nat.strong_induction_on with
  | _ n ih =>
      rcases Nat.lt_or_ge n 10 with hn | hn
      · rw [digits_lt hn, List.foldl_cons, List.foldl_nil, push, value?_digit hn]
        simp
      · rw [digits_ge hn, List.foldl_append, ih _ (by omega), List.foldl_cons, List.foldl_nil, push,
          value?_digit (by omega), Option.getD_some]
        omega

theorem lt_pow_length (n : Nat) : n < 10 ^ (digits n).length := by
  induction n using Nat.strong_induction_on with
  | _ n ih =>
      rcases Nat.lt_or_ge n 10 with hn | hn
      · rw [digits_lt hn]
        simpa using hn
      · have hrest := ih (n / 10) (by omega)
        rw [digits_ge hn, List.length_append, List.length_singleton, Nat.pow_succ]
        omega

theorem pow_le_of_length {n : Nat} (h : n ≠ 0) : 10 ^ ((digits n).length - 1) ≤ n := by
  induction n using Nat.strong_induction_on with
  | _ n ih =>
      rcases Nat.lt_or_ge n 10 with hn | hn
      · rw [digits_lt hn]
        simp
        omega
      · have hrest := ih (n / 10) (by omega) (by omega)
        obtain ⟨k, hk⟩ := Nat.exists_eq_succ_of_ne_zero
          (mt List.length_eq_zero_iff.mp (digits_ne_nil (n / 10)))
        rw [hk, Nat.succ_sub_one] at hrest
        rw [digits_ge hn, List.length_append, List.length_singleton, hk, Nat.add_sub_cancel,
          Nat.pow_succ]
        omega

/-! ## Values of digits -/

theorem le_push (acc : Nat) (c : Char) : acc ≤ push acc c := by
  unfold push
  omega

theorem le_foldl_push (acc : Nat) (cs : List Char) : acc ≤ cs.foldl push acc := by
  induction cs generalizing acc with
  | nil => exact le_rfl
  | cons c rest ih => exact (le_push acc c).trans (ih _)

/-- Every digit behind a value multiplies it by ten at least. -/
theorem mul_pow_le_foldl_push (acc : Nat) (cs : List Char) :
    acc * 10 ^ cs.length ≤ cs.foldl push acc := by
  induction cs generalizing acc with
  | nil => simp
  | cons c rest ih =>
      have hpush : acc * 10 ≤ push acc c := by
        unfold push
        omega
      rw [List.length_cons, Nat.pow_succ', ← Nat.mul_assoc]
      exact (Nat.mul_le_mul_right _ hpush).trans (ih _)

theorem push_lt {acc bound : Nat} (h : acc < bound) {c : Char} (hc : isDigit c = true) :
    push acc c < bound * 10 := by
  obtain ⟨d, hd, rfl⟩ := eq_digit_of_isDigit hc
  rw [push, value?_digit hd, Option.getD_some]
  omega

/-- Digits add to a value at most the power of ten that their count names. -/
theorem foldl_push_lt {acc bound : Nat} (h : acc < bound) {cs : List Char}
    (hcs : ∀ c ∈ cs, isDigit c = true) : cs.foldl push acc < bound * 10 ^ cs.length := by
  induction cs generalizing acc bound with
  | nil => simpa using h
  | cons c rest ih =>
      have hrest := ih (push_lt h (hcs c List.mem_cons_self)) fun d hd =>
        hcs d (List.mem_cons_of_mem c hd)
      rw [List.length_cons, Nat.pow_succ', ← Nat.mul_assoc]
      exact hrest

theorem foldl_zeros (acc k : Nat) : (List.replicate k '0').foldl push acc = acc * 10 ^ k := by
  induction k generalizing acc with
  | zero => simp
  | succ k ih =>
      rw [List.replicate_succ, List.foldl_cons, ih, Nat.pow_succ', ← Nat.mul_assoc]
      rfl

/-! ## Reading digits -/

/-- Digits are read to their value, if that is within the bound. -/
theorem foldlM_step {bound acc : Nat} {cs : List Char} (hcs : ∀ c ∈ cs, isDigit c = true)
    (h : cs.foldl push acc ≤ bound) : cs.foldlM (step bound) acc = .ok (cs.foldl push acc) := by
  induction cs generalizing acc with
  | nil => rfl
  | cons c rest ih =>
      obtain ⟨d, hd⟩ := Option.isSome_iff_exists.mp (hcs c List.mem_cons_self)
      have hpush : push acc c = acc * 10 + d := by rw [push, hd, Option.getD_some]
      have hstep : step bound acc c = .ok (push acc c) := by
        have hle := (le_foldl_push (push acc c) rest).trans h
        rw [step, hd, hpush]
        exact if_pos (hpush ▸ hle)
      rw [List.foldlM_cons, hstep]
      exact ih (fun e he => hcs e (List.mem_cons_of_mem c he)) h

/-- Reading undoes writing. -/
theorem decode_encode {bound n : Nat} (h : n ≤ bound) : decode bound (encode n) = .ok n := by
  have hdigits : decodeDigits bound (digits n) = .ok n := by
    have hread : decodeDigits bound (digits n) = .ok ((digits n).foldl push 0) :=
      foldlM_step (fun c hc => isDigit_of_mem_digits hc) (by rwa [foldl_digits])
    rwa [foldl_digits] at hread
  have hsign : ∀ rest, digits n ≠ '+' :: rest := fun rest hplus => by
    have hdigit := isDigit_of_mem_digits (n := n) (hplus ▸ List.mem_cons_self)
    revert hdigit
    decide
  unfold decode encode
  rw [String.toList_ofList]
  split
  · exact absurd ‹_› (digits_ne_nil n)
  · exact absurd ‹_› (hsign [])
  · exact absurd ‹_› (hsign _)
  · exact hdigits

theorem decodeUInt64_encode (n : UInt64) : decodeUInt64 (encode n.toNat) = .ok n := by
  have hbound : n.toNat ≤ maxUInt64 := Nat.lt_succ_iff.mp n.toNat_lt
  rw [decodeUInt64, decode_encode hbound]
  exact congrArg Except.ok (UInt64.ofNat_toNat)

end RemoteSigner.Numeral
