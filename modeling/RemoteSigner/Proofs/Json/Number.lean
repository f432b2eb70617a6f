import RemoteSigner.Proofs.Json.Printing

/-!
# Whole numbers that can be read back

Digits whose value fits 64 bits are all significant (`significant_eq`), so the digits of a
whole number have it for their value: natural numbers are read back as themselves
(`reread_natural`), and those below zero can be read back (`legible_negative`).
-/

namespace RemoteSigner.Json

open RemoteSigner.Numeral (digits push foldl_digits)

namespace Numeral

theorem value?_getD (acc : Nat) (c : Char) :
    acc * 10 + (RemoteSigner.Numeral.value? c).getD 0 = push acc c := rfl

/-- Digits whose value fits are all significant. -/
theorem significant_eq {acc : Nat} {cs : List Char}
    (h : cs.foldl push acc ≤ RemoteSigner.Numeral.maxUInt64) :
    significant acc cs = (cs.foldl push acc, []) := by
  induction cs generalizing acc with
  | nil => rfl
  | cons c rest ih =>
      have hc : push acc c ≤ RemoteSigner.Numeral.maxUInt64 :=
        (RemoteSigner.Numeral.le_foldl_push _ rest).trans h
      rw [significant, value?_getD, if_pos hc, ih h, List.foldl_cons]

theorem digits_isDigits (n : Nat) : Digits (digits n) :=
  ⟨RemoteSigner.Numeral.digits_ne_nil n, fun _ => RemoteSigner.Numeral.isDigit_of_mem_digits⟩

theorem digits_leading (n : Nat) (h : (digits n).head? = some '0') : digits n = ['0'] := by
  obtain ⟨d, hd, hhead, hzero⟩ := RemoteSigner.Numeral.head?_digits n
  have hdigit : ∀ d < 10, RemoteSigner.Numeral.digit d = '0' → d = 0 := by decide
  rw [hzero (hdigit d hd (Option.some.inj (hhead.symm.trans h))), digits]
  rfl

/-- A whole number, written with its digits. -/
def integer (negative : Bool) (n : Nat) : Numeral :=
  ⟨negative, digits n, none, none⟩

theorem grammatical_integer (negative : Bool) (n : Nat) : (integer negative n).Grammatical :=
  ⟨digits_isDigits n, digits_leading n, by simp [integer], by simp [integer]⟩

theorem chars_integer (negative : Bool) (n : Nat) :
    (integer negative n).chars = (if negative then ['-'] else []) ++ digits n := by
  unfold integer chars tail
  rw [Option.elim_none, Option.elim_none, List.append_nil, List.append_nil]

theorem significant_digits {n : Nat} (h : n ≤ RemoteSigner.Numeral.maxUInt64) :
    significant 0 (digits n) = (n, []) := by
  have hvalue := foldl_digits n
  rw [significant_eq (by omega), hvalue]

end Numeral

namespace Number

theorem value_natural (n : UInt64) : (Numeral.integer false n.toNat).value = .ok (.natural n) := by
  have hn : n.toNat ≤ RemoteSigner.Numeral.maxUInt64 := Nat.lt_succ_iff.mp n.toNat_lt
  unfold Numeral.value
  simp [Numeral.integer, Numeral.significant_digits hn]

theorem encode_natural (n : UInt64) :
    (Number.natural n).encode.toList = (Numeral.integer false n.toNat).chars := by
  simp [Number.encode, RemoteSigner.Numeral.encode, Numeral.chars_integer]

theorem legible_natural (n : UInt64) : (Number.natural n).Legible :=
  ⟨_, Numeral.grammatical_integer .., encode_natural n, _, value_natural n⟩

/-- A natural number is read back as itself. -/
theorem reread_natural (n : UInt64) : (Number.natural n).reread = .natural n :=
  reread_eq (Numeral.grammatical_integer ..) (encode_natural n) (value_natural n)

theorem legible_negative {below : Nat} (h : below < Numeral.leastNegative) :
    (Number.negative below).Legible := by
  refine ⟨Numeral.integer true (below + 1), Numeral.grammatical_integer .., ?_, .negative below, ?_⟩
  · simp [Number.encode, RemoteSigner.Numeral.encode, Numeral.chars_integer]
  · have hfits : below + 1 ≤ RemoteSigner.Numeral.maxUInt64 := by
      unfold Numeral.leastNegative at h
      unfold RemoteSigner.Numeral.maxUInt64
      omega
    unfold Numeral.value
    simp only [Numeral.integer, Numeral.significant_digits hfits]
    rw [if_neg (by decide), if_neg (Nat.succ_ne_zero below), if_pos (Nat.succ_le_of_lt h)]
    rfl

end Number

end RemoteSigner.Json
