import Mathlib.Data.Char
import Mathlib.Data.List.TakeWhile
import RemoteSigner.Bytes.Hex
import RemoteSigner.Text.Blank

/-!
# Hexadecimal text

Reading undoes writing (`decodeChars_digits`), and what is written after reading differs
from what was read only in the case of letters (`digits_of_decodeChars`).
-/

namespace RemoteSigner.Hex

theorem value?_digit {n : Nat} (h : n < 16) : value? (digit n) = some n := by
  revert n
  decide

theorem toNat_lt_of_value? {c : Char} {n : Nat} (h : value? c = some n) : c.toNat < 128 := by
  unfold value? at h
  simp only at h
  split at h
  · omega
  · split at h
    · omega
    · split at h
      · omega
      · cases h

/-- A digit is the small form of any character with its value, which takes one byte. -/
theorem digit_value? {c : Char} {n : Nat} (h : value? c = some n) :
    digit n = c.toLower ∧ n < 16 ∧ c.utf8Size = 1 := by
  have hall : ∀ m < 128, ∀ n < 16, value? (Char.ofNat m) = some n →
      digit n = (Char.ofNat m).toLower ∧ (Char.ofNat m).utf8Size = 1 := by decide +kernel
  have hbound : ∀ m < 128, ∀ n ∈ value? (Char.ofNat m), n < 16 := by decide +kernel
  have hlow := toNat_lt_of_value? h
  rw [← Char.ofNat_toNat c] at h ⊢
  have hn := hbound _ hlow n h
  exact ⟨(hall _ hlow n hn h).1, hn, (hall _ hlow n hn h).2⟩

theorem isDigit_digit {n : Nat} (h : n < 16) : isDigit (digit n) = true := by
  rw [isDigit, value?_digit h]
  rfl

/-- The digits are those of base sixteen, in either case. -/
theorem isDigit_iff_mem {c : Char} :
    isDigit c = true ↔ c ∈ "0123456789abcdefABCDEF".toList := by
  have hall : ∀ m < 128, isDigit (Char.ofNat m) = true →
      Char.ofNat m ∈ "0123456789abcdefABCDEF".toList := by decide +kernel
  have hlisted : "0123456789abcdefABCDEF".toList.all isDigit = true := by decide
  refine ⟨fun h => ?_, List.all_eq_true.mp hlisted c⟩
  obtain ⟨n, hn⟩ := Option.isSome_iff_exists.mp h
  rw [← Char.ofNat_toNat c] at h ⊢
  exact hall _ (toNat_lt_of_value? hn) h

theorem mem_digits {c : Char} {bytes : Bytes} (h : c ∈ digits bytes) : ∃ n < 16, c = digit n := by
  obtain ⟨b, _, hc⟩ := List.mem_flatMap.mp h
  have hb : b.toNat < 256 := b.toNat_lt
  rcases List.mem_cons.mp hc with rfl | hc
  · exact ⟨_, by omega, rfl⟩
  · exact ⟨_, by omega, List.mem_singleton.mp hc⟩

theorem utf8Size_of_isDigit {c : Char} (h : isDigit c = true) : c.utf8Size = 1 := by
  obtain ⟨n, hn⟩ := Option.isSome_iff_exists.mp h
  exact (digit_value? hn).2.2

theorem byteLength_of_isDigit {cs : List Char} (h : ∀ c ∈ cs, isDigit c = true) :
    byteLength cs = cs.length := by
  induction cs with
  | nil => rfl
  | cons c rest ih =>
      have hrest := ih fun d hd => h d (List.mem_cons_of_mem c hd)
      rw [byteLength, List.foldr_cons, utf8Size_of_isDigit (h c List.mem_cons_self)]
      show 1 + byteLength rest = _
      rw [hrest, List.length_cons, Nat.add_comm]

/-- Text is read exactly if it has an even number of characters, all of them digits. -/
theorem decodeChars_eq_ok {cs : List Char} {bytes : Bytes} : decodeChars cs = .ok bytes ↔
    (∀ c ∈ cs, isDigit c = true) ∧ cs.length % 2 = 0 ∧ bytes = pairs cs := by
  unfold decodeChars
  constructor
  · intro h
    split at h
    · cases h
    · rename_i heven
      split at h
      · rename_i hall
        have hdigits : ∀ c ∈ cs, isDigit c = true := by
          simpa using List.dropWhile_eq_nil_iff.mp hall
        rw [byteLength_of_isDigit hdigits] at heven
        exact ⟨hdigits, by omega, (Except.ok.inj h).symm⟩
      · cases h
  · rintro ⟨hdigits, heven, rfl⟩
    have hall : cs.dropWhile isDigit = [] := List.dropWhile_eq_nil_iff.mpr (by simpa using hdigits)
    rw [byteLength_of_isDigit hdigits, if_neg (by omega), hall]

theorem pairs_digits (bytes : Bytes) : pairs (digits bytes) = bytes := by
  induction bytes with
  | nil => rfl
  | cons b rest ih =>
      have hb : b.toNat < 256 := b.toNat_lt
      show UInt8.ofNat (16 * (value? (digit (b.toNat / 16))).getD 0 +
        (value? (digit (b.toNat % 16))).getD 0) :: pairs (digits rest) = b :: rest
      rw [value?_digit (by omega), value?_digit (by omega), ih]
      have hvalue : 16 * (b.toNat / 16) + b.toNat % 16 = b.toNat := Nat.div_add_mod ..
      simp [hvalue]

theorem length_digits (bytes : Bytes) : (digits bytes).length = 2 * bytes.length := by
  induction bytes with
  | nil => rfl
  | cons b rest ih =>
      show (digits rest).length + 1 + 1 = _
      rw [ih, List.length_cons]
      omega

/-- Reading undoes writing. -/
theorem decodeChars_digits (bytes : Bytes) : decodeChars (digits bytes) = .ok bytes := by
  refine decodeChars_eq_ok.mpr
    ⟨fun c hc => ?_, by rw [length_digits]; omega, (pairs_digits bytes).symm⟩
  obtain ⟨n, hn, rfl⟩ := mem_digits hc
  exact isDigit_digit hn

theorem encode_inj {a b : Bytes} (h : encode a = encode b) : a = b := by
  have hdigits : digits a = digits b := String.ofList_injective h
  rw [← pairs_digits a, hdigits, pairs_digits]

/-- Writing what was read gives the text in small letters. -/
theorem digits_of_decodeChars {cs : List Char} {bytes : Bytes} (h : decodeChars cs = .ok bytes) :
    digits bytes = Text.lower cs := by
  obtain ⟨hdigits, heven, rfl⟩ := decodeChars_eq_ok.mp h
  clear h
  fun_induction pairs cs with
  | case1 hi lo rest ih =>
      obtain ⟨a, ha⟩ := Option.isSome_iff_exists.mp (hdigits hi (by simp))
      obtain ⟨b, hb⟩ := Option.isSome_iff_exists.mp (hdigits lo (by simp))
      obtain ⟨hhi, ha16, _⟩ := digit_value? ha
      obtain ⟨hlo, hb16, _⟩ := digit_value? hb
      have hrest := ih (fun c hc => hdigits c (by simp [hc])) (by simp at heven; omega)
      have hvalue : (UInt8.ofNat (16 * a + b)).toNat = 16 * a + b := by
        simp
        omega
      show digit ((UInt8.ofNat _).toNat / 16) :: digit ((UInt8.ofNat _).toNat % 16) ::
        digits (pairs rest) = hi.toLower :: lo.toLower :: Text.lower rest
      rw [ha, hb, Option.getD_some, Option.getD_some, hvalue, hrest,
        show (16 * a + b) / 16 = a by omega, show (16 * a + b) % 16 = b by omega, hhi, hlo]
  | case2 cs hshort =>
      match cs, hshort, heven with
      | [], _, _ => rfl
      | [_], _, heven => simp at heven
      | hi :: lo :: rest, hshort, _ => exact absurd rfl (hshort hi lo rest)

/-- No bytes are read from no text alone. -/
theorem eq_nil_iff_of_decodeChars {cs : List Char} {bytes : Bytes}
    (h : decodeChars cs = .ok bytes) : bytes = [] ↔ cs = [] := by
  constructor
  · rintro rfl
    exact List.map_eq_nil_iff.mp (digits_of_decodeChars h).symm
  · rintro rfl
    exact (decodeChars_eq_ok.mp h).2.2

end RemoteSigner.Hex
