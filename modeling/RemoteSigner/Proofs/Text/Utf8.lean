import Mathlib.Data.Char
import RemoteSigner.Text.Utf8

/-!
# Encoding and decoding texts

A character's bytes are read as that character, whatever follows them
(`symbols_char`), so a text is what its bytes stand for (`decode?_encode`), and with
bytes behind it that are none it is no text any more (`decode?_append_eq_none`).
-/

namespace RemoteSigner.Utf8

theorem toList_loop (bytes : ByteArray) (i : Nat) (acc : List UInt8) :
    ByteArray.toList.loop bytes i acc = acc.reverse ++ bytes.data.toList.drop i := by
  induction hn : bytes.size - i generalizing i acc with
  | zero =>
      have hdone : bytes.data.toList.length ≤ i := by
        have hsize : bytes.data.toList.length = bytes.size := rfl
        omega
      rw [ByteArray.toList.loop.eq_def, if_neg (by omega), List.drop_eq_nil_of_le hdone,
        List.append_nil]
  | succ n ih =>
      have hi : i < bytes.data.toList.length := by
        have hsize : bytes.data.toList.length = bytes.size := rfl
        omega
      have hget : bytes.get! i = bytes.data.toList[i] := by
        have hdata : bytes.get! i = bytes.data[i]! := rfl
        rw [hdata, getElem!_pos bytes.data i hi, Array.getElem_toList]
      rw [ByteArray.toList.loop.eq_def, if_pos (by omega), ih _ _ (by omega),
        List.drop_eq_getElem_cons hi,
        hget, List.reverse_cons, List.append_assoc, List.singleton_append]

/-- The bytes of a text are those of its characters. -/
theorem encode_eq (text : String) : encode text = text.toList.flatMap String.utf8EncodeChar := by
  have hbytes : text.toUTF8 = (text.toList.flatMap String.utf8EncodeChar).toByteArray := by
    rw [String.toUTF8_eq_toByteArray, ← String.utf8Encode_toList, List.utf8Encode]
  rw [encode, ByteArray.toList, toList_loop, List.reverse_nil, List.nil_append, List.drop_zero,
    hbytes, List.data_toByteArray]

/-- The value bits of a character make that character, if they are more than fit in a
shorter form. -/
theorem scalar?_char (c : Char) {least : Nat} (h : least ≤ c.toNat) :
    scalar? least c.toNat = some c := by
  have hvalid : c.toNat < 0xD800 ∨ (0xDFFF < c.toNat ∧ c.toNat < 0x110000) := c.valid
  rw [scalar?, if_pos ⟨h, hvalid⟩, Char.ofNat_toNat]

theorem toNat_ofNat {n : Nat} (h : n < 256) : (UInt8.ofNat n).toNat = n := by
  simpa using h

theorem isContinuation_ofNat (n : Nat) : isContinuation (UInt8.ofNat (n % 64 + 128)) = true := by
  rw [isContinuation, Bool.and_eq_true, decide_eq_true_eq, decide_eq_true_eq,
    UInt8.le_iff_toNat_le, UInt8.lt_iff_toNat_lt, toNat_ofNat (by omega)]
  exact ⟨Nat.le_add_left .., by show _ < 192; omega⟩

theorem payload_ofNat (n : Nat) : payload (UInt8.ofNat (n % 64 + 128)) = n % 64 := by
  rw [payload, toNat_ofNat (by omega)]
  omega

/-! ## The four lengths -/

section Lengths

variable {a b c d : UInt8} {rest : Bytes} {ch : Char}

theorem symbols_one (ha : a.toNat < 0x80) :
    symbols (a :: rest) = some (Char.ofNat a.toNat) :: symbols rest := by
  have hfirst : a < 0x80 := UInt8.lt_iff_toNat_lt.mpr ha
  rw [symbols.eq_def]
  simp only [if_pos hfirst]

theorem symbols_two (ha : 0xC0 ≤ a.toNat ∧ a.toNat < 0xE0) (hb : isContinuation b = true)
    (hvalue : scalar? 0x80 (a.toNat % 32 * 64 + payload b) = some ch) :
    symbols (a :: b :: rest) = some ch :: symbols rest := by
  have hfirst : ¬ a < 0x80 := by
    rw [UInt8.lt_iff_toNat_lt, not_lt]
    exact le_trans (by decide) ha.1
  have hlow : (0xC0 : UInt8) ≤ a := UInt8.le_iff_toNat_le.mpr ha.1
  have hhigh : a < 0xE0 := UInt8.lt_iff_toNat_lt.mpr ha.2
  rw [symbols.eq_def]
  simp only [if_neg hfirst, hlow, hhigh, hb, decide_true, Bool.and_true, if_true, hvalue]

theorem symbols_three (ha : 0xE0 ≤ a.toNat ∧ a.toNat < 0xF0) (hb : isContinuation b = true)
    (hc : isContinuation c = true)
    (hvalue : scalar? 0x800 (a.toNat % 16 * 4096 + payload b * 64 + payload c) = some ch) :
    symbols (a :: b :: c :: rest) = some ch :: symbols rest := by
  have hfirst : ¬ a < 0x80 := by
    rw [UInt8.lt_iff_toNat_lt, not_lt]
    exact le_trans (by decide) ha.1
  have hnot : ¬ a < 0xE0 := by
    rw [UInt8.lt_iff_toNat_lt, not_lt]
    exact ha.1
  have hlow : (0xE0 : UInt8) ≤ a := UInt8.le_iff_toNat_le.mpr ha.1
  have hhigh : a < 0xF0 := UInt8.lt_iff_toNat_lt.mpr ha.2
  rw [symbols.eq_def]
  simp only [if_neg hfirst, hnot, hlow, hhigh, hb, hc, decide_true, decide_false, Bool.and_true,
    Bool.and_false, Bool.false_eq_true, if_true, if_false, hvalue]

theorem symbols_four (ha : 0xF0 ≤ a.toNat) (hb : isContinuation b = true)
    (hc : isContinuation c = true) (hd : isContinuation d = true)
    (hvalue : scalar? 0x10000 (a.toNat % 16 * 262144 + payload b * 4096 + payload c * 64 +
      payload d) = some ch) :
    symbols (a :: b :: c :: d :: rest) = some ch :: symbols rest := by
  have hfirst : ¬ a < 0x80 := by
    rw [UInt8.lt_iff_toNat_lt, not_lt]
    exact le_trans (by decide) ha
  have hnot₂ : ¬ a < 0xE0 := by
    rw [UInt8.lt_iff_toNat_lt, not_lt]
    exact le_trans (by decide) ha
  have hnot₃ : ¬ a < 0xF0 := by
    rw [UInt8.lt_iff_toNat_lt, not_lt]
    exact ha
  have hlow : (0xF0 : UInt8) ≤ a := UInt8.le_iff_toNat_le.mpr ha
  rw [symbols.eq_def]
  simp only [if_neg hfirst, hnot₂, hnot₃, hlow, hb, hc, hd, decide_true, decide_false,
    Bool.and_true, Bool.and_false, Bool.false_eq_true, if_true, if_false, hvalue]

end Lengths

/-- The bytes of a character are read as that character. -/
theorem symbols_char (c : Char) (rest : Bytes) :
    symbols (String.utf8EncodeChar c ++ rest) = some c :: symbols rest := by
  have hval : c.val.toNat = c.toNat := rfl
  have hlimit : c.toNat < 0x110000 := by
    have hvalid : c.toNat < 0xD800 ∨ (0xDFFF < c.toNat ∧ c.toNat < 0x110000) := c.valid
    omega
  unfold String.utf8EncodeChar
  simp only [hval]
  split
  · rw [List.singleton_append, symbols_one (by rw [toNat_ofNat (by omega)]; omega),
      toNat_ofNat (by omega), Char.ofNat_toNat]
  split
  · have hfirst := toNat_ofNat (show c.toNat / 64 % 32 + 192 < 256 by omega)
    have hvalue : (c.toNat / 64 % 32 + 192) % 32 * 64 + c.toNat % 64 = c.toNat := by omega
    exact symbols_two (by rw [hfirst]; omega) (isContinuation_ofNat _)
      (by rw [hfirst, payload_ofNat, hvalue, scalar?_char c (by omega)])
  split
  · have hfirst := toNat_ofNat (show c.toNat / 4096 % 16 + 224 < 256 by omega)
    have hvalue : (c.toNat / 4096 % 16 + 224) % 16 * 4096 + c.toNat / 64 % 64 * 64 +
        c.toNat % 64 = c.toNat := by omega
    exact symbols_three (by rw [hfirst]; omega) (isContinuation_ofNat _) (isContinuation_ofNat _)
      (by rw [hfirst, payload_ofNat, payload_ofNat, hvalue, scalar?_char c (by omega)])
  · have hfirst := toNat_ofNat (show c.toNat / 262144 % 8 + 240 < 256 by omega)
    have hvalue : (c.toNat / 262144 % 8 + 240) % 16 * 262144 + c.toNat / 4096 % 64 * 4096 +
        c.toNat / 64 % 64 * 64 + c.toNat % 64 = c.toNat := by omega
    exact symbols_four (by rw [hfirst]; omega) (isContinuation_ofNat _) (isContinuation_ofNat _)
      (isContinuation_ofNat _)
      (by rw [hfirst, payload_ofNat, payload_ofNat, payload_ofNat, hvalue,
        scalar?_char c (by omega)])

/-- Reading the bytes of a text gives the text, whatever follows. -/
theorem symbols_encode_append (text : String) (rest : Bytes) :
    symbols (encode text ++ rest) = text.toList.map some ++ symbols rest := by
  rw [encode_eq]
  induction text.toList with
  | nil => rfl
  | cons c cs ih =>
      rw [List.flatMap_cons, List.append_assoc, symbols_char, ih, List.map_cons, List.cons_append]

theorem symbols_encode (text : String) : symbols (encode text) = text.toList.map some := by
  have happend := symbols_encode_append text []
  rwa [List.append_nil, symbols, List.append_nil] at happend

/-- A text with a byte behind it that begins no character is no text. -/
theorem decode?_append_eq_none {text : String} {rest : Bytes} (h : none ∈ symbols rest) :
    decode? (encode text ++ rest) = none := by
  have hnone : ∀ cs : List (Option Char), none ∈ cs → cs.mapM id = none := by
    intro cs
    induction cs with
    | nil => simp
    | cons c cs ih =>
        intro hmem
        cases c with
        | none => rfl
        | some c => simp [ih (by simpa using hmem)]
  rw [decode?, symbols_encode_append, hnone _ (List.mem_append_right _ h), Option.map_none]

theorem decode?_encode (text : String) : decode? (encode text) = some text := by
  have hall : ∀ cs : List Char, (cs.map some).mapM id = some cs := by
    intro cs
    induction cs with
    | nil => rfl
    | cons c rest ih => simp [ih]
  rw [decode?, symbols_encode, hall, Option.map_some, String.ofList_toList]

end RemoteSigner.Utf8
