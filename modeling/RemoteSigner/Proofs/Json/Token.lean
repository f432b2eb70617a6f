import Mathlib.Data.List.TakeWhile
import RemoteSigner.Json.Token
import RemoteSigner.Proofs.Outcome

/-!
# Tokens without fuel

Each token takes at least its first symbol (`length_next`), so the fuel that a text's
length gives is enough (`scan_eq`), and the tokens of a text are those that its front
gives, one after another (`ofSymbols_space`, `ofSymbols_cons`).
-/

namespace RemoteSigner.Json

variable {symbols rest : List Symbol}

/-! ## What a token leaves -/

namespace WrittenText

/-- A string that is closed leaves less than it was read from. -/
theorem length_scan (symbols : List Symbol) (h : (scan symbols).ending = .closed rest) :
    rest.length < symbols.length := by
  fun_induction scan symbols
  case case2 tail =>
    obtain rfl := TextEnd.closed.inj h
    exact Nat.lt_succ_self _
  case case3 ih | case6 ih | case11 ih | case12 ih =>
    have htail := ih h
    simp only [List.length_cons]
    omega
  all_goals cases h

end WrittenText

namespace Token

theorem length_afterDigits (symbols : List Symbol) :
    (afterDigits symbols).length ≤ symbols.length :=
  (List.dropWhile_suffix _).length_le

theorem length_scanWhole {ds : List Char} (h : scanWhole symbols = .ok (ds, rest)) :
    rest.length < symbols.length := by
  cases symbols with
  | nil => cases h
  | cons s tail =>
      cases hs : isDigit s with
      | false => simp [scanWhole, digits, hs] at h
      | true =>
          have hafter : afterDigits (s :: tail) = afterDigits tail := by
            simp [afterDigits, hs]
          unfold scanWhole at h
          split at h
          · cases h
          · cases h
          · obtain ⟨_, rfl⟩ := Prod.mk.inj (Except.ok.inj h)
            rw [hafter]
            exact Nat.lt_succ_of_le (length_afterDigits tail)

theorem length_scanFraction {ds : Option (List Char)} (h : scanFraction symbols = .ok (ds, rest)) :
    rest.length ≤ symbols.length := by
  unfold scanFraction at h
  split at h
  · split at h
    · cases h
    · obtain ⟨_, rfl⟩ := Prod.mk.inj (Except.ok.inj h)
      exact (length_afterDigits _).trans (Nat.le_succ _)
  · obtain ⟨_, rfl⟩ := Prod.mk.inj (Except.ok.inj h)
    exact le_rfl

theorem length_scanExponentDigits {down : Bool} {e : Option (Bool × List Char)}
    (h : scanExponentDigits down symbols = .ok (e, rest)) : rest.length ≤ symbols.length := by
  unfold scanExponentDigits at h
  split at h
  · cases h
  · obtain ⟨_, rfl⟩ := Prod.mk.inj (Except.ok.inj h)
    exact length_afterDigits symbols

theorem length_scanExponent {e : Option (Bool × List Char)}
    (h : scanExponent symbols = .ok (e, rest)) : rest.length ≤ symbols.length := by
  unfold scanExponent at h
  split at h
  · split at h
    · split at h
      · exact (length_scanExponentDigits h).trans (by simp; omega)
      · exact (length_scanExponentDigits h).trans (by simp; omega)
      · exact (length_scanExponentDigits h).trans (Nat.le_succ _)
    · obtain ⟨_, rfl⟩ := Prod.mk.inj (Except.ok.inj h)
      exact le_rfl
  · obtain ⟨_, rfl⟩ := Prod.mk.inj (Except.ok.inj h)
    exact le_rfl

theorem length_scanNumeral {negative : Bool} {n : Numeral}
    (h : scanNumeral negative symbols = .ok (n, rest)) : rest.length < symbols.length := by
  obtain ⟨⟨whole, afterWhole⟩, hwhole, h⟩ := bind_eq_ok.mp h
  obtain ⟨⟨fraction, afterFraction⟩, hfraction, h⟩ := bind_eq_ok.mp h
  obtain ⟨⟨exponent, afterExponent⟩, hexponent, h⟩ := bind_eq_ok.mp h
  obtain ⟨_, rfl⟩ := Prod.mk.inj (Except.ok.inj h)
  exact ((length_scanExponent hexponent).trans (length_scanFraction hfraction)).trans_lt
    (length_scanWhole hwhole)

theorem length_scanWord {word : List Char} (h : scanWord word symbols = .ok rest) :
    rest.length ≤ symbols.length := by
  fun_induction scanWord word symbols
  case case1 => exact (Except.ok.inj h) ▸ le_rfl
  case case3 ih => exact (ih h).trans (Nat.le_succ _)
  all_goals cases h

/-- A token takes at least its first symbol. -/
theorem length_next (c : Char) (symbols : List Symbol) :
    (next c symbols).2.length ≤ symbols.length := by
  unfold next
  split
  · exact le_rfl
  split
  · simp only
    split
    · exact (WrittenText.length_scan symbols ‹_›).le
    · exact Nat.zero_le _
  split
  · split
    · exact length_scanWord ‹_›
    · exact Nat.zero_le _
  split
  · simp only
    split
    · rename_i n rest hscanned
      split at hscanned
      · exact (length_scanNumeral hscanned).le
      · exact Nat.lt_succ_iff.mp (length_scanNumeral hscanned)
    · exact Nat.zero_le _
  · exact le_rfl

/-! ## Tokens of a text -/

theorem scan_space {s : Symbol} (hs : isSpace s = true) (fuel : Nat) (rest : List Symbol) :
    scan (fuel + 1) (s :: rest) = scan fuel rest := by
  simp [scan, hs]

theorem scan_cons {c : Char} (hc : isSpace (some c) = false) (fuel : Nat) (rest : List Symbol) :
    scan (fuel + 1) (some c :: rest) = (next c rest).1 :: scan fuel (next c rest).2 := by
  simp [scan, hc]

/-- More fuel than symbols changes nothing. -/
theorem scan_eq {fuel : Nat} (h : symbols.length ≤ fuel) :
    scan fuel symbols = ofSymbols symbols := by
  suffices hany : ∀ more : Nat, symbols.length ≤ more → scan fuel symbols = scan more symbols from
    hany _ le_rfl
  induction fuel generalizing symbols with
  | zero =>
      obtain rfl := List.length_eq_zero_iff.mp (Nat.le_zero.mp h)
      intro more _
      cases more <;> rfl
  | succ fuel ih =>
      intro more hmore
      match symbols, more, h, hmore with
      | [], 0, _, _ => rfl
      | [], _ + 1, _, _ => rfl
      | s :: rest, more + 1, h, hmore =>
          have hrest := Nat.succ_le_succ_iff.mp h
          have hrest' := Nat.succ_le_succ_iff.mp hmore
          cases hs : isSpace s with
          | true => rw [scan_space hs, scan_space hs, ih hrest more hrest']
          | false =>
              cases s with
              | none => exact congrArg (Token.junk :: ·) (ih hrest more hrest')
              | some c =>
                  have hnext := length_next c rest
                  rw [scan_cons hs, scan_cons hs, ih (hnext.trans hrest) more (hnext.trans hrest')]

theorem ofSymbols_nil : ofSymbols [] = [] := rfl

theorem ofSymbols_space {s : Symbol} (hs : isSpace s = true) :
    ofSymbols (s :: symbols) = ofSymbols symbols :=
  scan_space hs ..

theorem ofSymbols_cons {c : Char} (hc : isSpace (some c) = false) :
    ofSymbols (some c :: symbols) = (next c symbols).1 :: ofSymbols (next c symbols).2 := by
  rw [ofSymbols, List.length_cons, scan_cons hc, scan_eq (length_next c symbols)]

end Token

end RemoteSigner.Json
