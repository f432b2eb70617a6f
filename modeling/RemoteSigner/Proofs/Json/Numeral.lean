import RemoteSigner.Proofs.Json.Token
import RemoteSigner.Proofs.Text.Numeral

/-!
# Written numerals

A numeral that is `Grammatical`, written before something that does not go on with it, is
one token (`ofSymbols_numeral`).
-/

namespace RemoteSigner.Json

open RemoteSigner.Numeral (push)

/-- A text that does not go on with a numeral. -/
def Delimited (rest : List Symbol) : Prop :=
  ∀ s ∈ rest.head?, Token.isDigit s = false ∧ s ≠ some '.' ∧ s ≠ some 'e' ∧ s ≠ some 'E'

/-- Some digits. -/
structure Digits (ds : List Char) : Prop where
  ne_nil : ds ≠ []
  isDigit : ∀ c ∈ ds, RemoteSigner.Numeral.isDigit c = true

namespace Numeral

/-- The characters behind the whole digits: a point with a fraction and an exponent. -/
def tail (n : Numeral) : List Char :=
  (n.fraction.elim [] ('.' :: ·)) ++
    n.exponent.elim [] fun e => 'e' :: ((if e.1 then ['-'] else []) ++ e.2)

/-- The characters of a numeral. -/
def chars (n : Numeral) : List Char :=
  (if n.negative then ['-'] else []) ++ (n.whole ++ n.tail)

/-- A numeral that follows the grammar. -/
structure Grammatical (n : Numeral) : Prop where
  whole : Digits n.whole
  leading : n.whole.head? = some '0' → n.whole = ['0']
  fraction : ∀ ds ∈ n.fraction, Digits ds
  exponent : ∀ e ∈ n.exponent, Digits e.2

end Numeral

namespace Token

variable {ds : List Char} {rest : List Symbol}

theorem digits_append (hds : ∀ c ∈ ds, RemoteSigner.Numeral.isDigit c = true)
    (hrest : ∀ s ∈ rest.head?, isDigit s = false) :
    digits (ds.map some ++ rest) = ds ∧ afterDigits (ds.map some ++ rest) = rest := by
  have hall : ∀ s ∈ ds.map some, isDigit s = true := by
    intro s hs
    obtain ⟨c, hc, rfl⟩ := List.mem_map.mp hs
    exact hds c hc
  have hstop : rest.takeWhile isDigit = [] ∧ rest.dropWhile isDigit = rest := by
    cases rest with
    | nil => exact ⟨rfl, rfl⟩
    | cons s more =>
        have hs := hrest s rfl
        simp [hs]
  unfold digits afterDigits
  rw [List.takeWhile_append_of_pos hall, List.dropWhile_append_of_pos hall, hstop.1, hstop.2,
    List.append_nil]
  exact ⟨by simp, rfl⟩

theorem scanFraction_append (fraction : Option (List Char)) (h : ∀ ds ∈ fraction, Digits ds)
    (hrest : ∀ s ∈ rest.head?, isDigit s = false ∧ s ≠ some '.') :
    scanFraction ((fraction.elim [] ('.' :: ·)).map some ++ rest) = .ok (fraction, rest) := by
  cases fraction with
  | none =>
      show scanFraction rest = _
      unfold scanFraction
      split
      · exact absurd rfl (hrest _ rfl).2
      · rfl
  | some ds =>
      obtain ⟨hdigits, hafter⟩ := digits_append (h ds rfl).isDigit fun s hs => (hrest s hs).1
      show scanFraction (some '.' :: (ds.map some ++ rest)) = _
      rw [scanFraction, hdigits, hafter, if_neg (by simpa using (h ds rfl).ne_nil)]

theorem scanExponent_append (exponent : Option (Bool × List Char))
    (h : ∀ e ∈ exponent, Digits e.2) (hrest : Delimited rest) :
    scanExponent
        ((exponent.elim [] fun e => 'e' :: ((if e.1 then ['-'] else []) ++ e.2)).map some ++
      rest) = .ok (exponent, rest) := by
  cases exponent with
  | none =>
      show scanExponent rest = _
      unfold scanExponent
      split
      · rename_i c more
        obtain ⟨_, _, hlow, hhigh⟩ := hrest (some c) rfl
        rw [if_neg (by rintro (rfl | rfl) <;> contradiction)]
      · rfl
  | some e =>
      obtain ⟨down, ds⟩ := e
      obtain ⟨hne, hall⟩ := h _ rfl
      obtain ⟨hdigits, hafter⟩ := digits_append hall fun s hs => (hrest s hs).1
      have hscan : scanExponentDigits down (ds.map some ++ rest) = .ok (some (down, ds), rest) := by
        rw [scanExponentDigits, hdigits, hafter, if_neg (by simpa using hne)]
      cases down with
      | true =>
          show scanExponent (some 'e' :: some '-' :: (ds.map some ++ rest)) = _
          rw [scanExponent, if_pos (.inl rfl)]
          exact hscan
      | false =>
          -- a digit is no sign
          obtain ⟨c, more, rfl⟩ := List.exists_cons_of_ne_nil hne
          have hc := hall c List.mem_cons_self
          show scanExponent (some 'e' :: some c :: (more.map some ++ rest)) = _
          rw [scanExponent, if_pos (.inl rfl)]
          · exact hscan
          all_goals
            intro _ h
            obtain rfl := Option.some.inj (List.cons.inj h).1
            cases hc

theorem scanWhole_append (h : Digits ds) (hlead : ds.head? = some '0' → ds = ['0'])
    (hrest : ∀ s ∈ rest.head?, isDigit s = false) :
    scanWhole (ds.map some ++ rest) = .ok (ds, rest) := by
  obtain ⟨hdigits, hafter⟩ := digits_append h.isDigit hrest
  unfold scanWhole
  rw [hdigits, hafter]
  split
  · exact absurd rfl h.ne_nil
  · cases hlead rfl
  · rfl

/-- What follows the whole digits does not go on with them. -/
theorem not_isDigit_of_head (n : Numeral) (hrest : Delimited rest) :
    ∀ s ∈ (n.tail.map some ++ rest).head?, isDigit s = false := by
  intro s hs
  unfold Numeral.tail at hs
  cases hfraction : n.fraction with
  | some ds =>
      simp only [hfraction, Option.elim_some, List.cons_append, List.map_cons, List.head?_cons,
        Option.mem_some_iff] at hs
      exact hs ▸ rfl
  | none =>
      cases hexponent : n.exponent with
      | some e =>
          simp only [hfraction, hexponent, Option.elim_none, Option.elim_some, List.nil_append,
            List.cons_append, List.map_cons, List.head?_cons, Option.mem_some_iff] at hs
          exact hs ▸ rfl
      | none =>
          simp only [hfraction, hexponent, Option.elim_none, List.nil_append, List.map_nil] at hs
          exact (hrest s hs).1

theorem scanNumeral_append {n : Numeral} (h : n.Grammatical) (hrest : Delimited rest) :
    scanNumeral n.negative ((n.whole ++ n.tail).map some ++ rest) = .ok (n, rest) := by
  have hfraction : ∀ s ∈
      (((n.exponent.elim [] fun e => 'e' :: ((if e.1 then ['-'] else []) ++ e.2)).map
      some) ++ rest).head?, isDigit s = false ∧ s ≠ some '.' := by
    intro s hs
    cases hexponent : n.exponent with
    | some e =>
        simp only [hexponent, Option.elim_some, List.cons_append, List.map_cons, List.head?_cons,
          Option.mem_some_iff] at hs
        exact hs ▸ ⟨rfl, by decide⟩
    | none =>
        simp only [hexponent, Option.elim_none, List.nil_append, List.map_nil] at hs
        exact ⟨(hrest s hs).1, (hrest s hs).2.1⟩
  rw [List.map_append, List.append_assoc]
  refine bind_eq_ok.mpr ⟨_, scanWhole_append h.whole h.leading (not_isDigit_of_head n hrest), ?_⟩
  rw [Numeral.tail, List.map_append, List.append_assoc]
  exact bind_eq_ok.mpr ⟨_, scanFraction_append n.fraction h.fraction hfraction,
    bind_eq_ok.mpr ⟨_, scanExponent_append n.exponent h.exponent hrest, rfl⟩⟩

/-- A digit begins a numeral and nothing else. -/
theorem digit_begins {c : Char} (h : RemoteSigner.Numeral.isDigit c = true) :
    isSpace (some c) = false ∧ ∀ symbols n, scanNumeral false (some c :: symbols) = .ok (n, rest) →
      next c symbols = (.number n.value, rest) := by
  have hall : ∀ d < 10, let c := RemoteSigner.Numeral.digit d
      isSpace (some c) = false ∧ punctuation? c = none ∧ c ≠ '"' ∧ word? c = none ∧ c ≠ '-' := by
    decide
  obtain ⟨d, hd, rfl⟩ := RemoteSigner.Numeral.eq_digit_of_isDigit h
  obtain ⟨hspace, hpunctuation, hquote, hword, hminus⟩ := hall d hd
  refine ⟨hspace, fun symbols n hscan => ?_⟩
  simp [next, hpunctuation, hquote, hword, hminus, h, hscan]

/-- A grammatical numeral is one token, where it is delimited. -/
theorem ofSymbols_numeral {n : Numeral} (h : n.Grammatical) (hrest : Delimited rest) :
    ofSymbols (n.chars.map some ++ rest) = .number n.value :: ofSymbols rest := by
  have hscan := scanNumeral_append h hrest
  unfold Numeral.chars
  cases hsign : n.negative with
  | true =>
      have hnext : next '-' ((n.whole ++ n.tail).map some ++ rest) = (.number n.value, rest) := by
        rw [hsign] at hscan
        simp only [next, punctuation?, word?, hscan]
        rfl
      show ofSymbols (some '-' :: ((n.whole ++ n.tail).map some ++ rest)) = _
      rw [ofSymbols_cons (by decide), hnext]
  | false =>
      rw [hsign] at hscan
      obtain ⟨c, more, hwhole⟩ := List.exists_cons_of_ne_nil h.whole.ne_nil
      obtain ⟨hspace, hbegins⟩ := digit_begins (h.whole.isDigit c (hwhole ▸ List.mem_cons_self))
      have hnext : next c ((more ++ n.tail).map some ++ rest) = (.number n.value, rest) := by
        refine hbegins _ _ ?_
        rw [← hscan, hwhole]
        rfl
      rw [hwhole]
      show ofSymbols (some c :: ((more ++ n.tail).map some ++ rest)) = _
      rw [ofSymbols_cons hspace, hnext]

end Token

end RemoteSigner.Json
