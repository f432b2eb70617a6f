import Mathlib.Data.List.TakeWhile
import RemoteSigner.Toml.Document
import RemoteSigner.Toml.Printer

/-!
# Lines of text values

A line that assigns a text to a key, where neither needs escapes, is read as that assignment
(`readStatement_line`). Lines with different keys are a table of the texts
(`ofText?_lines`).
-/

namespace RemoteSigner.Toml

/-- A key that needs no quotes. -/
structure Bare (key : String) : Prop where
  ne_nil : key.toList ≠ []
  isBare : ∀ c ∈ key.toList, isBare c = true

/-- A text that needs no escapes. -/
def Simple (s : String) : Prop :=
  ∀ c ∈ s.toList, 0x20 ≤ c.toNat ∧ c.toNat < 0x7F ∧ c ≠ '"' ∧ c ≠ '\\'

-- the instance for lists by name: another one goes through all characters there are
instance (s : String) : Decidable (Simple s) :=
  List.decidableBAll _ s.toList

/-- Some bare keys with simple texts, each key once. -/
structure Plainly (entries : List (String × String)) : Prop where
  bare : ∀ e ∈ entries, Bare e.1
  simple : ∀ e ∈ entries, Simple e.2
  keys : (entries.map (·.1)).Nodup

/-- The lines that assign texts to keys. -/
def lines (entries : List (String × String)) : List Char :=
  entries.flatMap fun e => (line e.1 (quote e.2)).toList

variable {key s : String} {rest : List Char}

/-! ## One line -/

theorem longestRun_eq_zero {c : Char} {cs : List Char} (h : c ∉ cs) : longestRun c 0 0 cs = 0 := by
  induction cs with
  | nil => rfl
  | cons d more ih =>
      rw [List.mem_cons, not_or] at h
      rw [longestRun, if_neg (Ne.symm h.1)]
      exact ih h.2

theorem escapeChars_eq {cs : List Char}
    (h : ∀ c ∈ cs, 0x20 ≤ c.toNat ∧ c.toNat < 0x7F ∧ c ≠ '"' ∧ c ≠ '\\') :
    escapeChars false 0 0 cs = cs := by
  induction cs with
  | nil => rfl
  | cons c more ih =>
      obtain ⟨hlow, hhigh, hquote, hslash⟩ := h c List.mem_cons_self
      have hcode : needsCode c = false := by
        simp [needsCode]
        omega
      have htab : c ≠ '\t' := by
        rintro rfl
        exact absurd hlow (by decide)
      have hline : c ≠ '\n' := by
        rintro rfl
        exact absurd hlow (by decide)
      have hreturn : c ≠ '\r' := by
        rintro rfl
        exact absurd hlow (by decide)
      rw [escapeChars, if_neg hquote, if_neg (by omega), if_neg htab, if_neg hline,
        if_neg (by omega), if_neg hreturn, if_neg hslash, hcode, if_neg (by simp),
        ih fun d hd => h d (List.mem_cons_of_mem c hd)]
      rfl

theorem quote_simple (h : Simple s) : quote s = String.ofList ('"' :: (s.toList ++ ['"'])) := by
  have hcodes : s.toList.any needsCode = false := by
    rw [List.any_eq_false]
    intro c hc
    obtain ⟨hlow, hhigh, _⟩ := h c hc
    simp [needsCode]
    omega
  have hslashes : s.toList.contains '\\' = false := by
    simpa using fun hc => (h _ hc).2.2.2 rfl
  have hlines : s.toList.contains '\n' = false := by
    simpa using fun hc => absurd (h _ hc).1 (by decide)
  have hdoubles : longestRun '"' 0 0 s.toList = 0 := longestRun_eq_zero fun hc => (h _ hc).2.2.1 rfl
  unfold quote
  simp only [hcodes, hslashes, hlines, hdoubles, escapeChars_eq h]
  rfl

theorem line_simple (h : Simple s) : (line key (quote s)).toList =
    key.toList ++ ' ' :: '=' :: ' ' :: '"' :: (s.toList ++ ['"', '\n']) := by
  rw [line, quote_simple h]
  simp

theorem basicChars_simple {cs : List Char}
    (h : ∀ c ∈ cs, 0x20 ≤ c.toNat ∧ c.toNat < 0x7F ∧ c ≠ '"' ∧ c ≠ '\\') :
    basicChars (cs ++ '"' :: rest) = some (cs, rest) := by
  induction cs with
  | nil => rfl
  | cons c more ih =>
      obtain ⟨hlow, hhigh, hquote, hslash⟩ := h c List.mem_cons_self
      have hplain : isPlain c = true := by
        simp [isPlain]
        omega
      have hmore := ih fun d hd => h d (List.mem_cons_of_mem c hd)
      rw [List.cons_append, basicChars.eq_def]
      split <;> simp_all [prepend]

theorem readString_simple (h : Simple s) :
    readString ('"' :: (s.toList ++ '"' :: '\n' :: rest)) = some (s, '\n' :: rest) := by
  have hchars : basicChars (s.toList ++ '"' :: '\n' :: rest) = some (s.toList, '\n' :: rest) :=
    basicChars_simple h
  have hstart : ∀ more, s.toList ++ '"' :: '\n' :: rest ≠ '"' :: '"' :: more := by
    intro more heq
    cases hs : s.toList with
    | nil => simp [hs] at heq
    | cons c cs =>
        rw [hs] at heq
        exact (h c (hs ▸ List.mem_cons_self)).2.2.1 (List.cons.inj heq).1
  rw [readString.eq_def]
  split
  · exact absurd (List.cons.inj ‹_›).2 (hstart _)
  · rename_i heq
    obtain rfl := (List.cons.inj heq).2
    rw [hchars]
    simp [readString.keep]
  all_goals simp_all

theorem not_gap_of_bare {c : Char} (h : isBare c = true) :
    isGap c = false ∧ c ≠ '"' ∧ c ≠ '\'' ∧ c ≠ '[' ∧ c ≠ '#' ∧ c ≠ '\n' ∧ c ≠ '\r' := by
  refine ⟨?_, ?_, ?_, ?_, ?_, ?_, ?_⟩
  · cases hgap : isGap c with
    | false => rfl
    | true =>
        simp only [isGap, Bool.or_eq_true, decide_eq_true_eq] at hgap
        rcases hgap with rfl | rfl <;> revert h <;> decide
  all_goals
    rintro rfl
    revert h
    decide

theorem dropGap_bare {c : Char} {cs : List Char} (h : isBare c = true) :
    dropGap (c :: cs) = c :: cs := by
  rw [dropGap, List.dropWhile_cons, (not_gap_of_bare h).1]
  rfl

theorem readKey_bare (h : Bare key) :
    readKey nestingBound (key.toList ++ ' ' :: '=' :: rest) = some ([key], '=' :: rest) := by
  obtain ⟨c, cs, hkey⟩ := List.exists_cons_of_ne_nil h.ne_nil
  obtain ⟨_, hquote, hsingle, _⟩ := not_gap_of_bare (h.isBare c (hkey ▸ List.mem_cons_self))
  have htake : (key.toList ++ ' ' :: '=' :: rest).takeWhile isBare = key.toList := by
    rw [List.takeWhile_append_of_pos h.isBare, List.takeWhile_cons_of_neg (by decide),
      List.append_nil]
  have hdrop : (key.toList ++ ' ' :: '=' :: rest).dropWhile isBare = ' ' :: '=' :: rest := by
    rw [List.dropWhile_append_of_pos h.isBare, List.dropWhile_cons_of_neg (by decide)]
  have hgap : dropGap (key.toList ++ ' ' :: '=' :: rest) = key.toList ++ ' ' :: '=' :: rest := by
    rw [hkey]
    exact dropGap_bare (h.isBare c (hkey ▸ List.mem_cons_self))
  have hpart : readKeyPart (key.toList ++ ' ' :: '=' :: rest) = some (key, '=' :: rest) := by
    rw [readKeyPart.eq_def, hgap]
    split
    · rename_i heq
      rw [hkey] at heq
      exact absurd (List.cons.inj heq).1 hquote
    · rename_i heq
      rw [hkey] at heq
      exact absurd (List.cons.inj heq).1 hsingle
    · simp only [htake, hdrop]
      rw [if_neg (by simpa using h.ne_nil), String.ofList_toList]
      rfl
  rw [nestingBound, readKey, hpart]
  simp

/-- A line is read as its assignment. -/
theorem readStatement_line (hkey : Bare key) (hs : Simple s) :
    readStatement ((line key (quote s)).toList ++ rest) = some (.assign [key] (.text s), rest) := by
  obtain ⟨c, cs, hchars⟩ := List.exists_cons_of_ne_nil hkey.ne_nil
  obtain ⟨_, _, _, hbracket, _⟩ := not_gap_of_bare (hkey.isBare c (hchars ▸ List.mem_cons_self))
  have hread : readKey nestingBound (key.toList ++ ' ' :: '=' :: ' ' :: '"' ::
      (s.toList ++ '"' :: '\n' :: rest)) = some ([key], '=' :: ' ' :: '"' ::
        (s.toList ++ '"' :: '\n' :: rest)) := readKey_bare hkey
  have hvalue : ∀ fuel,
      readValue nestingBound (fuel + 1) ('"' :: (s.toList ++ '"' :: '\n' :: rest)) =
      some (.text s, '\n' :: rest) := by
    intro fuel
    rw [readValue, readString_simple hs]
    rfl
  have hline : (line key (quote s)).toList ++ rest =
      key.toList ++ ' ' :: '=' :: ' ' :: '"' :: (s.toList ++ '"' :: '\n' :: rest) := by
    rw [line_simple hs]
    simp
  rw [hline, readStatement.eq_def]
  split
  · rename_i heq
    rw [hchars] at heq
    exact absurd (List.cons.inj heq).1 hbracket
  · rename_i heq
    rw [hchars] at heq
    exact absurd (List.cons.inj heq).1 hbracket
  · have hlength : (key.toList ++
        ' ' :: '=' :: ' ' :: '"' :: (s.toList ++ '"' :: '\n' :: rest)).length =
        (key.toList ++ ' ' :: '=' :: ' ' :: (s.toList ++ '"' :: '\n' :: rest)).length + 1 := by
      simp
      omega
    rw [hread]
    simp only
    rw [hlength, show dropGap (' ' :: '"' :: (s.toList ++ '"' :: '\n' :: rest)) =
      '"' :: (s.toList ++ '"' :: '\n' :: rest) from rfl, hvalue]
    rfl

/-! ## All lines -/

variable {entries : List (String × String)}

theorem dropFiller_bare {c : Char} {cs : List Char} (h : isBare c = true) (fuel : Nat) :
    dropFiller fuel (c :: cs) = c :: cs := by
  obtain ⟨_, _, _, _, hcomment, hline, hreturn⟩ := not_gap_of_bare h
  cases fuel with
  | zero => rfl
  | succ fuel =>
      have hnone : dropNewline? (c :: cs) = none := by
        unfold dropNewline?
        split <;> simp_all
      rw [dropFiller, dropGap_bare h]
      split
      · exact absurd (List.cons.inj ‹_›).1 hcomment
      · rw [hnone]

theorem readStatements_lines (h : ∀ e ∈ entries, Bare e.1 ∧ Simple e.2) {fuel : Nat}
    (hfuel : (lines entries).length < fuel) :
    readStatements fuel (lines entries) =
    some (entries.map fun e => .assign [e.1] (.text e.2)) := by
  induction entries generalizing fuel with
  | nil =>
      obtain ⟨fuel, rfl⟩ := Nat.exists_eq_succ_of_ne_zero (Nat.ne_of_gt hfuel)
      rfl
  | cons e more ih =>
      obtain ⟨fuel, rfl⟩ := Nat.exists_eq_succ_of_ne_zero (Nat.ne_of_gt (Nat.zero_lt_of_lt hfuel))
      obtain ⟨hbare, hsimple⟩ := h e List.mem_cons_self
      obtain ⟨c, cs, hkey⟩ := List.exists_cons_of_ne_nil hbare.ne_nil
      have hlines : lines (e :: more) = (line e.1 (quote e.2)).toList ++ lines more := rfl
      have hstart : lines (e :: more) =
          c :: (cs ++ ' ' :: '=' :: ' ' :: '"' :: (e.2.toList ++ ['"', '\n']) ++ lines more) := by
        rw [hlines, line_simple hsimple, hkey]
        rfl
      have hfiller : ∀ fuel, dropFiller fuel (c :: (cs ++ ' ' :: '=' :: ' ' :: '"' ::
          (e.2.toList ++ ['"', '\n']) ++ lines more)) = _ :=
        dropFiller_bare (hbare.isBare c (hkey ▸ List.mem_cons_self))
      have hmore : readStatements fuel (lines more) = _ :=
        ih (fun d hd => h d (List.mem_cons_of_mem e hd)) (by
          rw [hstart] at hfuel
          simp at hfuel
          omega)
      have hstatement : readStatement (lines (e :: more)) = _ :=
        hlines ▸ readStatement_line hbare hsimple
      rw [hstart] at hstatement
      rw [hstart, readStatements, hfiller]
      simp only
      rw [hstatement]
      simp [hmore]

theorem assignKey_fresh {ms : Members} (h : key ∉ ms.map (·.1)) (v : Toml) :
    assignKey [key] v ms = some (ms ++ [(key, .value v)]) := by
  have hlookup : ms.lookup key = none := by
    rw [List.lookup_eq_none_iff]
    intro m hm
    have hne : key ≠ m.1 := fun heq => h (heq ▸ List.mem_map.mpr ⟨m, hm, rfl⟩)
    exact bne_iff_ne.mpr hne
  simp [assignKey, assignAt, within, assign, hlookup]

/-- Statements that assign texts to different keys are carried out in order. -/
theorem execute_assign {ms : Members} (hkeys : (ms.map (·.1) ++ entries.map (·.1)).Nodup) :
    execute (entries.map fun e => .assign [e.1] (.text e.2)) [] ms =
      some (ms ++ entries.map fun e => (e.1, .value (.text e.2))) := by
  induction entries generalizing ms with
  | nil => simp [execute]
  | cons e more ih =>
      have hfresh : e.1 ∉ ms.map (·.1) := fun hmem =>
        (List.nodup_append.mp hkeys).2.2 _ hmem _ List.mem_cons_self rfl
      have hkeys' : ((ms ++ [(e.1, Entry.value (.text e.2))]).map (·.1) ++
          more.map (·.1)).Nodup := by
        rw [List.map_append, List.append_assoc]
        exact hkeys
      have hmore := ih hkeys'
      rw [List.map_cons, execute]
      show (assignKey [e.1] (.text e.2) ms >>= fun ms => execute _ [] ms) = _
      rw [assignKey_fresh hfresh]
      show execute _ [] _ = _
      rw [hmore, List.append_assoc]
      rfl

theorem finishMembers_texts (entries : List (String × String)) :
    finishMembers (entries.map fun e => (e.1, .value (.text e.2))) =
      entries.map fun e => (e.1, .text e.2) := by
  induction entries with
  | nil => rfl
  | cons e more ih => exact congrArg (_ :: ·) ih

theorem dropMark_lines (h : ∀ e ∈ entries, Bare e.1 ∧ Simple e.2) :
    dropMark (lines entries) = lines entries := by
  cases entries with
  | nil => rfl
  | cons e more =>
      obtain ⟨hbare, hsimple⟩ := h e List.mem_cons_self
      obtain ⟨c, cs, hkey⟩ := List.exists_cons_of_ne_nil hbare.ne_nil
      have hc := hbare.isBare c (hkey ▸ List.mem_cons_self)
      rw [lines, List.flatMap_cons, line_simple hsimple, hkey]
      unfold dropMark
      split
      · obtain rfl := (List.cons.inj ‹_›).1
        exact absurd hc (by decide)
      · rfl

/-- Plain lines are a table of their texts. -/
theorem ofText?_lines (h : Plainly entries) :
    ofText? (String.ofList (lines entries)) =
    some (.table (entries.map fun e => (e.1, .text e.2))) := by
  have hentries : ∀ e ∈ entries, Bare e.1 ∧ Simple e.2 := fun e he => ⟨h.bare e he, h.simple e he⟩
  have hread := readStatements_lines hentries (Nat.lt_succ_self (lines entries).length)
  have hexecute : execute (entries.map fun e => .assign [e.1] (.text e.2)) [] [] =
      some (entries.map fun e => (e.1, .value (.text e.2))) := execute_assign h.keys
  unfold ofText?
  rw [String.toList_ofList, dropMark_lines hentries]
  simp only
  rw [hread]
  simp only [Option.bind_eq_bind, Option.bind_some, hexecute, finishMembers_texts]
  rfl

end RemoteSigner.Toml
