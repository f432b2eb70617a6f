import RemoteSigner.Json.Document
import RemoteSigner.Proofs.Json.Numeral

/-!
# The tokens of a printed document

A quoted string is one token that stands for the string (`ofSymbols_quote`), and a number
that is `Legible` one that stands for what it is read back as (`Number.ofSymbols_encode`).
The text of a document whose numbers are legible consists of its tokens, whatever follows
that delimits it (`ofSymbols_pretty`).
-/

namespace RemoteSigner.Json

open Token (ofSymbols)

/-! ## Strings -/

namespace WrittenText

variable {c : Char} {rest : List Symbol}

/-- A piece is read as a character, whatever follows. -/
def Stands (p : Piece) (c : Char) : Prop :=
  ∀ ending bad pieces, resolve ending bad (p :: pieces) = (resolve ending bad pieces).map (c :: ·)

theorem stands_character (c : Char) (escaped : Bool) : Stands (.character c escaped) c :=
  fun _ _ _ => rfl

theorem stands_unit (h : c.toNat < 32) : Stands (.unit c.toNat) c := by
  intro ending bad pieces
  rw [resolve.eq_def]
  simp only
  rw [if_neg (by omega), if_pos (by omega), Char.ofNat_toNat]

theorem scan_plain (hquote : c ≠ '"') (hslash : c ≠ '\\') (hcontrol : 32 ≤ c.toNat) :
    scan (some c :: rest) = cons (.character c false) (scan rest) := by
  rw [scan.eq_def]
  split <;> simp_all

theorem scan_unit {a b : Symbol} {n : Nat} (h : hexUnit? (some '0') (some '0') a b = some n) :
    scan (some '\\' :: some 'u' :: some '0' :: some '0' :: a :: b :: rest) =
      cons (.unit n) (scan rest) := by
  rw [scan]
  simp [h]

/-- The two digits of a control character. -/
theorem hexUnit?_control {n : Nat} (h : n < 32) :
    let digit (n : Nat) : Char := if n < 10 then Char.ofNat (48 + n) else Char.ofNat (87 + n)
    hexUnit? (some '0') (some '0') (some (digit (n / 16))) (some (digit (n % 16))) = some n := by
  revert n
  decide

/-- A character as it is written is scanned as a piece that stands for it. -/
theorem scan_escapeChar (c : Char) : ∃ p, Stands p c ∧
    ∀ rest, scan ((escapeChar c).map some ++ rest) = cons p (scan rest) := by
  have hshort : ∀ n, c.toNat = n → c = Char.ofNat n := by
    rintro n rfl
    exact (Char.ofNat_toNat c).symm
  unfold escapeChar
  split
  · subst_vars
    exact ⟨_, stands_character '"' true, fun _ => rfl⟩
  split
  · subst_vars
    exact ⟨_, stands_character '\\' true, fun _ => rfl⟩
  split
  · rw [hshort _ ‹_›]
    exact ⟨_, stands_character '\x08' true, fun _ => rfl⟩
  split
  · rw [hshort _ ‹_›]
    exact ⟨_, stands_character '\t' true, fun _ => rfl⟩
  split
  · rw [hshort _ ‹_›]
    exact ⟨_, stands_character '\n' true, fun _ => rfl⟩
  split
  · rw [hshort _ ‹_›]
    exact ⟨_, stands_character '\x0c' true, fun _ => rfl⟩
  split
  · rw [hshort _ ‹_›]
    exact ⟨_, stands_character '\r' true, fun _ => rfl⟩
  split
  · rename_i hcontrol
    exact ⟨_, stands_unit hcontrol, fun _ => scan_unit (hexUnit?_control hcontrol)⟩
  · exact ⟨_, stands_character c false, fun _ => scan_plain ‹_› ‹_› (by omega)⟩

/-- Characters between quotes are scanned as pieces that stand for them. -/
theorem scan_escaped (cs : List Char) (rest : List Symbol) : ∃ pieces,
    resolve (.closed rest) false pieces = .ok cs ∧
      scan ((cs.flatMap escapeChar).map some ++ some '"' :: rest) = ⟨pieces, .closed rest⟩ := by
  induction cs with
  | nil => exact ⟨[], rfl, by simp [scan]⟩
  | cons c cs ih =>
      obtain ⟨pieces, hvalue, hscan⟩ := ih
      obtain ⟨p, hstands, hp⟩ := scan_escapeChar c
      refine ⟨p :: pieces, by rw [hstands, hvalue]; rfl, ?_⟩
      rw [List.flatMap_cons, List.map_append, List.append_assoc, hp, hscan]
      rfl

end WrittenText

/-- A quoted string is one token. -/
theorem ofSymbols_quote (s : String) (rest : List Symbol) :
    ofSymbols ((quote s).map some ++ rest) = .text (.ok s) :: ofSymbols rest := by
  obtain ⟨pieces, hvalue, hscan⟩ := WrittenText.scan_escaped s.toList rest
  have hsymbols : (quote s).map some ++ rest =
      some '"' :: ((s.toList.flatMap escapeChar).map some ++ some '"' :: rest) := by
    simp [quote]
  have hnext : Token.next '"' ((s.toList.flatMap escapeChar).map some ++ some '"' :: rest) =
      (.text (.ok s), rest) := by
    simp [Token.next, Token.punctuation?, hscan, WrittenText.value, hvalue, Except.map]
  rw [hsymbols, Token.ofSymbols_cons (by decide), hnext]

/-! ## Numbers -/

namespace Number

/-- A number whose text can be read. -/
def Legible (n : Number) : Prop :=
  ∃ u : Numeral, u.Grammatical ∧ n.encode.toList = u.chars ∧ ∃ m, u.value = .ok m

/-- The number that the text of a number is read as: doubles lose digits. -/
def reread (n : Number) : Number :=
  match ofSymbols (n.encode.toList.map some) with
  | [.number (.ok m)] => m
  | _ => n

/-- The text of a number is read as the value of the numeral that it spells. -/
theorem reread_eq {n m : Number} {u : Numeral} (hu : u.Grammatical)
    (hchars : n.encode.toList = u.chars)
    (hm : u.value = .ok m) : n.reread = m := by
  have halone : Token.ofSymbols (u.chars.map some ++ []) = _ :=
    Token.ofSymbols_numeral hu (by simp [Delimited])
  rw [List.append_nil, Token.ofSymbols_nil, hm] at halone
  rw [reread, hchars, halone]

theorem ofSymbols_encode {n : Number} (h : n.Legible) {rest : List Symbol}
    (hrest : Delimited rest) :
    ofSymbols (n.encode.toList.map some ++ rest) = .number (.ok n.reread) :: ofSymbols rest := by
  obtain ⟨u, hu, hchars, m, hm⟩ := h
  rw [reread_eq hu hchars hm, hchars, Token.ofSymbols_numeral hu hrest, hm]

end Number

end RemoteSigner.Json

namespace RemoteSigner.Json

open Token (ofSymbols)

/-! ## Documents -/

mutual

/-- The tokens of a printed document. -/
def tokens : Json → List Token
  | .null => [.null]
  | .boolean b => [.boolean b]
  | .number n => [.number (.ok n.reread)]
  | .text s => [.text (.ok s)]
  | .list items => .openList :: (itemTokens items ++ [.closeList])
  | .record members => .openRecord :: (memberTokens members ++ [.closeRecord])

/-- The tokens of the elements of an array. -/
def itemTokens : List Json → List Token
  | [] => []
  | v :: rest => tokens v ++ moreItemTokens rest

/-- The tokens of elements behind one of them. -/
def moreItemTokens : List Json → List Token
  | [] => []
  | v :: rest => .comma :: (tokens v ++ moreItemTokens rest)

/-- The tokens of the members of an object. -/
def memberTokens : List (String × Json) → List Token
  | [] => []
  | (k, v) :: rest => .text (.ok k) :: .colon :: (tokens v ++ moreMemberTokens rest)

/-- The tokens of members behind one of them. -/
def moreMemberTokens : List (String × Json) → List Token
  | [] => []
  | (k, v) :: rest => .comma :: .text (.ok k) :: .colon :: (tokens v ++ moreMemberTokens rest)

end

mutual

/-- A document whose text can be read by a reader that may enter `depth`
containers, less one. -/
def Readable (depth : Nat) : Json → Prop
  | .number n => n.Legible
  | .list items => 1 < depth ∧ ReadableItems (depth - 1) items
  | .record members => 1 < depth ∧ ReadableMembers (depth - 1) members
  | .null | .boolean _ | .text _ => True

/-- Readable elements of an array. -/
def ReadableItems (depth : Nat) : List Json → Prop
  | [] => True
  | v :: rest => Readable depth v ∧ ReadableItems depth rest

/-- Readable members of an object. -/
def ReadableMembers (depth : Nat) : List (String × Json) → Prop
  | [] => True
  | (_, v) :: rest => Readable depth v ∧ ReadableMembers depth rest

end

theorem readableMembers_iff {depth : Nat} {members : List (String × Json)} :
    ReadableMembers depth members ↔ ∀ m ∈ members, m.2.Readable depth := by
  induction members with
  | nil => exact ⟨fun _ _ h => (nomatch h), fun _ => trivial⟩
  | cons m rest ih =>
      rw [List.forall_mem_cons, ← ih]
      exact Iff.rfl

theorem delimited_cons {c : Char} (h : c = ',' ∨ c = '\n') (rest : List Symbol) :
    Delimited (some c :: rest) := by
  rintro s hs
  obtain rfl := Option.some.inj hs
  rcases h with rfl | rfl <;> decide

/-- What follows a value on its lines delimits it. -/
theorem delimited_lineBreak (depth : Nat) (rest : List Symbol) :
    Delimited ((lineBreak depth).map some ++ rest) :=
  delimited_cons (.inr rfl) _

theorem ofSymbols_lineBreak (depth : Nat) (rest : List Symbol) :
    ofSymbols ((lineBreak depth).map some ++ rest) = ofSymbols rest := by
  have hblanks : ∀ n, ofSymbols ((List.replicate n ' ').map some ++ rest) = ofSymbols rest := by
    intro n
    induction n with
    | zero => rfl
    | succ n ih => exact (Token.ofSymbols_space (by decide)).trans ih
  exact (Token.ofSymbols_space (by decide)).trans (hblanks _)

/-- A token of one character. -/
theorem ofSymbols_punctuation {c : Char} {t : Token} (hc : Token.punctuation? c = some t)
    (hspace : Token.isSpace (some c) = false) (rest : List Symbol) :
    ofSymbols (some c :: rest) = t :: ofSymbols rest := by
  have hnext : Token.next c rest = (t, rest) := by simp [Token.next, hc]
  rw [Token.ofSymbols_cons hspace, hnext]

/-- A word. -/
theorem ofSymbols_word {c : Char} {word : List Char} {t : Token}
    (hpunctuation : Token.punctuation? c = none) (hquote : c ≠ '"')
    (hc : Token.word? c = some (word, t)) (hspace : Token.isSpace (some c) = false)
    (rest : List Symbol) :
    ofSymbols ((c :: word).map some ++ rest) = t :: ofSymbols rest := by
  have hscan : Token.scanWord word (word.map some ++ rest) = .ok rest := by
    clear hc
    induction word with
    | nil => rfl
    | cons d word ih => simpa [Token.scanWord] using ih
  have hnext : Token.next c (word.map some ++ rest) = (t, rest) := by
    simp [Token.next, hpunctuation, hquote, hc, hscan]
  show ofSymbols (some c :: (word.map some ++ rest)) = _
  rw [Token.ofSymbols_cons hspace, hnext]

mutual

/-- The text of a readable document consists of its tokens, whatever follows that
delimits it. -/
theorem ofSymbols_pretty {depth : Nat} (level : Nat) :
    ∀ (j : Json), j.Readable depth → ∀ {rest : List Symbol}, Delimited rest →
      ofSymbols ((prettyChars level j).map some ++ rest) = j.tokens ++ ofSymbols rest
  | .null, _, rest, _ => ofSymbols_word rfl (by decide) rfl (by decide) rest
  | .boolean true, _, rest, _ => ofSymbols_word rfl (by decide) rfl (by decide) rest
  | .boolean false, _, rest, _ => ofSymbols_word rfl (by decide) rfl (by decide) rest
  | .number _, h, _, hrest => Number.ofSymbols_encode h hrest
  | .text s, _, rest, _ => ofSymbols_quote s rest
  | .list [], _, rest, _ =>
      (ofSymbols_punctuation (c := '[') rfl (by decide) _).trans
        (congrArg (_ :: ·) (ofSymbols_punctuation (c := ']') rfl (by decide) rest))
  | .list (v :: items), h, rest, _ => by
      have hitems := ofSymbols_prettyItems (level + 1) (v :: items) h.2
        (delimited_lineBreak level (some ']' :: rest))
      rw [ofSymbols_lineBreak, ofSymbols_punctuation (c := ']') rfl (by decide)] at hitems
      have hsymbols : (prettyChars level (.list (v :: items))).map some ++ rest =
          some '[' :: ((prettyItems (level + 1) (v :: items)).map some ++
            ((lineBreak level).map some ++ some ']' :: rest)) := by
        simp [prettyChars]
      rw [hsymbols, ofSymbols_punctuation (c := '[') rfl (by decide), hitems, tokens]
      simp
  | .record [], _, rest, _ =>
      (ofSymbols_punctuation (c := '\x7b') rfl (by decide) _).trans
        (congrArg (_ :: ·) (ofSymbols_punctuation (c := '\x7d') rfl (by decide) rest))
  | .record (m :: members), h, rest, _ => by
      have hmembers := ofSymbols_prettyMembers (level + 1) (m :: members) h.2
        (delimited_lineBreak level (some '\x7d' :: rest))
      rw [ofSymbols_lineBreak, ofSymbols_punctuation (c := '\x7d') rfl (by decide)] at hmembers
      have hsymbols : (prettyChars level (.record (m :: members))).map some ++ rest =
          some '\x7b' :: ((prettyMembers (level + 1) (m :: members)).map some ++
            ((lineBreak level).map some ++ some '\x7d' :: rest)) := by
        simp [prettyChars]
      rw [hsymbols, ofSymbols_punctuation (c := '\x7b') rfl (by decide), hmembers, tokens]
      simp

theorem ofSymbols_prettyItems {depth : Nat} (level : Nat) :
    ∀ (items : List Json), ReadableItems depth items → ∀ {rest : List Symbol}, Delimited rest →
      ofSymbols ((prettyItems level items).map some ++ rest) = itemTokens items ++ ofSymbols rest
  | [], _, _, _ => rfl
  | [v], h, rest, hrest => by
      rw [prettyItems, List.map_append, List.append_assoc, ofSymbols_lineBreak,
        ofSymbols_pretty level v h.1 hrest, itemTokens, moreItemTokens, List.append_nil]
  | v :: w :: items, h, rest, hrest => by
      have hmore := ofSymbols_prettyItems level (w :: items) h.2 hrest
      have hv := ofSymbols_pretty level v h.1
        (delimited_cons (.inl rfl) ((prettyItems level (w :: items)).map some ++ rest))
      rw [ofSymbols_punctuation (c := ',') rfl (by decide), hmore] at hv
      have hsymbols : (prettyItems level (v :: w :: items)).map some ++ rest =
          (lineBreak level).map some ++ ((prettyChars level v).map some ++
            (some ',' :: ((prettyItems level (w :: items)).map some ++ rest))) := by
        simp [prettyItems]
      rw [hsymbols, ofSymbols_lineBreak, hv]
      simp [itemTokens, moreItemTokens]

theorem ofSymbols_prettyMembers {depth : Nat} (level : Nat) :
    ∀ (members : List (String × Json)), ReadableMembers depth members →
      ∀ {rest : List Symbol}, Delimited rest →
        ofSymbols ((prettyMembers level members).map some ++ rest) =
          memberTokens members ++ ofSymbols rest
  | [], _, _, _ => rfl
  | [(k, v)], h, rest, hrest => by
      have hv := ofSymbols_pretty level v h.1 hrest
      have hsymbols : (prettyMembers level [(k, v)]).map some ++ rest =
          (lineBreak level).map some ++ ((quote k).map some ++
            (some ':' :: some ' ' :: ((prettyChars level v).map some ++ rest))) := by
        simp [prettyMembers]
      rw [hsymbols, ofSymbols_lineBreak, ofSymbols_quote,
        ofSymbols_punctuation (c := ':') rfl (by decide), Token.ofSymbols_space (by decide), hv]
      simp [memberTokens, moreMemberTokens]
  | (k, v) :: w :: members, h, rest, hrest => by
      have hmore := ofSymbols_prettyMembers level (w :: members) h.2 hrest
      have hv := ofSymbols_pretty level v h.1
        (delimited_cons (.inl rfl) ((prettyMembers level (w :: members)).map some ++ rest))
      rw [ofSymbols_punctuation (c := ',') rfl (by decide), hmore] at hv
      have hsymbols : (prettyMembers level ((k, v) :: w :: members)).map some ++ rest =
          (lineBreak level).map some ++ ((quote k).map some ++
            (some ':' :: some ' ' :: ((prettyChars level v).map some ++
              (some ',' :: ((prettyMembers level (w :: members)).map some ++ rest))))) := by
        simp [prettyMembers]
      rw [hsymbols, ofSymbols_lineBreak, ofSymbols_quote,
        ofSymbols_punctuation (c := ':') rfl (by decide), Token.ofSymbols_space (by decide), hv]
      simp [memberTokens, moreMemberTokens]

end

end RemoteSigner.Json
