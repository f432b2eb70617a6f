import RemoteSigner.Json.Decode
import RemoteSigner.Proofs.Json.Printing

/-!
# Reading a printed document

The tokens of a document are read as what it echoes (`value_tokens`), which makes the same
document but for the digits that doubles lose (`toJson_echo`). So a decoder that is given
the text of a readable document decodes what the document echoes (`ofText_pretty`).
-/

namespace RemoteSigner.Json

open Token (ofSymbols)
open Reading (value firstItem nextItem memberValue firstMember nextMember toJson toItems toMembers)

mutual

/-- What is read of a printed document. -/
def echo : Json → Reading
  | .null => .null
  | .boolean b => .boolean b
  | .number n => .number (.ok n.reread)
  | .text s => .text (.ok s)
  | .list items => .list (echoItems items) .closed
  | .record members => .record (echoMembers members) .closed

/-- What is read of the elements of an array. -/
def echoItems : List Json → List Reading
  | [] => []
  | v :: rest => echo v :: echoItems rest

/-- What is read of the members of an object. -/
def echoMembers : List (String × Json) → List (Reading.Key × Reading)
  | [] => []
  | (k, v) :: rest => (.ok k, echo v) :: echoMembers rest

end

/-- The first token of a document is that of a value. -/
theorem tokens_ne_close (j : Json) : ∃ t more, j.tokens = t :: more ∧ t ≠ .closeList := by
  cases j <;> exact ⟨_, _, rfl, by simp⟩

theorem length_tokens_pos (j : Json) : 1 ≤ j.tokens.length := by
  obtain ⟨t, more, h, _⟩ := j.tokens_ne_close
  rw [h]
  exact Nat.succ_pos _

/-! ## Steps of a reader -/

section Steps

variable {fuel : Nat} {t : Token} {ts rest rest' : List Token} {v : Reading} {k : Reading.Key}
  {items : List Reading} {members : List (Reading.Key × Reading)} {stop : Stop}

theorem value_openList (h : firstItem fuel ts = (items, stop, rest)) :
    value (fuel + 1) (.openList :: ts) = (.list items stop, rest) := by
  simp [value, h]

theorem value_openRecord (h : firstMember fuel ts = (members, stop, rest)) :
    value (fuel + 1) (.openRecord :: ts) = (.record members stop, rest) := by
  simp [value, h]

theorem firstItem_value (ht : t ≠ .closeList) (hv : value fuel (t :: ts) = (v, rest))
    (h : nextItem fuel rest = (items, stop, rest')) :
    firstItem (fuel + 1) (t :: ts) = (v :: items, stop, rest') := by
  rw [firstItem, hv]
  · simp [h]
  · simp
  · exact fun _ hclose => ht (List.cons.inj hclose).1

theorem nextItem_value (ht : t ≠ .closeList) (hv : value fuel (t :: ts) = (v, rest))
    (h : nextItem fuel rest = (items, stop, rest')) :
    nextItem (fuel + 1) (.comma :: t :: ts) = (v :: items, stop, rest') := by
  rw [nextItem, hv]
  · simp [h]
  · simp
  · exact fun _ hclose => ht (List.cons.inj hclose).1

theorem firstMember_value (hv : value fuel ts = (v, rest))
    (h : nextMember (fuel + 1) rest = (members, stop, rest')) :
    firstMember (fuel + 2) (.text k :: .colon :: ts) = ((k, v) :: members, stop, rest') := by
  simp [firstMember, memberValue, hv, h]

theorem nextMember_value (hv : value fuel ts = (v, rest))
    (h : nextMember (fuel + 1) rest = (members, stop, rest')) :
    nextMember (fuel + 2) (.comma :: .text k :: .colon :: ts) =
      ((k, v) :: members, stop, rest') := by
  simp [nextMember, memberValue, hv, h]

end Steps

mutual

/-- The tokens of a document are read as what it echoes, by as much fuel as twice their
number. -/
theorem value_tokens : ∀ (j : Json) {fuel : Nat} (rest : List Token), 2 * j.tokens.length ≤ fuel →
    value fuel (j.tokens ++ rest) = (j.echo, rest)
  | .null, 0, _, h => by simp [tokens] at h
  | .null, _ + 1, _, _ => rfl
  | .boolean _, 0, _, h => by simp [tokens] at h
  | .boolean _, _ + 1, _, _ => rfl
  | .number _, 0, _, h => by simp [tokens] at h
  | .number _, _ + 1, _, _ => rfl
  | .text _, 0, _, h => by simp [tokens] at h
  | .text _, _ + 1, _, _ => rfl
  | .list _, 0, _, h => by simp [tokens] at h
  | .list items, fuel + 1, rest, h => by
      rw [tokens, List.length_cons, List.length_append, List.length_singleton] at h
      rw [tokens, List.cons_append, List.append_assoc]
      exact value_openList (firstItem_tokens items rest (by omega))
  | .record _, 0, _, h => by simp [tokens] at h
  | .record members, fuel + 1, rest, h => by
      rw [tokens, List.length_cons, List.length_append, List.length_singleton] at h
      rw [tokens, List.cons_append, List.append_assoc]
      exact value_openRecord (firstMember_tokens members rest (by omega))

theorem firstItem_tokens : ∀ (items : List Json) {fuel : Nat} (rest : List Token),
    2 * (itemTokens items).length + 1 ≤ fuel →
      firstItem fuel (itemTokens items ++ .closeList :: rest) = (echoItems items, .closed, rest)
  | _, 0, _, h => by omega
  | [], _ + 1, _, _ => rfl
  | v :: items, fuel + 1, rest, h => by
      rw [itemTokens, List.length_append] at h
      have hpos := v.length_tokens_pos
      have hv : value fuel _ = _ :=
        value_tokens v (moreItemTokens items ++ .closeList :: rest) (by omega)
      have hmore : nextItem fuel _ = _ := nextItem_tokens items rest (by omega)
      obtain ⟨t, more, ht, hclose⟩ := v.tokens_ne_close
      rw [itemTokens, List.append_assoc]
      rw [ht, List.cons_append] at hv ⊢
      exact firstItem_value hclose hv hmore

theorem nextItem_tokens : ∀ (items : List Json) {fuel : Nat} (rest : List Token),
    2 * (moreItemTokens items).length + 1 ≤ fuel →
      nextItem fuel (moreItemTokens items ++ .closeList :: rest) = (echoItems items, .closed, rest)
  | _, 0, _, h => by omega
  | [], _ + 1, _, _ => rfl
  | v :: items, fuel + 1, rest, h => by
      rw [moreItemTokens, List.length_cons, List.length_append] at h
      have hv : value fuel _ = _ :=
        value_tokens v (moreItemTokens items ++ .closeList :: rest) (by omega)
      have hmore : nextItem fuel _ = _ := nextItem_tokens items rest (by omega)
      obtain ⟨t, more, ht, hclose⟩ := v.tokens_ne_close
      rw [moreItemTokens, List.cons_append, List.append_assoc]
      rw [ht, List.cons_append] at hv ⊢
      exact nextItem_value hclose hv hmore

theorem firstMember_tokens : ∀ (members : List (String × Json)) {fuel : Nat} (rest : List Token),
    2 * (memberTokens members).length + 1 ≤ fuel →
      firstMember fuel (memberTokens members ++ .closeRecord :: rest) =
        (echoMembers members, .closed, rest)
  | _, 0, _, h => by omega
  | [], _ + 1, _, _ => rfl
  | (_, v) :: _, 1, _, h => by
      rw [memberTokens, List.length_cons] at h
      omega
  | (k, v) :: members, fuel + 2, rest, h => by
      rw [memberTokens, List.length_cons, List.length_cons, List.length_append] at h
      rw [memberTokens, List.cons_append, List.cons_append, List.append_assoc]
      exact firstMember_value (value_tokens v _ (by omega))
        (nextMember_tokens members rest (by omega))

theorem nextMember_tokens : ∀ (members : List (String × Json)) {fuel : Nat} (rest : List Token),
    2 * (moreMemberTokens members).length + 1 ≤ fuel →
      nextMember fuel (moreMemberTokens members ++ .closeRecord :: rest) =
        (echoMembers members, .closed, rest)
  | _, 0, _, h => by omega
  | [], _ + 1, _, _ => rfl
  | (_, v) :: _, 1, _, h => by
      rw [moreMemberTokens, List.length_cons] at h
      omega
  | (k, v) :: members, fuel + 2, rest, h => by
      rw [moreMemberTokens, List.length_cons, List.length_cons, List.length_cons,
        List.length_append] at h
      rw [moreMemberTokens, List.cons_append, List.cons_append, List.cons_append, List.append_assoc]
      exact nextMember_value (value_tokens v _ (by omega))
        (nextMember_tokens members rest (by omega))

end

/-! ## Whole documents -/

mutual

/-- A document with its numbers as they are read back. -/
def reread : Json → Json
  | .null => .null
  | .boolean b => .boolean b
  | .number n => .number n.reread
  | .text s => .text s
  | .list items => .list (rereadItems items)
  | .record members => .record (rereadMembers members)

/-- The elements of an array, each as it is read back. -/
def rereadItems : List Json → List Json
  | [] => []
  | v :: rest => reread v :: rereadItems rest

/-- The members of an object, each as it is read back. -/
def rereadMembers : List (String × Json) → List (String × Json)
  | [] => []
  | (k, v) :: rest => (k, reread v) :: rereadMembers rest

end

mutual

/-- A readable document is read back as a whole. -/
theorem toJson_echo : ∀ (j : Json) {depth : Nat}, j.Readable depth →
    j.echo.toJson depth = .ok j.reread
  | .null, _, _ => rfl
  | .boolean _, _, _ => rfl
  | .number _, _, _ => rfl
  | .text _, _, _ => rfl
  | .list items, depth, h => by
      rw [echo, toJson, if_neg (by have := h.1; omega), toItems_echo items h.2]
      rfl
  | .record members, depth, h => by
      rw [echo, toJson, if_neg (by have := h.1; omega), toMembers_echo members h.2]
      rfl

theorem toItems_echo : ∀ (items : List Json) {depth : Nat}, ReadableItems depth items →
    toItems depth (echoItems items) = .ok (rereadItems items)
  | [], _, _ => rfl
  | v :: items, depth, h => by
      rw [echoItems, toItems, toJson_echo v h.1, toItems_echo items h.2]
      rfl

theorem toMembers_echo : ∀ (members : List (String × Json)) {depth : Nat},
    ReadableMembers depth members →
      toMembers depth (echoMembers members) = .ok (rereadMembers members)
  | [], _, _ => rfl
  | (k, v) :: members, depth, h => by
      rw [echoMembers, toMembers, toJson_echo v h.1, toMembers_echo members h.2]
      rfl

end

/-- Decoding a text that consists of the tokens of a document is decoding what it echoes. -/
theorem ofText_tokens {α : Type} (decode : Decoder α) {j : Json} {text : String}
    (htokens : ofSymbols (text.toList.map some) = j.tokens) :
    decode.ofText text = decode nestingBound j.echo := by
  have hread : Reading.ofTokens j.tokens = (j.echo, false) := by
    have hvalue : value (2 * j.tokens.length + 2) _ = _ := value_tokens j [] (by omega)
    rw [List.append_nil] at hvalue
    rw [Reading.ofTokens, hvalue]
    rfl
  rw [Decoder.ofText, Decoder.run, htokens, hread]
  simp only
  generalize decode nestingBound j.echo = outcome
  cases outcome <;> rfl

/-- Decoding the text of a readable document is decoding what it echoes. -/
theorem ofText_pretty {α : Type} (decode : Decoder α) {j : Json} (h : j.Readable nestingBound) :
    decode.ofText j.pretty = decode nestingBound j.echo := by
  refine ofText_tokens decode ?_
  have hpretty : ofSymbols ((prettyChars 0 j).map some ++ []) = _ :=
    ofSymbols_pretty 0 j h (by simp [Delimited])
  rw [List.append_nil, Token.ofSymbols_nil, List.append_nil] at hpretty
  rw [pretty, String.toList_ofList, hpretty]

end RemoteSigner.Json
