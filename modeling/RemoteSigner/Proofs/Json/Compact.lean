import RemoteSigner.Proofs.Json.RoundTrip

/-!
# Reading a document without blanks

The compact text of a document consists of the same tokens as its pretty text
(`ofSymbols_compact`), so it is decoded alike (`ofText_compact`).
-/

namespace RemoteSigner.Json

open Token (ofSymbols)

/-- A comma or a closing bracket delimits what stands before it. -/
theorem delimited_punctuation {c : Char} (h : c = ',' ∨ c = ']' ∨ c = '\x7d')
    (rest : List Symbol) : Delimited (some c :: rest) := by
  rintro s hs
  obtain rfl := Option.some.inj hs
  rcases h with rfl | rfl | rfl <;> decide

mutual

/-- The compact text of a readable document consists of its tokens, whatever follows that
delimits it. -/
theorem ofSymbols_compact {depth : Nat} :
    ∀ (j : Json), j.Readable depth → ∀ {rest : List Symbol}, Delimited rest →
      ofSymbols ((compactChars j).map some ++ rest) = j.tokens ++ ofSymbols rest
  | .null, _, rest, _ => ofSymbols_word rfl (by decide) rfl (by decide) rest
  | .boolean true, _, rest, _ => ofSymbols_word rfl (by decide) rfl (by decide) rest
  | .boolean false, _, rest, _ => ofSymbols_word rfl (by decide) rfl (by decide) rest
  | .number _, h, _, hrest => Number.ofSymbols_encode h hrest
  | .text s, _, rest, _ => ofSymbols_quote s rest
  | .list items, h, rest, _ => by
      have hitems := ofSymbols_compactItems items h.2 (delimited_punctuation (.inr (.inl rfl)) rest)
      rw [ofSymbols_punctuation (c := ']') rfl (by decide)] at hitems
      have hsymbols : (compactChars (.list items)).map some ++ rest =
          some '[' :: ((compactItems items).map some ++ some ']' :: rest) := by
        simp [compactChars]
      rw [hsymbols, ofSymbols_punctuation (c := '[') rfl (by decide), hitems, tokens]
      simp
  | .record members, h, rest, _ => by
      have hmembers := ofSymbols_compactMembers members h.2
        (delimited_punctuation (.inr (.inr rfl)) rest)
      rw [ofSymbols_punctuation (c := '\x7d') rfl (by decide)] at hmembers
      have hsymbols : (compactChars (.record members)).map some ++ rest =
          some '\x7b' :: ((compactMembers members).map some ++ some '\x7d' :: rest) := by
        simp [compactChars]
      rw [hsymbols, ofSymbols_punctuation (c := '\x7b') rfl (by decide), hmembers, tokens]
      simp

theorem ofSymbols_compactItems {depth : Nat} :
    ∀ (items : List Json), ReadableItems depth items → ∀ {rest : List Symbol}, Delimited rest →
      ofSymbols ((compactItems items).map some ++ rest) = itemTokens items ++ ofSymbols rest
  | [], _, _, _ => rfl
  | [v], h, rest, hrest => by
      rw [compactItems, ofSymbols_compact v h.1 hrest, itemTokens, moreItemTokens, List.append_nil]
  | v :: w :: items, h, rest, hrest => by
      have hmore := ofSymbols_compactItems (w :: items) h.2 hrest
      have hv := ofSymbols_compact v h.1 (delimited_punctuation (.inl rfl)
        ((compactItems (w :: items)).map some ++ rest))
      rw [ofSymbols_punctuation (c := ',') rfl (by decide), hmore] at hv
      have hsymbols : (compactItems (v :: w :: items)).map some ++ rest =
          (compactChars v).map some ++
            (some ',' :: ((compactItems (w :: items)).map some ++ rest)) := by
        simp [compactItems]
      rw [hsymbols, hv]
      simp [itemTokens, moreItemTokens]

theorem ofSymbols_compactMembers {depth : Nat} :
    ∀ (members : List (String × Json)), ReadableMembers depth members →
      ∀ {rest : List Symbol}, Delimited rest →
        ofSymbols ((compactMembers members).map some ++ rest) =
          memberTokens members ++ ofSymbols rest
  | [], _, _, _ => rfl
  | [(k, v)], h, rest, hrest => by
      have hv := ofSymbols_compact v h.1 hrest
      have hsymbols : (compactMembers [(k, v)]).map some ++ rest =
          (quote k).map some ++ (some ':' :: ((compactChars v).map some ++ rest)) := by
        simp [compactMembers]
      rw [hsymbols, ofSymbols_quote, ofSymbols_punctuation (c := ':') rfl (by decide), hv]
      simp [memberTokens, moreMemberTokens]
  | (k, v) :: w :: members, h, rest, hrest => by
      have hmore := ofSymbols_compactMembers (w :: members) h.2 hrest
      have hv := ofSymbols_compact v h.1 (delimited_punctuation (.inl rfl)
        ((compactMembers (w :: members)).map some ++ rest))
      rw [ofSymbols_punctuation (c := ',') rfl (by decide), hmore] at hv
      have hsymbols : (compactMembers ((k, v) :: w :: members)).map some ++ rest =
          (quote k).map some ++ (some ':' :: ((compactChars v).map some ++
            (some ',' :: ((compactMembers (w :: members)).map some ++ rest)))) := by
        simp [compactMembers]
      rw [hsymbols, ofSymbols_quote, ofSymbols_punctuation (c := ':') rfl (by decide), hv]
      simp [memberTokens, moreMemberTokens]

end

/-- Decoding the compact text of a readable document is decoding what it echoes. -/
theorem ofText_compact {α : Type} (decode : Decoder α) {j : Json} (h : j.Readable nestingBound) :
    decode.ofText j.compact = decode nestingBound j.echo := by
  refine ofText_tokens decode ?_
  have hcompact : ofSymbols ((compactChars j).map some ++ []) = _ :=
    ofSymbols_compact j h (by simp [Delimited])
  rw [List.append_nil, Token.ofSymbols_nil, List.append_nil] at hcompact
  rw [compact, String.toList_ofList, hcompact]

end RemoteSigner.Json
