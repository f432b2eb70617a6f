import Mathlib.Data.List.DropRight
import RemoteSigner.Proofs.Bytes.Hex
import RemoteSigner.SignerId

/-!
# Names of signers

A spelling that can be read has the digits of its key as normal form
(`normalize_of_parse`), and the digits tell keys apart (`text_inj`). The keys that some
spelling names are those of at least one byte (`valid_iff`), and its digits are one, with or
without a marker (`parse_text`, `parse_marked`). The spellings of a key are its digits in any
case, with at most one marker and with blanks around (`parse_iff_spells`). Any text at all has
a normal form, from which nothing can be taken any more (`normal_normalize`). Main result:
`identifier_canonical`.
-/

namespace RemoteSigner

namespace Text

/-- Outside ASCII a character is its own small form. -/
theorem toLower_cases (c : Char) : (∃ m < 128, c = Char.ofNat m) ∨ c.toLower = c := by
  rcases Nat.lt_or_ge c.toNat 128 with hlow | hhigh
  · exact .inl ⟨c.toNat, hlow, (Char.ofNat_toNat c).symm⟩
  · unfold Char.toLower
    exact .inr (dif_neg fun hupper => absurd (lt_of_le_of_lt (UInt32.le_iff_toNat_le.mp hupper.2)
      (show 'Z'.val.toNat < 128 by decide)) (not_lt.mpr hhigh))

theorem isBlank_toLower (c : Char) : isBlank c.toLower = isBlank c := by
  have hall : ∀ m < 128, isBlank (Char.ofNat m).toLower = isBlank (Char.ofNat m) := by
    decide +kernel
  obtain ⟨m, hm, rfl⟩ | hsame := toLower_cases c
  · exact hall m hm
  · rw [hsame]

theorem toLower_toLower (c : Char) : c.toLower.toLower = c.toLower := by
  have hall : ∀ m < 128, (Char.ofNat m).toLower.toLower = (Char.ofNat m).toLower := by
    decide +kernel
  obtain ⟨m, hm, rfl⟩ | hsame := toLower_cases c
  · exact hall m hm
  · rw [hsame, hsame]

theorem dropMarker_suffix (cs : List Char) : dropMarker cs <:+ cs := by
  unfold dropMarker
  split
  · exact (List.suffix_cons ..).trans (List.suffix_cons ..)
  · exact List.suffix_refl _

theorem lower_lower (cs : List Char) : lower (lower cs) = lower cs := by
  rw [lower, lower, List.map_map]
  exact List.map_congr_left fun c _ => toLower_toLower c

/-- Either there is a marker to drop, or everything stays. -/
theorem dropMarker_cases (cs : List Char) :
    (∃ rest, cs = '0' :: 'x' :: rest ∧ dropMarker cs = rest) ∨
      (∀ rest, cs ≠ '0' :: 'x' :: rest) ∧ dropMarker cs = cs := by
  unfold dropMarker
  split
  · exact .inl ⟨_, rfl, rfl⟩
  · rename_i hunmarked
    exact .inr ⟨hunmarked, rfl⟩

/-- Small letters stay as they are, with or without a marker. -/
theorem lower_dropMarker_lower (cs : List Char) :
    lower (dropMarker (lower cs)) = dropMarker (lower cs) := by
  have hsmall : ∀ c ∈ dropMarker (lower cs), c.toLower = c := by
    intro c hc
    obtain ⟨d, _, rfl⟩ := List.mem_map.mp ((dropMarker_suffix _).subset hc)
    exact toLower_toLower d
  exact (List.map_congr_left hsmall).trans (List.map_id _)

theorem trim_lower (cs : List Char) : trim (lower cs) = lower (trim cs) := by
  have hblank : isBlank ∘ Char.toLower = isBlank := funext isBlank_toLower
  unfold trim lower
  rw [List.dropWhile_map, hblank, ← List.map_reverse, List.dropWhile_map, hblank, List.map_reverse]

theorem dropWhile_eq_self {cs : List Char} (h : ∀ c ∈ cs, isBlank c = false) :
    cs.dropWhile isBlank = cs := by
  cases cs with
  | nil => rfl
  | cons c rest => rw [List.dropWhile_cons, h c List.mem_cons_self, if_neg (by simp)]

/-- Trimming takes off the blanks at both ends. -/
theorem trim_between {before core after : List Char}
    (hblank : ∀ c ∈ before ++ after, isBlank c = true) (hcore : ∀ c ∈ core, isBlank c = false) :
    trim (before ++ core ++ after) = core := by
  have hbefore : ∀ c ∈ before, isBlank c = true := fun c hc =>
    hblank c (List.mem_append_left _ hc)
  have hafter : ∀ c ∈ after, isBlank c = true := fun c hc => hblank c (List.mem_append_right _ hc)
  unfold trim
  rw [List.append_assoc, List.dropWhile_append_of_pos hbefore]
  cases core with
  | nil => simp [List.dropWhile_eq_nil_iff.mpr hafter]
  | cons c rest =>
      rw [List.cons_append, List.dropWhile_cons, hcore c List.mem_cons_self, if_neg (by simp),
        ← List.cons_append, List.reverse_append,
        List.dropWhile_append_of_pos fun c hc => hafter c (List.mem_reverse.mp hc),
        dropWhile_eq_self fun c hc => hcore c (List.mem_reverse.mp hc), List.reverse_reverse]

/-- What has no blanks needs no trimming. -/
theorem trim_eq_self {cs : List Char} (h : ∀ c ∈ cs, isBlank c = false) : trim cs = cs := by
  have hbetween : trim ([] ++ cs ++ []) = cs := trim_between (by simp) h
  rwa [List.nil_append, List.append_nil] at hbetween

theorem trim_trim (cs : List Char) : trim (trim cs) = trim cs := by
  have hends : ∀ l, trim l = (l.dropWhile isBlank).rdropWhile isBlank := fun _ => rfl
  -- what trimming leaves begins as the text does behind its blanks
  have hfront : (trim cs).dropWhile isBlank = trim cs := by
    obtain ⟨after, hafter⟩ := List.rdropWhile_prefix isBlank (cs.dropWhile isBlank)
    rw [← hends] at hafter
    generalize trim cs = core at hafter ⊢
    cases core with
    | nil => rfl
    | cons c rest =>
        have hhead := List.head?_dropWhile_not isBlank cs
        rw [← hafter] at hhead
        rw [List.dropWhile_cons, show isBlank c = false from hhead, if_neg (by simp)]
  rw [hends (trim cs), hfront, hends, List.rdropWhile_idempotent]

theorem exists_trim (cs : List Char) : ∃ before after, cs = before ++ trim cs ++ after ∧
    ∀ c ∈ before ++ after, isBlank c = true := by
  refine ⟨cs.takeWhile isBlank, ((cs.dropWhile isBlank).reverse.takeWhile isBlank).reverse,
    ?_, fun c hc => ?_⟩
  · unfold trim
    rw [List.append_assoc, ← List.reverse_append, List.takeWhile_append_dropWhile,
      List.reverse_reverse, List.takeWhile_append_dropWhile]
  · rcases List.mem_append.mp hc with hc | hc
    · exact List.mem_takeWhile_imp hc
    · exact List.mem_takeWhile_imp (List.mem_reverse.mp hc)

end Text

namespace Hex

theorem isBlank_of_isDigit {c : Char} (h : isDigit c = true) : Text.isBlank c = false := by
  have hnone : "0123456789abcdefABCDEF".toList.all (fun d => !Text.isBlank d) = true := by decide
  simpa using List.all_eq_true.mp hnone c (isDigit_iff_mem.mp h)

/-- Digits do not begin with a marker. -/
theorem unmarked_of_isDigit {cs : List Char} (h : ∀ c ∈ cs, isDigit c = true) (rest : List Char) :
    cs ≠ '0' :: 'x' :: rest := by
  rintro rfl
  have hx := h 'x' (by simp)
  cases hx

theorem isDigit_of_mem_digits {c : Char} {bytes : Bytes} (h : c ∈ digits bytes) :
    isDigit c = true := by
  obtain ⟨n, hn, rfl⟩ := mem_digits h
  exact isDigit_digit hn

theorem digits_unmarked (bytes : Bytes) (rest : List Char) : digits bytes ≠ '0' :: 'x' :: rest :=
  unmarked_of_isDigit (fun _ => isDigit_of_mem_digits) rest

theorem lower_digits (bytes : Bytes) : Text.lower (digits bytes) = digits bytes :=
  (digits_of_decodeChars (decodeChars_digits bytes)).symm

end Hex

namespace SignerId

theorem text_inj {a b : SignerId} (h : a.text = b.text) : a = b := by
  cases a
  cases b
  exact congrArg SignerId.mk (Hex.encode_inj h)

theorem marked_inj {a b : SignerId} (h : a.marked = b.marked) : a = b := by
  have hdigits := congrArg String.toList h
  simp only [marked, Hex.encodeMarked, String.toList_append, List.append_cancel_left_eq] at hdigits
  exact text_inj (String.toList_inj.mp hdigits)

/-- Stripping goes on behind a marker. -/
theorem strip_marker {cs rest : List Char} (h : Text.trim cs = '0' :: 'x' :: rest) :
    strip cs = strip rest := by
  rw [strip]
  split
  · rename_i rest' hmarked
    rw [h] at hmarked
    obtain rfl : rest = rest' := by simpa using hmarked
    rfl
  · rename_i hnone
    exact absurd h (hnone rest)

/-- Without a marker it ends. -/
theorem strip_unmarked {cs : List Char} (h : ∀ rest, Text.trim cs ≠ '0' :: 'x' :: rest) :
    strip cs = Text.trim cs := by
  rw [strip]
  split
  · rename_i rest hmarked
    exact absurd hmarked (h rest)
  · rfl

/-- Stripping leaves digits as they are. -/
theorem strip_digits {cs : List Char} (h : ∀ c ∈ cs, Hex.isDigit c = true) : strip cs = cs := by
  have htrim : Text.trim cs = cs := Text.trim_eq_self fun c hc => Hex.isBlank_of_isDigit (h c hc)
  rw [strip_unmarked (htrim.symm ▸ Hex.unmarked_of_isDigit h), htrim]

/-- The text of a key is a normal form. -/
theorem normalize_text (id : SignerId) : normalize id.text = id.text := by
  have hdigits : ∀ c ∈ Hex.digits id.key, Hex.isDigit c = true :=
    fun c hc => Hex.isDigit_of_mem_digits hc
  rw [normalize, text, Hex.encode, String.toList_ofList, Hex.lower_digits, strip_digits hdigits]

/-- A spelling is read as a key of at least one byte if the digits in it are those of the
key. -/
theorem parse_eq_ok {raw : String} {id : SignerId} : parse raw = .ok id ↔ id.key ≠ [] ∧
    Hex.decodeChars (Text.dropMarker (Text.lower (Text.trim raw.toList))) = .ok id.key := by
  unfold parse
  simp only
  generalize Text.dropMarker (Text.lower (Text.trim raw.toList)) = digits
  cases hdecode : Hex.decodeChars digits with
  | error fault =>
      refine iff_of_false (fun h => ?_) fun h => by cases h.2
      split at h <;> cases h
  | ok key =>
      by_cases hempty : digits = []
      · obtain rfl := (Hex.eq_nil_iff_of_decodeChars hdecode).mpr hempty
        rw [if_pos (by simp [hempty])]
        exact iff_of_false (fun h => by cases h) fun ⟨hne, h⟩ => hne (Except.ok.inj h).symm
      · rw [if_neg (by simpa using hempty)]
        constructor
        · intro h
          obtain rfl := Except.ok.inj h
          exact ⟨fun hkey => hempty ((Hex.eq_nil_iff_of_decodeChars hdecode).mp hkey), rfl⟩
        · rintro ⟨_, h⟩
          obtain rfl := Except.ok.inj h
          rfl

/-- The normal form of a spelling that can be read is the text of its key. -/
theorem normalize_of_parse {raw : String} {id : SignerId} (h : parse raw = .ok id) :
    normalize raw = id.text := by
  have hdecode := (parse_eq_ok.mp h).2
  have hdigits := (Hex.decodeChars_eq_ok.mp hdecode).1
  have hlower : Text.lower (Text.dropMarker (Text.lower (Text.trim raw.toList))) =
      Text.dropMarker (Text.lower (Text.trim raw.toList)) := Text.lower_dropMarker_lower _
  have hstrip : strip (Text.lower raw.toList) =
      Text.dropMarker (Text.lower (Text.trim raw.toList)) := by
    rw [← Text.trim_lower] at hdigits ⊢
    obtain ⟨rest, hmarked, hrest⟩ | ⟨hunmarked, hall⟩ :=
      Text.dropMarker_cases (Text.trim (Text.lower raw.toList))
    · -- behind the one marker there are digits, so nothing more is taken
      rw [hrest] at hdigits ⊢
      rw [strip_marker hmarked, strip_digits hdigits]
    · rw [hall, strip_unmarked hunmarked]
  rw [normalize, hstrip, text, Hex.encode, Hex.digits_of_decodeChars hdecode, hlower]

/-! ## Spellings -/

/-- A text spells a key: the digits of the key in any case, with or without one marker before
them, and blanks around. -/
def Spells (raw : String) (id : SignerId) : Prop :=
  ∃ before marker digits after : List Char,
    raw.toList = before ++ (marker ++ digits) ++ after ∧
      (∀ c ∈ before ++ after, Text.isBlank c = true) ∧
      (marker = [] ∨ Text.lower marker = ['0', 'x']) ∧ Text.lower digits = Hex.digits id.key

theorem isBlank_of_lower {cs ds : List Char} (h : Text.lower cs = ds)
    (hds : ∀ c ∈ ds, Text.isBlank c = false) : ∀ c ∈ cs, Text.isBlank c = false := by
  intro c hc
  rw [← Text.isBlank_toLower]
  exact hds _ (h ▸ List.mem_map_of_mem hc)

theorem dropMarker_digits (key : Bytes) : Text.dropMarker (Hex.digits key) = Hex.digits key := by
  obtain ⟨rest, hmarked, _⟩ | ⟨_, hall⟩ := Text.dropMarker_cases (Hex.digits key)
  · exact absurd hmarked (Hex.digits_unmarked key rest)
  · exact hall

/-- What is read as a key are its spellings. -/
theorem parse_iff_spells {raw : String} {id : SignerId} :
    parse raw = .ok id ↔ id.key ≠ [] ∧ Spells raw id := by
  rw [parse_eq_ok]
  refine and_congr_right fun _ => ⟨fun hdecode => ?_, ?_⟩
  · obtain ⟨before, after, hraw, hblank⟩ := Text.exists_trim raw.toList
    generalize Text.trim raw.toList = core at hdecode hraw
    have hdigits := Hex.digits_of_decodeChars hdecode
    rw [Text.lower_dropMarker_lower] at hdigits
    obtain ⟨rest, hmarked, hdrop⟩ | ⟨_, hall⟩ := Text.dropMarker_cases (Text.lower core)
    · -- the marker may have been written in capitals
      obtain ⟨a, tail, rfl, ha, htail⟩ := List.map_eq_cons_iff.mp hmarked
      obtain ⟨b, digits, rfl, hb, hrest⟩ := List.map_eq_cons_iff.mp htail
      exact ⟨before, [a, b], digits, after, hraw, hblank, .inr (by simp [Text.lower, ha, hb]),
        hrest.trans (hdrop.symm.trans hdigits.symm)⟩
    · exact ⟨before, [], core, after, hraw, hblank, .inl rfl, hall.symm.trans hdigits.symm⟩
  · rintro ⟨before, marker, digits, after, hraw, hblank, hmarker, hdigits⟩
    have hnodigit : ∀ c ∈ digits, Text.isBlank c = false :=
      isBlank_of_lower hdigits fun c hc => Hex.isBlank_of_isDigit (Hex.isDigit_of_mem_digits hc)
    have hnomarker : ∀ c ∈ marker, Text.isBlank c = false := by
      rcases hmarker with rfl | hmarker
      · simp
      · exact isBlank_of_lower hmarker
          (List.forall_mem_cons.mpr ⟨rfl, List.forall_mem_singleton.mpr rfl⟩)
    have htrim : Text.trim raw.toList = marker ++ digits := by
      rw [hraw]
      exact Text.trim_between hblank fun c hc =>
        (List.mem_append.mp hc).elim (hnomarker c) (hnodigit c)
    have hcore : Text.dropMarker (Text.lower (marker ++ digits)) = Hex.digits id.key := by
      rw [Text.lower, List.map_append, ← Text.lower, ← Text.lower, hdigits]
      rcases hmarker with rfl | hmarker
      · exact dropMarker_digits id.key
      · rw [hmarker]
        rfl
    rw [htrim, hcore, Hex.decodeChars_digits]

/-! ## Valid identifiers -/

/-- An identifier that some spelling names. -/
def Valid (id : SignerId) : Prop :=
  ∃ raw, parse raw = .ok id

/-- The marked digits of a key name it, unless there are none. -/
theorem parse_marked {id : SignerId} (h : id.key ≠ []) : parse id.marked = .ok id :=
  parse_iff_spells.mpr ⟨h, [], ['0', 'x'], Hex.digits id.key, [],
    by simp [marked, Hex.encodeMarked, Hex.encode], by simp, .inr rfl, Hex.lower_digits id.key⟩

/-- So do the digits alone. -/
theorem parse_text {id : SignerId} (h : id.key ≠ []) : parse id.text = .ok id :=
  parse_iff_spells.mpr ⟨h, [], [], Hex.digits id.key, [], by simp [text, Hex.encode], by simp,
    .inl rfl, Hex.lower_digits id.key⟩

/-- A spelling names a key of at least one byte. -/
theorem key_ne_nil_of_parse {raw : String} {id : SignerId} (h : parse raw = .ok id) :
    id.key ≠ [] :=
  (parse_eq_ok.mp h).1

/-- Every key of at least one byte is valid. -/
theorem valid_iff {id : SignerId} : id.Valid ↔ id.key ≠ [] :=
  ⟨fun ⟨_, h⟩ => key_ne_nil_of_parse h, fun h => ⟨id.marked, parse_marked h⟩⟩

/-! ## Normal forms -/

/-- Small letters without blanks at the ends and without a marker. -/
structure Normal (cs : List Char) : Prop where
  small : Text.lower cs = cs
  trimmed : Text.trim cs = cs
  unmarked : ∀ rest, cs ≠ '0' :: 'x' :: rest

theorem strip_of_normal {cs : List Char} (h : Normal cs) : strip cs = cs := by
  rw [strip_unmarked (h.trimmed.symm ▸ h.unmarked), h.trimmed]

/-- Stripping goes on until nothing can be taken any more. -/
theorem normal_strip {cs : List Char} (h : Text.lower cs = cs) : Normal (strip cs) := by
  induction cs using strip.induct with
  | case1 cs rest htrim ih =>
      -- what stands behind the marker is in small letters, too
      have hsmall : Text.lower ('0' :: 'x' :: rest) = '0' :: 'x' :: rest := by
        rw [← htrim, ← Text.trim_lower, h]
      rw [strip_marker htrim]
      exact ih (by simpa [Text.lower] using hsmall)
  | case2 cs hunmarked =>
      rw [strip_unmarked hunmarked]
      exact ⟨by rw [← Text.trim_lower, h], Text.trim_trim cs, hunmarked⟩

theorem normal_normalize (raw : String) : Normal (normalize raw).toList := by
  rw [normalize, String.toList_ofList]
  exact normal_strip (Text.lower_lower _)

theorem normalize_of_normal {raw : String} (h : Normal raw.toList) : normalize raw = raw := by
  rw [normalize, h.small, strip_of_normal h, String.ofList_toList]

/-- A text of hexadecimal digits, two for each of one byte or more. -/
structure HexText (cs : List Char) : Prop where
  nonempty : cs ≠ []
  even : cs.length % 2 = 0
  digits : ∀ c ∈ cs, c ∈ "0123456789abcdefABCDEF".toList

/-- A spelling can be read exactly if it has such digits between the blanks, behind one marker
or none. -/
theorem exists_parse_iff {raw : String} : (∃ id, parse raw = .ok id) ↔
    HexText (Text.dropMarker (Text.lower (Text.trim raw.toList))) := by
  simp only [parse_eq_ok]
  generalize Text.dropMarker (Text.lower (Text.trim raw.toList)) = cs
  constructor
  · rintro ⟨id, hkey, hdecode⟩
    obtain ⟨hdigits, heven, _⟩ := Hex.decodeChars_eq_ok.mp hdecode
    exact ⟨fun hnone => hkey ((Hex.eq_nil_iff_of_decodeChars hdecode).mpr hnone), heven,
      fun c hc => Hex.isDigit_iff_mem.mp (hdigits c hc)⟩
  · rintro ⟨hnonempty, heven, hdigits⟩
    have hdecode : Hex.decodeChars cs = .ok (Hex.pairs cs) := Hex.decodeChars_eq_ok.mpr
      ⟨fun c hc => Hex.isDigit_iff_mem.mpr (hdigits c hc), heven, rfl⟩
    exact ⟨⟨Hex.pairs cs⟩, fun hnone =>
      hnonempty ((Hex.eq_nil_iff_of_decodeChars hdecode).mp hnone), hdecode⟩

/-- The key is what the digits of the identifier stand for. -/
theorem decode_text (id : SignerId) : Hex.decode id.text = .ok id.key := by
  rw [Hex.decode, text, Hex.encode, String.toList_ofList, Hex.decodeChars_digits]

/-- Spellings are read as one identifier exactly if they spell one key. -/
theorem parse_same_iff {a b : String} : (∃ id, parse a = .ok id ∧ parse b = .ok id) ↔
    ∃ key, key ≠ [] ∧ Spells a ⟨key⟩ ∧ Spells b ⟨key⟩ := by
  simp only [parse_iff_spells]
  exact ⟨fun ⟨id, ⟨hkey, ha⟩, _, hb⟩ => ⟨id.key, hkey, ha, hb⟩,
    fun ⟨key, hkey, ha, hb⟩ => ⟨⟨key⟩, ⟨hkey, ha⟩, hkey, hb⟩⟩

/-- Identifiers are canonical names of byte strings. Every text has a normal form, which is its
own. A text is read exactly if it is made of digits for whole bytes, at least one, with at most
one marker and with blanks around. Its normal form then is the text of the identifier, which
names the identifier again, as the marked text does, and has the key in its digits. Texts are
read as one identifier exactly if they spell the same bytes, and every byte string is named by
an identifier whose text gives it back. -/
theorem identifier_canonical :
    (∀ raw, Normal (normalize raw).toList ∧ normalize (normalize raw) = normalize raw) ∧
      (∀ raw, (∃ id, parse raw = .ok id) ↔
        HexText (Text.dropMarker (Text.lower (Text.trim raw.toList)))) ∧
      (∀ raw id, parse raw = .ok id →
        id.text = normalize raw ∧ parse id.text = .ok id ∧ parse id.marked = .ok id ∧
          (Hex.decode id.text).map SignerId.mk = .ok id) ∧
      (∀ a b, (∃ id, parse a = .ok id ∧ parse b = .ok id) ↔
        ∃ key, key ≠ [] ∧ Spells a ⟨key⟩ ∧ Spells b ⟨key⟩) ∧
      ∀ key : Bytes, Hex.decode (SignerId.mk key).text = .ok key := by
  refine ⟨fun raw => ⟨normal_normalize raw, normalize_of_normal (normal_normalize raw)⟩,
    fun raw => exists_parse_iff, fun raw id h => ?_, fun a b => parse_same_iff,
    fun key => decode_text ⟨key⟩⟩
  have hkey := key_ne_nil_of_parse h
  rw [decode_text]
  exact ⟨(normalize_of_parse h).symm, parse_text hkey, parse_marked hkey, rfl⟩

/-- Two spellings of one key, with blanks outside ASCII and a marker in capitals. -/
theorem wideSpelling_canonical :
    parse "\u2003 0XaB01\u0085" = .ok ⟨[0xab, 0x01]⟩ ∧
      normalize "\u2003 0XaB01\u0085" = "ab01" ∧ parse "ab01" = .ok ⟨[0xab, 0x01]⟩ ∧
      parse "0xab01" = .ok ⟨[0xab, 0x01]⟩ ∧
      Hex.decode (SignerId.mk [0xab, 0x01]).text = .ok [0xab, 0x01] := by
  obtain ⟨_, _, hread, _, hnamed⟩ := identifier_canonical
  have hparse : parse "\u2003 0XaB01\u0085" = .ok ⟨[0xab, 0x01]⟩ := by decide
  obtain ⟨htext, hagain, hmarked, _⟩ := hread _ _ hparse
  exact ⟨hparse, htext.symm.trans (by decide), hagain, hmarked, hnamed _⟩

end SignerId

end RemoteSigner
