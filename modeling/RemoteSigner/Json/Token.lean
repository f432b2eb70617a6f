import RemoteSigner.Json.Number

/-!
# JSON tokens

The text of a document as tokens. A token that cannot be read to its end is
the last one and carries its fault: a reader that decodes the value and one
that skips it can see different faults, because skipping accepts unpaired
surrogates and any magnitude.
-/

namespace RemoteSigner.Json

/-- A character, or nothing for a byte that begins none. -/
abbrev Symbol := Option Char

/-- A piece of a string between its quotes. -/
inductive Piece where
  /-- A character as it stands, or a short escape. -/
  | character (c : Char) (escaped : Bool)
  /-- A four-digit escape. -/
  | unit (value : Nat)
  /-- A byte that begins no character. -/
  | badByte
deriving DecidableEq, Repr

/-- Where a string ends. -/
inductive TextEnd where
  /-- At its quote; the rest of the text follows. -/
  | closed (rest : List Symbol)
  /-- At the end of the text. -/
  | endOfText
  /-- At a backslash before an unknown character. -/
  | badEscape
  /-- At a four-digit escape that is none, or that the text cuts short. -/
  | badUnit (cut : Bool)
  /-- At a control character. -/
  | control
deriving DecidableEq, Repr

/-- A string as written, from behind its opening quote. -/
structure WrittenText where
  pieces : List Piece
  ending : TextEnd
deriving DecidableEq, Repr

namespace WrittenText

/-- The text with one more piece in front. -/
def cons (p : Piece) (t : WrittenText) : WrittenText :=
  { t with pieces := p :: t.pieces }

/-- The character a short escape stands for. -/
def shortEscape? : Char → Option Char
  | '"' => some '"'
  | '\\' => some '\\'
  | '/' => some '/'
  | 'b' => some '\x08'
  | 'f' => some '\x0c'
  | 'n' => some '\n'
  | 'r' => some '\r'
  | 't' => some '\t'
  | _ => none

/-- The value of a hexadecimal digit of either case. -/
def hexValue? (c : Symbol) : Option Nat :=
  c.bind fun c =>
    let n := c.toNat
    if 48 ≤ n ∧ n ≤ 57 then some (n - 48)
    else if 97 ≤ n ∧ n ≤ 102 then some (n - 87)
    else if 65 ≤ n ∧ n ≤ 70 then some (n - 55)
    else none

/-- The value of four hexadecimal digits. -/
def hexUnit? (a b c d : Symbol) : Option Nat := do
  let a ← hexValue? a
  let b ← hexValue? b
  let c ← hexValue? c
  let d ← hexValue? d
  pure (((a * 16 + b) * 16 + c) * 16 + d)

/-- The bytes that symbols take up. -/
def byteCount (symbols : List Symbol) : Nat :=
  symbols.foldr (fun s n => s.elim 1 Char.utf8Size + n) 0

/-- Read a string from behind its opening quote. -/
def scan : List Symbol → WrittenText
  | [] => ⟨[], .endOfText⟩
  | some '"' :: rest => ⟨[], .closed rest⟩
  | some '\\' :: some 'u' :: a :: b :: c :: d :: rest =>
      match hexUnit? a b c d with
      | some n => cons (.unit n) (scan rest)
      | none => ⟨[], .badUnit false⟩
  | some '\\' :: some 'u' :: rest => ⟨[], .badUnit (byteCount rest < 4)⟩
  | some '\\' :: some c :: rest =>
      match shortEscape? c with
      | some ch => cons (.character ch true) (scan rest)
      | none => ⟨[], .badEscape⟩
  | some '\\' :: none :: _ => ⟨[], .badEscape⟩
  | [some '\\'] => ⟨[], .endOfText⟩
  | some c :: rest =>
      if c.toNat < 32 then ⟨[], .control⟩ else cons (.character c false) (scan rest)
  | none :: rest => cons .badByte (scan rest)

/-- The fault of the end of a string, if it is not closed. -/
def endFault : TextEnd → Option GrammarError
  | .closed _ => none
  | .endOfText => some .endInText
  | .badEscape => some .invalidEscape
  | .badUnit cut => some (if cut then .endInText else .invalidEscape)
  | .control => some .controlCharacter

/-- The fault of a string that ends behind a high surrogate. -/
def endAfterHigh : TextEnd → GrammarError
  | .endOfText => .endInText
  | .badUnit cut => if cut then .endInText else .invalidEscape
  | _ => .unpairedEscape

/-- Resolve the pieces of a string in reading order. The flag tells whether a
byte that begins no character was passed. -/
def resolve (ending : TextEnd) : Bool → List Piece → Except GrammarError (List Char)
  | bad, [] =>
      match endFault ending with
      | some e => .error e
      | none => if bad then .error .invalidUnicode else .ok []
  | bad, .character c _ :: rest => (resolve ending bad rest).map (c :: ·)
  | _, .badByte :: rest => resolve ending true rest
  | bad, .unit n :: rest =>
      if 0xDC00 ≤ n ∧ n ≤ 0xDFFF then .error .loneSurrogate
      else if n < 0xD800 ∨ 0xDBFF < n then (resolve ending bad rest).map (Char.ofNat n :: ·)
      else
        match rest with
        | .unit low :: rest =>
            if 0xDC00 ≤ low ∧ low ≤ 0xDFFF then
              (resolve ending bad rest).map
                (Char.ofNat ((n - 0xD800) * 1024 + (low - 0xDC00) + 0x10000) :: ·)
            else .error .loneSurrogate
        | [] => .error (endAfterHigh ending)
        | _ => .error .unpairedEscape

/-- The string that was written. -/
def value (t : WrittenText) : Except GrammarError String :=
  (resolve t.ending false t.pieces).map String.ofList

end WrittenText

/-- A token of a document. -/
inductive Token where
  | openRecord
  | closeRecord
  | openList
  | closeList
  | comma
  | colon
  | null
  | boolean (value : Bool)
  | number (value : Except GrammarError Number)
  | text (value : Except GrammarError String)
  /-- A character no token begins with. -/
  | junk
  /-- A string not read to its end: the fault of decoding and of skipping it. -/
  | brokenText (decoding skipping : GrammarError)
  /-- A word or numeral not read to its end. -/
  | broken (decoding skipping : GrammarError)

namespace Token

/-- Whether a symbol is a blank between tokens. -/
def isSpace (s : Symbol) : Bool :=
  s == some ' ' || s == some '\n' || s == some '\t' || s == some '\r'

/-- Whether a symbol is a decimal digit. -/
def isDigit (s : Symbol) : Bool :=
  s.any RemoteSigner.Numeral.isDigit

/-- The leading digits. -/
def digits (symbols : List Symbol) : List Char :=
  (symbols.takeWhile isDigit).filterMap id

/-- What follows the leading digits. -/
def afterDigits (symbols : List Symbol) : List Symbol :=
  symbols.dropWhile isDigit

/-- A fault of a numeral: the one of decoding and the one of skipping. -/
abbrev NumeralFault := GrammarError × GrammarError

/-- The fault of a missing digit. -/
def missingDigit (rest : List Symbol) : NumeralFault :=
  (if rest.isEmpty then .endInValue else .invalidNumber, .invalidNumber)

/-- The whole digits of a numeral; a zero stands alone. -/
def scanWhole (symbols : List Symbol) : Except NumeralFault (List Char × List Symbol) :=
  match digits symbols with
  | [] => .error (missingDigit symbols)
  | '0' :: _ :: _ => .error (.invalidNumber, .invalidNumber)
  | ds => .ok (ds, afterDigits symbols)

/-- The digits behind a point, if there is one. -/
def scanFraction : List Symbol → Except NumeralFault (Option (List Char) × List Symbol)
  | some '.' :: rest =>
      if (digits rest).isEmpty then .error (missingDigit rest)
      else .ok (some (digits rest), afterDigits rest)
  | symbols => .ok (none, symbols)

/-- The sign and digits of an exponent. -/
def scanExponentDigits (down : Bool) (symbols : List Symbol) :
    Except NumeralFault (Option (Bool × List Char) × List Symbol) :=
  if (digits symbols).isEmpty then .error (missingDigit symbols)
  else .ok (some (down, digits symbols), afterDigits symbols)

/-- The exponent, if there is one. -/
def scanExponent : List Symbol → Except NumeralFault (Option (Bool × List Char) × List Symbol)
  | some c :: rest =>
      if c = 'e' ∨ c = 'E' then
        match rest with
        | some '+' :: rest => scanExponentDigits false rest
        | some '-' :: rest => scanExponentDigits true rest
        | rest => scanExponentDigits false rest
      else .ok (none, some c :: rest)
  | symbols => .ok (none, symbols)

/-- Read a numeral from behind its sign. -/
def scanNumeral (negative : Bool) (symbols : List Symbol) :
    Except NumeralFault (Numeral × List Symbol) := do
  let (whole, rest) ← scanWhole symbols
  let (fraction, rest) ← scanFraction rest
  let (exponent, rest) ← scanExponent rest
  pure (⟨negative, whole, fraction, exponent⟩, rest)

/-- Read the rest of a word. -/
def scanWord : List Char → List Symbol → Except GrammarError (List Symbol)
  | [], rest => .ok rest
  | _, [] => .error .endInValue
  | c :: word, s :: rest => if s = some c then scanWord word rest else .error .expectedWord

/-- A token of one character. -/
def punctuation? : Char → Option Token
  | '\x7b' => some .openRecord
  | '\x7d' => some .closeRecord
  | '[' => some .openList
  | ']' => some .closeList
  | ',' => some .comma
  | ':' => some .colon
  | _ => none

/-- The rest of a word and its token. -/
def word? : Char → Option (List Char × Token)
  | 'n' => some (['u', 'l', 'l'], .null)
  | 't' => some (['r', 'u', 'e'], .boolean true)
  | 'f' => some (['a', 'l', 's', 'e'], .boolean false)
  | _ => none

/-- The first token of a text without leading blanks, and what follows it. A
broken token is followed by nothing. -/
def next (c : Char) (rest : List Symbol) : Token × List Symbol :=
  match punctuation? c with
  | some t => (t, rest)
  | none =>
      if c = '"' then
        let t := WrittenText.scan rest
        match t.ending with
        | .closed rest => (.text t.value, rest)
        | ending =>
            let skipping := (WrittenText.endFault ending).getD .endInText
            let decoding := match t.value with
              | .error e => e
              | .ok _ => skipping
            (.brokenText decoding skipping, [])
      else
        match word? c with
        | some (word, t) =>
            match scanWord word rest with
            | .ok rest => (t, rest)
            | .error e => (.broken e e, [])
        | none =>
            if c = '-' ∨ RemoteSigner.Numeral.isDigit c then
              let scanned :=
                if c = '-' then scanNumeral true rest else scanNumeral false (some c :: rest)
              match scanned with
              | .ok (n, rest) => (.number n.value, rest)
              | .error (decoding, skipping) => (.broken decoding skipping, [])
            else (.junk, rest)

/-- The tokens of a text, by at most `fuel` steps. -/
def scan : Nat → List Symbol → List Token
  | 0, _ => []
  | _, [] => []
  | fuel + 1, s :: rest =>
      if isSpace s then scan fuel rest
      else
        match s with
        | none => .junk :: scan fuel rest
        | some c =>
            let (t, rest) := next c rest
            t :: scan fuel rest

/-- The tokens of a text. Each step takes at least one symbol. -/
def ofSymbols (symbols : List Symbol) : List Token :=
  scan symbols.length symbols

end Token

end RemoteSigner.Json
