import RemoteSigner.Bytes.Hex
import RemoteSigner.Text.Numeral
import RemoteSigner.Toml.Value

/-!
# Keys, strings and plain values of TOML

A reader takes the characters of a text and gives what it read with the
characters after it, or nothing where the text breaks the grammar.
-/

namespace RemoteSigner.Toml

/-- What is read from the front of a text, and the rest of it. -/
abbrev Reader (α : Type) := List Char → Option (α × List Char)

/-- A blank inside a line. -/
def isGap (c : Char) : Bool :=
  c = ' ' || c = '\t'

/-- Drop blanks. -/
def dropGap (cs : List Char) : List Char :=
  cs.dropWhile isGap

/-- Drop a line end. -/
def dropNewline? : List Char → Option (List Char)
  | '\n' :: rest => some rest
  | '\r' :: '\n' :: rest => some rest
  | _ => none

/-- A character that may stand in a comment or a literal string. -/
def isPlain (c : Char) : Bool :=
  c = '\t' || (0x20 ≤ c.toNat && c.toNat ≠ 0x7F)

/-- Drop a comment, if there is one, up to the end of its line. -/
def dropComment : List Char → List Char
  | '#' :: rest => rest.dropWhile isPlain
  | cs => cs

/-- Drop what may follow a statement on its line, with the line end. -/
def dropLineEnd? (cs : List Char) : Option (List Char) :=
  match dropComment (dropGap cs) with
  | [] => some []
  | rest => dropNewline? rest

/-! ## Strings -/

/-- The character with a code given by hexadecimal digits. -/
def codePoint? (digits : List Char) : Option Char :=
  if digits.all Hex.isDigit then
    let n := digits.foldl (fun n c => n * 16 + (Hex.value? c).getD 0) 0
    if n < 0xD800 ∨ (0xDFFF < n ∧ n < 0x110000) then some (Char.ofNat n) else none
  else none

/-- The character behind a backslash and one letter. -/
def escaped? : Char → Option Char
  | 'b' => some '\x08'
  | 't' => some '\t'
  | 'n' => some '\n'
  | 'f' => some '\x0c'
  | 'r' => some '\r'
  | '"' => some '"'
  | '\\' => some '\\'
  | _ => none

/-- Put a character before what a reader gives. -/
def prepend (c : Char) : Option (List Char × List Char) → Option (List Char × List Char)
  | some (cs, rest) => some (c :: cs, rest)
  | none => none

/-- The characters of a basic string, from behind its quote. -/
def basicChars : Reader (List Char)
  | [] => none
  | '"' :: rest => some ([], rest)
  | '\\' :: 'u' :: a :: b :: c :: d :: rest =>
      match codePoint? [a, b, c, d] with
      | some ch => prepend ch (basicChars rest)
      | none => none
  | '\\' :: 'U' :: a :: b :: c :: d :: e :: f :: g :: h :: rest =>
      match codePoint? [a, b, c, d, e, f, g, h] with
      | some ch => prepend ch (basicChars rest)
      | none => none
  | '\\' :: c :: rest =>
      match escaped? c with
      | some ch => prepend ch (basicChars rest)
      | none => none
  | c :: rest => if isPlain c && c ≠ '\\' then prepend c (basicChars rest) else none

/-- The characters of a literal string, from behind its quote. -/
def literalChars : Reader (List Char)
  | [] => none
  | '\'' :: rest => some ([], rest)
  | c :: rest => if isPlain c then prepend c (literalChars rest) else none

/-- Whether only blanks stand before the end of the line. -/
def endsLine (cs : List Char) : Bool :=
  (dropNewline? (dropGap cs)).isSome

/-- The end of a string of several lines at three or more quotes: two of them
may belong to the string. -/
def closing (quote : Char) (cs : List Char) : Option (List Char × List Char) :=
  let count := (cs.takeWhile (· = quote)).length
  if 3 ≤ count then
    let own := min (count - 3) 2
    some (List.replicate own quote, cs.drop (own + 3))
  else none

/-- The characters of a basic string of several lines. While `folding`, blanks
and line ends after a backslash are passed over. -/
def basicLines (folding : Bool) : Reader (List Char)
  | [] => none
  | c :: rest =>
      if folding && (isGap c || c = '\n' || (c = '\r' && rest.head? = some '\n')) then
        basicLines true rest
      else if c = '"' then
        match closing '"' (c :: rest) with
        | some found => some found
        | none => prepend c (basicLines false rest)
      else if c = '\r' then
        if rest.head? = some '\n' then basicLines false rest else none
      else if c = '\n' then prepend c (basicLines false rest)
      else if c = '\\' then
        if endsLine rest then basicLines true rest
        else
          match rest with
          | 'u' :: a :: b :: e :: d :: rest =>
              match codePoint? [a, b, e, d] with
              | some ch => prepend ch (basicLines false rest)
              | none => none
          | 'U' :: a :: b :: e :: d :: f :: g :: h :: i :: rest =>
              match codePoint? [a, b, e, d, f, g, h, i] with
              | some ch => prepend ch (basicLines false rest)
              | none => none
          | e :: rest =>
              match escaped? e with
              | some ch => prepend ch (basicLines false rest)
              | none => none
          | [] => none
      else if isPlain c then prepend c (basicLines false rest)
      else none

/-- The characters of a literal string of several lines. -/
def literalLines : Reader (List Char)
  | [] => none
  | c :: rest =>
      if c = '\'' then
        match closing '\'' (c :: rest) with
        | some found => some found
        | none => prepend c (literalLines rest)
      else if c = '\r' then if rest.head? = some '\n' then literalLines rest else none
      else if c = '\n' || isPlain c then prepend c (literalLines rest)
      else none

/-- Drop a line end at the front, if there is one. -/
def dropFirstNewline (cs : List Char) : List Char :=
  (dropNewline? cs).getD cs

/-- A string, from its first quote on. -/
def readString : Reader String
  | '"' :: '"' :: '"' :: rest => (basicLines false (dropFirstNewline rest)).map keep
  | '"' :: rest => (basicChars rest).map keep
  | '\'' :: '\'' :: '\'' :: rest => (literalLines (dropFirstNewline rest)).map keep
  | '\'' :: rest => (literalChars rest).map keep
  | _ => none
where
  /-- Make a string of the characters. -/
  keep (found : List Char × List Char) : String × List Char := (String.ofList found.1, found.2)

/-! ## Keys -/

/-- A character of a bare key. -/
def isBare (c : Char) : Bool :=
  c.isAlphanum || c = '-' || c = '_'

/-- One part of a key, between blanks. -/
def readKeyPart (cs : List Char) : Option (String × List Char) :=
  match dropGap cs with
  | '"' :: rest => (basicChars rest).map fun (k, rest) => (String.ofList k, dropGap rest)
  | '\'' :: rest => (literalChars rest).map fun (k, rest) => (String.ofList k, dropGap rest)
  | cs =>
      let key := cs.takeWhile isBare
      if key.isEmpty then none else some (String.ofList key, dropGap (cs.dropWhile isBare))

/-- The parts of a key, at most `fuel` of them. -/
def readKey : Nat → Reader (List String)
  | 0, _ => none
  | fuel + 1, cs =>
      match readKeyPart cs with
      | none => none
      | some (part, '.' :: rest) =>
          (readKey fuel rest).map fun (parts, rest) => (part :: parts, rest)
      | some (part, rest) => some ([part], rest)

/-! ## Numbers, truth values, dates and times -/

/-- The digits of a number, with single underscores between them. -/
def digitsOf? (isDigit : Char → Bool) : List Char → Option (List Char)
  | [] => none
  | [c] => if isDigit c then some [c] else none
  | c :: '_' :: rest => if isDigit c then (digitsOf? isDigit rest).map (c :: ·) else none
  | c :: rest => if isDigit c then (digitsOf? isDigit rest).map (c :: ·) else none

/-- The value of digits in a base. -/
def valueOf (base : Nat) (cs : List Char) : Nat :=
  cs.foldl (fun n c => n * base + (Hex.value? c).getD 0) 0

/-- Whether a character is a digit of a base. -/
def isDigitOf (base : Nat) (c : Char) : Bool :=
  match Hex.value? c with
  | some v => v < base
  | none => false

/-- The digits of a decimal integer, without leading zeros. -/
def decimalDigits? (cs : List Char) : Option (List Char) :=
  match digitsOf? (isDigitOf 10) cs with
  | some ('0' :: _ :: _) => none
  | found => found

/-- The bound of integers: their 64 bits hold one sign. -/
def integerBound : Nat := 9223372036854775808

/-- A number in a base behind its mark, up to the largest signed 64-bit one. -/
def basedInteger? (base : Nat) (cs : List Char) : Option Toml :=
  match digitsOf? (isDigitOf base) cs with
  | none => none
  | some digits =>
      let n := valueOf base digits
      if n < integerBound then some (.integer n) else none

/-- The sign of a numeral, and its digits. -/
def splitSign : List Char → Bool × List Char
  | '-' :: rest => (true, rest)
  | '+' :: rest => (false, rest)
  | cs => (false, cs)

/-- A decimal integer with 64 bits. -/
def decimalInteger? (cs : List Char) : Option Toml :=
  let (negative, cs) := splitSign cs
  match decimalDigits? cs with
  | none => none
  | some digits =>
      let n := valueOf 10 digits
      if negative then if n ≤ integerBound then some (.integer (-(n : Int))) else none
      else if n < integerBound then some (.integer n) else none

/-- Whether characters are an exponent behind its letter. -/
def isExponent (cs : List Char) : Bool :=
  (digitsOf? (isDigitOf 10) (splitSign cs).2).isSome

/-- Whether characters are a number with fraction or exponent, or one that is
not finite. -/
def isFloat (cs : List Char) : Bool :=
  let body := (splitSign cs).2
  if body = ['i', 'n', 'f'] || body = ['n', 'a', 'n'] then true
  else
    let isMark (c : Char) : Bool := c = '.' || c = 'e' || c = 'E'
    let whole := body.takeWhile fun c => !isMark c
    (decimalDigits? whole).isSome &&
      match body.dropWhile fun c => !isMark c with
      | '.' :: rest =>
          let isLetter (c : Char) : Bool := c = 'e' || c = 'E'
          (digitsOf? (isDigitOf 10) (rest.takeWhile fun c => !isLetter c)).isSome &&
            match rest.dropWhile fun c => !isLetter c with
            | [] => true
            | _ :: exponent => isExponent exponent
      | _ :: exponent => isExponent exponent
      | [] => false

/-- The number of exactly `count` decimal digits. -/
def exactly? (count : Nat) (cs : List Char) : Option Nat :=
  if cs.length = count && cs.all (isDigitOf 10) then some (valueOf 10 cs) else none

/-- The number of days of a month. -/
def daysOf (year month : Nat) : Nat :=
  if month = 2 then
    if year % 4 = 0 && (year % 100 ≠ 0 || year % 400 = 0) then 29 else 28
  else if month = 4 || month = 6 || month = 9 || month = 11 then 30 else 31

/-- Whether ten characters are a date. -/
def isDate (cs : List Char) : Bool :=
  match cs with
  | [a, b, c, d, '-', e, f, '-', g, h] =>
      match exactly? 4 [a, b, c, d], exactly? 2 [e, f], exactly? 2 [g, h] with
      | some year, some month, some day =>
          1 ≤ month && month ≤ 12 && 1 ≤ day && day ≤ daysOf year month
      | _, _, _ => false
  | _ => false

/-- Whether characters are two numbers below the given bounds with a colon
between. -/
def isClock (hours minutes : Nat) : List Char → Bool
  | [a, b, ':', c, d] =>
      match exactly? 2 [a, b], exactly? 2 [c, d] with
      | some h, some m => h < hours && m < minutes
      | _, _ => false
  | _ => false

/-- Whether characters are the fraction of a second, or nothing. -/
def isFraction : List Char → Bool
  | [] => true
  | '.' :: digits => !digits.isEmpty && digits.all (isDigitOf 10)
  | _ => false

/-- Whether characters are a time of day. -/
def isTime (cs : List Char) : Bool :=
  isClock 24 60 (cs.take 5) &&
    match cs.drop 5 with
    | ':' :: a :: b :: fraction =>
        (match exactly? 2 [a, b] with
          | some s => s ≤ 60
          | none => false) && isFraction fraction
    | _ => false

/-- Whether characters are a time of day with or without an offset. -/
def isTimeWithOffset (cs : List Char) : Bool :=
  match cs.getLast? with
  | some 'Z' | some 'z' => isTime cs.dropLast
  | _ =>
      isTime cs ||
        (6 ≤ cs.length &&
          match cs.drop (cs.length - 6) with
          | sign :: offset =>
              (sign = '+' || sign = '-') && isClock 24 60 offset && isTime (cs.take (cs.length - 6))
          | [] => false)

/-- Whether characters are a date, a time or both. -/
def isMoment (cs : List Char) : Bool :=
  if isDate cs || isTime cs then true
  else
    isDate (cs.take 10) &&
      match cs.drop 10 with
      | c :: time => (c = 'T' || c = 't' || c = ' ') && isTimeWithOffset time
      | [] => false

/-- The value of a word. -/
def wordValue? (cs : List Char) : Option Toml :=
  match cs with
  | ['t', 'r', 'u', 'e'] => some (.boolean true)
  | ['f', 'a', 'l', 's', 'e'] => some (.boolean false)
  | '0' :: 'x' :: digits => basedInteger? 16 digits
  | '0' :: 'o' :: digits => basedInteger? 8 digits
  | '0' :: 'b' :: digits => basedInteger? 2 digits
  | cs =>
      match decimalInteger? cs with
      | some v => some v
      | none =>
          if isFloat cs then some (.float (String.ofList cs))
          else if isMoment cs then some (.moment (String.ofList cs))
          else none

/-- A character of a word. -/
def isWordChar (c : Char) : Bool :=
  c.isAlphanum || c = '+' || c = '-' || c = '_' || c = '.' || c = ':'

/-- Whether the blank behind a date leads on to a time. -/
def leadsToTime : List Char → Bool
  | ' ' :: a :: b :: ':' :: _ => a.isDigit && b.isDigit
  | _ => false

/-- A value that is one word; a date may be followed by a blank and a time. -/
def readWord (cs : List Char) : Option (Toml × List Char) :=
  let word := cs.takeWhile isWordChar
  let rest := cs.dropWhile isWordChar
  if isDate word && leadsToTime rest then
    let more := rest.drop 1
    (wordValue? (word ++ ' ' :: more.takeWhile isWordChar)).map fun v =>
      (v, more.dropWhile isWordChar)
  else (wordValue? word).map fun v => (v, rest)

end RemoteSigner.Toml
