import RemoteSigner.Bytes.Hex
import RemoteSigner.Text.CombiningClassTable
import RemoteSigner.Text.DecompositionTable

/-!
# Compatibility decomposition

The normal form in which every character is replaced by its full
decomposition and marks on one base stand in the order of their classes
(form NFKD). Hangul syllables decompose by arithmetic, all others by a table.
-/

namespace RemoteSigner.Text

/-- A row of code points with a common rule. -/
structure Row where
  first : Nat
  count : Nat
  value : List Nat

/-- The number written in hexadecimal digits. -/
def hexNumber (cs : List Char) : Nat :=
  cs.foldl (fun n c => n * 16 + (Hex.value? c).getD 0) 0

/-- Read an entry of a table. -/
def Row.ofEntry (entry : String) : Row :=
  let cs := entry.toList
  let points := cs.takeWhile (· != '=')
  let values := (cs.dropWhile (· != '=')).drop 1
  let count := (points.dropWhile (· != '+')).drop 1
  { first := hexNumber (points.takeWhile (· != '+'))
    count := if count.isEmpty then 1 else hexNumber count
    value := (String.ofList values).splitOn "," |>.map fun s => hexNumber s.toList }

/-- The rows of a table. -/
def rowsOf (lines : List String) : Array Row :=
  (lines.flatMap fun line => (line.splitOn " ").map Row.ofEntry).toArray

/-- The rows of the decomposition table. -/
def decompositionRows : Array Row :=
  rowsOf decompositionLines

/-- The rows of the class table. -/
def combiningClassRows : Array Row :=
  rowsOf combiningClassLines

/-- The row with a code point among rows in order, looked for from `lo` on and
before `hi` by halving. -/
def findRow (rows : Array Row) (n : Nat) : Nat → Nat → Nat → Option Row
  | 0, _, _ => none
  | fuel + 1, lo, hi =>
      if hi ≤ lo then none
      else
        let mid := (lo + hi) / 2
        match rows[mid]? with
        | none => none
        | some row =>
            if n < row.first then findRow rows n fuel lo mid
            else if n < row.first + row.count then some row
            else findRow rows n fuel (mid + 1) hi

/-- The row with a code point. -/
def Row.find? (rows : Array Row) (n : Nat) : Option Row :=
  findRow rows n (Nat.log2 rows.size + 2) 0 rows.size

/-- The letters of a Hangul syllable, given by its number. -/
def hangulLetters (number : Nat) : List Char :=
  let lead := Char.ofNat (0x1100 + number / 588)
  let vowel := Char.ofNat (0x1161 + number % 588 / 28)
  let tail := number % 28
  if tail = 0 then [lead, vowel] else [lead, vowel, Char.ofNat (0x11A7 + tail)]

/-- The full decomposition of a character. -/
def decompose (c : Char) : List Char :=
  let n := c.toNat
  if n < 0xA0 then [c]
  else if 0xAC00 ≤ n ∧ n < 0xAC00 + 11172 then hangulLetters (n - 0xAC00)
  else
    match Row.find? decompositionRows n with
    | none => [c]
    | some row =>
        match row.value with
        | [m] => [Char.ofNat (m + (n - row.first))]
        | ms => ms.map Char.ofNat

/-- The combining class of a character. -/
def combiningClass (c : Char) : Nat :=
  if c.toNat < 0x300 then 0
  else
    match Row.find? combiningClassRows c.toNat with
    | none => 0
    | some row => row.value.headD 0

/-- Put the marks of every base in the order of their classes, keeping the
order of marks of one class; `marks` are those since the last base, the newest
first. -/
def orderMarks (marks : List (Nat × Char)) : List Char → List Char
  | [] => (marks.reverse.mergeSort fun a b => a.1 ≤ b.1).map (·.2)
  | c :: rest =>
      let k := combiningClass c
      if k = 0 then
        (marks.reverse.mergeSort fun a b => a.1 ≤ b.1).map (·.2) ++ c :: orderMarks [] rest
      else orderMarks ((k, c) :: marks) rest

/-- The compatibility decomposition of a text. -/
def compatibilityForm (cs : List Char) : List Char :=
  orderMarks [] (cs.flatMap decompose)

/-- Whether a character is a control: the first and the second set. -/
def isControl (c : Char) : Bool :=
  c.toNat < 0x20 || (0x7F ≤ c.toNat && c.toNat < 0xA0)

end RemoteSigner.Text
