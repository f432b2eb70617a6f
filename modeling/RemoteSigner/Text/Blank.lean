/-!
# Blanks and letter case

`trim` removes every character of the Unicode property White_Space from both
ends; `lower` and `upper` change ASCII letters only.
-/

namespace RemoteSigner.Text

/-- Whether a character has the property White_Space. -/
def isBlank (c : Char) : Bool :=
  let n := c.toNat
  (9 ≤ n && n ≤ 13) || n == 0x20 || n == 0x85 || n == 0xA0 || n == 0x1680 ||
    (0x2000 ≤ n && n ≤ 0x200A) || n == 0x2028 || n == 0x2029 || n == 0x202F ||
    n == 0x205F || n == 0x3000

/-- Remove blanks at both ends. -/
def trim (cs : List Char) : List Char :=
  ((cs.dropWhile isBlank).reverse.dropWhile isBlank).reverse

/-- Make ASCII letters small. -/
def lower (cs : List Char) : List Char :=
  cs.map Char.toLower

/-- Make ASCII letters capital. -/
def upper (cs : List Char) : List Char :=
  cs.map Char.toUpper

/-- Remove one leading `0x`. -/
def dropMarker : List Char → List Char
  | '0' :: 'x' :: rest => rest
  | cs => cs

/-- Remove every leading `0x`. -/
def dropMarkers : List Char → List Char
  | '0' :: 'x' :: rest => dropMarkers rest
  | cs => cs

/-- Whether two texts agree up to the case of ASCII letters. -/
def sameIgnoringCase (a b : String) : Bool :=
  lower a.toList == lower b.toList

/-- The lines of a text before the first line end, or all of it. A carriage
return just before the line feed belongs to the line end. -/
def firstLine (text : String) : String :=
  let cs := text.toList
  let line := cs.takeWhile (· != '\n')
  if line.length < cs.length ∧ line.getLast? = some '\r' then
    String.ofList line.dropLast
  else String.ofList line

/-- Join texts with a separator between them. -/
def join (separator : String) (parts : List String) : String :=
  String.intercalate separator parts

end RemoteSigner.Text
