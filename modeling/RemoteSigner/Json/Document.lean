import RemoteSigner.Json.Number

/-!
# JSON documents and their text

A document keeps the members of an object in order, repeated keys included.
The compact form has no blanks; the pretty form puts each element and member
on a line of its own, two blanks deeper than its container.
-/

namespace RemoteSigner

/-- A JSON value. -/
inductive Json where
  | null
  | boolean (value : Bool)
  | number (value : Json.Number)
  | text (value : String)
  | list (items : List Json)
  | record (members : List (String × Json))

namespace Json

/-- A natural number as a document. -/
def natural (n : UInt64) : Json :=
  .number (.natural n)

/-- A count. -/
def count (n : Nat) : Json :=
  .natural (UInt64.ofNat n)

/-- The escape of a character in a string: quote, backslash and controls. -/
def escapeChar (c : Char) : List Char :=
  if c = '"' then ['\\', '"']
  else if c = '\\' then ['\\', '\\']
  else if c.toNat = 8 then ['\\', 'b']
  else if c.toNat = 9 then ['\\', 't']
  else if c.toNat = 10 then ['\\', 'n']
  else if c.toNat = 12 then ['\\', 'f']
  else if c.toNat = 13 then ['\\', 'r']
  else if c.toNat < 32 then
    let digit (n : Nat) : Char := if n < 10 then Char.ofNat (48 + n) else Char.ofNat (87 + n)
    ['\\', 'u', '0', '0', digit (c.toNat / 16), digit (c.toNat % 16)]
  else [c]

/-- A string between quotes. -/
def quote (s : String) : List Char :=
  '"' :: (s.toList.flatMap escapeChar ++ ['"'])

mutual

/-- The characters of the compact form. -/
def compactChars : Json → List Char
  | .null => ['n', 'u', 'l', 'l']
  | .boolean true => ['t', 'r', 'u', 'e']
  | .boolean false => ['f', 'a', 'l', 's', 'e']
  | .number n => n.encode.toList
  | .text s => quote s
  | .list items => '[' :: (compactItems items ++ [']'])
  | .record members => '\x7b' :: (compactMembers members ++ ['\x7d'])

/-- The elements of an array with commas between them. -/
def compactItems : List Json → List Char
  | [] => []
  | [v] => compactChars v
  | v :: rest => compactChars v ++ ',' :: compactItems rest

/-- The members of an object with commas between them. -/
def compactMembers : List (String × Json) → List Char
  | [] => []
  | [(k, v)] => quote k ++ ':' :: compactChars v
  | (k, v) :: rest => quote k ++ ':' :: (compactChars v ++ ',' :: compactMembers rest)

end

/-- The compact form. -/
def compact (j : Json) : String :=
  String.ofList j.compactChars

/-- A new line at a depth. -/
def lineBreak (depth : Nat) : List Char :=
  '\n' :: List.replicate (2 * depth) ' '

mutual

/-- The characters of the pretty form inside `depth` containers. -/
def prettyChars (depth : Nat) : Json → List Char
  | .list [] => ['[', ']']
  | .list items => '[' :: (prettyItems (depth + 1) items ++ lineBreak depth ++ [']'])
  | .record [] => ['\x7b', '\x7d']
  | .record members =>
      '\x7b' :: (prettyMembers (depth + 1) members ++ lineBreak depth ++ ['\x7d'])
  | .null => ['n', 'u', 'l', 'l']
  | .boolean true => ['t', 'r', 'u', 'e']
  | .boolean false => ['f', 'a', 'l', 's', 'e']
  | .number n => n.encode.toList
  | .text s => quote s

/-- The elements of an array, one a line. -/
def prettyItems (depth : Nat) : List Json → List Char
  | [] => []
  | [v] => lineBreak depth ++ prettyChars depth v
  | v :: rest => lineBreak depth ++ prettyChars depth v ++ ',' :: prettyItems depth rest

/-- The members of an object, one a line. -/
def prettyMembers (depth : Nat) : List (String × Json) → List Char
  | [] => []
  | [(k, v)] => lineBreak depth ++ quote k ++ ':' :: ' ' :: prettyChars depth v
  | (k, v) :: rest =>
      lineBreak depth ++ quote k ++
        ':' :: ' ' :: (prettyChars depth v ++ ',' :: prettyMembers depth rest)

end

/-- The pretty form. -/
def pretty (j : Json) : String :=
  String.ofList (j.prettyChars 0)

/-- The first member with a key. -/
def member? (key : String) : Json → Option Json
  | .record members => members.lookup key
  | _ => none

/-- The value of a string document. -/
def text? : Json → Option String
  | .text s => some s
  | _ => none

/-- Put a member into a list sorted by key, replacing the one it repeats. -/
def insertMember (key : String) (v : Json) : List (String × Json) → List (String × Json)
  | [] => [(key, v)]
  | (k, w) :: rest =>
      if key < k then (key, v) :: (k, w) :: rest
      else if key = k then (key, v) :: rest
      else (k, w) :: insertMember key v rest

mutual

/-- The document with the members of every object sorted by key, the last of
equal keys kept. -/
def sorted : Json → Json
  | .list items => .list (sortedItems items)
  | .record members => .record (sortedMembers [] members)
  | .null => .null
  | .boolean b => .boolean b
  | .number n => .number n
  | .text s => .text s

/-- The elements of an array, each sorted. -/
def sortedItems : List Json → List Json
  | [] => []
  | v :: rest => sorted v :: sortedItems rest

/-- The members of an object, each sorted, put among those of `acc`. -/
def sortedMembers (acc : List (String × Json)) : List (String × Json) → List (String × Json)
  | [] => acc
  | (k, v) :: rest => sortedMembers (insertMember k (sorted v) acc) rest

end

end Json

end RemoteSigner
