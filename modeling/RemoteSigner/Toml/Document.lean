import RemoteSigner.Toml.Token

/-!
# TOML documents

Lines assign values to keys or open tables. A table may be named before its
parents and is opened by a header at most once; one made by a dotted key takes
further keys only through dotted keys. `ofText?` gives the table of a text that
keeps to all rules.
-/

namespace RemoteSigner.Toml

/-- How a table came to be. -/
inductive Origin where
  /-- By a header, or as the whole document. -/
  | header
  /-- As a parent in a header. -/
  | implied
  /-- By a dotted key. -/
  | dotted
deriving DecidableEq, Repr

/-- What stands under a key while a document is read. -/
inductive Entry where
  | value (v : Toml)
  | table (origin : Origin) (members : List (String × Entry))
  | tables (elements : List (List (String × Entry)))

/-- The members of a table while a document is read. -/
abbrev Members := List (String × Entry)

/-- Replace what stands under a key. -/
def replace (key : String) (e : Entry) : Members → Members
  | [] => [(key, e)]
  | (k, old) :: rest => if k = key then (k, e) :: rest else (k, old) :: replace key e rest

/-- Change the table at a path, made if it is missing, given its origin. Dotted
keys do not go through tables that have a header. -/
def within (isDotted : Bool) (change : Origin → Members → Option Members) :
    List String → Origin → Members → Option Members
  | [], origin, ms => change origin ms
  | key :: path, _, ms =>
      match ms.lookup key with
      | none => do
          let origin := if isDotted then .dotted else .implied
          pure (ms ++ [(key, .table origin (← within isDotted change path origin []))])
      | some (.value _) => none
      | some (.table origin inner) =>
          if isDotted && origin = .header then none
          else do
            let inner ← within isDotted change path origin inner
            pure (replace key (.table origin inner) ms)
      | some (.tables elements) =>
          match elements.getLast? with
          | none => none
          | some last => do
              let last ← within isDotted change path .header last
              pure (replace key (.tables (elements.dropLast ++ [last])) ms)

/-- Assign a value to a key that has none, in the table that the dotted path
`path` has reached. -/
def assign (path : List String) (key : String) (v : Toml) (origin : Origin) (ms : Members) :
    Option Members :=
  if (origin = .dotted) = path.isEmpty then none
  else if (ms.lookup key).isSome then none
  else some (ms ++ [(key, .value v)])

/-- Assign a value in a table. -/
def assignAt (path : List String) (key : String) (v : Toml) (ms : Members) : Option Members :=
  within true (assign path key v) path .header ms

/-- Open a table that has no header yet. -/
def openTable (key : String) (_ : Origin) (ms : Members) : Option Members :=
  match ms.lookup key with
  | none => some (ms ++ [(key, .table .header [])])
  | some (.table .implied inner) => some (replace key (.table .header inner) ms)
  | some _ => none

/-- Open a further table of an array of tables. -/
def openElement (key : String) (_ : Origin) (ms : Members) : Option Members :=
  match ms.lookup key with
  | none => some (ms ++ [(key, .tables [[]])])
  | some (.tables elements) => some (replace key (.tables (elements ++ [[]])) ms)
  | some _ => none

mutual

/-- The value of an entry. -/
def finish : Entry → Toml
  | .value v => v
  | .table _ ms => .table (finishMembers ms)
  | .tables elements => .list (finishElements elements)

/-- The values of members. -/
def finishMembers : List (String × Entry) → List (String × Toml)
  | [] => []
  | (k, e) :: rest => (k, finish e) :: finishMembers rest

/-- The values of the elements of an array of tables. -/
def finishElements : List (List (String × Entry)) → List Toml
  | [] => []
  | ms :: rest => .table (finishMembers ms) :: finishElements rest

end

/-- Drop blanks, comments and line ends. -/
def dropFiller : Nat → List Char → List Char
  | 0, cs => cs
  | fuel + 1, cs =>
      match dropGap cs with
      | '#' :: rest => dropFiller fuel (rest.dropWhile isPlain)
      | rest =>
          match dropNewline? rest with
          | some rest => dropFiller fuel rest
          | none => rest

/-- The number of containers that may stand in each other. -/
def nestingBound : Nat := 79

/-- Assign a value under the parts of a key. -/
def assignKey (parts : List String) (v : Toml) (ms : Members) : Option Members :=
  match parts.getLast? with
  | none => none
  | some key => assignAt parts.dropLast key v ms

mutual

/-- A value; `depth` containers may be entered. -/
def readValue (depth : Nat) : Nat → List Char → Option (Toml × List Char)
  | 0, _ => none
  | fuel + 1, cs =>
      match cs with
      | '"' :: _ | '\'' :: _ => (readString cs).map fun (s, rest) => (.text s, rest)
      | '[' :: rest =>
          if depth = 0 then none
          else (readItems (depth - 1) fuel rest).map fun (vs, rest) => (.list vs, rest)
      | '\x7b' :: rest =>
          if depth = 0 then none
          else
            match dropGap rest with
            | '\x7d' :: rest => some (.table [], rest)
            | rest => readMembers (depth - 1) fuel [] rest
      | cs => readWord cs

/-- The elements of an array from behind its bracket or a comma. -/
def readItems (depth : Nat) : Nat → List Char → Option (List Toml × List Char)
  | 0, _ => none
  | fuel + 1, cs =>
      match dropFiller cs.length cs with
      | ']' :: rest => some ([], rest)
      | cs =>
          match readValue depth fuel cs with
          | none => none
          | some (v, rest) =>
              match dropFiller rest.length rest with
              | ']' :: rest => some ([v], rest)
              | ',' :: rest =>
                  (readItems depth fuel rest).map fun (vs, rest) => (v :: vs, rest)
              | _ => none

/-- The members of an inline table from behind its brace or a comma, added to
those before. -/
def readMembers (depth : Nat) : Nat → Members → List Char → Option (Toml × List Char)
  | 0, _, _ => none
  | fuel + 1, ms, cs =>
      match readKey nestingBound cs with
      | some (parts, '=' :: rest) =>
          match readValue depth fuel (dropGap rest) with
          | none => none
          | some (v, rest) =>
              match assignKey parts v ms with
              | none => none
              | some ms =>
                  match dropGap rest with
                  | '\x7d' :: rest => some (.table (finishMembers ms), rest)
                  | ',' :: rest => readMembers depth fuel ms rest
                  | _ => none
      | _ => none

end

/-- A statement of a document. -/
inductive Statement where
  | assign (parts : List String) (v : Toml)
  | table (parts : List String)
  | element (parts : List String)

/-- A statement with the end of its line. -/
def readStatement (cs : List Char) : Option (Statement × List Char) :=
  match cs with
  | '[' :: '[' :: rest =>
      match readKey nestingBound rest with
      | some (parts, ']' :: ']' :: rest) =>
          (dropLineEnd? rest).map fun rest => (.element parts, rest)
      | _ => none
  | '[' :: rest =>
      match readKey nestingBound rest with
      | some (parts, ']' :: rest) => (dropLineEnd? rest).map fun rest => (.table parts, rest)
      | _ => none
  | cs =>
      match readKey nestingBound cs with
      | some (parts, '=' :: rest) =>
          match readValue nestingBound cs.length (dropGap rest) with
          | some (v, rest) => (dropLineEnd? rest).map fun rest => (.assign parts v, rest)
          | none => none
      | _ => none

/-- All statements of a text. -/
def readStatements : Nat → List Char → Option (List Statement)
  | 0, _ => none
  | fuel + 1, cs =>
      match dropFiller cs.length cs with
      | [] => some []
      | cs =>
          match readStatement cs with
          | none => none
          | some (s, rest) => (readStatements fuel rest).map (s :: ·)

/-- Carry out statements, given the path of the open table. -/
def execute : List Statement → List String → Members → Option Members
  | [], _, ms => some ms
  | .assign parts v :: rest, path, ms => do
      let ms ← within false (fun _ inner => assignKey parts v inner) path .header ms
      execute rest path ms
  | .table parts :: rest, _, ms => do
      let ms ← within false (openTable (parts.getLast?.getD "")) parts.dropLast .header ms
      execute rest parts ms
  | .element parts :: rest, _, ms => do
      let ms ← within false (openElement (parts.getLast?.getD "")) parts.dropLast .header ms
      execute rest parts ms

/-- Drop a byte order mark. -/
def dropMark : List Char → List Char
  | '\ufeff' :: rest => rest
  | cs => cs

/-- The table of a document. -/
def ofText? (text : String) : Option Toml := do
  let cs := dropMark text.toList
  let statements ← readStatements (cs.length + 1) cs
  pure (.table (finishMembers (← execute statements [] [])))

/-- Decode a document. -/
def decode? {α : Type} (decode : Json.Decoder α) (text : String) : Option α := do
  let document ← ofText? text
  (decode Json.nestingBound document.reading).toOption

end RemoteSigner.Toml
