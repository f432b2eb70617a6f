/-!
# Paths

A path is kept as it is written; its parts count only when it is looked up or compared.
-/

namespace RemoteSigner

/-- A path as written. -/
abbrev FilePath := String

namespace FilePath

/-- Whether a path starts at the root. -/
def isAbsolute (path : FilePath) : Bool :=
  path.toList.head? == some '/'

/-- A path below a base, unless it is absolute. -/
def join (base path : FilePath) : FilePath :=
  if isAbsolute path || base.isEmpty then path
  else if base.toList.getLast? = some '/' then base ++ path
  else base ++ "/" ++ path

/-- The stretches of characters between slashes. -/
def stretches : List Char → List (List Char)
  | [] => [[]]
  | c :: rest =>
      if c = '/' then [] :: stretches rest
      else
        match stretches rest with
        | [] => [[c]]
        | stretch :: more => (c :: stretch) :: more

/-- The parts of a path between slashes. -/
def parts (path : FilePath) : List String :=
  (stretches path.toList).map String.ofList

/-- The path without its last part. -/
def parent (path : FilePath) : FilePath :=
  String.intercalate "/" (parts path).dropLast

/-- What follows the last point of a name, unless the name starts with it. -/
def extensionOf? (name : String) : Option String :=
  match name.toList.reverse.span (· ≠ '.') with
  | (_, []) => none
  | (_, [_]) => none
  | (tail, _) => some (String.ofList tail.reverse)

/-- A part of a path as it counts when paths are compared. -/
inductive Component where
  | root
  /-- A point that a path starts with. -/
  | here
  | parent
  | name (text : String)
deriving DecidableEq

namespace Component

/-- What a part between slashes counts as; an empty one and a point do not count. -/
def ofPart? (part : String) : Option Component :=
  if part = "" ∨ part = "." then none
  else if part = ".." then some .parent
  else some (.name part)

/-- The order of the kinds of components. -/
def rank : Component → Nat
  | .root => 0
  | .here => 1
  | .parent => 2
  | .name _ => 3

/-- Whether a component comes before another. -/
def before : Component → Component → Bool
  | .name a, .name b => a < b
  | a, b => a.rank < b.rank

/-- Whether a list of components comes before another: the first difference decides, and
where there is none the end of the list. -/
def allBefore : List Component → List Component → Bool
  | _, [] => false
  | [], _ :: _ => true
  | a :: as, b :: bs => a.before b || (a == b && allBefore as bs)

end Component

/-- The components of a path. -/
def components (path : FilePath) : List Component :=
  let start :=
    if isAbsolute path then [.root]
    else if (parts path).head? = some "." then [.here]
    else []
  start ++ (parts path).filterMap Component.ofPart?

/-- Whether a path comes before another. -/
def before (a b : FilePath) : Bool :=
  Component.allBefore a.components b.components

end FilePath

end RemoteSigner
