import RemoteSigner.Config.Basic
import RemoteSigner.Protection.Error

/-!
# Reports of failures

A failed command tells the outermost failure and the causes beneath it.
-/

namespace RemoteSigner

/-- A failure with its causes, outermost first. -/
structure Report where
  message : String
  causes : List String
deriving DecidableEq, Repr

namespace Report

/-- A failure without causes. -/
def of (message : String) : Report :=
  ⟨message, []⟩

/-- A failure that is the cause of another. -/
def within (message : String) (cause : Report) : Report :=
  ⟨message, cause.message :: cause.causes⟩

/-- A failure of settings. -/
def ofSettings (e : SettingsError) : Report :=
  ⟨e.message, e.causes⟩

/-- A failure of the protection database. -/
def ofProtection (e : ProtectionError) : Report :=
  ⟨e.message, e.causes⟩

/-- A failure of keys. -/
def ofKey (e : KeyError) : Report :=
  ⟨e.message, e.causes⟩

/-- The report on one line. -/
def inline (r : Report) : String :=
  String.intercalate ": " (r.message :: r.causes)

/-- The lines of a cause, numbered if there are several. -/
def causeText (number : Option Nat) (cause : String) : String :=
  let mark := match number with
    | none => "    "
    | some n => String.ofList (List.replicate (5 - (Numeral.digits n).length) ' ') ++
        Numeral.encode n ++ ": "
  let indent := if number.isSome then "\n       " else "\n    "
  mark ++ String.intercalate indent (cause.splitOn "\n")

/-- The report on several lines. -/
def text (r : Report) : String :=
  let causes := match r.causes with
    | [] => ""
    | [cause] => "\n\nCaused by:\n" ++ causeText none cause
    | causes => "\n\nCaused by:\n" ++
        String.intercalate "\n" (causes.mapIdx fun i cause => causeText (some i) cause)
  "Error: " ++ r.message ++ causes ++ "\n"

end Report

end RemoteSigner
