import RemoteSigner.Json.Document
import RemoteSigner.Text.Numeral

/-!
# Writing TOML strings

A string stands between double quotes if nothing in it needs an escape. If
that fails the first possible of these is taken: single quotes, three double
quotes, three single quotes; in the last resort characters are escaped.
-/

namespace RemoteSigner.Toml

/-- The longest run of a character. -/
def longestRun (c : Char) : Nat → Nat → List Char → Nat
  | run, best, [] => max run best
  | run, best, d :: rest =>
      if d = c then longestRun c (run + 1) best rest else longestRun c 0 (max run best) rest

/-- A control character other than tab and line feed. -/
def needsCode (c : Char) : Bool :=
  (c.toNat < 0x20 && c ≠ '\t' && c ≠ '\n') || c.toNat = 0x7F

/-- The digit of a value below sixteen, as a capital. -/
def capitalDigit (n : Nat) : Char :=
  if n < 10 then Char.ofNat (48 + n) else Char.ofNat (55 + n)

/-- The characters of a string between double quotes, of which up to `quotes`
in a row stand for themselves; a line feed does if `lines`. -/
def escapeChars (lines : Bool) (quotes : Nat) : Nat → List Char → List Char
  | _, [] => []
  | run, c :: rest =>
      if c = '"' then
        if run < quotes then c :: escapeChars lines quotes (run + 1) rest
        else '\\' :: c :: escapeChars lines quotes 0 rest
      else
        let shown :=
          if c.toNat = 8 then ['\\', 'b']
          else if c = '\t' then ['\\', 't']
          else if c = '\n' then if lines then [c] else ['\\', 'n']
          else if c.toNat = 12 then ['\\', 'f']
          else if c = '\r' then ['\\', 'r']
          else if c = '\\' then ['\\', '\\']
          else if needsCode c then
            ['\\', 'u', '0', '0', capitalDigit (c.toNat / 16), capitalDigit (c.toNat % 16)]
          else [c]
        shown ++ escapeChars lines quotes 0 rest

/-- The text of a string. -/
def quote (s : String) : String :=
  let cs := s.toList
  let codes := cs.any needsCode
  let lines := cs.contains '\n'
  let doubles := longestRun '"' 0 0 cs
  let singles := longestRun '\'' 0 0 cs
  let slashes := cs.contains '\\'
  let opening := if lines then ['\n'] else []
  String.ofList <|
    if !codes && !slashes && doubles = 0 && !lines then '"' :: (escapeChars false 0 0 cs ++ ['"'])
    else if !codes && singles = 0 && !lines then '\'' :: (cs ++ ['\''])
    else if !codes && !slashes && doubles ≤ 2 then
      ['"', '"', '"'] ++ opening ++ escapeChars true 2 0 cs ++ ['"', '"', '"']
    else if !codes && singles ≤ 2 then ['\'', '\'', '\''] ++ opening ++ cs ++ ['\'', '\'', '\'']
    else if lines then ['"', '"', '"'] ++ opening ++ escapeChars true 2 0 cs ++ ['"', '"', '"']
    else '"' :: (escapeChars false 0 0 cs ++ ['"'])

/-- A line that assigns a written value to a key. -/
def line (key written : String) : String :=
  key ++ " = " ++ written ++ "\n"

/-- The line that assigns a value without parts to a key. Null, which stands for
what is missing, and a value with parts have none. -/
def assignment (key : String) : Json → String
  | .text s => line key (quote s)
  | .number (.natural n) => line key (Numeral.encode n.toNat)
  | .boolean b => line key (if b then "true" else "false")
  | _ => ""

end RemoteSigner.Toml
