import RemoteSigner.Json.Decode

/-!
# TOML values

A document is a table. Dates and times are kept as their text. A value is
decoded by the same decoders as a JSON document; in a table every key has one
value, and there is no null.
-/

namespace RemoteSigner

/-- A TOML value. -/
inductive Toml where
  | text (value : String)
  | integer (value : Int)
  /-- A number with fraction or exponent, or one that is not finite, as written. -/
  | float (written : String)
  | boolean (value : Bool)
  | moment (written : String)
  | list (items : List Toml)
  | table (members : List (String × Toml))

namespace Toml

/-- The key under which a date or time appears to a decoder of tables. No field
has this name. -/
def momentKey : String := "$moment"

/-- The double that stands for any float; no decoder takes one. -/
def anyDouble : Binary64 := ⟨false, 1, -1⟩

/-- A signed 64-bit integer as a number. -/
def number (i : Int) : Json.Number :=
  if 0 ≤ i then .natural (UInt64.ofNat i.toNat) else .negative (-i - 1).toNat

mutual

/-- The value as a decoder meets it. -/
def reading : Toml → Json.Reading
  | text s => .text (.ok s)
  | integer i => .number (.ok (number i))
  | float _ => .number (.ok (.double anyDouble))
  | boolean b => .boolean b
  | moment s => .record [(.ok momentKey, .text (.ok s))] .kept
  | list items => .list (readingItems items) .kept
  | table members => .record (readingMembers members) .kept

/-- The elements of an array as a decoder meets them. -/
def readingItems : List Toml → List Json.Reading
  | [] => []
  | v :: rest => reading v :: readingItems rest

/-- The members of a table as a decoder meets them. -/
def readingMembers : List (String × Toml) → List (Json.Reading.Key × Json.Reading)
  | [] => []
  | (k, v) :: rest => (.ok k, reading v) :: readingMembers rest

end

end Toml

end RemoteSigner
