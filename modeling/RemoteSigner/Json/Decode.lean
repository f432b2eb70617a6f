import RemoteSigner.Json.Reading
import RemoteSigner.Text.Blank
import RemoteSigner.Text.Utf8

/-!
# Decoding documents

A decoder turns what was read into a value of the domain or names the first
fault in reading order. A record is decoded from an object or from an array of
its fields in order; each field is decoded on its own and its fault carries
its place, so the order in which fields are asked for does not matter.
-/

namespace RemoteSigner.Json

/-- The kind of a value, as named in a fault. -/
inductive Found where
  | null
  | boolean (value : Bool)
  | number (value : Number)
  | text (value : String)
  | list
  | record
  /-- A variant named by a string alone. -/
  | unitVariant

/-- The characters of a string between quotes, as a programmer would write
them. -/
def quotedText (s : String) : String :=
  let escape (c : Char) : String :=
    if c = '"' then "\\\""
    else if c = '\\' then "\\\\"
    else if c = '\n' then "\\n"
    else if c = '\r' then "\\r"
    else if c = '\t' then "\\t"
    else if c.toNat = 0 then "\\0"
    else if c.toNat < 32 ∨ c.toNat = 127 then
      "\\u\x7b" ++ String.ofList (Nat.toDigits 16 c.toNat) ++ "\x7d"
    else String.singleton c
  "\"" ++ String.join (s.toList.map escape) ++ "\""

/-- The name of a kind of value. -/
def Found.name : Found → String
  | .null => "null"
  | .boolean b => "boolean `" ++ (if b then "true" else "false") ++ "`"
  | .number (.double v) => "floating point `" ++ v.encode ++ "`"
  | .number n => "integer `" ++ n.encode ++ "`"
  | .text s => "string " ++ quotedText s
  | .list => "sequence"
  | .record => "map"
  | .unitVariant => "unit variant"

/-- Why a document does not stand for a value of the domain. -/
inductive DecodeError where
  /-- The text is not JSON. -/
  | grammar (fault : GrammarError)
  /-- A value has the wrong kind. -/
  | wrongKind (found : Found) (expected : String)
  /-- A value has the right kind but is out of range. -/
  | wrongValue (found : Found) (expected : String)
  /-- An array has the wrong number of elements. -/
  | wrongLength (length : Nat) (expected : String)
  /-- A field is missing. -/
  | missingField (name : String)
  /-- A field is given twice. -/
  | duplicateField (name : String)
  /-- A variant is none of those known. -/
  | unknownVariant (name : String) (known : List String)
  /-- A value stands for no alternative of a union. -/
  | noAlternative (union : String)
  /-- The domain refuses the value. -/
  | refused (message : String)

namespace DecodeError

/-- A list of names as offered in a message. -/
def oneOf (names : List String) : String :=
  match names.map fun n => "`" ++ n ++ "`" with
  | [] => "there are no variants"
  | [a] => a
  | [a, b] => a ++ " or " ++ b
  | names => "one of " ++ Text.join ", " names

/-- The wording of a fault. -/
def message : DecodeError → String
  | .grammar e => e.message
  | .wrongKind found expected => "invalid type: " ++ found.name ++ ", expected " ++ expected
  | .wrongValue found expected => "invalid value: " ++ found.name ++ ", expected " ++ expected
  | .wrongLength n expected => "invalid length " ++ toString n ++ ", expected " ++ expected
  | .missingField name => "missing field `" ++ name ++ "`"
  | .duplicateField name => "duplicate field `" ++ name ++ "`"
  | .unknownVariant name known =>
      "unknown variant `" ++ name ++ "`, expected " ++ oneOf known
  | .noAlternative union => "data did not match any variant of untagged enum " ++ union
  | .refused message => message

end DecodeError

/-- A decoder. The number bounds how many containers may be entered, less one. -/
abbrev Decoder (α : Type) := Nat → Reading → Except DecodeError α

/-- The bound on nesting for a whole document. -/
def nestingBound : Nat := 128

namespace Decoder

/-- The fault of a value of the wrong kind; what is not JSON comes first. -/
def mismatch (expected : String) : Reading → DecodeError
  | .null => .wrongKind .null expected
  | .boolean b => .wrongKind (.boolean b) expected
  | .number (.ok n) => .wrongKind (.number n) expected
  | .number (.error e) => .grammar e
  | .text (.ok s) => .wrongKind (.text s) expected
  | .text (.error e) => .grammar e
  | .list _ _ => .wrongKind .list expected
  | .record _ _ => .wrongKind .record expected
  | .fault decoding _ => .grammar decoding
  | .unfinished decoding _ => .grammar decoding

/-- A string. -/
def text : Decoder String := fun _ r =>
  match r with
  | .text (.ok s) => .ok s
  | r => .error (mismatch "a string" r)

/-- A string of which the domain accepts some. -/
def textWith {α : Type} (accept : String → Except String α) : Decoder α := fun depth r => do
  let s ← text depth r
  match accept s with
  | .ok a => pure a
  | .error message => .error (.refused message)

/-- A truth value. -/
def boolean : Decoder Bool := fun _ r =>
  match r with
  | .boolean b => .ok b
  | r => .error (mismatch "a boolean" r)

/-- A natural number up to a bound. -/
def natural (bound : Nat) (kind : String) : Decoder Nat := fun _ r =>
  match r with
  | .number (.ok (.natural n)) =>
      if n.toNat ≤ bound then .ok n.toNat
      else .error (.wrongValue (.number (.natural n)) kind)
  | .number (.ok (.negative n)) => .error (.wrongValue (.number (.negative n)) kind)
  | r => .error (mismatch kind r)

/-- The whole value as a document. -/
def document : Decoder Json := fun depth r =>
  match r.toJson depth with
  | .ok j => .ok j
  | .error e => .error (.grammar e)

/-- A 64-bit number, quoted or bare. The value is read as a whole before its
kind is looked at. -/
def quotedUInt64 : Decoder UInt64 := fun depth r => do
  match ← document depth r with
  | .text s =>
      match Numeral.decodeUInt64 s with
      | .ok n => pure n
      | .error e => .error (.refused e.message)
  | .number (.natural n) => pure n
  | _ => .error (.noAlternative "QuotedOrBare")

/-- A value that may be null. -/
def optional {α : Type} (decode : Decoder α) : Decoder (Option α) := fun depth r =>
  match r with
  | .null => .ok none
  | r => (decode depth r).map some

/-- Decode the elements of an array in order. -/
def items {α : Type} (decode : Decoder α) (depth : Nat) :
    List Reading → Except DecodeError (List α)
  | [] => .ok []
  | r :: rest => do
      let a ← decode depth r
      let rest ← items decode depth rest
      pure (a :: rest)

/-- An array of any length. -/
def list {α : Type} (decode : Decoder α) : Decoder (List α) := fun depth r =>
  match r with
  | .list rs stop =>
      if depth ≤ 1 then .error (.grammar .nestingLimit)
      else do
        let as ← items decode (depth - 1) rs
        match stop.listFault with
        | some e => .error (.grammar e)
        | none => pure as
  | r => .error (mismatch "a sequence" r)

end Decoder

/-- The outcome of asking for a part of a record: a value, or a fault and the
place where reading meets it. -/
inductive Placed (α : Type) where
  | value (a : α)
  | fault (place : Nat) (error : DecodeError)

namespace Placed

/-- Two parts together; of two faults the earlier one counts, and the left one
if both stand at one place. -/
def map₂ {α β γ : Type} (f : α → β → γ) : Placed α → Placed β → Placed γ
  | .value a, .value b => .value (f a b)
  | .value _, .fault p e => .fault p e
  | .fault p e, .value _ => .fault p e
  | .fault p e, .fault q d => if q < p then .fault q d else .fault p e

/-- A part under a function. -/
def map {α β : Type} (f : α → β) : Placed α → Placed β
  | .value a => .value (f a)
  | .fault p e => .fault p e

instance : Functor Placed where
  map := map

instance : Applicative Placed where
  pure := .value
  seq f x := map₂ (fun g a => g a) f (x ())

/-- The part without its place. -/
def toExcept {α : Type} : Placed α → Except DecodeError α
  | .value a => .ok a
  | .fault _ e => .error e

end Placed

/-- The names of a field; the first is the one that messages use. -/
structure Field where
  name : String
  aliases : List String := []

namespace Field

/-- A string is a field without further names. -/
instance : Coe String Field := ⟨fun s => ⟨s, []⟩⟩

/-- Whether a key names the field. -/
def names (f : Field) (key : String) : Bool :=
  key == f.name || f.aliases.contains key

end Field

/-- A record about to be decoded: for each of its fields the values given, in
reading order with their places, and what a missing one means. -/
structure Fields where
  /-- The bound on nesting inside the record. -/
  depth : Nat
  /-- The values given for a field. -/
  given : Field → List (Nat × Reading)
  /-- The place and fault of a missing field. -/
  absent : Field → Nat × DecodeError
  /-- Whether a missing field that may be null is null. -/
  nullable : Bool

namespace Fields

/-- A field, with the meaning of its absence. -/
def fieldOr {α : Type} (fs : Fields) (f : Field) (decode : Decoder α) (absent : Placed α) :
    Placed α :=
  match fs.given f with
  | [] => absent
  | (place, r) :: more =>
      match decode fs.depth r, more with
      | .error e, _ => .fault place e
      | .ok a, [] => .value a
      | .ok _, (again, _) :: _ => .fault again (.duplicateField f.name)

/-- A field that must be given. -/
def required {α : Type} (fs : Fields) (f : Field) (decode : Decoder α) : Placed α :=
  let (place, e) := fs.absent f
  fs.fieldOr f decode (.fault place e)

/-- A field with a default. -/
def withDefault {α : Type} (fs : Fields) (f : Field) (decode : Decoder α) (a : α) : Placed α :=
  fs.fieldOr f decode (.value a)

/-- The position of a field among those of a record. -/
def position (shape : List Field) (f : Field) : Nat :=
  shape.findIdx fun g => g.name == f.name

/-- Number the members from the first one's place. -/
def placed {α : Type} (place : Nat) : List α → List (Nat × α)
  | [] => []
  | a :: rest => (place, a) :: placed (place + 1) rest

/-- The members that give a field, with their places. -/
def givenBy (members : List (Nat × Reading.Key × Reading)) (f : Field) :
    List (Nat × Reading) :=
  members.filterMap fun (place, key, r) =>
    match key with
    | .ok k => if f.names k then some (place, r) else none
    | .error _ => none

/-- The fields of an object. -/
def ofMembers (shape : List Field) (depth : Nat) (members : List (Reading.Key × Reading)) :
    Fields where
  depth := depth
  given := givenBy (placed 0 members)
  absent f := (members.length + 1 + position shape f, .missingField f.name)
  nullable := true

/-- The fields of an array. -/
def ofItems (expecting : String) (shape : List Field) (depth : Nat) (items : List Reading) :
    Fields where
  depth := depth
  given f :=
    let i := position shape f
    match items[i]? with
    | some r => [(i, r)]
    | none => []
  absent f :=
    let i := position shape f
    let elements := if shape.length = 1 then " element" else " elements"
    (i, .wrongLength i (expecting ++ " with " ++ toString shape.length ++ elements))
  nullable := false

/-- The first fault of an object outside the values of its fields: a key that
is no string, a skipped value, or the end. -/
def frameFault (shape : List Field) (stop : Stop) (empty : Bool) :
    List (Nat × Reading.Key × Reading) → Nat → Placed Unit
  | [], place =>
      match stop.recordFault empty with
      | some e => .fault place (.grammar e)
      | none => .value ()
  | (place, .error e, _) :: _, _ => .fault place (.grammar e)
  | (place, .ok k, r) :: rest, last =>
      if shape.any (·.names k) then frameFault shape stop empty rest last
      else
        match r.skipFault with
        | some e => .fault place (.grammar e)
        | none => frameFault shape stop empty rest last

/-- The fault of an array outside the values of its fields. -/
def itemsFault (count : Nat) (items : List Reading) (stop : Stop) : Placed Unit :=
  if items.length < count then
    match stop.listFault with
    | some e => .fault items.length (.grammar e)
    | none => .value ()
  else if items.length = count then
    match stop.listCloseFault with
    | some e => .fault count (.grammar e)
    | none => .value ()
  else
    match stop with
    | .kept =>
        let elements := if count = 1 then " element" else " elements"
        .fault count (.wrongLength items.length (toString count ++ elements ++ " in sequence"))
    | _ => .fault count (.grammar .trailingCharacters)

/-- A field that may be null or missing. -/
def nullableField {α : Type} (fs : Fields) (f : Field) (decode : Decoder α) :
    Placed (Option α) :=
  let (place, e) := fs.absent f
  fs.fieldOr f (Decoder.optional decode)
    (if fs.nullable then .value none else .fault place e)

end Fields

namespace Decoder

/-- A record with the given fields, from an object or an array. -/
def record {α : Type} (expecting : String) (shape : List Field)
    (read : Fields → Placed α) : Decoder α := fun depth r =>
  match r with
  | .record members stop =>
      if depth ≤ 1 then .error (.grammar .nestingLimit)
      else
        let frame :=
          Fields.frameFault shape stop members.isEmpty (Fields.placed 0 members) members.length
        (Placed.map₂ (fun _ a => a) frame
          (read (Fields.ofMembers shape (depth - 1) members))).toExcept
  | .list items stop =>
      if depth ≤ 1 then .error (.grammar .nestingLimit)
      else
        let frame := Fields.itemsFault shape.length items stop
        (Placed.map₂ (fun _ a => a) frame
          (read (Fields.ofItems expecting shape (depth - 1) items))).toExcept
  | r => .error (mismatch expecting r)

/-- The name of a variant. -/
def variantName : Decoder String := fun _ r =>
  match r with
  | .text (.ok s) => .ok s
  | r => .error (mismatch "variant identifier" r)

/-- The first fault of an object that names a variant by its only key. -/
def variantKeyFault : Stop → DecodeError
  | .cut (.null :: _) => .wrongKind .null "variant identifier"
  | .cut (.boolean b :: _) => .wrongKind (.boolean b) "variant identifier"
  | .cut (.number (.ok n) :: _) => .wrongKind (.number n) "variant identifier"
  | .cut (.number (.error e) :: _) => .grammar e
  | .cut (.openList :: _) => .wrongKind .list "variant identifier"
  | .cut (.openRecord :: _) => .wrongKind .record "variant identifier"
  | .cut (.brokenText e _ :: _) => .grammar e
  | .cut (.broken e _ :: _) => .grammar e
  | .cut [] => .grammar .endInValue
  | .kept => .wrongValue .record "map with a single key"
  | _ => .grammar .expectedValue

/-- The fault of an object with more than its one member. -/
def variantEndFault (more : List (Reading.Key × Reading)) (stop : Stop) : Option DecodeError :=
  match more, stop with
  | [], .closed => none
  | [], .kept => none
  | _, .kept => some (.wrongValue .record "map with a single key")
  | [], .cut [] => some (.grammar .endInRecord)
  | _, _ => some (.grammar .expectedValue)

/-- A variant of an enumeration, by its name or as an object whose only key is
its name. `payload` decodes what a variant carries, from nothing when only the
name is given. -/
def variant {α : Type} (known : List String)
    (payload : String → Option (Option Reading → Nat → Except DecodeError α)) :
    Decoder α := fun depth r =>
  let choose (name : String) (carried : Option Reading) (depth : Nat) : Except DecodeError α :=
    match payload name with
    | none => .error (.unknownVariant name known)
    | some decode => decode carried depth
  match r with
  | .text (.ok s) => choose s none depth
  | .text (.error e) => .error (.grammar e)
  | .record [] stop =>
      if depth ≤ 1 then .error (.grammar .nestingLimit) else .error (variantKeyFault stop)
  | .record ((key, r) :: more) stop =>
      if depth ≤ 1 then .error (.grammar .nestingLimit)
      else
        match key with
        | .error e => .error (.grammar e)
        | .ok name => do
            let a ← choose name (some r) (depth - 1)
            match variantEndFault more stop with
            | some e => .error e
            | none => pure a
  | .fault decoding _ => .error (.grammar decoding)
  | _ => .error (.grammar .expectedValue)

/-- A variant that carries nothing. -/
def unitVariant {α : Type} (a : α) (carried : Option Reading) (_ : Nat) :
    Except DecodeError α :=
  match carried with
  | none => .ok a
  | some .null => .ok a
  | some (.record [] .kept) => .ok a
  | some r => .error (mismatch "unit" r)

/-- A name for one of several values. -/
def enumeration {α : Type} (values : List (Field × α)) : Decoder α :=
  variant (values.flatMap fun (f, _) => f.aliases ++ [f.name]) fun name =>
    (values.find? fun (f, _) => f.names name).map fun (_, a) => unitVariant a

/-- Decode a whole document. -/
def run {α : Type} (decode : Decoder α) (symbols : List Symbol) : Except DecodeError α := do
  let (r, more) := Reading.ofTokens (Token.ofSymbols symbols)
  let a ← decode nestingBound r
  if more then .error (.grammar .trailingCharacters)
  pure a

/-- Decode a text. -/
def ofText {α : Type} (decode : Decoder α) (s : String) : Except DecodeError α :=
  decode.run (s.toList.map some)

/-- Decode a text given as bytes. -/
def ofBytes {α : Type} (decode : Decoder α) (bytes : Bytes) : Except DecodeError α :=
  decode.run (Utf8.symbols bytes)

end Decoder

end RemoteSigner.Json
