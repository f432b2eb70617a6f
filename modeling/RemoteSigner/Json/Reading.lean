import RemoteSigner.Json.Document
import RemoteSigner.Json.Token

/-!
# What was read of a document

A text is read into a tree even where it stops being JSON: the tree holds
everything before the first fault and the fault itself, at the place where a
decoder walking in reading order meets it. So one tree serves decoders that
expect different types, and each reports whatever comes first: a value of the
wrong type or the end of the JSON.
-/

namespace RemoteSigner.Json

/-- How an array or object ends. -/
inductive Stop where
  /-- With its bracket or brace. -/
  | closed
  /-- It was read as a whole before. -/
  | kept
  /-- It does not: reading went no further than these tokens. -/
  | cut (rest : List Token)

/-- The part of a value that could be read. -/
inductive Reading where
  | null
  | boolean (value : Bool)
  | number (value : Except GrammarError Number)
  | text (value : Except GrammarError String)
  | list (items : List Reading) (stop : Stop)
  | record (members : List (Except GrammarError String × Reading)) (stop : Stop)
  /-- No value: the fault of decoding and of skipping it. -/
  | fault (decoding skipping : GrammarError)
  /-- A word or numeral not read to its end, with the same two faults. -/
  | unfinished (decoding skipping : GrammarError)

namespace Stop

/-- The fault of decoding on from the end of an array. -/
def listFault : Stop → Option GrammarError
  | .closed | .kept => none
  | .cut [] => some .endInList
  | .cut [.comma] => some .endInValue
  | .cut (.comma :: .closeList :: _) => some .trailingComma
  | .cut _ => some .expectedListEnd

/-- The fault of skipping on from the end of an array. -/
def listSkipFault : Stop → Option GrammarError
  | .closed | .kept => none
  | .cut [] => some .endInList
  | .cut [.comma] => some .endInValue
  | .cut (.comma :: .closeList :: _) => some .expectedValue
  | .cut _ => some .expectedListEnd

/-- The fault of closing an array whose elements have all been decoded. -/
def listCloseFault : Stop → Option GrammarError
  | .closed | .kept => none
  | .cut [] => some .endInList
  | .cut (.comma :: .closeList :: _) => some .trailingComma
  | .cut _ => some .trailingCharacters

/-- The fault of decoding on from the end of an object; `empty` tells that no
member was read. -/
def recordFault (empty : Bool) : Stop → Option GrammarError
  | .closed | .kept => none
  | .cut [] => some .endInRecord
  | .cut (t :: rest) =>
      if empty then
        match t with
        | .brokenText decoding _ => some decoding
        | _ => some .keyNotText
      else
        match t, rest with
        | .comma, [] => some .endInValue
        | .comma, .closeRecord :: _ => some .trailingComma
        | .comma, .brokenText decoding _ :: _ => some decoding
        | .comma, _ => some .keyNotText
        | _, _ => some .expectedRecordEnd

/-- The fault of skipping on from the end of an object. -/
def recordSkipFault (empty : Bool) : Stop → Option GrammarError
  | .closed | .kept => none
  | .cut [] => some .endInRecord
  | .cut (t :: rest) =>
      if empty then
        match t with
        | .brokenText _ skipping => some skipping
        | _ => some .keyNotText
      else
        match t, rest with
        | .comma, [] => some .endInRecord
        | .comma, .brokenText _ skipping :: _ => some skipping
        | .comma, _ => some .keyNotText
        | _, _ => some .expectedRecordEnd

end Stop

namespace Reading

/-- A key of an object as it was read. -/
abbrev Key := Except GrammarError String

mutual

/-- Read the value at the front of the tokens; a fault leaves none of them. -/
def value : Nat → List Token → Reading × List Token
  | 0, _ => (.fault .endInValue .endInValue, [])
  | _, [] => (.fault .endInValue .endInValue, [])
  | fuel + 1, t :: rest =>
      match t with
      | .null => (.null, rest)
      | .boolean b => (.boolean b, rest)
      | .number n => (.number n, rest)
      | .text s => (.text s, rest)
      | .openList =>
          let (items, stop, rest) := firstItem fuel rest
          (.list items stop, rest)
      | .openRecord =>
          let (members, stop, rest) := firstMember fuel rest
          (.record members stop, rest)
      | .brokenText decoding skipping => (.fault decoding skipping, [])
      | .broken decoding skipping => (.unfinished decoding skipping, [])
      | _ => (.fault .expectedValue .expectedValue, [])

/-- Read the elements of an array from behind its bracket. -/
def firstItem : Nat → List Token → List Reading × Stop × List Token
  | 0, ts => ([], .cut ts, [])
  | _, [] => ([], .cut [], [])
  | _, .closeList :: rest => ([], .closed, rest)
  | fuel + 1, ts =>
      let (v, rest) := value fuel ts
      let (items, stop, rest) := nextItem fuel rest
      (v :: items, stop, rest)

/-- Read the elements of an array from behind one of them. -/
def nextItem : Nat → List Token → List Reading × Stop × List Token
  | 0, ts => ([], .cut ts, [])
  | _, .closeList :: rest => ([], .closed, rest)
  | _, [.comma] => ([], .cut [.comma], [])
  | _, .comma :: .closeList :: rest => ([], .cut (.comma :: .closeList :: rest), [])
  | fuel + 1, .comma :: ts =>
      let (v, rest) := value fuel ts
      let (items, stop, rest) := nextItem fuel rest
      (v :: items, stop, rest)
  | _, ts => ([], .cut ts, [])

/-- Read a value from behind its key. -/
def memberValue : Nat → List Token → Reading × List Token
  | 0, _ => (.fault .endInRecord .endInRecord, [])
  | fuel + 1, .colon :: rest => value fuel rest
  | _, [] => (.fault .endInRecord .endInRecord, [])
  | _, _ => (.fault .expectedColon .expectedColon, [])

/-- Read the members of an object from behind its brace. -/
def firstMember : Nat → List Token → List (Key × Reading) × Stop × List Token
  | 0, ts => ([], .cut ts, [])
  | _, .closeRecord :: rest => ([], .closed, rest)
  | fuel + 1, .text k :: rest =>
      let (v, rest) := memberValue fuel rest
      let (members, stop, rest) := nextMember fuel rest
      ((k, v) :: members, stop, rest)
  | _, ts => ([], .cut ts, [])

/-- Read the members of an object from behind one of them. -/
def nextMember : Nat → List Token → List (Key × Reading) × Stop × List Token
  | 0, ts => ([], .cut ts, [])
  | _, .closeRecord :: rest => ([], .closed, rest)
  | fuel + 1, .comma :: .text k :: rest =>
      let (v, rest) := memberValue fuel rest
      let (members, stop, rest) := nextMember fuel rest
      ((k, v) :: members, stop, rest)
  | _, ts => ([], .cut ts, [])

end

/-- What was read of a document, and whether tokens follow it. -/
def ofTokens (ts : List Token) : Reading × Bool :=
  let (v, rest) := value (2 * ts.length + 2) ts
  (v, !rest.isEmpty)

mutual

/-- The reading of a document at hand. -/
def ofJson : Json → Reading
  | .null => .null
  | .boolean b => .boolean b
  | .number n => .number (.ok n)
  | .text s => .text (.ok s)
  | .list items => .list (ofItems items) .kept
  | .record members => .record (ofMembers members) .kept

/-- The readings of the elements of an array. -/
def ofItems : List Json → List Reading
  | [] => []
  | v :: rest => ofJson v :: ofItems rest

/-- The readings of the members of an object. -/
def ofMembers : List (String × Json) → List (Key × Reading)
  | [] => []
  | (k, v) :: rest => (.ok k, ofJson v) :: ofMembers rest

end

mutual

/-- The fault met by skipping a value, if any. -/
def skipFault : Reading → Option GrammarError
  | .list items stop => (skipItems items).orElse fun _ => stop.listSkipFault
  | .record members stop =>
      (skipMembers members).orElse fun _ => stop.recordSkipFault members.isEmpty
  | .fault _ skipping => some skipping
  | .unfinished _ skipping => some skipping
  | _ => none

/-- The fault met by skipping the elements of an array. -/
def skipItems : List Reading → Option GrammarError
  | [] => none
  | v :: rest => (skipFault v).orElse fun _ => skipItems rest

/-- The fault met by skipping the members of an object. -/
def skipMembers : List (Key × Reading) → Option GrammarError
  | [] => none
  | (_, v) :: rest => (skipFault v).orElse fun _ => skipMembers rest

end

mutual

/-- The whole value as a document. `depth` containers may be entered, less
one. -/
def toJson (depth : Nat) : Reading → Except GrammarError Json
  | .null => .ok .null
  | .boolean b => .ok (.boolean b)
  | .number n => n.map .number
  | .text s => s.map .text
  | .list items stop =>
      if depth ≤ 1 then .error .nestingLimit
      else do
        let items ← toItems (depth - 1) items
        match stop.listFault with
        | some e => .error e
        | none => .ok (.list items)
  | .record members stop =>
      if depth ≤ 1 then .error .nestingLimit
      else do
        let ms ← toMembers (depth - 1) members
        match stop.recordFault members.isEmpty with
        | some e => .error e
        | none => .ok (.record ms)
  | .fault decoding _ => .error decoding
  | .unfinished decoding _ => .error decoding

/-- The elements of an array as documents. -/
def toItems (depth : Nat) : List Reading → Except GrammarError (List Json)
  | [] => .ok []
  | v :: rest => do
      let v ← toJson depth v
      let rest ← toItems depth rest
      pure (v :: rest)

/-- The members of an object as documents. -/
def toMembers (depth : Nat) :
    List (Key × Reading) → Except GrammarError (List (String × Json))
  | [] => .ok []
  | (k, v) :: rest => do
      let k ← k
      let v ← toJson depth v
      let rest ← toMembers depth rest
      pure ((k, v) :: rest)

end

end Reading

end RemoteSigner.Json
