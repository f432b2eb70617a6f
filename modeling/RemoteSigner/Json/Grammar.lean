/-!
# Faults of the JSON grammar

Where a text stops being JSON, and what its reader says about it.
-/

namespace RemoteSigner.Json

/-- A place where a text is not JSON. -/
inductive GrammarError where
  /-- The text ends where a value must stand. -/
  | endInValue
  /-- The text ends inside an object. -/
  | endInRecord
  /-- The text ends inside an array. -/
  | endInList
  /-- The text ends inside a string. -/
  | endInText
  /-- No value begins here. -/
  | expectedValue
  /-- A key is not followed by a colon. -/
  | expectedColon
  /-- An array element is followed by neither comma nor bracket. -/
  | expectedListEnd
  /-- An object member is followed by neither comma nor brace. -/
  | expectedRecordEnd
  /-- A comma stands before the closing bracket or brace. -/
  | trailingComma
  /-- Something follows the value. -/
  | trailingCharacters
  /-- A key is not a string. -/
  | keyNotText
  /-- A word is none of `null`, `true` and `false`. -/
  | expectedWord
  /-- A numeral breaks its grammar. -/
  | invalidNumber
  /-- A numeral exceeds every finite double. -/
  | numberOutOfRange
  /-- A backslash is followed by no known escape. -/
  | invalidEscape
  /-- A high surrogate is followed by no second escape. -/
  | unpairedEscape
  /-- A surrogate stands without its partner. -/
  | loneSurrogate
  /-- A control character stands in a string. -/
  | controlCharacter
  /-- A string holds bytes that are not UTF-8. -/
  | invalidUnicode
  /-- Values are nested too deeply. -/
  | nestingLimit
deriving DecidableEq, Repr

/-- The wording of a fault. -/
def GrammarError.message : GrammarError → String
  | .endInValue => "EOF while parsing a value"
  | .endInRecord => "EOF while parsing an object"
  | .endInList => "EOF while parsing a list"
  | .endInText => "EOF while parsing a string"
  | .expectedValue => "expected value"
  | .expectedColon => "expected `:`"
  | .expectedListEnd => "expected `,` or `]`"
  | .expectedRecordEnd => "expected `,` or `\x7d`"
  | .trailingComma => "trailing comma"
  | .trailingCharacters => "trailing characters"
  | .keyNotText => "key must be a string"
  | .expectedWord => "expected ident"
  | .invalidNumber => "invalid number"
  | .numberOutOfRange => "number out of range"
  | .invalidEscape => "invalid escape"
  | .unpairedEscape => "unexpected end of hex escape"
  | .loneSurrogate => "lone leading surrogate in hex escape"
  | .controlCharacter => "control character (\\u0000-\\u001F) found while parsing a string"
  | .invalidUnicode => "invalid unicode code point"
  | .nestingLimit => "recursion limit exceeded"

end RemoteSigner.Json
