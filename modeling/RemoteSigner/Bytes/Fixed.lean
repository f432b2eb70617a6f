import RemoteSigner.Bytes.Hex
import RemoteSigner.Error
import RemoteSigner.Json.Decode

/-!
# Byte strings of a fixed length, and of any length, as hexadecimal text

Text is written with a leading `0x` and read with or without it.
-/

namespace RemoteSigner

/-- A byte string of length `n`. -/
structure FixedBytes (n : Nat) where
  bytes : Bytes
  length_eq : bytes.length = n
deriving DecidableEq

/-- A hash tree root. -/
abbrev Root := FixedBytes 32

/-- A fork version. -/
abbrev Version := FixedBytes 4

namespace Hex

/-- The text of a byte string behind `0x`. -/
def encodeMarked (bytes : Bytes) : String :=
  "0x" ++ encode bytes

/-- Read the bytes of a text with or without a leading `0x`. -/
def decodeMarked (text : String) : Except CoreError Bytes :=
  match decodeChars (Text.dropMarker text.toList) with
  | .ok bytes => .ok bytes
  | .error e => .error (.invalid ("malformed hex: " ++ e.message))

end Hex

namespace FixedBytes

variable {n : Nat}

/-- All zero. -/
def zero (n : Nat) : FixedBytes n :=
  ⟨List.replicate n 0, List.length_replicate⟩

instance : Inhabited (FixedBytes n) := ⟨zero n⟩

/-- A byte string of the right length. -/
def ofBytes? (bytes : Bytes) : Option (FixedBytes n) :=
  if h : bytes.length = n then some ⟨bytes, h⟩ else none

/-- The leading bytes, filled up with zeros. -/
def fit (n : Nat) (bytes : Bytes) : FixedBytes n :=
  ⟨(bytes ++ List.replicate n 0).take n, by simp⟩

/-- A byte string of the right length, or the fault of another one. -/
def ofBytes (bytes : Bytes) : Except CoreError (FixedBytes n) :=
  match ofBytes? bytes with
  | some b => .ok b
  | none =>
      .error (.invalid
        ("expected " ++ toString n ++ " bytes, got " ++ toString bytes.length))

/-- The text behind `0x`. -/
def toHex (b : FixedBytes n) : String :=
  Hex.encodeMarked b.bytes

/-- Read a text with or without `0x`. -/
def ofHex (text : String) : Except CoreError (FixedBytes n) := do
  ofBytes (← Hex.decodeMarked text)

/-- Whether every byte is zero. -/
def isZero (b : FixedBytes n) : Bool :=
  b.bytes.all (· == 0)

/-- The document of a byte string. -/
def toJson (b : FixedBytes n) : Json :=
  .text b.toHex

/-- Decode a byte string. -/
def decode : Json.Decoder (FixedBytes n) :=
  .textWith fun s => (ofHex s).mapError CoreError.message

end FixedBytes

/-- A byte string of any length, written behind `0x`. -/
structure HexBytes where
  bytes : Bytes
deriving DecidableEq

namespace HexBytes

/-- The text behind `0x`. -/
def toHex (b : HexBytes) : String :=
  Hex.encodeMarked b.bytes

/-- Read a text with or without `0x`. -/
def ofHex (text : String) : Except CoreError HexBytes :=
  (Hex.decodeMarked text).map .mk

/-- The document of a byte string. -/
def toJson (b : HexBytes) : Json :=
  .text b.toHex

/-- Decode a byte string. -/
def decode : Json.Decoder HexBytes :=
  .textWith fun s => (ofHex s).mapError CoreError.message

end HexBytes

end RemoteSigner
