/-!
# Hexadecimal text

A byte is written as two lower-case digits, high half first. Reading takes
digits of either case and names the first fault: an odd number of digits
before anything else, then the first byte of text that is no digit.
-/

namespace RemoteSigner

/-- A byte string. -/
abbrev Bytes := List UInt8

namespace Hex

/-- The digit of a value below sixteen. -/
def digit (value : Nat) : Char :=
  if value < 10 then Char.ofNat (48 + value) else Char.ofNat (87 + value)

/-- The value of a digit of either case. -/
def value? (c : Char) : Option Nat :=
  let n := c.toNat
  if 48 ≤ n ∧ n ≤ 57 then some (n - 48)
  else if 97 ≤ n ∧ n ≤ 102 then some (n - 87)
  else if 65 ≤ n ∧ n ≤ 70 then some (n - 55)
  else none

/-- Whether a character is a digit of either case. -/
def isDigit (c : Char) : Bool :=
  (value? c).isSome

/-- The two digits of a byte. -/
def byteDigits (b : UInt8) : List Char :=
  [digit (b.toNat / 16), digit (b.toNat % 16)]

/-- The digits of a byte string. -/
def digits (bytes : Bytes) : List Char :=
  bytes.flatMap byteDigits

/-- The text of a byte string. -/
def encode (bytes : Bytes) : String :=
  String.ofList (digits bytes)

/-- Why a text does not name a byte string. -/
inductive Fault where
  /-- The text has an odd number of bytes. -/
  | oddLength
  /-- The byte at `index` begins no digit. -/
  | badCharacter (byte : Nat) (index : Nat)
deriving DecidableEq, Repr

/-- A byte shown as a quoted character, with controls and quotes escaped. -/
def quoted (byte : Nat) : String :=
  let shown :=
    if byte = 0 then "\\0"
    else if byte = 9 then "\\t"
    else if byte = 10 then "\\n"
    else if byte = 13 then "\\r"
    else if byte = 39 then "\\'"
    else if byte = 92 then "\\\\"
    else if byte < 32 ∨ byte = 127 then
      "\\u\x7b" ++ String.ofList (Nat.toDigits 16 byte) ++ "\x7d"
    else String.singleton (Char.ofNat byte)
  "'" ++ shown ++ "'"

/-- The wording of a fault. -/
def Fault.message : Fault → String
  | .oddLength => "Odd number of digits"
  | .badCharacter byte index =>
      "Invalid character " ++ quoted byte ++ " at position " ++ toString index

/-- The first byte of a character in UTF-8. -/
def leadingByte (c : Char) : Nat :=
  let n := c.toNat
  if n < 0x80 then n
  else if n < 0x800 then 0xC0 + n / 0x40
  else if n < 0x10000 then 0xE0 + n / 0x1000
  else 0xF0 + n / 0x40000

/-- The number of bytes of a text in UTF-8. -/
def byteLength (cs : List Char) : Nat :=
  cs.foldr (fun c n => c.utf8Size + n) 0

/-- The bytes that pairs of digits stand for. -/
def pairs : List Char → Bytes
  | hi :: lo :: rest =>
      UInt8.ofNat (16 * (value? hi).getD 0 + (value? lo).getD 0) :: pairs rest
  | _ => []

/-- Read the bytes a list of characters stands for. Every character before the
first bad one is a digit of one byte, so its index counts bytes. -/
def decodeChars (cs : List Char) : Except Fault Bytes :=
  if byteLength cs % 2 = 1 then .error .oddLength
  else
    match cs.dropWhile isDigit with
    | [] => .ok (pairs cs)
    | c :: _ => .error (.badCharacter (leadingByte c) (cs.takeWhile isDigit).length)

/-- Read the bytes a text stands for. -/
def decode (text : String) : Except Fault Bytes :=
  decodeChars text.toList

end Hex

end RemoteSigner
