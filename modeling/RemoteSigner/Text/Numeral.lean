/-!
# Unsigned decimal numerals

Writing uses the fewest digits. Reading accepts one leading `+` and leading
zeros, and reports the first fault in reading order: a character that is no
digit wins over the overflow it would cause.
-/

namespace RemoteSigner.Numeral

/-- Why a text is not a numeral below a bound. -/
inductive Fault where
  /-- There is no character at all. -/
  | empty
  /-- Some character is no digit. -/
  | invalidDigit
  /-- The value exceeds the bound. -/
  | tooLarge
deriving DecidableEq, Repr

/-- The wording of a fault. -/
def Fault.message : Fault → String
  | .empty => "cannot parse integer from empty string"
  | .invalidDigit => "invalid digit found in string"
  | .tooLarge => "number too large to fit in target type"

/-- The character of a digit below ten. -/
def digit (value : Nat) : Char :=
  Char.ofNat (48 + value)

/-- The value of a decimal digit. -/
def value? (c : Char) : Option Nat :=
  if 48 ≤ c.toNat ∧ c.toNat ≤ 57 then some (c.toNat - 48) else none

/-- Whether a character is a decimal digit. -/
def isDigit (c : Char) : Bool :=
  (value? c).isSome

/-- The fewest digits of a number. -/
def digits (n : Nat) : List Char :=
  if n < 10 then [digit n] else digits (n / 10) ++ [digit (n % 10)]

/-- The text of a number. -/
def encode (n : Nat) : String :=
  String.ofList (digits n)

/-- Take in one digit after the value `acc`. -/
def step (bound acc : Nat) (c : Char) : Except Fault Nat :=
  match value? c with
  | none => .error .invalidDigit
  | some d => if acc * 10 + d ≤ bound then .ok (acc * 10 + d) else .error .tooLarge

/-- Read the digits of a number up to `bound`. -/
def decodeDigits (bound : Nat) (cs : List Char) : Except Fault Nat :=
  cs.foldlM (step bound) 0

/-- Read a numeral up to `bound`. -/
def decode (bound : Nat) (text : String) : Except Fault Nat :=
  match text.toList with
  | [] => .error .empty
  | ['+'] => .error .invalidDigit
  | '+' :: rest => decodeDigits bound rest
  | cs => decodeDigits bound cs

/-- The largest 64-bit number. -/
def maxUInt64 : Nat := 18446744073709551615

/-- Read a 64-bit number. -/
def decodeUInt64 (text : String) : Except Fault UInt64 :=
  (decode maxUInt64 text).map UInt64.ofNat

/-- Read `true` or `false`. -/
def decodeBool (text : String) : Option Bool :=
  if text = "true" then some true else if text = "false" then some false else none

end RemoteSigner.Numeral
