import RemoteSigner.Decimal.Binary64
import RemoteSigner.Json.Grammar
import RemoteSigner.Text.Numeral

/-!
# JSON numbers

A numeral without point and exponent that fits 64 bits is an integer; any
other numeral, and `-0`, is a double. A double is read by scaling the leading
significant digits by one rounded power of ten.
-/

namespace RemoteSigner.Json

/-- The value of a numeral. -/
inductive Number where
  /-- A number from zero to the largest unsigned 64-bit number. -/
  | natural (value : UInt64)
  /-- `-(below + 1)`, not below the least signed 64-bit number. -/
  | negative (below : Nat)
  /-- Any other number. -/
  | double (value : Binary64)
deriving DecidableEq, Repr

namespace Number

/-- The text of a number. -/
def encode : Number → String
  | .natural n => Numeral.encode n.toNat
  | .negative below => "-" ++ Numeral.encode (below + 1)
  | .double v => v.encode

end Number

/-- The parts of a numeral as written. -/
structure Numeral where
  negative : Bool
  whole : List Char
  fraction : Option (List Char)
  /-- Whether the exponent is negative, and its digits. -/
  exponent : Option (Bool × List Char)
deriving DecidableEq, Repr

namespace Numeral

/-- The leading digits whose value fits 64 bits, added to `acc`, and the
digits left over. -/
def significant (acc : Nat) : List Char → Nat × List Char
  | [] => (acc, [])
  | c :: rest =>
      let next := acc * 10 + (RemoteSigner.Numeral.value? c).getD 0
      if next ≤ RemoteSigner.Numeral.maxUInt64 then significant next rest else (acc, c :: rest)

/-- The value of digits. -/
def valueOf (cs : List Char) : Nat :=
  cs.foldl (fun acc c => acc * 10 + (RemoteSigner.Numeral.value? c).getD 0) 0

/-- `significand * 10 ^ exponent` by at most `fuel` divisions by `10 ^ 308`. -/
def scale : Nat → Binary64 → Int → Except GrammarError Binary64
  | 0, v, _ => .ok v
  | fuel + 1, v, exponent =>
      if exponent.natAbs ≤ 308 then
        match Binary64.powerOfTen? exponent.natAbs with
        | none => .error .numberOutOfRange
        | some power =>
            let scaled := if exponent ≥ 0 then v.mul? power else v.div? power
            scaled.elim (.error .numberOutOfRange) .ok
      else if v.mantissa = 0 then .ok v
      else if exponent ≥ 0 then .error .numberOutOfRange
      else
        match Binary64.powerOfTen? 308 with
        | none => .error .numberOutOfRange
        | some power => scale fuel ((v.div? power).getD v) (exponent + 308)

/-- The double of a significand and a decimal exponent. -/
def toDouble (negative : Bool) (significand : Nat) (exponent : Int) :
    Except GrammarError Binary64 :=
  match Binary64.ofQuotient? false significand 1 with
  | none => .error .numberOutOfRange
  | some v =>
      (scale (exponent.natAbs / 308 + 2) v exponent).map fun v =>
        if negative then v.neg else v

/-- The magnitude of the least negative integer. -/
def leastNegative : Nat := 9223372036854775808

/-- The value of a numeral. -/
def value (n : Numeral) : Except GrammarError Number :=
  let (whole, dropped) := significant 0 n.whole
  match n.fraction, n.exponent, dropped with
  | none, none, [] =>
      if !n.negative then .ok (.natural (UInt64.ofNat whole))
      else if whole = 0 then .ok (.double ⟨true, 0, Binary64.minExponent⟩)
      else if whole ≤ leastNegative then .ok (.negative (whole - 1))
      else (toDouble true whole 0).map .double
  | fraction, exponent, _ =>
      let part := fraction.getD []
      let (significand, ignored) := significant whole part
      let point : Int := (dropped.length : Int) - ((part.length - ignored.length : Nat) : Int)
      match exponent with
      | none => (toDouble n.negative significand point).map .double
      | some (down, digits) =>
          let e := valueOf digits
          if e > 2147483647 then
            if significand ≠ 0 ∧ !down then .error .numberOutOfRange
            else .ok (.double ⟨n.negative, 0, Binary64.minExponent⟩)
          else
            (toDouble n.negative significand (if down then point - e else point + e)).map .double

end Numeral

end RemoteSigner.Json
