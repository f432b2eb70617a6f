import RemoteSigner.Bytes.BigEndian

/-!
# Fields

The operations of a field as a record, so that the formulas for curve points
are written once; prime fields hold natural numbers below the prime.
-/

namespace RemoteSigner

/-- The operations of a field. -/
structure Field (F : Type) where
  zero : F
  one : F
  add : F → F → F
  sub : F → F → F
  mul : F → F → F
  inv : F → F

namespace Field

variable {F : Type} (k : Field F)

/-- The opposite of an element. -/
def neg (a : F) : F :=
  k.sub k.zero a

/-- The square of an element. -/
def square (a : F) : F :=
  k.mul a a

/-- Twice an element. -/
def double (a : F) : F :=
  k.add a a

/-- The value of a polynomial, lowest coefficient first. -/
def evaluate (coefficients : List F) (x : F) : F :=
  coefficients.foldr (fun c acc => k.add c (k.mul x acc)) k.zero

end Field

/-- The bits of a number, lowest first. -/
def binaryDigits (n : Nat) : List Bool :=
  if n = 0 then [] else (n % 2 == 1) :: binaryDigits (n / 2)

/-- A power modulo `p`. -/
def powMod (p base exponent : Nat) : Nat :=
  (binaryDigits exponent).foldr
    (fun bit acc =>
      let squared := acc * acc % p
      if bit then squared * base % p else squared) (1 % p)

/-- The field of a prime. -/
def primeField (p : Nat) : Field Nat where
  zero := 0
  one := 1 % p
  add a b := (a + b) % p
  sub a b := (a + (p - b % p)) % p
  mul a b := a * b % p
  inv a := powMod p a (p - 2)

/-- A square root modulo a prime that leaves three when divided by four. -/
def sqrtMod? (p a : Nat) : Option Nat :=
  let root := powMod p a ((p + 1) / 4)
  if root * root % p = a % p then some root else none

end RemoteSigner
