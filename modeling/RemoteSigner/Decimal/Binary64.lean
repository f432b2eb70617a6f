/-!
# Double precision numbers, exactly

A finite double is a sign and a magnitude `mantissa * 2 ^ exponent` with at
most 53 bits of mantissa. Quotients of natural numbers are rounded to the
nearest magnitude, ties to the even mantissa.
-/

namespace RemoteSigner

/-- A finite double. -/
structure Binary64 where
  negative : Bool
  mantissa : Nat
  exponent : Int
deriving DecidableEq, Repr

namespace Binary64

/-- The least exponent. -/
def minExponent : Int := -1074

/-- The least mantissa of 53 bits. -/
def unit : Nat := 4503599627370496

/-- The largest exponent of a finite value. -/
def maxExponent : Int := 971

/-- `num / den * 2 ^ (-e)` as a quotient of natural numbers. -/
def scaled (num den : Nat) (e : Int) : Nat × Nat :=
  if e < 0 then (num <<< (-e).toNat, den) else (num, den <<< e.toNat)

/-- The quotient rounded to the nearest number, ties to even. -/
def roundHalfEven (num den : Nat) : Nat :=
  let q := num / den
  let r := num % den
  if 2 * r < den then q
  else if 2 * r > den then q + 1
  else if q % 2 = 0 then q else q + 1

/-- The exponent at which `num / den` has 53 bits, or the least one. -/
def exponentOf (num den : Nat) : Int :=
  let guess : Int := (Nat.log2 num : Int) - (Nat.log2 den : Int) - 52
  let (n, d) := scaled num den guess
  let e := if n / d < unit then guess - 1 else guess
  if e < minExponent then minExponent else e

/-- The double nearest to `num / den`, or `none` when it is infinite. -/
def ofQuotient? (negative : Bool) (num den : Nat) : Option Binary64 :=
  if num = 0 then some ⟨negative, 0, minExponent⟩
  else
    let e := exponentOf num den
    let (n, d) := scaled num den e
    let m := roundHalfEven n d
    let (m, e) := if m = 2 * unit then (unit, e + 1) else (m, e)
    if e > maxExponent then none else some ⟨negative, m, e⟩

/-- The magnitude as a quotient of natural numbers. -/
def toQuotient (v : Binary64) : Nat × Nat :=
  if v.exponent < 0 then (v.mantissa, 1 <<< (-v.exponent).toNat)
  else (v.mantissa <<< v.exponent.toNat, 1)

/-- The product, rounded. -/
def mul? (a b : Binary64) : Option Binary64 :=
  let (n₁, d₁) := a.toQuotient
  let (n₂, d₂) := b.toQuotient
  ofQuotient? (a.negative != b.negative) (n₁ * n₂) (d₁ * d₂)

/-- The quotient by a value other than zero, rounded. -/
def div? (a b : Binary64) : Option Binary64 :=
  let (n₁, d₁) := a.toQuotient
  let (n₂, d₂) := b.toQuotient
  ofQuotient? (a.negative != b.negative) (n₁ * d₂) (d₁ * n₂)

/-- The double nearest to a power of ten. -/
def powerOfTen? (n : Nat) : Option Binary64 :=
  ofQuotient? false (Nat.pow 10 n) 1

/-- The same magnitude with the sign changed. -/
def neg (v : Binary64) : Binary64 :=
  ⟨!v.negative, v.mantissa, v.exponent⟩

/-- The magnitudes that round to `v`, as two quotients over one denominator,
and whether the ends belong to them. -/
def interval (v : Binary64) : Nat × Nat × Nat × Bool :=
  -- quarters of a unit: the gap below a power of two is half as wide
  let narrow := v.mantissa = unit ∧ v.exponent > minExponent
  let low := if narrow then 4 * v.mantissa - 1 else 4 * v.mantissa - 2
  let high := 4 * v.mantissa + 2
  let e := v.exponent - 2
  let closed := v.mantissa % 2 = 0
  if e < 0 then (low, high, 1 <<< (-e).toNat, closed)
  else (low <<< e.toNat, high <<< e.toNat, 1, closed)

/-- The number of decimal digits of a positive number. -/
def digitCount (n : Nat) : Nat :=
  (Nat.toDigits 10 n).length

/-- The position of the first digit: the least `k` with `num / den < 10 ^ k`. -/
def pointPosition (num den : Nat) : Int :=
  let q := num / den
  if q > 0 then digitCount q
  else
    -- den / num counts the zeros after the point
    let k := digitCount ((den + num - 1) / num) - 1
    (if num * Nat.pow 10 k ≥ den then (1 : Int) else 0) - (k : Int)

/-- The multiple of `10 ^ (point - count)` nearest to the value among those
that read back, as a number of units. -/
def gridPoint? (v : Binary64) (point : Int) (count : Nat) : Option Nat :=
  let (num, den) := v.toQuotient
  let e := point - count
  let ten := Nat.pow 10 e.natAbs
  let (n, d) := if e < 0 then (num * ten, den) else (num, den * ten)
  let below := n / d
  let above := below + 1
  let (lo, hi, iden, closed) := v.interval
  let inside (u : Nat) : Bool :=
    let (x, y) := if e < 0 then (u, ten) else (u * ten, 1)
    let l := compare (lo * y) (x * iden)
    let h := compare (x * iden) (hi * y)
    if closed then l != .gt && h != .gt else l == .lt && h == .lt
  let nearest := roundHalfEven n d
  let other := if nearest = below then above else below
  if nearest ≠ 0 ∧ inside nearest then some nearest
  else if other ≠ 0 ∧ inside other then some other
  else none

/-- The fewest digits that read back, and the position of the point. -/
def shortest (v : Binary64) : List Char × Int :=
  let (num, den) := v.toQuotient
  let point := pointPosition num den
  let found := (List.range 17).findSome? fun i =>
    (gridPoint? v point (i + 1)).map fun u => (u, i + 1)
  let (u, count) := found.getD (0, 1)
  let ds := Nat.toDigits 10 u
  -- a carry makes one digit more, which moves the point
  let shift : Int := (ds.length : Int) - count
  let trimmed := (ds.reverse.dropWhile (· == '0')).reverse
  (trimmed, point + shift)

/-- How a double is written: positional while the point falls within sixteen
digits or five zeros, otherwise with an exponent of as few digits as needed. -/
def encode (v : Binary64) : String :=
  let sign := if v.negative then "-" else ""
  let body :=
    if v.mantissa = 0 then "0.0"
    else
      let (ds, point) := v.shortest
      let n : Int := ds.length
      if n ≤ point ∧ point ≤ 16 then
        String.ofList (ds ++ List.replicate (point - n).toNat '0') ++ ".0"
      else if 0 < point ∧ point ≤ 16 then
        String.ofList (ds.take point.toNat) ++ "." ++ String.ofList (ds.drop point.toNat)
      else if -5 < point ∧ point ≤ 0 then
        "0." ++ String.ofList (List.replicate (-point).toNat '0' ++ ds)
      else
        let exponent := "e" ++ toString (point - 1)
        match ds with
        | [d] => String.ofList [d] ++ exponent
        | d :: rest => String.ofList [d] ++ "." ++ String.ofList rest ++ exponent
        | [] => "0.0"
  sign ++ body

end Binary64

end RemoteSigner
