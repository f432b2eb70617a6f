import RemoteSigner.Curve.Field

/-!
# Points of curves y² = x³ + b

Points are given by three coordinates: the point is at x/z² and y/z³, or it is
the neutral one if z is zero. No formula needs b.
-/

namespace RemoteSigner

/-- A point. -/
structure CurvePoint (F : Type) where
  x : F
  y : F
  z : F
deriving DecidableEq

namespace CurvePoint

variable {F : Type} [DecidableEq F] (k : Field F)

/-- The neutral point. -/
def neutral : CurvePoint F :=
  ⟨k.one, k.one, k.zero⟩

/-- The point with the given plane coordinates. -/
def ofPlane (x y : F) : CurvePoint F :=
  ⟨x, y, k.one⟩

/-- The plane coordinates of a point that is not neutral. -/
def toPlane (p : CurvePoint F) : F × F :=
  let i := k.inv p.z
  let i₂ := k.square i
  (k.mul p.x i₂, k.mul p.y (k.mul i₂ i))

/-- Twice a point. -/
def double (p : CurvePoint F) : CurvePoint F :=
  let a := k.square p.x
  let b := k.square p.y
  let c := k.square b
  let d := k.double (k.sub (k.sub (k.square (k.add p.x b)) a) c)
  let e := k.add a (k.double a)
  let x := k.sub (k.square e) (k.double d)
  ⟨x, k.sub (k.mul e (k.sub d x)) (k.double (k.double (k.double c))),
    k.double (k.mul p.y p.z)⟩

/-- The sum of two points. -/
def add (p q : CurvePoint F) : CurvePoint F :=
  if p.z = k.zero then q
  else if q.z = k.zero then p
  else
    let z₁ := k.square p.z
    let z₂ := k.square q.z
    let u₁ := k.mul p.x z₂
    let u₂ := k.mul q.x z₁
    let s₁ := k.mul p.y (k.mul q.z z₂)
    let s₂ := k.mul q.y (k.mul p.z z₁)
    if u₁ = u₂ then
      if s₁ = s₂ then double k p else neutral k
    else
      let h := k.sub u₂ u₁
      let i := k.square (k.double h)
      let j := k.mul h i
      let r := k.double (k.sub s₂ s₁)
      let v := k.mul u₁ i
      let x := k.sub (k.sub (k.square r) j) (k.double v)
      ⟨x, k.sub (k.mul r (k.sub v x)) (k.double (k.mul s₁ j)),
        k.mul (k.sub (k.sub (k.square (k.add p.z q.z)) z₁) z₂) h⟩

/-- A multiple of a point. -/
def scale (n : Nat) (p : CurvePoint F) : CurvePoint F :=
  (binaryDigits n).foldr
    (fun bit acc =>
      let doubled := double k acc
      if bit then add k doubled p else doubled) (neutral k)

end CurvePoint

end RemoteSigner
