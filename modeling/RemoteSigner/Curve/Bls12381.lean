import RemoteSigner.Curve.Point
import RemoteSigner.Hash.Hmac

/-!
# BLS signatures on BLS12-381

Public keys lie on the curve over the prime field and signatures on the curve
over its quadratic extension. A message is hashed to two points of a curve that
has a simple map from the field; an isogeny takes them to the curve of
signatures, where their sum is moved into its group.
-/

namespace RemoteSigner.Bls12381

/-- The number that words of 192 bits make, the highest first. -/
def joined (words : List Nat) : Nat :=
  words.foldl (fun n word => (n <<< 192) + word) 0

/-- The prime of the coordinates. -/
def prime : Nat :=
  joined [0x1a0111ea397fe69a4b1ba7b6434bacd764774b84f38512bf,
    0x6730d2a0f6b0f6241eabfffeb153ffffb9feffffffffaaab]

/-- The order of the groups. -/
def order : Nat := 0x73eda753299d7d483339d80809a1d80553bda402fffe5bfeffffffff00000001

/-- The prime field. -/
def field : Field Nat := primeField prime

/-- An element of the quadratic extension: `re + im·i` with `i² = -1`. -/
structure Complex where
  re : Nat
  im : Nat
deriving DecidableEq, Repr

namespace Complex

/-- The quadratic extension. -/
def field : Field Complex where
  zero := ⟨0, 0⟩
  one := ⟨1, 0⟩
  add a b := ⟨(a.re + b.re) % prime, (a.im + b.im) % prime⟩
  sub a b := ⟨(a.re + prime - b.re) % prime, (a.im + prime - b.im) % prime⟩
  mul a b :=
    ⟨(a.re * b.re + (prime - a.im) * b.im) % prime, (a.re * b.im + a.im * b.re) % prime⟩
  inv a :=
    let i := powMod prime (a.re * a.re + a.im * a.im) (prime - 2)
    ⟨a.re * i % prime, (prime - a.im) * i % prime⟩

/-- A square root of an element with a real part and no other. -/
def sqrtReal? (a : Nat) : Option Complex :=
  match sqrtMod? prime a with
  | some r => some ⟨r, 0⟩
  | none => (sqrtMod? prime (prime - a)).map fun r => ⟨0, r⟩

/-- A square root. With `s` a root of the norm, the real part of the root is
that of (re + s)/2 or of (re - s)/2. -/
def sqrt? (a : Complex) : Option Complex :=
  if a.im = 0 then sqrtReal? a.re
  else do
    let s ← sqrtMod? prime ((a.re * a.re + a.im * a.im) % prime)
    let half := (prime + 1) / 2
    let re ← (sqrtMod? prime ((a.re + s) * half % prime)).orElse fun _ =>
      sqrtMod? prime ((a.re + prime - s) * half % prime)
    pure ⟨re, a.im * powMod prime (2 * re % prime) (prime - 2) % prime⟩

/-- The sign of an element: the parity of its first part that is not zero. -/
def sign (a : Complex) : Bool :=
  if a.re = 0 then a.im % 2 == 1 else a.re % 2 == 1

/-- Whether an element is the larger of itself and its opposite. -/
def isLarger (a : Complex) : Bool :=
  if a.im = 0 then prime / 2 < a.re else prime / 2 < a.im

end Complex

/-- The base point of public keys. -/
def base : CurvePoint Nat :=
  .ofPlane field
    (joined [0x17f1d3a73197d7942695638c4fa9ac0fc3688c4f9774b905,
      0xa14e3a3f171bac586c55e83ff97a1aeffb3af00adb22c6bb])
    (joined [0x08b3f481e3aaa0f1a09e30ed741d8ae4fcf5e095d5d00af6,
      0x00db18cb2c04b3edd03cc744a2888ae40caa232946c5e7e1])

/-- The secret number of 32 bytes, if it is in range. -/
def secret? (bytes : Bytes) : Option Nat :=
  let n := natOfBytes bytes
  if bytes.length = 32 ∧ 0 < n ∧ n < order then some n else none

/-- Set the marks of a compressed point on its first byte. -/
def mark (larger : Bool) : Bytes → Bytes
  | [] => []
  | b :: rest => (b ||| (if larger then 0xa0 else 0x80)) :: rest

/-- The compressed public key of a secret. -/
def publicKey (secret : Nat) : Bytes :=
  let (x, y) := (CurvePoint.scale field secret base).toPlane field
  mark (prime / 2 < y) (bytesOfNat 48 x)

/-- The tag of the suite. -/
def tag : Bytes :=
  "BLS_SIG_BLS12381G2_XMD:SHA-256_SSWU_RO_POP_".toUTF8.toList

/-- The blocks of an expanded message after a block, from number `i` on. -/
def expandFrom (first suffix : Bytes) : Nat → Nat → Bytes → Bytes
  | 0, _, _ => []
  | count + 1, i, last =>
      let next := (Sha256.digest
        (List.zipWith (· ^^^ ·) first last ++ UInt8.ofNat i :: suffix)).bytes
      next ++ expandFrom first suffix count (i + 1) next

/-- Expand a message to 256 bytes. -/
def expand (message : Bytes) : Bytes :=
  let suffix := tag ++ [UInt8.ofNat tag.length]
  let first := (Sha256.digest (List.replicate 64 0 ++ message ++ [1, 0, 0] ++ suffix)).bytes
  expandFrom first suffix 8 1 (List.replicate 32 0)

/-- The number of 64 bytes of an expanded message. -/
def coordinate (expanded : Bytes) (i : Nat) : Nat :=
  natOfBytes ((expanded.drop (64 * i)).take 64) % prime

/-- The parameters of the curve y² = x³ + a·x + b that the map lands on. -/
def mapA : Complex := ⟨0, 240⟩

/-- The constant coefficient of that curve. -/
def mapB : Complex := ⟨1012, 1012⟩

/-- The element that decides between the two candidates of the map. -/
def mapZ : Complex := ⟨prime - 2, prime - 1⟩

/-- The right-hand side of the curve that the map lands on. -/
def mapCurve (x : Complex) : Complex :=
  Complex.field.evaluate [mapB, mapA, ⟨0, 0⟩, ⟨1, 0⟩] x

/-- The point of an element on the curve that the map lands on. -/
def mapToCurve (u : Complex) : Complex × Complex :=
  let k := Complex.field
  let t := k.mul mapZ (k.square u)
  let d := k.add (k.square t) t
  let x₁ :=
    if d = k.zero then k.mul mapB (k.inv (k.mul mapZ mapA))
    else k.mul (k.mul (k.neg mapB) (k.inv mapA)) (k.add k.one (k.inv d))
  let (x, y) :=
    match (mapCurve x₁).sqrt? with
    | some y => (x₁, y)
    | none =>
        let x₂ := k.mul t x₁
        (x₂, (mapCurve x₂).sqrt?.getD k.zero)
  (x, if u.sign = y.sign then y else k.neg y)

/-- The numerator of the first coordinate of the isogeny. -/
def isogenyX : List Complex := [
  ⟨joined [0x05c759507e8e333ebb5b7a9a47d7ed8532c52d39fd3a042a,
      0x88b58423c50ae15d5c2638e343d9c71c6238aaaaaaaa97d6],
    joined [0x05c759507e8e333ebb5b7a9a47d7ed8532c52d39fd3a042a,
      0x88b58423c50ae15d5c2638e343d9c71c6238aaaaaaaa97d6]⟩,
  ⟨0, joined [0x11560bf17baa99bc32126fced787c88f984f87adf7ae0c7f,
      0x9a208c6b4f20a4181472aaa9cb8d555526a9ffffffffc71a]⟩,
  ⟨joined [0x11560bf17baa99bc32126fced787c88f984f87adf7ae0c7f,
      0x9a208c6b4f20a4181472aaa9cb8d555526a9ffffffffc71e],
    joined [0x08ab05f8bdd54cde190937e76bc3e447cc27c3d6fbd7063f,
      0xcd104635a790520c0a395554e5c6aaaa9354ffffffffe38d]⟩,
  ⟨joined [0x171d6541fa38ccfaed6dea691f5fb614cb14b4e7f4e810aa,
      0x22d6108f142b85757098e38d0f671c7188e2aaaaaaaa5ed1], 0⟩]

/-- The denominator of the first coordinate. -/
def isogenyXBelow : List Complex := [
  ⟨0, joined [0x1a0111ea397fe69a4b1ba7b6434bacd764774b84f38512bf,
      0x6730d2a0f6b0f6241eabfffeb153ffffb9feffffffffaa63]⟩,
  ⟨0xc, joined [0x1a0111ea397fe69a4b1ba7b6434bacd764774b84f38512bf,
      0x6730d2a0f6b0f6241eabfffeb153ffffb9feffffffffaa9f]⟩,
  ⟨1, 0⟩]

/-- The numerator of the second coordinate, to be multiplied by y. -/
def isogenyY : List Complex := [
  ⟨joined [0x1530477c7ab4113b59a4c18b076d11930f7da5d4a07f649b,
      0xf54439d87d27e500fc8c25ebf8c92f6812cfc71c71c6d706],
    joined [0x1530477c7ab4113b59a4c18b076d11930f7da5d4a07f649b,
      0xf54439d87d27e500fc8c25ebf8c92f6812cfc71c71c6d706]⟩,
  ⟨0, joined [0x05c759507e8e333ebb5b7a9a47d7ed8532c52d39fd3a042a,
      0x88b58423c50ae15d5c2638e343d9c71c6238aaaaaaaa97be]⟩,
  ⟨joined [0x11560bf17baa99bc32126fced787c88f984f87adf7ae0c7f,
      0x9a208c6b4f20a4181472aaa9cb8d555526a9ffffffffc71c],
    joined [0x08ab05f8bdd54cde190937e76bc3e447cc27c3d6fbd7063f,
      0xcd104635a790520c0a395554e5c6aaaa9354ffffffffe38f]⟩,
  ⟨joined [0x124c9ad43b6cf79bfbf7043de3811ad0761b0f37a1e26286,
      0xb0e977c69aa274524e79097a56dc4bd9e1b371c71c718b10], 0⟩]

/-- The denominator of the second coordinate. -/
def isogenyYBelow : List Complex := [
  ⟨joined [0x1a0111ea397fe69a4b1ba7b6434bacd764774b84f38512bf,
      0x6730d2a0f6b0f6241eabfffeb153ffffb9feffffffffa8fb],
    joined [0x1a0111ea397fe69a4b1ba7b6434bacd764774b84f38512bf,
      0x6730d2a0f6b0f6241eabfffeb153ffffb9feffffffffa8fb]⟩,
  ⟨0, joined [0x1a0111ea397fe69a4b1ba7b6434bacd764774b84f38512bf,
      0x6730d2a0f6b0f6241eabfffeb153ffffb9feffffffffa9d3]⟩,
  ⟨0x12, joined [0x1a0111ea397fe69a4b1ba7b6434bacd764774b84f38512bf,
      0x6730d2a0f6b0f6241eabfffeb153ffffb9feffffffffaa99]⟩,
  ⟨1, 0⟩]

/-- Move a point from the curve that the map lands on to the one of
signatures. -/
def isogeny (p : Complex × Complex) : CurvePoint Complex :=
  let k := Complex.field
  let x := k.mul (k.evaluate isogenyX p.1) (k.inv (k.evaluate isogenyXBelow p.1))
  let y := k.mul (k.evaluate isogenyY p.1) (k.inv (k.evaluate isogenyYBelow p.1))
  .ofPlane k x (k.mul p.2 y)

/-- The multiplier that moves any point into the group of signatures. -/
def cofactor : Nat :=
  joined [0xbc69f08f2ee75b3,
    0x584c6a0ea91b352888e2a8e9145ad7689986ff031508ffe1,
    0x329c2f178731db956d82bf015d1212b02ec0ec69d7477c1a,
    0xe954cbc06689f6a359894c0adebbf6b4e8020005aaa95551]

/-- The point of a message. -/
def hashToPoint (message : Bytes) : CurvePoint Complex :=
  let k := Complex.field
  let expanded := expand message
  let point (i : Nat) : CurvePoint Complex :=
    isogeny (mapToCurve ⟨coordinate expanded i, coordinate expanded (i + 1)⟩)
  CurvePoint.scale k cofactor (CurvePoint.add k (point 0) (point 2))

/-- The compressed signature of a message. -/
def sign (secret : Nat) (message : Bytes) : Bytes :=
  let k := Complex.field
  let (x, y) := (CurvePoint.scale k secret (hashToPoint message)).toPlane k
  mark y.isLarger (bytesOfNat 48 x.im ++ bytesOfNat 48 x.re)

/-- Draw a secret from key material, hashing the salt once more until the
outcome is not zero, at most `fuel` times. -/
def deriveSecret (material : Bytes) : Nat → Bytes → Nat
  | 0, _ => 0
  | fuel + 1, salt =>
      let salt := (Sha256.digest salt).bytes
      let key := (Hmac.code salt (material ++ [0])).bytes
      let first := (Hmac.code key [0, 48, 1]).bytes
      let second := (Hmac.code key (first ++ [0, 48, 2])).bytes
      let secret := natOfBytes ((first ++ second).take 48) % order
      if secret = 0 then deriveSecret material fuel salt else secret

/-- The secret of key material. -/
def secretOf (material : Bytes) : Nat :=
  deriveSecret material 8 "BLS-SIG-KEYGEN-SALT-".toUTF8.toList

end RemoteSigner.Bls12381
