import RemoteSigner.Curve.Point
import RemoteSigner.Hash.Hmac

/-!
# Signatures on secp256k1

The nonce of a signature is drawn from key and digest by keyed hashing, so
signing is a function. Of the two values of `s` the lower one is
taken, and the parity and overflow of the nonce point are appended.
-/

namespace RemoteSigner.Secp256k1

/-- The prime of the coordinates. -/
def prime : Nat := 0xfffffffffffffffffffffffffffffffffffffffffffffffffffffffefffffc2f

/-- The order of the group. -/
def order : Nat := 0xfffffffffffffffffffffffffffffffebaaedce6af48a03bbfd25e8cd0364141

/-- The coordinates. -/
def field : Field Nat := primeField prime

/-- The base point. -/
def base : CurvePoint Nat :=
  .ofPlane field 0x79be667ef9dcbbac55a06295ce870b07029bfcdb2dce28d959f2815b16f81798
    0x483ada7726a3c4655da4fbfc0e1108a8fd17b448a68554199c47d08ffb10d4b8

/-- The secret number of 32 bytes, if it is in range. Up to eight leading zero
bytes may be missing. -/
def secret? (bytes : Bytes) : Option Nat :=
  let n := natOfBytes bytes
  if 24 ≤ bytes.length ∧ bytes.length ≤ 32 ∧ 0 < n ∧ n < order then some n else none

/-- The compressed public key of a secret. -/
def publicKey (secret : Nat) : Bytes :=
  let (x, y) := (CurvePoint.scale field secret base).toPlane field
  UInt8.ofNat (2 + y % 2) :: bytesOfNat 32 x

/-- The state of the generator of nonces. -/
structure NonceState where
  key : Bytes
  value : Bytes

namespace NonceState

/-- Stir data into the state behind a marking byte. -/
def stir (s : NonceState) (mark : UInt8) (data : Bytes) : NonceState :=
  let key := (Hmac.code s.key (s.value ++ mark :: data)).bytes
  ⟨key, (Hmac.code key s.value).bytes⟩

/-- The state for a secret and a digest of 32 bytes, which goes in as it is. -/
def of (secret : Nat) (digest : Bytes) : NonceState :=
  let data := bytesOfNat 32 secret ++ digest
  let start : NonceState := ⟨List.replicate 32 0, List.replicate 32 1⟩
  (start.stir 0 data).stir 1 data

/-- The next candidate and the state that drew it. -/
def draw (s : NonceState) : Nat × NonceState :=
  let value := (Hmac.code s.key s.value).bytes
  (natOfBytes value, ⟨s.key, value⟩)

end NonceState

/-- The signature with a nonce: `r`, the lower `s` and the recovery number. -/
def signWith? (secret digest nonce : Nat) : Option (Nat × Nat × Nat) :=
  if nonce = 0 ∨ order ≤ nonce then none
  else
    let (x, y) := (CurvePoint.scale field nonce base).toPlane field
    let r := x % order
    let s := powMod order nonce (order - 2) * ((digest + r * secret) % order) % order
    if r = 0 ∨ s = 0 then none
    else
      let recovery := y % 2 + if order ≤ x then 2 else 0
      if order / 2 < s then some (r, order - s, recovery ^^^ 1) else some (r, s, recovery)

/-- Try candidates for the nonce, at most `fuel` of them. -/
def signFrom (secret digest : Nat) : Nat → NonceState → Option (Nat × Nat × Nat)
  | 0, _ => none
  | fuel + 1, state =>
      let (nonce, drawn) := state.draw
      match signWith? secret digest nonce with
      | some signature => some signature
      | none => signFrom secret digest fuel (drawn.stir 0 [])

/-- The signature of a digest of 32 bytes: `r`, `s` and the recovery number. A
candidate for the nonce fails with probability below 2 to the power -127. -/
def sign? (secret : Nat) (digest : Bytes) : Option Bytes :=
  (signFrom secret (natOfBytes digest % order) 16 (NonceState.of secret digest)).map
    fun (r, s, recovery) => bytesOfNat 32 r ++ bytesOfNat 32 s ++ [UInt8.ofNat recovery]

end RemoteSigner.Secp256k1
