import RemoteSigner.Bytes.BigEndian

/-!
# AES with 128-bit keys, in counter mode

The substitution is the affine image of the inverse in the field with 256
elements, so no table has to be taken on trust.
-/

namespace RemoteSigner.Aes128

/-- Twice an element of the field. -/
def twice (a : UInt8) : UInt8 :=
  if a < 0x80 then a <<< 1 else (a <<< 1) ^^^ 0x1b

/-- The product of two elements, taking in `bits` bits of the second. -/
def times : Nat → UInt8 → UInt8 → UInt8
  | 0, _, _ => 0
  | bits + 1, a, b => (if b % 2 = 1 then a else 0) ^^^ times bits (twice a) (b >>> 1)

/-- The product of two elements of the field. -/
def mul (a b : UInt8) : UInt8 :=
  times 8 a b

/-- The power with exponent 254, which is the inverse, and zero for zero. -/
def inverse (a : UInt8) : UInt8 :=
  let a2 := mul a a
  let a3 := mul a2 a
  let a12 := mul (mul a3 a3) (mul a3 a3)
  let a14 := mul a12 a2
  let a15 := mul a14 a
  let a30 := mul a15 a15
  let a60 := mul a30 a30
  let a120 := mul a60 a60
  let a240 := mul a120 a120
  mul a240 a14

/-- Rotate a byte to the left. -/
def rotate (a : UInt8) (n : UInt8) : UInt8 :=
  (a <<< n) ||| (a >>> (8 - n))

/-- The substitute of a byte. -/
def substitute (a : UInt8) : UInt8 :=
  let b := inverse a
  b ^^^ rotate b 1 ^^^ rotate b 2 ^^^ rotate b 3 ^^^ rotate b 4 ^^^ 0x63

/-- Combine two byte strings bit by bit. -/
def xor (a b : Bytes) : Bytes :=
  List.zipWith (· ^^^ ·) a b

/-- The round key after a round key, with the constant of its round. -/
def nextKey (constant : UInt8) : Bytes → Bytes
  | [a, b, c, d, e, f, g, h, i, j, k, l, m, n, o, p] =>
      let w₀ := [a ^^^ substitute n ^^^ constant, b ^^^ substitute o, c ^^^ substitute p,
        d ^^^ substitute m]
      let w₁ := xor w₀ [e, f, g, h]
      let w₂ := xor w₁ [i, j, k, l]
      let w₃ := xor w₂ [m, n, o, p]
      w₀ ++ w₁ ++ w₂ ++ w₃
  | key => key

/-- The round keys after a round key. -/
def keysFrom : Nat → UInt8 → Bytes → List Bytes
  | 0, _, _ => []
  | n + 1, constant, key =>
      let next := nextKey constant key
      next :: keysFrom n (twice constant) next

/-- Substitute all bytes and shift the rows. -/
def shiftRows : Bytes → Bytes
  | [a, b, c, d, e, f, g, h, i, j, k, l, m, n, o, p] =>
      [a, f, k, p, e, j, o, d, i, n, c, h, m, b, g, l].map substitute
  | state => state

/-- Mix the columns. -/
def mixColumns : Bytes → Bytes
  | a :: b :: c :: d :: rest =>
      let all := a ^^^ b ^^^ c ^^^ d
      (a ^^^ all ^^^ twice (a ^^^ b)) :: (b ^^^ all ^^^ twice (b ^^^ c)) ::
        (c ^^^ all ^^^ twice (c ^^^ d)) :: (d ^^^ all ^^^ twice (d ^^^ a)) :: mixColumns rest
  | state => state

/-- The rounds of a block; the last one does not mix. -/
def rounds : List Bytes → Bytes → Bytes
  | [], state => state
  | [key], state => xor (shiftRows state) key
  | key :: keys, state => rounds keys (xor (mixColumns (shiftRows state)) key)

/-- Encrypt a block of sixteen bytes. -/
def block (key state : Bytes) : Bytes :=
  rounds (keysFrom 10 1 key) (xor state key)

/-- The bytes of the key stream, by place: the blocks of the counter values from
that of the initial vector on. -/
def keyStream (key iv : Bytes) (place : Nat) : UInt8 :=
  (block key (bytesOfNat 16 (natOfBytes iv + place / 16))).getD (place % 16) 0

end RemoteSigner.Aes128
