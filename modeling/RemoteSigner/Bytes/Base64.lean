import RemoteSigner.Bytes.Hex

/-!
# Base64 text

Three bytes become four characters of the standard alphabet; the last group is
filled up with `=`.
-/

namespace RemoteSigner.Base64

/-- The character of a value below sixty-four. -/
def symbol (value : Nat) : Char :=
  if value < 26 then Char.ofNat (65 + value)
  else if value < 52 then Char.ofNat (71 + value)
  else if value < 62 then Char.ofNat (value - 4)
  else if value = 62 then '+' else '/'

/-- The characters of a byte string. -/
def symbols : Bytes → List Char
  | a :: b :: c :: rest =>
      let n := a.toNat * 65536 + b.toNat * 256 + c.toNat
      symbol (n / 262144) :: symbol (n / 4096 % 64) :: symbol (n / 64 % 64) ::
        symbol (n % 64) :: symbols rest
  | [a, b] =>
      let n := a.toNat * 65536 + b.toNat * 256
      [symbol (n / 262144), symbol (n / 4096 % 64), symbol (n / 64 % 64), '=']
  | [a] =>
      let n := a.toNat * 65536
      [symbol (n / 262144), symbol (n / 4096 % 64), '=', '=']
  | [] => []

/-- The text of a byte string. -/
def encode (bytes : Bytes) : String :=
  String.ofList (symbols bytes)

end RemoteSigner.Base64
