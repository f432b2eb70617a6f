import RemoteSigner.Bytes.Hex

/-!
# UTF-8

Bytes are read as characters; a byte that begins no character stands for
itself. `decode?` accepts exactly the texts with no such byte.
-/

namespace RemoteSigner.Utf8

/-- The bytes of a text. -/
def encode (text : String) : Bytes :=
  text.toUTF8.toList

/-- Whether a byte continues a character. -/
def isContinuation (b : UInt8) : Bool :=
  0x80 ≤ b && b < 0xC0

/-- The character made of the value bits `n`, if the encoding is the shortest
one and `n` is a scalar value. -/
def scalar? (least n : Nat) : Option Char :=
  if least ≤ n ∧ (n < 0xD800 ∨ (0xDFFF < n ∧ n < 0x110000)) then some (Char.ofNat n) else none

/-- The low six bits of a continuation byte. -/
def payload (b : UInt8) : Nat :=
  b.toNat % 64

/-- Read characters, keeping `none` for each byte that begins none. -/
def symbols : Bytes → List (Option Char)
  | [] => []
  | a :: rest =>
      if a < 0x80 then some (Char.ofNat a.toNat) :: symbols rest
      else
        match rest with
        | b :: rest₂ =>
            if 0xC0 ≤ a && a < 0xE0 && isContinuation b then
              match scalar? 0x80 (a.toNat % 32 * 64 + payload b) with
              | some c => some c :: symbols rest₂
              | none => none :: symbols (b :: rest₂)
            else
              match rest₂ with
              | c :: rest₃ =>
                  if 0xE0 ≤ a && a < 0xF0 && isContinuation b && isContinuation c then
                    match scalar? 0x800 (a.toNat % 16 * 4096 + payload b * 64 + payload c) with
                    | some ch => some ch :: symbols rest₃
                    | none => none :: symbols (b :: c :: rest₃)
                  else
                    match rest₃ with
                    | d :: rest₄ =>
                        if 0xF0 ≤ a && isContinuation b && isContinuation c && isContinuation d then
                          match scalar? 0x10000 (a.toNat % 16 * 262144 + payload b * 4096 +
                              payload c * 64 + payload d) with
                          | some ch => some ch :: symbols rest₄
                          | none => none :: symbols (b :: c :: d :: rest₄)
                        else none :: symbols (b :: c :: d :: rest₄)
                    | [] => none :: symbols [b, c]
              | [] => none :: symbols [b]
        | [] => [none]

/-- Read a text, refusing any byte that begins no character. -/
def decode? (bytes : Bytes) : Option String :=
  ((symbols bytes).mapM id).map String.ofList

end RemoteSigner.Utf8
