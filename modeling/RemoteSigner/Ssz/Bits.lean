import RemoteSigner.Ssz.Merkle

/-!
# Roots of bit collections

A bit list is given as its bits from the lowest on, closed by a one bit that
tells its length; a bit vector of known length is given without it.
-/

namespace RemoteSigner.Ssz

/-- Why bytes are no encoding of a bit collection. -/
inductive BitsError where
  | empty
  | noDelimiter
  | tooLong (length limit : Nat)
  | wrongSize (bits needed given : Nat)
  | overfull (e : LimitExceeded)
deriving DecidableEq, Repr

/-- The wording of a fault. -/
def BitsError.message : BitsError → String
  | .empty => "bitlist must not be empty"
  | .noDelimiter => "bitlist is missing its delimiter bit"
  | .tooLong length limit =>
      "bitlist length " ++ toString length ++ " exceeds limit " ++ toString limit
  | .wrongSize bits needed given =>
      "bitvector of " ++ toString bits ++ " bits needs " ++ toString needed ++
        " bytes, got " ++ toString given
  | .overfull e => e.message

/-- The bytes of the bits before the delimiter, the highest one bit of the
last byte. A last byte that holds nothing else falls away. -/
def withoutDelimiter (body : Bytes) (last : UInt8) (position : Nat) : Bytes :=
  if position = 0 then body else body ++ [last ^^^ UInt8.ofNat (1 <<< position)]

/-- The root of a bit list of at most `limit` bits. -/
def bitlistRoot (hash : Compression) (encoded : Bytes) (limit : Nat) : Except BitsError Root :=
  match encoded.getLast? with
  | none => .error .empty
  | some last =>
      if last = 0 then .error .noDelimiter
      else
        let position := Nat.log2 last.toNat
        let length := (encoded.length - 1) * 8 + position
        if length > limit then .error (.tooLong length limit)
        else
          let bits := withoutDelimiter encoded.dropLast last position
          match merkleize hash (pack bits) (some ((limit + 255) / 256)) with
          | .error e => .error (.overfull e)
          | .ok root => .ok (mixInLength hash root length)

/-- The root of a bit vector of `length` bits. -/
def bitvectorRoot (hash : Compression) (encoded : Bytes) (length : Nat) :
    Except BitsError Root :=
  let needed := (length + 7) / 8
  if encoded.length ≠ needed then .error (.wrongSize length needed encoded.length)
  else
    match merkleize hash (pack encoded) (some ((length + 255) / 256)) with
    | .error e => .error (.overfull e)
    | .ok root => .ok root

end RemoteSigner.Ssz
