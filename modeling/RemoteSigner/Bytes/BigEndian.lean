import RemoteSigner.Bytes.Hex

/-!
# Numbers as byte strings

The most significant byte comes first.
-/

namespace RemoteSigner

/-- The big-endian value of a byte string. -/
def natOfBytes (bytes : Bytes) : Nat :=
  bytes.foldl (fun n b => n * 256 + b.toNat) 0

/-- The last `count` big-endian bytes of a number. -/
def bytesOfNat (count n : Nat) : Bytes :=
  (List.range count).map fun i => UInt8.ofNat (n >>> (8 * (count - 1 - i)))

end RemoteSigner
