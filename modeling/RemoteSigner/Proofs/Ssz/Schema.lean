import RemoteSigner.Proofs.Ssz.BitEncoding

/-!
# Roots by schema

A schema says how an object is made of numbers, byte strings, bits and fields, and the hash
tree root of an object is defined by recursion on its schema alone (`Schema.root`). Each
function that computes a part of a root from what is sent agrees with it: numbers and byte
strings (`uint64Root_eq_root`, `bytesRoot_eq_root`), fields (`containerRoot_eq_root`), and
encoded bits, which have a root exactly if they encode an object
(`bitlistRoot_eq_ok_iff_root`, `bitvectorRoot_eq_ok_iff_root`).
-/

namespace RemoteSigner.Ssz

/-- How an object is made. -/
inductive Schema where
  | uint64
  | bytes (length : Nat)
  | bitlist (limit : Nat)
  | bitvector (length : Nat)
  | container (fields : List Schema)

namespace Schema

mutual

/-- The objects of a schema. -/
def Object : Schema → Type
  | .uint64 => UInt64
  | .bytes length => FixedBytes length
  | .bitlist limit => { bits : List Bool // bits.length ≤ limit }
  | .bitvector length => { bits : List Bool // bits.length = length }
  | .container fields => Objects fields

/-- The values of fields, one for each. -/
def Objects : List Schema → Type
  | [] => Unit
  | field :: rest => Object field × Objects rest

end

mutual

/-- The hash tree root of an object. -/
def root (hash : Compression) : (s : Schema) → s.Object → Root
  | .uint64, (n : UInt64) => chunkOf (byteOf n.toNat) 0
  | .bytes length, (b : FixedBytes length) =>
      subtree hash (Nat.clog 2 ((length + 31) / 32)) (chunkOf (byteAt b.bytes))
  | .bitlist limit, bits =>
      hash (subtree hash (Nat.clog 2 ((limit + 255) / 256)) (chunkOf (byteOf (bitsValue bits.val))))
        (chunkOf (byteOf bits.val.length) 0)
  | .bitvector length, bits =>
      subtree hash (Nat.clog 2 ((length + 255) / 256)) (chunkOf (byteOf (bitsValue bits.val)))
  | .container fields, values =>
      subtree hash (Nat.clog 2 fields.length) (leaves (roots hash fields values))

/-- The roots of fields. -/
def roots (hash : Compression) : (fields : List Schema) → Objects fields → List Root
  | [], _ => []
  | field :: rest, values => root hash field values.1 :: roots hash rest values.2

end

end Schema

open Schema

variable {hash : Compression}

theorem uint64Root_eq_root (hash : Compression) (n : UInt64) :
    uint64Root n = Schema.root hash .uint64 n :=
  uint64Root_eq n

theorem bytesRoot_eq_root (hash : Compression) {length : Nat} (b : FixedBytes length) :
    bytesRoot hash b.bytes = Schema.root hash (.bytes length) b := by
  rw [bytesRoot_eq, b.length_eq]
  rfl

/-- A chunk is its own root. -/
theorem eq_root (hash : Compression) (chunk : Root) :
    chunk = Schema.root hash (.bytes 32) chunk := by
  have hwhole : FixedBytes.fit 32 chunk.bytes = chunk :=
    FixedBytes.eq_of_bytes (List.take_left' chunk.length_eq)
  exact hwhole.symm.trans (fit_eq_chunkOf chunk.bytes)

/-! ## Fields -/

theorem length_roots (fields : List Schema) (values : Objects fields) :
    (roots hash fields values).length = fields.length := by
  induction fields with
  | nil => rfl
  | cons field rest ih => exact congrArg Nat.succ (ih values.2)

theorem containerRoot_eq_root {fields : List Schema} {values : Objects fields} {l : List Root}
    (h : l = roots hash fields values) :
    containerRoot hash l = Schema.root hash (.container fields) values := by
  rw [h, containerRoot_eq_subtree, length_roots]
  rfl

/-! ## Bits -/

theorem bitlistRoot_eq_ok_iff_root {encoded : Bytes} {limit : Nat} (hlimit : limit < 2 ^ 64)
    {root : Root} :
    bitlistRoot hash encoded limit = .ok root ↔
      ∃ bits : (Schema.bitlist limit).Object, bitlistBytes bits.val = encoded ∧
        Schema.root hash (.bitlist limit) bits = root := by
  rw [bitlistRoot_eq_ok_iff hlimit]
  exact ⟨fun ⟨bits, hbits, h⟩ => ⟨⟨bits, hbits⟩, h⟩, fun ⟨bits, h⟩ => ⟨bits.val, bits.property, h⟩⟩

theorem bitvectorRoot_eq_ok_iff_root {encoded : Bytes} {length : Nat} (h8 : length % 8 = 0)
    {root : Root} :
    bitvectorRoot hash encoded length = .ok root ↔
      ∃ bits : (Schema.bitvector length).Object, bitvectorBytes bits.val = encoded ∧
        Schema.root hash (.bitvector length) bits = root := by
  rw [bitvectorRoot_eq_ok_iff h8]
  exact ⟨fun ⟨bits, hbits, h⟩ => ⟨⟨bits, hbits⟩, h⟩, fun ⟨bits, h⟩ => ⟨bits.val, bits.property, h⟩⟩

end RemoteSigner.Ssz
