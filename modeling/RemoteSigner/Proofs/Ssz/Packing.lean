import RemoteSigner.Proofs.Ssz.Tree

/-!
# Chunks by position

A byte string and a number are their bytes by position, from the first and the lowest on
(`byteAt`, `byteOf`), and chunk `i` holds those from position `32 * i` on, zero where there
is none (`chunkOf`). Packed byte strings have these chunks (`leaves_pack`), so the root of a
byte vector is that of the tree over them (`bytesRoot_eq`), and numbers are one of them
(`numberChunk_eq`).
-/

namespace RemoteSigner

namespace Ssz

/-- The byte at a position, zero where there is none. -/
def byteAt (bytes : Bytes) (j : Nat) : UInt8 :=
  bytes.getD j 0

/-- The byte of a number at a position, from the lowest on. -/
def byteOf (n j : Nat) : UInt8 :=
  UInt8.ofNat (n / 256 ^ j)

/-- The chunk of the bytes from position `32 * i` on. -/
def chunkOf (byte : Nat → UInt8) (i : Nat) : Root :=
  ⟨(List.range 32).map fun j => byte (32 * i + j), by simp⟩

/-- The lowest bytes of a number. -/
def lowBytes (count n : Nat) : Bytes :=
  (List.range count).map (byteOf n)

/-! ## Byte strings -/

theorem fit_eq_chunkOf (bytes : Bytes) :
    FixedBytes.fit 32 bytes = chunkOf (byteAt bytes) 0 := by
  refine FixedBytes.eq_of_bytes (List.ext_getElem (by simp [FixedBytes.fit, chunkOf]) ?_)
  intro j hj _
  have hj : j < 32 := by simpa [FixedBytes.fit] using hj
  simp only [FixedBytes.fit, chunkOf, byteAt, List.getElem_take, List.getElem_map,
    List.getElem_range, Nat.mul_zero, Nat.zero_add]
  rw [List.getElem_append, List.getD_eq_getElem?_getD]
  split
  · rw [List.getElem?_eq_getElem ‹_›, Option.getD_some]
  · rw [List.getElem?_eq_none (by omega), Option.getD_none, List.getElem_replicate]

theorem chunkOf_shift (byte : Nat → UInt8) (i : Nat) :
    chunkOf (fun j => byte (32 + j)) i = chunkOf byte (i + 1) := by
  refine FixedBytes.eq_of_bytes (List.map_congr_left fun j _ => congrArg byte ?_)
  omega

theorem byteAt_drop (bytes : Bytes) (count : Nat) :
    byteAt (bytes.drop count) = fun j => byteAt bytes (count + j) := by
  funext j
  unfold byteAt
  rw [List.getD_eq_getElem?_getD, List.getD_eq_getElem?_getD, List.getElem?_drop]

theorem chunkOf_take (bytes : Bytes) :
    chunkOf (byteAt (bytes.take 32)) 0 = chunkOf (byteAt bytes) 0 := by
  refine FixedBytes.eq_of_bytes (List.map_congr_left fun j hj => ?_)
  have hj : j < 32 := List.mem_range.mp hj
  unfold byteAt
  rw [Nat.mul_zero, Nat.zero_add, List.getD_eq_getElem?_getD, List.getD_eq_getElem?_getD,
    List.getElem?_take, if_pos hj]

theorem chunkOf_nil (i : Nat) : chunkOf (byteAt []) i = FixedBytes.zero 32 := by
  refine FixedBytes.eq_of_bytes ?_
  simp [chunkOf, byteAt, FixedBytes.zero, List.map_const']

/-- Enough cuts give the chunks of a byte string by position. -/
theorem leaves_pieces {fuel : Nat} {bytes : Bytes} (h : bytes.length ≤ 32 * fuel) (i : Nat) :
    leaves ((pieces fuel bytes).map (FixedBytes.fit 32)) i = chunkOf (byteAt bytes) i := by
  induction fuel generalizing bytes i with
  | zero =>
      obtain rfl : bytes = [] := List.length_eq_zero_iff.mp (by omega)
      rw [chunkOf_nil]
      rfl
  | succ fuel ih =>
      cases bytes with
      | nil =>
          rw [chunkOf_nil]
          rfl
      | cons b rest =>
          cases i with
          | zero => exact (fit_eq_chunkOf _).trans (chunkOf_take _)
          | succ i =>
              have hlength : ((b :: rest).drop 32).length ≤ 32 * fuel := by
                rw [List.length_drop]
                omega
              have hrest := ih hlength i
              rw [byteAt_drop, chunkOf_shift (byteAt (b :: rest))] at hrest
              exact hrest

theorem leaves_pack (bytes : Bytes) : leaves (pack bytes) = chunkOf (byteAt bytes) := by
  funext i
  exact leaves_pieces (by omega) i

theorem length_pieces {fuel : Nat} {bytes : Bytes} (h : bytes.length ≤ 32 * fuel) :
    (pieces fuel bytes).length = (bytes.length + 31) / 32 := by
  induction fuel generalizing bytes with
  | zero =>
      obtain rfl : bytes = [] := List.length_eq_zero_iff.mp (by omega)
      rfl
  | succ fuel ih =>
      cases bytes with
      | nil => rfl
      | cons b rest =>
          have hlength : ((b :: rest).drop 32).length ≤ 32 * fuel := by
            rw [List.length_drop]
            omega
          rw [pieces, List.length_cons, ih hlength, List.length_drop, List.length_cons]
          · omega
          · simp

theorem length_pack (bytes : Bytes) : (pack bytes).length = (bytes.length + 31) / 32 := by
  rw [pack, List.length_map, length_pieces (by omega)]

theorem byteAt_chunkOf (byte : Nat → UInt8) (i : Nat) {j : Nat} (h : j < 32) :
    byteAt (chunkOf byte i).bytes j = byte (32 * i + j) := by
  simp [byteAt, chunkOf, List.getD_eq_getElem?_getD, List.getElem?_range h]

/-- Chunks determine the bytes in them. -/
theorem chunkOf_inj {byte byte' : Nat → UInt8} (h : chunkOf byte = chunkOf byte') :
    byte = byte' := by
  funext j
  have hsplit : 32 * (j / 32) + j % 32 = j := Nat.div_add_mod j 32
  rw [← hsplit, ← byteAt_chunkOf byte _ (Nat.mod_lt j (by decide)), h, byteAt_chunkOf]
  exact Nat.mod_lt j (by decide)

/-- Byte strings of one length have equal chunks only if they are equal. -/
theorem pack_inj {xs ys : Bytes} (hlength : xs.length = ys.length) (h : pack xs = pack ys) :
    xs = ys := by
  have hbytes : byteAt xs = byteAt ys := chunkOf_inj (by rw [← leaves_pack, h, leaves_pack])
  refine List.ext_getElem hlength fun j hx hy => ?_
  have hbyte := congrFun hbytes j
  rwa [byteAt, byteAt, List.getD_eq_getElem _ _ hx, List.getD_eq_getElem _ _ hy] at hbyte

/-- The root of a byte vector is that of the tree over its chunks. -/
theorem bytesRoot_eq (hash : Compression) (bytes : Bytes) :
    bytesRoot hash bytes =
      subtree hash (Nat.clog 2 ((bytes.length + 31) / 32)) (chunkOf (byteAt bytes)) := by
  rw [bytesRoot, containerRoot_eq_subtree, length_pack, leaves_pack]

/-! ## Numbers -/

theorem littleEndian_eq (count n : Nat) : littleEndian count n = lowBytes count n := by
  induction count generalizing n with
  | zero => rfl
  | succ count ih =>
      have hnext : ∀ j, byteOf (n / 256) j = byteOf n (j + 1) := fun j => by
        rw [byteOf, byteOf, Nat.div_div_eq_div_mul, Nat.pow_succ']
      rw [littleEndian, ih, lowBytes, lowBytes, List.range_succ_eq_map, List.map_cons,
        List.map_map]
      refine congrArg₂ List.cons (by simp [byteOf]) (List.map_congr_left fun j _ => hnext j)

/-- As many bytes as a number takes are all that it has. -/
theorem byteAt_lowBytes {count n : Nat} (h : n < 256 ^ count) :
    byteAt (lowBytes count n) = byteOf n := by
  funext j
  unfold byteAt lowBytes
  rw [List.getD_eq_getElem?_getD, List.getElem?_map]
  rcases Nat.lt_or_ge j count with hj | hj
  · rw [List.getElem?_range hj]
    rfl
  · have hpow : 256 ^ count ≤ 256 ^ j := Nat.pow_le_pow_right (by decide) hj
    rw [List.getElem?_eq_none (by simpa using hj), byteOf, Nat.div_eq_of_lt (by omega)]
    rfl

theorem numberChunk_eq {n : Nat} (h : n < 2 ^ 64) : numberChunk n = chunkOf (byteOf n) 0 := by
  rw [numberChunk, fit_eq_chunkOf, littleEndian_eq, byteAt_lowBytes (by simpa using h)]

theorem uint64Root_eq (n : UInt64) : uint64Root n = chunkOf (byteOf n.toNat) 0 :=
  numberChunk_eq n.toNat_lt

end Ssz

end RemoteSigner
