import Mathlib.Data.Nat.Digits.Defs
import Mathlib.Data.Nat.Digits.Lemmas
import RemoteSigner.Proofs.Outcome
import RemoteSigner.Proofs.Ssz.Packing

/-!
# Encodings of bit collections

Bits are the digits of a number, the first one lowest. A bit vector is encoded as the bytes
of that number (`bitvectorBytes`), a bit list as those of a vector with one more bit, which
is one and marks the end (`bitlistBytes`). A root is computed for these encodings and for
nothing else, and it is that of the bits: `bitlistRoot_eq_ok_iff`, `bitvectorRoot_eq_ok_iff`.
-/

namespace RemoteSigner.Ssz

/-- The number with the given binary digits, from the lowest on. -/
def bitsValue (bits : List Bool) : Nat :=
  Nat.ofDigits 2 (bits.map Bool.toNat)

/-- The number with the given bytes, from the lowest on. -/
def bytesValue (bytes : Bytes) : Nat :=
  Nat.ofDigits 256 (bytes.map UInt8.toNat)

/-- The lowest binary digits of a number. -/
def lowBits (count n : Nat) : List Bool :=
  (List.range count).map n.testBit

/-- The encoding of a bit vector. -/
def bitvectorBytes (bits : List Bool) : Bytes :=
  lowBytes ((bits.length + 7) / 8) (bitsValue bits)

/-- The encoding of a bit list: the bits and one that marks the end. -/
def bitlistBytes (bits : List Bool) : Bytes :=
  bitvectorBytes (bits ++ [true])

variable {hash : Compression} {bits : List Bool} {bytes : Bytes}

/-! ## Digits -/

theorem pow256_eq (k : Nat) : 256 ^ k = 2 ^ (8 * k) := by
  rw [Nat.pow_mul]

theorem binaryDigits (bits : List Bool) : ∀ d ∈ bits.map Bool.toNat, d < 2 := by
  simp only [List.mem_map, forall_exists_index, and_imp, forall_apply_eq_imp_iff₂]
  exact fun b _ => Bool.toNat_lt b

theorem bitsValue_lt (bits : List Bool) : bitsValue bits < 2 ^ bits.length := by
  simpa [bitsValue] using Nat.ofDigits_lt_base_pow_length (by decide) (binaryDigits bits)

/-- Bits are determined by their number and by how many there are. -/
theorem bitsValue_inj {bits' : List Bool} (hlength : bits.length = bits'.length)
    (h : bitsValue bits = bitsValue bits') : bits = bits' := by
  have hdigits := Nat.ofDigits_inj_of_len_eq (by decide) (by simpa using hlength)
    (binaryDigits bits) (binaryDigits bits') h
  exact (List.map_injective_iff.mpr fun a b hab => by cases a <;> cases b <;> simp_all) hdigits

theorem bytesValue_lt (bytes : Bytes) : bytesValue bytes < 256 ^ bytes.length := by
  have hdigits : ∀ d ∈ bytes.map UInt8.toNat, d < 256 := by
    simp only [List.mem_map, forall_exists_index, and_imp, forall_apply_eq_imp_iff₂]
    exact fun b _ => b.toNat_lt
  simpa [bytesValue] using Nat.ofDigits_lt_base_pow_length (by decide) hdigits

theorem bitsValue_concat (bits : List Bool) (b : Bool) :
    bitsValue (bits ++ [b]) = bitsValue bits + 2 ^ bits.length * b.toNat := by
  simp [bitsValue, Nat.ofDigits_append]

theorem bytesValue_concat (bytes : Bytes) (b : UInt8) :
    bytesValue (bytes ++ [b]) = bytesValue bytes + 256 ^ bytes.length * b.toNat := by
  simp [bytesValue, Nat.ofDigits_append]

theorem length_lowBits (count n : Nat) : (lowBits count n).length = count := by
  simp [lowBits]

theorem bitsValue_lowBits (count n : Nat) : bitsValue (lowBits count n) = n % 2 ^ count := by
  induction count with
  | zero => simp [lowBits, bitsValue, Nat.mod_one]
  | succ count ih =>
      have hconcat : lowBits (count + 1) n = lowBits count n ++ [n.testBit count] := by
        simp [lowBits, List.range_succ]
      rw [hconcat, bitsValue_concat, length_lowBits, ih, Nat.toNat_testBit, Nat.mod_pow_succ]

theorem lowBytes_concat (count n : Nat) :
    lowBytes (count + 1) n = lowBytes count n ++ [byteOf n count] := by
  simp [lowBytes, List.range_succ]

/-- What a number has above its lowest bytes does not change them. -/
theorem lowBytes_add (count n c : Nat) :
    lowBytes count (n + 256 ^ count * c) = lowBytes count n := by
  refine List.map_congr_left fun j hj => ?_
  obtain ⟨k, rfl⟩ := Nat.exists_eq_add_of_lt (List.mem_range.mp hj)
  have hsplit : 256 ^ (j + k + 1) * c = 256 ^ j * (256 * (256 ^ k * c)) := by
    rw [Nat.pow_succ, Nat.pow_add]
    ac_rfl
  rw [byteOf, byteOf, hsplit, Nat.add_mul_div_left _ _ (Nat.pow_pos (by decide))]
  exact UInt8.toNat_inj.mp (by simp)

theorem length_lowBytes (count n : Nat) : (lowBytes count n).length = count := by
  simp [lowBytes]

theorem bytesValue_lowBytes (count n : Nat) : bytesValue (lowBytes count n) = n % 256 ^ count := by
  induction count with
  | zero => simp [lowBytes, bytesValue, Nat.mod_one]
  | succ count ih =>
      have hbyte : (byteOf n count).toNat = n / 256 ^ count % 256 := UInt8.toNat_ofNat'
      rw [lowBytes_concat, bytesValue_concat, length_lowBytes, ih, hbyte,
        Nat.mod_pow_succ (x := n) (b := 256) (k := count)]

/-- A number is determined by its bytes, if they are enough for it. -/
theorem lowBytes_inj {count n m : Nat} (hn : n < 256 ^ count) (hm : m < 256 ^ count)
    (h : lowBytes count n = lowBytes count m) : n = m := by
  have hvalues := congrArg bytesValue h
  rwa [bytesValue_lowBytes, bytesValue_lowBytes, Nat.mod_eq_of_lt hn, Nat.mod_eq_of_lt hm]
    at hvalues

theorem lowBytes_bytesValue (bytes : Bytes) : lowBytes bytes.length (bytesValue bytes) = bytes := by
  induction bytes using List.reverseRecOn with
  | nil => rfl
  | append_singleton bytes b ih =>
      have hlast : byteOf (bytesValue (bytes ++ [b])) bytes.length = b := by
        rw [byteOf, bytesValue_concat, Nat.add_mul_div_left _ _ (Nat.pow_pos (by decide)),
          Nat.div_eq_of_lt (bytesValue_lt bytes)]
        simp
      rw [List.length_append, List.length_singleton, lowBytes_concat, hlast, bytesValue_concat,
        lowBytes_add, ih]

/-! ## Bit vectors -/

theorem bitsValue_lt_pow256 (bits : List Bool) :
    bitsValue bits < 256 ^ ((bits.length + 7) / 8) := by
  refine (bitsValue_lt bits).trans_le ?_
  rw [pow256_eq]
  exact Nat.pow_le_pow_right (by decide) (by omega)

/-- The bytes of an encoded bit vector are those of its number. -/
theorem byteAt_bitvectorBytes (bits : List Bool) :
    byteAt (bitvectorBytes bits) = byteOf (bitsValue bits) :=
  byteAt_lowBytes (bitsValue_lt_pow256 bits)

theorem length_bitvectorBytes (bits : List Bool) :
    (bitvectorBytes bits).length = (bits.length + 7) / 8 :=
  length_lowBytes ..

/-- Encodings of one length have one number. -/
theorem bitsValue_of_bitvectorBytes {bits' : List Bool}
    (h : bitvectorBytes bits = bitvectorBytes bits') : bitsValue bits = bitsValue bits' := by
  have hlength := congrArg List.length h
  rw [length_bitvectorBytes, length_bitvectorBytes] at hlength
  refine lowBytes_inj (bitsValue_lt_pow256 bits) ?_ ?_
  · rw [hlength]
    exact bitsValue_lt_pow256 bits'
  · rw [bitvectorBytes, bitvectorBytes, ← hlength] at h
    exact h

/-- Bytes encode at most one bit vector of a length. -/
theorem bitvectorBytes_inj {bits' : List Bool} (hlength : bits.length = bits'.length)
    (h : bitvectorBytes bits = bitvectorBytes bits') : bits = bits' :=
  bitsValue_inj hlength (bitsValue_of_bitvectorBytes h)

/-- Where the limit has room for the bits, the tree has for their chunks. -/
theorem length_pack_bitvectorBytes {limit : Nat} (h : bits.length ≤ limit) :
    (pack (bitvectorBytes bits)).length ≤ (limit + 255) / 256 := by
  rw [length_pack, length_bitvectorBytes]
  omega

theorem merkleize_bitvectorBytes {limit : Nat} (h : bits.length ≤ limit) :
    merkleize hash (pack (bitvectorBytes bits)) (some ((limit + 255) / 256)) =
      .ok (subtree hash (Nat.clog 2 ((limit + 255) / 256))
        (chunkOf (byteOf (bitsValue bits)))) := by
  rw [merkleize_eq (length_pack_bitvectorBytes h), leaves_pack, byteAt_bitvectorBytes]

/-- Bytes without padding bits are the encoding of a bit vector. -/
theorem exists_bitvector {length : Nat} (h8 : length % 8 = 0)
    (h : bytes.length = (length + 7) / 8) :
    ∃ bits, bits.length = length ∧ bitvectorBytes bits = bytes := by
  have hlength : length = 8 * bytes.length := by omega
  refine ⟨lowBits length (bytesValue bytes), length_lowBits .., ?_⟩
  have hlt := bytesValue_lt bytes
  rw [pow256_eq, ← hlength] at hlt
  rw [bitvectorBytes, length_lowBits, bitsValue_lowBits, Nat.mod_eq_of_lt hlt, ← h,
    lowBytes_bytesValue]

/-- A root is computed for the encodings of bit vectors of the length, and it is that of the
tree over their bits. -/
theorem bitvectorRoot_eq_ok_iff {length : Nat} (h8 : length % 8 = 0) {root : Root} :
    bitvectorRoot hash bytes length = .ok root ↔
      ∃ bits, bits.length = length ∧ bitvectorBytes bits = bytes ∧
        subtree hash (Nat.clog 2 ((length + 255) / 256)) (chunkOf (byteOf (bitsValue bits))) =
          root := by
  constructor
  · intro h
    rw [bitvectorRoot] at h
    split at h
    · cases h
    · rename_i hlength
      obtain ⟨bits, hbits, rfl⟩ := exists_bitvector h8 (not_not.mp hlength)
      refine ⟨bits, hbits, rfl, ?_⟩
      rw [merkleize_bitvectorBytes (Nat.le_of_eq hbits)] at h
      exact Except.ok.inj h
  · rintro ⟨bits, hbits, rfl, rfl⟩
    rw [bitvectorRoot, length_bitvectorBytes, hbits, if_neg (not_not.mpr rfl),
      merkleize_bitvectorBytes (Nat.le_of_eq hbits)]

/-! ## Bit lists -/

/-- The last byte of an encoded bit list: what is left of the bits, and the mark. -/
theorem bitlistBytes_eq (bits : List Bool) : ∃ rest < 2 ^ (bits.length % 8),
    byteOf (bitsValue bits) (bits.length / 8) = UInt8.ofNat rest ∧
      bitlistBytes bits = lowBytes (bits.length / 8) (bitsValue bits) ++
        [UInt8.ofNat (rest + 2 ^ (bits.length % 8))] := by
  have hpow : 2 ^ bits.length = 256 ^ (bits.length / 8) * 2 ^ (bits.length % 8) := by
    rw [pow256_eq, ← Nat.pow_add, Nat.div_add_mod]
  have hlt := bitsValue_lt bits
  rw [hpow] at hlt
  refine ⟨_, Nat.div_lt_of_lt_mul hlt, rfl, ?_⟩
  have hcount : ((bits ++ [true]).length + 7) / 8 = bits.length / 8 + 1 := by
    rw [List.length_append, List.length_singleton]
    omega
  have hvalue : bitsValue (bits ++ [true]) =
      bitsValue bits + 256 ^ (bits.length / 8) * 2 ^ (bits.length % 8) := by
    rw [bitsValue_concat, ← hpow, Bool.toNat_true, Nat.mul_one]
  rw [bitlistBytes, bitvectorBytes, hcount, hvalue, lowBytes_concat, lowBytes_add, byteOf,
    Nat.add_mul_div_left _ _ (Nat.pow_pos (by decide))]

/-- Bytes encode at most one bit list. -/
theorem bitlistBytes_inj {bits' : List Bool} (h : bitlistBytes bits = bitlistBytes bits') :
    bits = bits' := by
  have hvalue := bitsValue_of_bitvectorBytes h
  -- the mark is the highest digit, so it tells the length
  have hmarked : ∀ l : List Bool, (bitsValue (l ++ [true])).log2 = l.length := fun l => by
    have := bitsValue_lt l
    have := Nat.two_pow_pos l.length
    rw [bitsValue_concat, Bool.toNat_true, Nat.mul_one, Nat.log2_eq_iff (by omega), Nat.pow_succ]
    omega
  have hlength := congrArg Nat.log2 hvalue
  rw [hmarked, hmarked] at hlength
  exact List.append_cancel_right (bitsValue_inj (by simp [hlength]) hvalue)

/-- Taking the mark out of a byte leaves what is below it. -/
theorem unmark {position rest : Nat} (hposition : position < 8) (hrest : rest < 2 ^ position) :
    UInt8.ofNat (rest + 2 ^ position) ^^^ UInt8.ofNat (1 <<< position) = UInt8.ofNat rest := by
  have hall : ∀ p < 8, ∀ r < 2 ^ p,
      UInt8.ofNat (r + 2 ^ p) ^^^ UInt8.ofNat (1 <<< p) = UInt8.ofNat r := by decide +kernel
  exact hall position hposition rest hrest

/-- What the root of an encoded bit list is made from: the last byte, whose highest bit tells
the length, and the bytes without that bit, which are the encoding as a bit vector. -/
theorem bitlistBytes_parts (bits : List Bool) : ∃ last,
    (bitlistBytes bits).getLast? = some last ∧ last ≠ 0 ∧
      ((bitlistBytes bits).length - 1) * 8 + last.toNat.log2 = bits.length ∧
      withoutDelimiter (bitlistBytes bits).dropLast last last.toNat.log2 =
        bitvectorBytes bits := by
  obtain ⟨rest, hrest, hbyte, hbytes⟩ := bitlistBytes_eq bits
  generalize hp : bits.length % 8 = position at hrest hbytes
  have hposition : position < 8 := by omega
  have hpow : 2 ^ position * 2 ≤ 256 := by
    have : 2 ^ position ≤ 2 ^ 7 := Nat.pow_le_pow_right (by decide) (by omega)
    omega
  have hmark : (UInt8.ofNat (rest + 2 ^ position)).toNat = rest + 2 ^ position := by
    rw [UInt8.toNat_ofNat']
    exact Nat.mod_eq_of_lt (by omega)
  have hnonzero : UInt8.ofNat (rest + 2 ^ position) ≠ 0 := by
    intro hzero
    have : rest + 2 ^ position = 0 := by rw [← hmark, hzero]; rfl
    have := Nat.two_pow_pos position
    omega
  have hlog : Nat.log2 (rest + 2 ^ position) = position := by
    refine (Nat.log2_eq_iff (by have := Nat.two_pow_pos position; omega)).mpr ?_
    rw [Nat.pow_succ]
    omega
  rw [hbytes, List.getLast?_concat, List.length_append, List.length_singleton, length_lowBytes,
    List.dropLast_concat]
  refine ⟨_, rfl, hnonzero, ?_, ?_⟩
  · rw [hmark, hlog]
    omega
  · rw [hmark, hlog]
    unfold withoutDelimiter bitvectorBytes
    split
    · rw [show (bits.length + 7) / 8 = bits.length / 8 by omega]
    · rw [unmark hposition hrest, ← hbyte, ← lowBytes_concat,
        show (bits.length + 7) / 8 = bits.length / 8 + 1 by omega]

/-- The root of an encoded bit list: that of the tree over its bits, with their number mixed
in, if they are not too many. -/
theorem bitlistRoot_bitlistBytes (bits : List Bool) (limit : Nat) :
    bitlistRoot hash (bitlistBytes bits) limit =
      if limit < bits.length then .error (.tooLong bits.length limit)
      else .ok (mixInLength hash
        (subtree hash (Nat.clog 2 ((limit + 255) / 256)) (chunkOf (byteOf (bitsValue bits))))
        bits.length) := by
  obtain ⟨last, hlast, hnonzero, hlength, hbody⟩ := bitlistBytes_parts bits
  unfold bitlistRoot
  simp only [hlast, if_neg hnonzero, hlength, hbody]
  split
  · rfl
  · rename_i hfits
    rw [merkleize_bitvectorBytes (Nat.le_of_not_lt hfits)]

/-- Bytes of which the last is not zero are the encoding of a bit list. -/
theorem exists_bitlist {last : UInt8} (h : last ≠ 0) (body : Bytes) :
    ∃ bits, bitlistBytes bits = body ++ [last] := by
  have hlast : last.toNat ≠ 0 := fun hzero => h (UInt8.toNat_inj.mp hzero)
  generalize hp : last.toNat.log2 = position
  have hposition : position < 8 := by
    rw [← hp, Nat.log2_lt hlast]
    exact last.toNat_lt
  have hbounds := (Nat.log2_eq_iff hlast).mp hp
  -- the bits are the digits below the highest one
  generalize hn : bytesValue (body ++ [last]) = n
  have hpow : 2 ^ (8 * body.length + position) = 256 ^ body.length * 2 ^ position := by
    rw [Nat.pow_add, pow256_eq]
  have hvalue : n = bytesValue body + 256 ^ body.length * last.toNat := by
    rw [← hn, bytesValue_concat]
  have hbody := bytesValue_lt body
  have hlow : 2 ^ (8 * body.length + position) ≤ n := by
    rw [hpow, hvalue]
    exact (Nat.mul_le_mul_left _ hbounds.1).trans (Nat.le_add_left ..)
  have hhigh : n < 2 * 2 ^ (8 * body.length + position) := by
    have hstep : 256 ^ body.length * (last.toNat + 1) ≤ 256 ^ body.length * (2 ^ position * 2) :=
      Nat.mul_le_mul_left _ (by rw [← Nat.pow_succ]; exact hbounds.2)
    rw [hpow, hvalue]
    rw [Nat.mul_succ, ← Nat.mul_assoc] at hstep
    omega
  refine ⟨lowBits (8 * body.length + position) n, ?_⟩
  have hdigits : bitsValue (lowBits (8 * body.length + position) n ++ [true]) = n := by
    rw [bitsValue_concat, bitsValue_lowBits, length_lowBits, Bool.toNat_true, Nat.mul_one,
      Nat.mod_eq_sub_mod hlow, Nat.mod_eq_of_lt (by omega)]
    omega
  have hcount : ((lowBits (8 * body.length + position) n ++ [true]).length + 7) / 8 =
      (body ++ [last]).length := by
    simp only [List.length_append, length_lowBits, List.length_singleton]
    omega
  rw [bitlistBytes, bitvectorBytes, hdigits, hcount, ← hn, lowBytes_bytesValue]

/-- Bytes that encode no bit list are refused as such: they are empty, or end with zero. -/
theorem bitlist_or_error (hash : Compression) (bytes : Bytes) (limit : Nat) :
    (∃ bits, bitlistBytes bits = bytes) ∨
      bytes = [] ∧ bitlistRoot hash bytes limit = .error .empty ∨
      bytes.getLast? = some 0 ∧ bitlistRoot hash bytes limit = .error .noDelimiter := by
  unfold bitlistRoot
  cases hlast : bytes.getLast? with
  | none => exact .inr (.inl ⟨List.getLast?_eq_none_iff.mp hlast, rfl⟩)
  | some last =>
      by_cases hzero : last = 0
      · exact .inr (.inr ⟨congrArg some hzero, if_pos hzero⟩)
      · obtain ⟨body, rfl⟩ := List.getLast?_eq_some_iff.mp hlast
        exact .inl (exists_bitlist hzero body)

/-- A root is computed for the encodings of bit lists within the limit. -/
theorem bitlistRoot_eq_ok {limit : Nat} {root : Root} :
    bitlistRoot hash bytes limit = .ok root ↔
      ∃ bits, bits.length ≤ limit ∧ bitlistBytes bits = bytes ∧
        mixInLength hash
          (subtree hash (Nat.clog 2 ((limit + 255) / 256)) (chunkOf (byteOf (bitsValue bits))))
          bits.length = root := by
  constructor
  · intro h
    rcases bitlist_or_error hash bytes limit with ⟨bits, rfl⟩ | ⟨_, herror⟩ | ⟨_, herror⟩
    · rw [bitlistRoot_bitlistBytes] at h
      split at h
      · cases h
      · exact ⟨bits, by omega, rfl, Except.ok.inj h⟩
    · cases herror.symm.trans h
    · cases herror.symm.trans h
  · rintro ⟨bits, hbits, rfl, rfl⟩
    rw [bitlistRoot_bitlistBytes, if_neg (by omega)]

/-- A root is computed for the encodings of bit lists within the limit, and it is that of the
tree over their bits, with their number mixed in. -/
theorem bitlistRoot_eq_ok_iff {limit : Nat} (hlimit : limit < 2 ^ 64) {root : Root} :
    bitlistRoot hash bytes limit = .ok root ↔
      ∃ bits, bits.length ≤ limit ∧ bitlistBytes bits = bytes ∧
        hash (subtree hash (Nat.clog 2 ((limit + 255) / 256)) (chunkOf (byteOf (bitsValue bits))))
          (chunkOf (byteOf bits.length) 0) = root := by
  rw [bitlistRoot_eq_ok]
  refine exists_congr fun bits => and_congr_right fun hbits => ?_
  rw [mixInLength, numberChunk_eq (by omega)]

end RemoteSigner.Ssz
