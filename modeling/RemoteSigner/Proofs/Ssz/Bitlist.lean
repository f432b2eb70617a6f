import RemoteSigner.Proofs.Ssz.BitEncoding

/-!
# Bit lists by position

The encoding of a bit list, said by the positions of its bits: those of the list from the
lowest on, one that marks their end, none above it, and no zero byte at the end
(`EncodesBits`). The bytes that are computed from a list are such an encoding and the only one
(`encodesBits_iff`). A root exists for the encodings of lists within the limit and for
nothing else, and lists with one root are equal unless two of the pairs that were hashed
collide (`bitlistRoot_inj`). Main result: `bitlistRoot_exact`.
-/

namespace RemoteSigner.Ssz

/-- The bit at a position of a byte string, counted from the lowest bit of the first byte. -/
def bitAt (bytes : Bytes) (i : Nat) : Bool :=
  (byteAt bytes (i / 8)).toNat.testBit (i % 8)

/-- A byte string encodes a bit list. -/
structure EncodesBits (bytes : Bytes) (bits : List Bool) : Prop where
  bit : ∀ i (h : i < bits.length), bitAt bytes i = bits[i]
  mark : bitAt bytes bits.length = true
  above : ∀ i, bits.length < i → bitAt bytes i = false
  tight : bytes.getLast? ≠ some 0

variable {hash : Compression} {bytes other : Bytes} {bits bits' : List Bool} {limit : Nat}

/-! ## Positions -/

theorem testBit_bitsValue (bits : List Bool) (i : Nat) :
    (bitsValue bits).testBit i = bits.getD i false := by
  induction bits generalizing i with
  | nil => simp [bitsValue]
  | cons b rest ih =>
      have hvalue : bitsValue (b :: rest) = b.toNat + 2 * bitsValue rest := by
        simp [bitsValue, Nat.ofDigits_cons]
      have hb := Bool.toNat_lt b
      cases i with
      | zero =>
          rw [hvalue, Nat.testBit_zero]
          cases b <;> simp
      | succ i =>
          rw [Nat.testBit_succ, hvalue, show (b.toNat + 2 * bitsValue rest) / 2 = bitsValue rest by
            omega, ih]
          rfl

theorem testBit_byteOf (n j : Nat) {r : Nat} (h : r < 8) :
    (byteOf n j).toNat.testBit r = n.testBit (8 * j + r) := by
  have hbyte : (byteOf n j).toNat = n / 2 ^ (8 * j) % 2 ^ 8 := by
    rw [← pow256_eq]
    exact UInt8.toNat_ofNat'
  rw [hbyte, Nat.testBit_mod_two_pow, Nat.testBit_div_two_pow, decide_eq_true h, Bool.true_and,
    Nat.add_comm]

/-- The bits of a vector stand in its encoding at their positions, and no others. -/
theorem bitAt_bitvectorBytes (bits : List Bool) (i : Nat) :
    bitAt (bitvectorBytes bits) i = bits.getD i false := by
  rw [bitAt, byteAt_bitvectorBytes, testBit_byteOf _ _ (Nat.mod_lt i (by decide)),
    Nat.div_add_mod, testBit_bitsValue]

theorem encodesBits_bitlistBytes (bits : List Bool) : EncodesBits (bitlistBytes bits) bits where
  bit i h := by
    rw [bitlistBytes, bitAt_bitvectorBytes, List.getD_append _ _ _ _ h,
      List.getD_eq_getElem _ _ h]
  mark := by
    rw [bitlistBytes, bitAt_bitvectorBytes, List.getD_append_right _ _ _ _ (Nat.le_refl _),
      Nat.sub_self]
    rfl
  above i h := by
    rw [bitlistBytes, bitAt_bitvectorBytes, List.getD_eq_default]
    simpa using h
  tight := by
    obtain ⟨last, hlast, hnonzero, _⟩ := bitlistBytes_parts bits
    rw [hlast]
    exact fun hzero => hnonzero (Option.some.inj hzero)

/-- The mark is the highest bit, so no two lists have one encoding. -/
theorem EncodesBits.unique (h : EncodesBits bytes bits) (h' : EncodesBits bytes bits') :
    bits = bits' := by
  have hle : ∀ {a b : List Bool}, EncodesBits bytes a → EncodesBits bytes b →
      a.length ≤ b.length := by
    intro a b ha hb
    -- a mark above that of another reading is a bit that this one has clear
    by_contra hlt
    have hnone := hb.above a.length (by omega)
    rw [ha.mark] at hnone
    cases hnone
  refine List.ext_getElem (Nat.le_antisymm (hle h h') (hle h' h)) fun i hi hi' => ?_
  rw [← h.bit i hi, ← h'.bit i hi']

/-- The encodings of a bit list are the bytes that are computed from it. -/
theorem encodesBits_iff : EncodesBits bytes bits ↔ bitlistBytes bits = bytes := by
  constructor
  · intro h
    cases hlast : bytes.getLast? with
    | none =>
        have hmark := h.mark
        rw [List.getLast?_eq_none_iff.mp hlast] at hmark
        simp [bitAt, byteAt] at hmark
    | some last =>
        -- some list has these bytes, and no other list is read from them
        obtain ⟨body, rfl⟩ := List.getLast?_eq_some_iff.mp hlast
        have hnonzero : last ≠ 0 := fun hzero => h.tight (hzero ▸ hlast)
        obtain ⟨bits', hbytes⟩ := exists_bitlist hnonzero body
        rw [h.unique (hbytes ▸ encodesBits_bitlistBytes bits'), hbytes]
  · rintro rfl
    exact encodesBits_bitlistBytes bits

/-! ## Roots -/

/-- A root exists exactly for the encodings of lists within the limit. -/
theorem exists_bitlistRoot_iff : (∃ root, bitlistRoot hash bytes limit = .ok root) ↔
    ∃ bits, bits.length ≤ limit ∧ EncodesBits bytes bits := by
  constructor
  · rintro ⟨root, h⟩
    obtain ⟨bits, hbits, hbytes, _⟩ := bitlistRoot_eq_ok.mp h
    exact ⟨bits, hbits, encodesBits_iff.mpr hbytes⟩
  · rintro ⟨bits, hbits, h⟩
    exact ⟨_, bitlistRoot_eq_ok.mpr ⟨bits, hbits, encodesBits_iff.mp h, rfl⟩⟩

/-- The length check leaves no list for which the tree has no room. -/
theorem bitlistRoot_ne_overfull (e : LimitExceeded) :
    bitlistRoot hash bytes limit ≠ .error (.overfull e) := by
  intro h
  rcases bitlist_or_error hash bytes limit with ⟨bits, rfl⟩ | ⟨_, herror⟩ | ⟨_, herror⟩
  · rw [bitlistRoot_bitlistBytes] at h
    split at h <;> cases h
  · cases herror.symm.trans h
  · cases herror.symm.trans h

/-- The pairs that are hashed for a bit list: those of the tree over its bits, and at last the
root of this tree with the length. -/
theorem bitlistInputs_bitlistBytes (h : bits.length ≤ limit) :
    bitlistInputs hash (bitlistBytes bits) limit =
      treeInputs hash (depthFor ((limit + 255) / 256)) (pack (bitvectorBytes bits)) ++
        [(subtree hash (Nat.clog 2 ((limit + 255) / 256)) (chunkOf (byteOf (bitsValue bits))),
          numberChunk bits.length)] := by
  obtain ⟨last, hlast, hnonzero, hlength, hbody⟩ := bitlistBytes_parts bits
  unfold bitlistInputs
  simp only [hlast, if_neg hnonzero, hlength, hbody, if_neg (Nat.not_lt.mpr h),
    merkleize_bitvectorBytes h]

/-- Bits of one number have one root only if they are equal. -/
theorem bitsRoot_inj (hbits : bits.length ≤ limit) (hlength : bits.length = bits'.length)
    (hfree : CollisionFree hash
      (treeInputs hash (depthFor ((limit + 255) / 256)) (pack (bitvectorBytes bits)) ++
        treeInputs hash (depthFor ((limit + 255) / 256)) (pack (bitvectorBytes bits'))))
    (h : subtree hash (Nat.clog 2 ((limit + 255) / 256)) (chunkOf (byteOf (bitsValue bits))) =
      subtree hash (Nat.clog 2 ((limit + 255) / 256)) (chunkOf (byteOf (bitsValue bits')))) :
    bits = bits' := by
  have hfit : ∀ {l : List Bool}, l.length ≤ limit →
      (pack (bitvectorBytes l)).length ≤ 2 ^ depthFor ((limit + 255) / 256) := fun hl =>
    (length_pack_bitvectorBytes hl).trans (le_two_pow_depthFor _)
  have hbytes : (bitvectorBytes bits).length = (bitvectorBytes bits').length := by
    rw [length_bitvectorBytes, length_bitvectorBytes, hlength]
  have hroots : treeRoot hash (depthFor ((limit + 255) / 256)) (pack (bitvectorBytes bits)) =
      treeRoot hash (depthFor ((limit + 255) / 256)) (pack (bitvectorBytes bits')) := by
    rw [treeRoot_eq_subtree (hfit hbits), treeRoot_eq_subtree (hfit (hlength ▸ hbits)),
      depthFor_eq_clog, leaves_pack, leaves_pack, byteAt_bitvectorBytes, byteAt_bitvectorBytes, h]
  have hchunks := treeRoot_inj (by rw [length_pack, length_pack, hbytes]) (hfit hbits) hfree hroots
  exact bitvectorBytes_inj hlength (pack_inj hbytes hchunks)

/-- Encodings with one root under one limit are equal. -/
theorem bitlistRoot_inj {root : Root} (hlimit : limit < 2 ^ 64)
    (hfree : CollisionFree hash (bitlistInputs hash bytes limit ++ bitlistInputs hash other limit))
    (h : bitlistRoot hash bytes limit = .ok root) (h' : bitlistRoot hash other limit = .ok root) :
    bytes = other := by
  obtain ⟨bits, hbits, rfl, hroot⟩ := bitlistRoot_eq_ok.mp h
  obtain ⟨bits', hbits', rfl, hroot'⟩ := bitlistRoot_eq_ok.mp h'
  rw [bitlistInputs_bitlistBytes hbits, bitlistInputs_bitlistBytes hbits'] at hfree
  -- the last pair binds the length and the root of the tree
  have hpair := hfree (_, numberChunk bits.length) (by simp) (_, numberChunk bits'.length)
    (by simp) (hroot.trans hroot'.symm)
  obtain ⟨htree, hnumber⟩ := Prod.mk.inj hpair
  have hlength : bits.length = bits'.length := numberChunk_inj (by omega) (by omega) hnumber
  refine congrArg bitlistBytes (bitsRoot_inj hbits hlength (hfree.mono fun p hp => ?_) htree)
  rcases List.mem_append.mp hp with hp | hp <;> simp [hp]

/-- A root exists exactly for the encodings of bit lists within the limit. It is that of the tree
over the packed bits, with their number mixed in, and this tree always has room for them. Two
encodings with one root exhibit a collision among the pairs that are hashed for it. -/
theorem bitlistRoot_exact (hash : Compression) (encoded : Bytes) (limit : Nat) :
    ((∃ root, bitlistRoot hash encoded limit = .ok root) ↔
        ∃ bits, bits.length ≤ limit ∧ EncodesBits encoded bits) ∧
      (∀ bits, bits.length ≤ limit → EncodesBits encoded bits →
        ∃ contents,
          merkleize hash (pack (bitvectorBytes bits)) (some ((limit + 255) / 256)) =
              .ok contents ∧
            bitlistRoot hash encoded limit = .ok (mixInLength hash contents bits.length)) ∧
      (∀ e, bitlistRoot hash encoded limit ≠ .error (.overfull e)) ∧
      (limit < 2 ^ 64 → ∀ other root, other ≠ encoded →
        bitlistRoot hash encoded limit = .ok root → bitlistRoot hash other limit = .ok root →
          Collides hash (bitlistInputs hash encoded limit ++ bitlistInputs hash other limit)) := by
  refine ⟨exists_bitlistRoot_iff, fun bits hbits h => ?_, bitlistRoot_ne_overfull,
    fun hlimit other root hne h h' => ?_⟩
  · exact ⟨_, merkleize_bitvectorBytes hbits,
      bitlistRoot_eq_ok.mpr ⟨bits, hbits, encodesBits_iff.mp h, rfl⟩⟩
  · refine (collisionFree_or_collides hash _).resolve_left fun hfree => ?_
    exact hne (bitlistRoot_inj hlimit hfree h h').symm

/-- Eight bits fill a byte, so that the mark stands alone in the next one, which falls away. With
a hash that forgets the length they have the root of nine bits of which the last is not set, and
two pairs collide. -/
theorem wholeByte_exact :
    let bits := List.replicate 8 true
    EncodesBits [0xff, 0x01] bits ∧
      (∃ contents, merkleize leftOnly (pack (bitvectorBytes bits)) (some 1) = .ok contents ∧
        bitlistRoot leftOnly [0xff, 0x01] 256 = .ok (mixInLength leftOnly contents 8)) ∧
      bitlistRoot leftOnly [0xff, 0x01] 256 = .ok (numberChunk 255) ∧
      bitlistRoot leftOnly [0xff, 0x02] 256 = .ok (numberChunk 255) ∧
      Collides leftOnly
        (bitlistInputs leftOnly [0xff, 0x01] 256 ++ bitlistInputs leftOnly [0xff, 0x02] 256) := by
  intro bits
  have hencodes : EncodesBits [0xff, 0x01] bits := encodesBits_iff.mpr (by decide)
  have hroot : bitlistRoot leftOnly [0xff, 0x01] 256 = .ok (numberChunk 255) := by decide
  have hother : bitlistRoot leftOnly [0xff, 0x02] 256 = .ok (numberChunk 255) := by decide
  obtain ⟨_, hexact, _, hbinds⟩ := bitlistRoot_exact leftOnly [0xff, 0x01] 256
  exact ⟨hencodes, hexact bits (by decide) hencodes, hroot, hother,
    hbinds (by decide) _ _ (by decide) hroot hother⟩

end RemoteSigner.Ssz
