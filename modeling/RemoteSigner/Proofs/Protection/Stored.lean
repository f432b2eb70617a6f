import RemoteSigner.Proofs.Bytes.Fixed
import RemoteSigner.Proofs.Outcome
import RemoteSigner.Protection.Database

/-!
# Numbers and roots as they are stored

A stored number lies in the range of its column (`Stored.InRange`). Within it
reading undoes writing (`read_of_stored`), and 64-bit numbers compare as the
stored ones do (`lt_read_iff`). A nullable number that only ever grows is
`Raised`: a set value stays set.
-/

namespace RemoteSigner

namespace Stored

/-- The numbers that a column holds and that can be read from it. -/
def InRange (i : Int) : Prop :=
  0 ≤ i ∧ i ≤ bound

/-- The roots that can be read: absent, or of the right length. -/
def RootOk (root : Option Bytes) : Prop :=
  ∀ bytes ∈ root, bytes.length = 32

/-- The number that a stored one stands for. -/
def read (i : Int) : UInt64 :=
  UInt64.ofNat i.toNat

/-- The root that stored bytes stand for. -/
def readRoot (root : Option Bytes) : Option Root :=
  root.bind FixedBytes.ofBytes?

theorem rootOk_of_root (root : Option Root) : RootOk (root.map (·.bytes)) := by
  intro bytes h
  obtain ⟨r, _, rfl⟩ := Option.map_eq_some_iff.mp h
  exact r.length_eq

/-- Writing succeeds for the numbers that fit, and keeps their value. -/
theorem ofUInt64_eq_ok {n : UInt64} {i : Int} :
    ofUInt64 n = .ok i ↔ n.toNat ≤ bound ∧ i = n.toNat := by
  unfold ofUInt64
  by_cases h : n.toNat ≤ bound
  · simp [h, eq_comm]
  · simp [h]

theorem ofUInt64_of_le {n : UInt64} (h : n.toNat ≤ bound) : ofUInt64 n = .ok (n.toNat : Int) :=
  ofUInt64_eq_ok.mpr ⟨h, rfl⟩

theorem inRange_of_stored {n : UInt64} {i : Int} (h : ofUInt64 n = .ok i) : InRange i := by
  obtain ⟨hle, rfl⟩ := ofUInt64_eq_ok.mp h
  exact ⟨Int.natCast_nonneg _, by exact_mod_cast hle⟩

theorem toNat_read {i : Int} (h : InRange i) : ((read i).toNat : Int) = i := by
  obtain ⟨h0, h1⟩ := h
  have hlt : i.toNat < 2 ^ 64 := by
    simp only [bound] at h1
    omega
  rw [read, UInt64.toNat_ofNat_of_lt' hlt]
  omega

/-- Reading undoes writing. -/
theorem read_of_stored {n : UInt64} {i : Int} (h : ofUInt64 n = .ok i) : read i = n := by
  obtain ⟨_, rfl⟩ := ofUInt64_eq_ok.mp h
  exact UInt64.ofNat_toNat

/-- Writing undoes reading. -/
theorem stored_read {i : Int} (h : InRange i) : ofUInt64 (read i) = .ok i := by
  have hread := toNat_read h
  have hbound := h.2
  exact ofUInt64_eq_ok.mpr ⟨by omega, hread.symm⟩

theorem toUInt64_eq {i : Int} (h : InRange i) : toUInt64 i = .ok (read i) := by
  rw [toUInt64, if_pos h.1, read]

theorem toUInt64?_eq {o : Option Int} (h : ∀ i ∈ o, InRange i) :
    toUInt64? o = .ok (o.map read) := by
  cases o with
  | none => rfl
  | some i =>
      show (toUInt64 i).map some = _
      rw [toUInt64_eq (h i rfl)]
      rfl

theorem toRoot?_eq {root : Option Bytes} (h : RootOk root) :
    toRoot? root = .ok (readRoot root) := by
  cases root with
  | none => rfl
  | some bytes => simp [toRoot?, readRoot, FixedBytes.ofBytes?, h bytes rfl]

/-- A stored root reads as `root` exactly if it holds its bytes. -/
theorem readRoot_eq_some {stored : Option Bytes} {root : Root} :
    readRoot stored = some root ↔ stored = some root.bytes := by
  cases stored with
  | none => simp [readRoot]
  | some bytes =>
      constructor
      · intro h
        simp only [readRoot, Option.bind_some, FixedBytes.ofBytes?] at h
        split at h
        · rw [← Option.some.inj h]
        · exact absurd h (by simp)
      · intro h
        rw [h]
        exact FixedBytes.ofBytes?_bytes root

/-- The bytes of what is read are those that are stored. -/
theorem bytes_readRoot {root : Option Bytes} (h : RootOk root) :
    (readRoot root).map (·.bytes) = root := by
  cases root with
  | none => rfl
  | some bytes => simp [readRoot, FixedBytes.ofBytes?, h bytes rfl]

/-- Requests compare with what is read as their stored numbers do. -/
theorem lt_read_iff {n : UInt64} {i j : Int} (hn : ofUInt64 n = .ok i) (hj : InRange j) :
    n < read j ↔ i < j := by
  obtain ⟨_, rfl⟩ := ofUInt64_eq_ok.mp hn
  have := toNat_read hj
  rw [UInt64.lt_iff_toNat_lt]
  omega

theorem read_lt_iff {n : UInt64} {i j : Int} (hn : ofUInt64 n = .ok i) (hj : InRange j) :
    read j < n ↔ j < i := by
  obtain ⟨_, rfl⟩ := ofUInt64_eq_ok.mp hn
  have := toNat_read hj
  rw [UInt64.lt_iff_toNat_lt]
  omega

theorem read_eq_iff {n : UInt64} {i j : Int} (hn : ofUInt64 n = .ok i) (hj : InRange j) :
    read j = n ↔ j = i := by
  obtain ⟨_, rfl⟩ := ofUInt64_eq_ok.mp hn
  have := toNat_read hj
  rw [← UInt64.toNat_inj]
  omega

/-- Stored numbers of requests are in the order of the requests. -/
theorem stored_le {m n : UInt64} {i j : Int} (hm : ofUInt64 m = .ok i) (hn : ofUInt64 n = .ok j) :
    i ≤ j ↔ m ≤ n := by
  obtain ⟨_, rfl⟩ := ofUInt64_eq_ok.mp hm
  obtain ⟨_, rfl⟩ := ofUInt64_eq_ok.mp hn
  rw [UInt64.le_iff_toNat_le]
  omega

theorem stored_inj {m n : UInt64} {i : Int} (hm : ofUInt64 m = .ok i) (hn : ofUInt64 n = .ok i) :
    m = n := by
  rw [← read_of_stored hm, ← read_of_stored hn]

/-! ## Raising -/

theorem le_raise (old : Option Int) (new : Int) : new ≤ raise old new := by
  unfold raise
  split
  · exact Int.le_refl _
  · split <;> omega

theorem old_le_raise {old : Option Int} {i : Int} (h : i ∈ old) (new : Int) :
    i ≤ raise old new := by
  cases h
  simp only [raise]
  split <;> omega

/-- Raising yields the old value or the new one. -/
theorem raise_eq (old : Option Int) (new : Int) : raise old new = new ∨ raise old new ∈ old := by
  cases old with
  | none => exact .inl rfl
  | some i =>
      simp only [raise]
      split
      · exact .inl rfl
      · exact .inr rfl

/-- Raising to what was reached changes nothing. -/
theorem raise_of_le {old : Option Int} {i new : Int} (h : i ∈ old) (hle : new ≤ i) :
    raise old new = i := by
  cases h
  simp only [raise]
  split <;> omega

theorem raise_inRange {old : Option Int} {new : Int} (ho : ∀ i ∈ old, InRange i)
    (hn : InRange new) : InRange (raise old new) := by
  rcases raise_eq old new with h | h
  · rw [h]; exact hn
  · exact ho _ h

theorem largest_eq_none {is : List Int} : largest is = none ↔ is = [] := by
  cases is <;> simp [largest]

/-- The largest of several numbers is one of them and none is larger. -/
theorem largest_spec {is : List Int} {m : Int} (h : largest is = some m) :
    m ∈ is ∧ ∀ i ∈ is, i ≤ m := by
  induction is generalizing m with
  | nil => exact absurd h (by simp [largest])
  | cons i rest ih =>
      obtain rfl : raise (largest rest) i = m := Option.some.inj h
      constructor
      · rcases raise_eq (largest rest) i with he | he
        · rw [he]; exact List.mem_cons_self
        · exact List.mem_cons_of_mem _ (ih he).1
      · intro j hj
        rcases List.mem_cons.mp hj with rfl | hj
        · exact le_raise _ _
        · cases hl : largest rest with
          | none =>
              rw [largest_eq_none.mp hl] at hj
              exact absurd hj List.not_mem_nil
          | some k =>
              have hjk : j ≤ k := (ih hl).2 j hj
              have hk : k ≤ raise (some k) i := old_le_raise rfl i
              omega

end Stored

/-- A nullable number that was not lowered: if it was set, it still is, and to
no smaller value. -/
def Raised (old new : Option Int) : Prop :=
  ∀ i ∈ old, ∃ j ∈ new, i ≤ j

namespace Raised

theorem refl (o : Option Int) : Raised o o :=
  fun i h => ⟨i, h, Int.le_refl i⟩

theorem trans {a b c : Option Int} (hab : Raised a b) (hbc : Raised b c) : Raised a c := by
  intro i hi
  obtain ⟨j, hj, hij⟩ := hab i hi
  obtain ⟨k, hk, hjk⟩ := hbc j hj
  exact ⟨k, hk, Int.le_trans hij hjk⟩

theorem raise (old : Option Int) (new : Int) : Raised old (some (Stored.raise old new)) :=
  fun _ h => ⟨_, rfl, Stored.old_le_raise h new⟩

end Raised

end RemoteSigner
