import Mathlib.Algebra.Group.Nat.Defs
import Mathlib.Data.List.Nodup
import RemoteSigner.Proofs.Bytes.Fixed
import RemoteSigner.Ssz.Bits

/-!
# Merkle roots bind their leaves

A root is computed by hashing pairs of nodes. Where no two different pairs among
those that were hashed have one hash (`CollisionFree`), equal roots have equal
leaves:

* `parentInputs` to `bitvectorInputs` — the pairs hashed for each kind of root;
* `parents_inj`, `climb_inj` — one layer, and by induction all of them;
* `containerRoot_inj`, `uint64Root_inj` — fields and numbers.
-/

namespace RemoteSigner.Ssz

/-- No two different pairs of a list have one hash. -/
def CollisionFree (hash : Compression) (inputs : List (Root × Root)) : Prop :=
  ∀ p ∈ inputs, ∀ q ∈ inputs, hash p.1 p.2 = hash q.1 q.2 → p = q

instance (hash : Compression) (inputs : List (Root × Root)) :
    Decidable (CollisionFree hash inputs) :=
  inferInstanceAs (Decidable (∀ p ∈ inputs, ∀ q ∈ inputs, hash p.1 p.2 = hash q.1 q.2 → p = q))

theorem CollisionFree.mono {hash : Compression} {some all : List (Root × Root)}
    (h : CollisionFree hash all) (hs : some ⊆ all) : CollisionFree hash some :=
  fun p hp q hq => h p (hs hp) q (hs hq)

/-- Pairs do not collide where their hashes are listed without repetition. -/
theorem CollisionFree.of_nodup {hash : Compression} {inputs : List (Root × Root)}
    (h : (inputs.map fun p => hash p.1 p.2).Nodup) : CollisionFree hash inputs :=
  fun _ hp _ hq heq => List.inj_on_of_nodup_map h hp hq heq

/-- Two different pairs of a list have one hash. -/
def Collides (hash : Compression) (inputs : List (Root × Root)) : Prop :=
  ∃ p ∈ inputs, ∃ q ∈ inputs, p ≠ q ∧ hash p.1 p.2 = hash q.1 q.2

/-- Pairs that are not free of collisions exhibit one. -/
theorem collisionFree_or_collides (hash : Compression) (inputs : List (Root × Root)) :
    CollisionFree hash inputs ∨ Collides hash inputs := by
  by_cases hfree : CollisionFree hash inputs
  · exact .inl hfree
  · simp only [CollisionFree, not_forall] at hfree
    obtain ⟨p, hp, q, hq, heq, hne⟩ := hfree
    exact .inr ⟨p, hp, q, hq, hne, heq⟩

/-! ## The pairs that are hashed -/

/-- The pairs that make the parents of a layer. -/
def parentInputs : List Root → List (Root × Root)
  | left :: right :: rest => (left, right) :: parentInputs rest
  | _ => []

/-- The pairs that make the layer `depth` levels above a layer. -/
def climbInputs (hash : Compression) : Nat → List Root → List (Root × Root)
  | 0, _ => []
  | depth + 1, layer => parentInputs layer ++ climbInputs hash depth (parents hash layer)

/-- The pairs that make the root over chunks. -/
def treeInputs (hash : Compression) (depth : Nat) (chunks : List Root) : List (Root × Root) :=
  climbInputs hash depth
    (chunks ++ List.replicate (1 <<< depth - chunks.length) (FixedBytes.zero 32))

/-- The pairs that make the root of a container. -/
def containerInputs (hash : Compression) (fields : List Root) : List (Root × Root) :=
  treeInputs hash (depthFor fields.length) fields

/-- The pairs that make the root of a byte vector. -/
def bytesInputs (hash : Compression) (bytes : Bytes) : List (Root × Root) :=
  containerInputs hash (pack bytes)

/-- The pairs that make the root of a bit list. -/
def bitlistInputs (hash : Compression) (encoded : Bytes) (limit : Nat) : List (Root × Root) :=
  match encoded.getLast? with
  | none => []
  | some last =>
      if last = 0 then []
      else
        let position := Nat.log2 last.toNat
        let length := (encoded.length - 1) * 8 + position
        if length > limit then []
        else
          let bits := withoutDelimiter encoded.dropLast last position
          match merkleize hash (pack bits) (some ((limit + 255) / 256)) with
          | .error _ => []
          | .ok root =>
              treeInputs hash (depthFor ((limit + 255) / 256)) (pack bits) ++
                [(root, numberChunk length)]

/-- The pairs that make the root of a bit vector. -/
def bitvectorInputs (hash : Compression) (encoded : Bytes) (length : Nat) :
    List (Root × Root) :=
  if encoded.length ≠ (length + 7) / 8 then []
  else treeInputs hash (depthFor ((length + 255) / 256)) (pack encoded)

/-! ## Trees -/

variable {hash : Compression}

theorem length_parents (layer : List Root) : (parents hash layer).length = layer.length / 2 := by
  induction layer using parents.induct with
  | case1 left right rest ih =>
      simp only [parents, List.length_cons, ih]
      omega
  | case2 layer hshort =>
      match layer, hshort with
      | [], _ => rfl
      | [only], _ => simp [parents]
      | left :: right :: rest, hshort => exact absurd rfl (hshort left right rest)

/-- Layers of one even length have equal parents only if they are equal. -/
theorem parents_inj {n : Nat} {xs ys : List Root} (hx : xs.length = 2 * n)
    (hy : ys.length = 2 * n) (hfree : CollisionFree hash (parentInputs xs ++ parentInputs ys))
    (h : parents hash xs = parents hash ys) : xs = ys := by
  induction n generalizing xs ys with
  | zero =>
      rw [List.length_eq_zero_iff.mp (by omega : xs.length = 0),
        List.length_eq_zero_iff.mp (by omega : ys.length = 0)]
  | succ n ih =>
      obtain ⟨a, b, xs, rfl⟩ : ∃ a b rest, xs = a :: b :: rest := by
        match xs, hx with
        | a :: b :: rest, _ => exact ⟨a, b, rest, rfl⟩
      obtain ⟨c, d, ys, rfl⟩ : ∃ c d rest, ys = c :: d :: rest := by
        match ys, hy with
        | c :: d :: rest, _ => exact ⟨c, d, rest, rfl⟩
      simp only [parents, List.cons.injEq] at h
      have hpair : (a, b) = (c, d) := hfree (a, b) (by simp [parentInputs]) (c, d)
        (by simp [parentInputs]) h.1
      obtain ⟨rfl, rfl⟩ := Prod.mk.inj hpair
      have hrest : xs = ys := by
        simp only [List.length_cons] at hx hy
        refine ih (by omega) (by omega) (hfree.mono ?_) h.2
        intro p hp
        simp only [parentInputs, List.cons_append, List.mem_cons, List.mem_append] at hp ⊢
        rcases hp with hp | hp
        · exact .inr (.inl hp)
        · exact .inr (.inr (.inr hp))
      rw [hrest]

theorem length_climb (hash : Compression) {depth : Nat} {layer : List Root}
    (h : layer.length = 2 ^ depth) : (climb hash depth layer).length = 1 := by
  induction depth generalizing layer with
  | zero => simpa [climb] using h
  | succ depth ih =>
      refine ih ?_
      rw [length_parents, h, Nat.pow_succ]
      omega

/-- Complete trees of one depth have equal tops only if their leaves are. -/
theorem climb_inj {depth : Nat} {xs ys : List Root} (hx : xs.length = 2 ^ depth)
    (hy : ys.length = 2 ^ depth)
    (hfree : CollisionFree hash (climbInputs hash depth xs ++ climbInputs hash depth ys))
    (h : climb hash depth xs = climb hash depth ys) : xs = ys := by
  induction depth generalizing xs ys with
  | zero => exact h
  | succ depth ih =>
      have hx' : (parents hash xs).length = 2 ^ depth := by
        rw [length_parents, hx, Nat.pow_succ]
        omega
      have hy' : (parents hash ys).length = 2 ^ depth := by
        rw [length_parents, hy, Nat.pow_succ]
        omega
      -- the layer above is bound by the induction hypothesis, this one by its own pairs
      have hparents : parents hash xs = parents hash ys := by
        refine ih hx' hy' (hfree.mono ?_) h
        intro p hp
        simp only [climbInputs, List.mem_append] at hp ⊢
        rcases hp with hp | hp
        · exact .inl (.inr hp)
        · exact .inr (.inr hp)
      refine parents_inj (n := 2 ^ depth) (by omega) (by omega) (hfree.mono ?_) hparents
      intro p hp
      simp only [climbInputs, List.mem_append] at hp ⊢
      rcases hp with hp | hp
      · exact .inl (.inl hp)
      · exact .inr (.inl hp)

/-- Roots over equally many chunks that fit are equal only if the chunks are. -/
theorem treeRoot_inj {depth : Nat} {xs ys : List Root} (hlen : xs.length = ys.length)
    (hfit : xs.length ≤ 2 ^ depth)
    (hfree : CollisionFree hash (treeInputs hash depth xs ++ treeInputs hash depth ys))
    (h : treeRoot hash depth xs = treeRoot hash depth ys) : xs = ys := by
  have hpad : ∀ zs : List Root, zs.length = xs.length →
      (zs ++ List.replicate (1 <<< depth - zs.length) (FixedBytes.zero 32)).length = 2 ^ depth := by
    intro zs hz
    rw [List.length_append, List.length_replicate, Nat.shiftLeft_eq, Nat.one_mul]
    omega
  have hx := hpad xs rfl
  have hy := hpad ys hlen.symm
  obtain ⟨r, hr⟩ := List.length_eq_one_iff.mp (length_climb hash hx)
  obtain ⟨s, hs⟩ := List.length_eq_one_iff.mp (length_climb hash hy)
  have htop : r = s := by
    simpa [treeRoot, hr, hs] using h
  have hleaves := climb_inj hx hy hfree (by rw [hr, hs, htop])
  rw [hlen] at hleaves
  exact List.append_cancel_right hleaves

theorem le_two_pow_depthFor (n : Nat) : n ≤ 2 ^ depthFor n := by
  unfold depthFor
  split
  · omega
  · have : n - 1 < 2 ^ (Nat.log2 (n - 1) + 1) := Nat.lt_log2_self
    omega

/-- Containers of equally many fields have equal roots only if the fields are. -/
theorem containerRoot_inj {xs ys : List Root}
    (h : containerRoot hash xs = containerRoot hash ys)
    (hfree : CollisionFree hash (containerInputs hash xs ++ containerInputs hash ys))
    (hlen : xs.length = ys.length) : xs = ys := by
  unfold containerInputs at hfree
  unfold containerRoot at h
  rw [← hlen] at hfree h
  exact treeRoot_inj hlen (le_two_pow_depthFor _) hfree h

/-! ## Numbers -/

theorem length_littleEndian (count n : Nat) : (littleEndian count n).length = count := by
  induction count generalizing n with
  | zero => rfl
  | succ count ih => rw [littleEndian, List.length_cons, ih]

theorem littleEndian_inj {count m n : Nat} (hm : m < 256 ^ count) (hn : n < 256 ^ count)
    (h : littleEndian count m = littleEndian count n) : m = n := by
  induction count generalizing m n with
  | zero => omega
  | succ count ih =>
      simp only [littleEndian, List.cons.injEq] at h
      have hlow : m % 256 = n % 256 := by
        simpa [← UInt8.toNat_inj] using h.1
      have hhigh : m / 256 = n / 256 :=
        ih (by rw [Nat.pow_succ] at hm; omega) (by rw [Nat.pow_succ] at hn; omega) h.2
      omega

theorem numberChunk_inj {m n : Nat} (hm : m < 2 ^ 64) (hn : n < 2 ^ 64)
    (h : numberChunk m = numberChunk n) : m = n := by
  have hbytes := FixedBytes.fit_inj (by rw [length_littleEndian, length_littleEndian])
    (by rw [length_littleEndian]; omega) h
  exact littleEndian_inj hm hn hbytes

theorem uint64Root_inj {m n : UInt64} (h : uint64Root m = uint64Root n) : m = n :=
  UInt64.toNat_inj.mp (numberChunk_inj m.toNat_lt n.toNat_lt h)

end RemoteSigner.Ssz
