import RemoteSigner.Hash.Sha256

/-!
# Merkle roots

Chunks of 32 bytes are the leaves of a complete binary tree, filled up with
zero chunks; a node is the hash of its two children. The hash of two chunks is
a parameter, so that statements can be made for every such function; the
signer uses SHA-256.
-/

namespace RemoteSigner.Ssz

/-- How two nodes make their parent. -/
abbrev Compression := Root → Root → Root

/-- SHA-256 over both children. -/
def sha256Pair : Compression := fun left right =>
  Sha256.digest (left.bytes ++ right.bytes)

/-- Cut a byte string into pieces of 32 bytes, the last one possibly shorter,
by at most `fuel` cuts. -/
def pieces : Nat → Bytes → List Bytes
  | 0, _ => []
  | _, [] => []
  | fuel + 1, bytes => bytes.take 32 :: pieces fuel (bytes.drop 32)

/-- Cut a byte string into chunks, the last one filled up with zeros. -/
def pack (bytes : Bytes) : List Root :=
  (pieces bytes.length bytes).map (FixedBytes.fit 32)

/-- The depth of the smallest complete tree with at least `width` leaves. -/
def depthFor (width : Nat) : Nat :=
  if width ≤ 1 then 0 else Nat.log2 (width - 1) + 1

/-- The parents of a layer, from left to right. -/
def parents (hash : Compression) : List Root → List Root
  | left :: right :: rest => hash left right :: parents hash rest
  | _ => []

/-- The layer `depth` levels above a layer. -/
def climb (hash : Compression) : Nat → List Root → List Root
  | 0, layer => layer
  | depth + 1, layer => climb hash depth (parents hash layer)

/-- The root over chunks, filled up with zeros to a complete tree of the given
depth. -/
def treeRoot (hash : Compression) (depth : Nat) (chunks : List Root) : Root :=
  (climb hash depth
    (chunks ++ List.replicate (1 <<< depth - chunks.length) (FixedBytes.zero 32))).headD
      (FixedBytes.zero 32)

/-- More chunks than the tree has room for. -/
structure LimitExceeded where
  count : Nat
  limit : Nat
deriving DecidableEq, Repr

/-- The wording of the fault. -/
def LimitExceeded.message (e : LimitExceeded) : String :=
  toString e.count ++ " chunks exceed merkle limit " ++ toString e.limit

/-- The root over chunks in a tree with room for `limit` of them, or for as
many as there are. -/
def merkleize (hash : Compression) (chunks : List Root) (limit : Option Nat) :
    Except LimitExceeded Root :=
  let width := limit.getD chunks.length
  if chunks.length > width then .error ⟨chunks.length, width⟩
  else .ok (treeRoot hash (depthFor width) chunks)

/-- The root of a container with the given field roots. -/
def containerRoot (hash : Compression) (fields : List Root) : Root :=
  treeRoot hash (depthFor fields.length) fields

/-- The root of a byte vector. -/
def bytesRoot (hash : Compression) (bytes : Bytes) : Root :=
  containerRoot hash (pack bytes)

/-- The little-endian bytes of a number, `count` of them. -/
def littleEndian : Nat → Nat → Bytes
  | 0, _ => []
  | count + 1, n => UInt8.ofNat n :: littleEndian count (n / 256)

/-- The chunk of a number. -/
def numberChunk (n : Nat) : Root :=
  FixedBytes.fit 32 (littleEndian 8 n)

/-- The root of a 64-bit number. -/
def uint64Root (n : UInt64) : Root :=
  numberChunk n.toNat

/-- Mix the length of a list into the root of its contents. -/
def mixInLength (hash : Compression) (root : Root) (length : Nat) : Root :=
  hash root (numberChunk length)

end RemoteSigner.Ssz
