import RemoteSigner.Keys.Registry
import RemoteSigner.Protection.Engine

/-!
# Keys in custody

What the flows of the signer act on: the installed keys, the protection
database if signing is protected, and the disk.
-/

namespace RemoteSigner

/-- The keys, their history and the files they come from. -/
structure Custody where
  registry : Registry
  protection : Option Engine
  disk : Disk

namespace Custody

/-- What is installed. -/
def snapshot (c : Custody) : Snapshot :=
  c.registry.snapshot

/-- Run an operation on the protection database, which succeeds with `a` where
there is none. -/
def protect {α : Type} (c : Custody) (a : α) (f : Engine → Protected α × Engine) :
    Protected α × Custody :=
  match c.protection with
  | none => (.ok a, c)
  | some engine =>
      let (result, engine) := f engine
      (result, { c with protection := some engine })

end Custody

end RemoteSigner
