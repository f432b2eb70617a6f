import RemoteSigner.Chain.Fork

/-!
# Signing records and watermarks

What the protection database tells the rules about one validator, and the
ceiling of the whole deployment.
-/

namespace RemoteSigner

/-- A block that was signed. Records taken in from elsewhere may lack the root. -/
structure SignedBlock where
  slot : Slot
  root : Option Root
deriving DecidableEq

/-- An attestation that was signed. -/
structure SignedAttestation where
  source : Epoch
  target : Epoch
  root : Option Root
deriving DecidableEq

/-- The lowest values a validator may still sign; `none` is no bound. -/
structure Watermark where
  slot : Option Slot
  source : Option Epoch
  target : Option Epoch
deriving DecidableEq

/-- The values from which on nothing may be signed; `none` is no bound. -/
structure HighWatermark where
  slot : Option Slot
  epoch : Option Epoch
deriving DecidableEq

namespace HighWatermark

/-- No bound at all. -/
def none : HighWatermark := ⟨Option.none, Option.none⟩

/-- Whether there is no bound at all. -/
def isEmpty (h : HighWatermark) : Bool :=
  h.slot.isNone && h.epoch.isNone

end HighWatermark

end RemoteSigner
