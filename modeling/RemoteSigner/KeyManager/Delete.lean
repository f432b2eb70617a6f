import RemoteSigner.KeyManager.Import

/-!
# Giving up keys

A key that is given up stops signing first; then protection refuses it, and
its files go. The answer hands over the history of all keys that are gone, or
that were not there but have some.
-/

namespace RemoteSigner

/-- What became of an entry before the history is known. -/
inductive DeleteStep where
  | deleted (key : SignerId)
  | failed (detail : String)
  /-- The key was not installed. -/
  | absent (key : SignerId)
deriving DecidableEq

namespace DeleteStep

/-- The key whose history is handed over. -/
def handedOver? : DeleteStep → Option SignerId
  | .deleted key | .absent key => some key
  | .failed _ => none

/-- The outcome, given whether a key has history. -/
def toOutcome (hasHistory : SignerId → Bool) : DeleteStep → DeleteOutcome
  | .deleted _ => .deleted
  | .failed detail => .failed detail
  | .absent key => if hasHistory key then .notActive else .notFound

end DeleteStep

namespace Custody

/-- Give up an installed key. -/
def deleteOne (c : Custody) (m : KeyManager) (key : SignerId) :
    Except SigningError Unit × Custody :=
  match c.registry.removeSigner key with
  | (.error e, registry) => (.error (.signer e), { c with registry := registry })
  | (.ok _, registry) =>
      match { c with registry := registry }.protect true fun e => e.setEnabled key false with
      | (.error e, c) => (.error (.protection e), c)
      | (.ok _, c) =>
          match KeystoreFiles.delete m.directory key c.disk with
          | (.error e, disk) => (.error (.signer e), { c with disk := disk })
          | (.ok _, disk) => (.ok (), { c with disk := disk })

/-- Give up the key that an entry names. -/
def deleteEntry (c : Custody) (m : KeyManager) (entry : String) : DeleteStep × Custody :=
  match SignerId.parse entry with
  | .error e => (.failed e.message, c)
  | .ok key =>
      if (c.snapshot.find? key).isNone then (.absent key, c)
      else
        match c.deleteOne m key with
        | (.ok (), c) => (.deleted key, c)
        | (.error e, c) => (.failed ("error deleting key: " ++ e.message), c)

/-- Give up the keys that entries name, one after another. -/
def deleteEach (m : KeyManager) : List String → Custody → List DeleteStep × Custody
  | [], c => ([], c)
  | entry :: rest, c =>
      let (step, c) := c.deleteEntry m entry
      let (steps, c) := deleteEach m rest c
      (step :: steps, c)

/-- Give up keys. -/
def deleteKeys (c : Custody) (m : KeyManager) (request : DeleteRequest) :
    DeleteResponse × Custody :=
  let (steps, c) := deleteEach m request.publicKeys c
  let without : List DeleteOutcome := steps.map (·.toOutcome fun _ => false)
  match c.protection with
  | none => (⟨without, none⟩, c)
  | some engine =>
      let (result, engine) := engine.exportHistory (some (steps.filterMap (·.handedOver?)))
      let c := { c with protection := some engine }
      match result with
      | .ok document =>
          let hasHistory (key : SignerId) : Bool := document.data.any (·.key == key)
          (⟨steps.map (·.toOutcome hasHistory), some document.toText⟩, c)
      | .error .missingGenesisRoot => (⟨without, none⟩, c)
      | .error e =>
          let detail := "error exporting slashing protection data: " ++ e.message
          (⟨steps.map fun _ => .failed detail, none⟩, c)

end Custody

end RemoteSigner
