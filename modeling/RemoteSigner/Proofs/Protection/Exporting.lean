import RemoteSigner.Proofs.Protection.Database
import RemoteSigner.Proofs.Protection.Signing
import RemoteSigner.Protection.Interchange

/-!
# Handing out history

Where the columns can be read, handing out fails only where no chain
is known: `Readable.ofValidator_eq` and `Interchange.ofDatabase_eq` say what is
handed out.
-/

namespace RemoteSigner

open Validator

/-- The history of a validator: its records, blocks by slot and attestations by
target. -/
def History.recorded (v : Validator) : History :=
  ⟨v.key, v.blocksInOrder.map (·.record), v.attestationsInOrder.map (·.record)⟩

/-- What is read of a row that can be read. -/
theorem Validator.Readable.ofValidator_eq {v : Validator} (h : v.Readable) :
    History.ofValidator v = .ok (History.recorded v) := by
  have hblocks : v.blocksInOrder.mapM StoredBlock.toRecord =
      .ok (v.blocksInOrder.map (·.record)) := by
    refine mapM_eq_ok fun b hb => ?_
    have hread := h.blocks_readable b (List.mem_mergeSort.mp hb)
    exact StoredBlock.toRecord_eq hread.1 hread.2
  have hvotes : v.attestationsInOrder.mapM StoredAttestation.toRecord =
      .ok (v.attestationsInOrder.map (·.record)) := by
    refine mapM_eq_ok fun a ha => ?_
    have hread := h.votes_readable a (List.mem_mergeSort.mp ha)
    exact StoredAttestation.toRecord_eq hread.1 hread.2.1 hread.2.2
  rw [History.ofValidator, hblocks, hvotes]
  rfl

namespace Interchange

variable {db : Database} {filter : Option (List SignerId)}

/-- What is handed out of a database that can be read: one history for each row wanted, in
the order of the rows. -/
theorem ofDatabase_eq (h : db.Readable) {root : Root} (hroot : db.genesisRoot? = some root) :
    ofDatabase filter db = .ok ⟨formatVersion, root,
      (db.validators.filter fun v => filter.all (·.contains v.key)).map History.recorded⟩ := by
  have hdata : (db.validators.filter fun v => filter.all (·.contains v.key)).mapM
      History.ofValidator = .ok (List.map History.recorded _) :=
    mapM_eq_ok fun v hv => (h.rows v (List.mem_filter.mp hv).1).ofValidator_eq
  rw [ofDatabase, hroot]
  simp only [hdata]
  rfl

/-- Without a chain nothing is handed out. -/
theorem ofDatabase_none (hnone : db.genesisRoot? = none) :
    ofDatabase filter db = .error .missingGenesisRoot := by
  rw [ofDatabase, hnone]

end Interchange

end RemoteSigner
