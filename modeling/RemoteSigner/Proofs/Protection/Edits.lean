import Mathlib.Logic.Relation
import RemoteSigner.Proofs.Protection.Run

/-!
# The writes that operations are made of

Whatever the columns of a database hold, an operation changes it by a few kinds
of statement only: `Validator.Edit` for the rows of one validator,
`Database.Edit` for the database. What a statement binds fits its column. So what
every statement preserves, every operation does, and every run:

* `Edit.readable` — columns that can be read stay so;
* `Edit.onward` — no part of a watermark is lowered or cleared;
* `after_edits` — the database after a run is made by statements from that before,
  whatever it was.
-/

namespace RemoteSigner

namespace Validator

/-! ## Statements on the rows of a validator -/

/-- A statement that writes to the rows of one validator. -/
inductive Edit (v : Validator) : Validator → Prop
  | addBlock (b : StoredBlock) (hslot : Stored.InRange b.slot) (hroot : Stored.RootOk b.root) :
      Edit v { v with blocks := v.blocks ++ [b] }
  | addVote (a : StoredAttestation) (hsource : Stored.InRange a.source)
      (htarget : Stored.InRange a.target) (hroot : Stored.RootOk a.root) :
      Edit v { v with attestations := v.attestations ++ [a] }
  | raiseSlot (slot : Int) (hslot : Stored.InRange slot) : Edit v (v.raiseSlot slot)
  | raiseEpochs (source target : Int) (hsource : Stored.InRange source)
      (htarget : Stored.InRange target) : Edit v (v.raiseEpochs source target)
  | enable (enabled : Bool) : Edit v { v with enabled := enabled }
  | dropBlocks (cutoff : Int) : Edit v (v.dropBlocks cutoff)
  | dropVotes (cutoff : Int) : Edit v (v.dropVotes cutoff)

/-- Some statements one after another. -/
def Edits : Validator → Validator → Prop :=
  Relation.ReflTransGen Edit

/-- The watermark of a validator is nowhere lowered or cleared. -/
structure Onward (v v' : Validator) : Prop where
  key_eq : v'.key = v.key
  slot : Raised v.slotMark v'.slotMark
  source : Raised v.sourceMark v'.sourceMark
  target : Raised v.targetMark v'.targetMark

theorem Onward.refl (v : Validator) : v.Onward v :=
  ⟨rfl, .refl _, .refl _, .refl _⟩

theorem Onward.trans {u v w : Validator} (huv : u.Onward v) (hvw : v.Onward w) : u.Onward w :=
  ⟨hvw.key_eq.trans huv.key_eq, huv.slot.trans hvw.slot, huv.source.trans hvw.source,
    huv.target.trans hvw.target⟩

theorem Advances.onward {v v' : Validator} (h : v.Advances v') : v.Onward v' :=
  ⟨h.key_eq, h.slot, h.source, h.target⟩

variable {v v' : Validator}

theorem Edit.onward (h : v.Edit v') : v.Onward v' := by
  cases h with
  | raiseSlot slot _ => exact (advances_raiseSlot v slot).onward
  | raiseEpochs source target _ _ => exact (advances_raiseEpochs v source target).onward
  | addBlock _ _ _ => exact ⟨rfl, .refl _, .refl _, .refl _⟩
  | addVote _ _ _ _ => exact ⟨rfl, .refl _, .refl _, .refl _⟩
  | enable _ => exact ⟨rfl, .refl _, .refl _, .refl _⟩
  | dropBlocks _ => exact ⟨rfl, .refl _, .refl _, .refl _⟩
  | dropVotes _ => exact ⟨rfl, .refl _, .refl _, .refl _⟩

theorem Edit.readable (h : v.Edit v') (hv : v.Readable) : v'.Readable := by
  cases h with
  | addBlock b hslot hroot =>
      refine hv.withRecords (fun x hx => ?_) fun a ha => .inl ha
      rcases List.mem_append.mp hx with hx | hx
      · exact .inl hx
      · rw [List.mem_singleton.mp hx]
        exact .inr ⟨hslot, hroot⟩
  | addVote a hsource htarget hroot =>
      refine hv.withRecords (fun b hb => .inl hb) fun x hx => ?_
      rcases List.mem_append.mp hx with hx | hx
      · exact .inl hx
      · rw [List.mem_singleton.mp hx]
        exact .inr ⟨hsource, htarget, hroot⟩
  | raiseSlot slot hslot => exact hv.raiseSlot hslot
  | raiseEpochs source target hsource htarget => exact hv.raiseEpochs hsource htarget
  | enable enabled => exact hv.withRecords (fun b hb => .inl hb) fun a ha => .inl ha
  | dropBlocks cutoff =>
      exact hv.withRecords (fun b hb => .inl (List.mem_filter.mp hb).1) fun a ha => .inl ha
  | dropVotes cutoff =>
      exact hv.withRecords (fun b hb => .inl hb) fun a ha => .inl (List.mem_filter.mp ha).1

theorem Edits.onward (h : v.Edits v') : v.Onward v' := by
  induction h with
  | refl => exact .refl v
  | tail _ hlast ih => exact ih.trans hlast.onward

theorem Edits.readable (h : v.Edits v') (hv : v.Readable) : v'.Readable := by
  induction h with
  | refl => exact hv
  | tail _ hlast ih => exact hlast.readable ih

/-! ## What is done to one validator -/

variable {high : HighWatermark} {d : Decision}

/-- All that a check of a block writes, whatever the columns hold. -/
theorem signBlock_writes {request : BlockRequest} (h : v.signBlock high request = .ok (d, v')) :
    (∃ reason, d = .reject reason) ∧ v' = v ∨
    ∃ slot, Stored.ofUInt64 request.slot = .ok slot ∧
      (d = .accept false ∧ v' = v.raiseSlot slot ∨
        d = .accept true ∧ v' = { v with
          blocks := v.blocks ++ [(⟨slot, some request.root.bytes⟩ : StoredBlock)] }.raiseSlot
            slot) := by
  obtain ⟨watermark, _, h⟩ := bind_eq_ok.mp h
  obtain ⟨slot, hslot, h⟩ := bind_eq_ok.mp h
  obtain ⟨existing, _, h⟩ := bind_eq_ok.mp h
  cases hdec : Decision.block watermark high existing request with
  | reject reason =>
      simp only [hdec] at h
      obtain ⟨rfl, rfl⟩ := Prod.mk.inj (pure_eq_ok.mp h)
      exact .inl ⟨⟨reason, rfl⟩, rfl⟩
  | accept record =>
      refine .inr ⟨slot, hslot, ?_⟩
      cases record with
      | false =>
          simp only [hdec] at h
          obtain ⟨rfl, rfl⟩ := Prod.mk.inj (pure_eq_ok.mp h)
          exact .inl ⟨rfl, rfl⟩
      | true =>
          simp only [hdec] at h
          obtain ⟨u, hu, h⟩ := bind_eq_ok.mp h
          obtain rfl := insertBlock_ok hu
          obtain ⟨rfl, rfl⟩ := Prod.mk.inj (pure_eq_ok.mp h)
          exact .inr ⟨rfl, rfl⟩

/-- All that a check of an attestation writes, whatever the columns hold. -/
theorem signAttestation_writes {request : AttestationRequest}
    (h : v.signAttestation high request = .ok (d, v')) :
    (∃ reason, d = .reject reason) ∧ v' = v ∨
    ∃ source target, Stored.ofUInt64 request.source = .ok source ∧
      Stored.ofUInt64 request.target = .ok target ∧
      (d = .accept false ∧ v' = v.raiseEpochs source target ∨
        d = .accept true ∧ v' = { v with
          attestations := v.attestations ++
            [(⟨source, target, some request.root.bytes⟩ : StoredAttestation)] }.raiseEpochs
              source target) := by
  obtain ⟨watermark, _, h⟩ := bind_eq_ok.mp h
  by_cases hback : request.target < request.source
  · rw [if_pos hback, Decision.attestation, if_pos hback] at h
    obtain ⟨rfl, rfl⟩ := Prod.mk.inj (pure_eq_ok.mp h)
    exact .inl ⟨⟨_, rfl⟩, rfl⟩
  · rw [if_neg hback] at h
    obtain ⟨source, hsource, h⟩ := bind_eq_ok.mp h
    obtain ⟨target, htarget, h⟩ := bind_eq_ok.mp h
    obtain ⟨history, _, h⟩ := bind_eq_ok.mp h
    cases hdec : Decision.attestation watermark high history request with
    | reject reason =>
        simp only [hdec] at h
        obtain ⟨rfl, rfl⟩ := Prod.mk.inj (pure_eq_ok.mp h)
        exact .inl ⟨⟨reason, rfl⟩, rfl⟩
    | accept record =>
        refine .inr ⟨source, target, hsource, htarget, ?_⟩
        cases record with
        | false =>
            simp only [hdec] at h
            obtain ⟨rfl, rfl⟩ := Prod.mk.inj (pure_eq_ok.mp h)
            exact .inl ⟨rfl, rfl⟩
        | true =>
            simp only [hdec] at h
            obtain ⟨u, hu, h⟩ := bind_eq_ok.mp h
            obtain rfl := insertAttestation_ok hu
            obtain ⟨rfl, rfl⟩ := Prod.mk.inj (pure_eq_ok.mp h)
            exact .inr ⟨rfl, rfl⟩

theorem edits_signBlock {request : BlockRequest} (h : v.signBlock high request = .ok (d, v')) :
    v.Edits v' := by
  rcases signBlock_writes h with ⟨_, rfl⟩ | ⟨slot, hslot, ⟨_, rfl⟩ | ⟨_, rfl⟩⟩
  · exact .refl
  · exact .single (.raiseSlot slot (Stored.inRange_of_stored hslot))
  · have hin := Stored.inRange_of_stored hslot
    exact .tail (.single (.addBlock _ hin (Stored.rootOk_of_root (some request.root))))
      (.raiseSlot slot hin)

theorem edits_signAttestation {request : AttestationRequest}
    (h : v.signAttestation high request = .ok (d, v')) : v.Edits v' := by
  rcases signAttestation_writes h with
    ⟨_, rfl⟩ | ⟨source, target, hsource, htarget, ⟨_, rfl⟩ | ⟨_, rfl⟩⟩
  · exact .refl
  · exact .single (.raiseEpochs source target (Stored.inRange_of_stored hsource)
      (Stored.inRange_of_stored htarget))
  · have hs := Stored.inRange_of_stored hsource
    have ht := Stored.inRange_of_stored htarget
    exact .tail (.single (.addVote _ hs ht (Stored.rootOk_of_root (some request.root))))
      (.raiseEpochs source target hs ht)

theorem edits_pruneBlocks {keep removed : Nat} (h : v.pruneBlocks keep = .ok (removed, v')) :
    v.Edits v' := by
  unfold pruneBlocks at h
  split at h
  · obtain ⟨_, rfl⟩ := Prod.mk.inj (Except.ok.inj h)
    exact .refl
  · obtain ⟨newest, _, h⟩ := bind_eq_ok.mp h
    dsimp only at h
    split at h
    · obtain ⟨_, rfl⟩ := Prod.mk.inj (pure_eq_ok.mp h)
      exact .refl
    · obtain ⟨cutoff, _, h⟩ := bind_eq_ok.mp h
      split at h
      · obtain ⟨_, rfl⟩ := Prod.mk.inj (pure_eq_ok.mp h)
        exact .single (.dropBlocks cutoff)
      · obtain ⟨record, _, h⟩ := bind_eq_ok.mp h
        obtain ⟨slot, hslot, h⟩ := bind_eq_ok.mp h
        obtain ⟨_, rfl⟩ := Prod.mk.inj (pure_eq_ok.mp h)
        exact .tail (.single (.raiseSlot slot (Stored.inRange_of_stored hslot)))
          (.dropBlocks cutoff)

theorem edits_pruneAttestations {keep removed : Nat}
    (h : v.pruneAttestations keep = .ok (removed, v')) : v.Edits v' := by
  unfold pruneAttestations at h
  split at h
  · obtain ⟨_, rfl⟩ := Prod.mk.inj (Except.ok.inj h)
    exact .refl
  · obtain ⟨newest, _, h⟩ := bind_eq_ok.mp h
    dsimp only at h
    split at h
    · obtain ⟨_, rfl⟩ := Prod.mk.inj (pure_eq_ok.mp h)
      exact .refl
    · obtain ⟨cutoff, _, h⟩ := bind_eq_ok.mp h
      split at h
      · obtain ⟨_, rfl⟩ := Prod.mk.inj (pure_eq_ok.mp h)
        exact .single (.dropVotes cutoff)
      · obtain ⟨record, _, h⟩ := bind_eq_ok.mp h
        obtain ⟨source, hsource, h⟩ := bind_eq_ok.mp h
        obtain ⟨target, htarget, h⟩ := bind_eq_ok.mp h
        obtain ⟨_, rfl⟩ := Prod.mk.inj (pure_eq_ok.mp h)
        exact .tail (.single (.raiseEpochs source target (Stored.inRange_of_stored hsource)
          (Stored.inRange_of_stored htarget))) (.dropVotes cutoff)

theorem edits_prune {c : PruningConfig} {counts : Nat × Nat} (h : v.prune c = .ok (counts, v')) :
    v.Edits v' := by
  obtain ⟨_, _, u, hu, hw⟩ := prune_steps h
  exact (edits_pruneBlocks hu).trans (edits_pruneAttestations hw)

end Validator

namespace History

variable {v v' : Validator} {m n : Nat}

theorem edits_importBlocks {listed : List SignedBlock}
    (h : importBlocks listed v = .ok (m, n, v')) : v.Edits v' := by
  induction listed generalizing v m n with
  | nil =>
      obtain ⟨_, _, rfl⟩ : 0 = m ∧ 0 = n ∧ v = v' := by simpa [importBlocks] using h
      exact .refl
  | cons l rest ih =>
      obtain ⟨slot, hslot, h⟩ := bind_eq_ok.mp h
      obtain ⟨found, _, h⟩ := bind_eq_ok.mp h
      cases found with
      | some r =>
          obtain ⟨⟨m', n', u⟩, hrest, h⟩ := bind_eq_ok.mp h
          obtain ⟨_, _, rfl⟩ : m' = m ∧ n' + 1 = n ∧ u = v' := by simpa using pure_eq_ok.mp h
          exact ih hrest
      | none =>
          obtain ⟨u, hu, h⟩ := bind_eq_ok.mp h
          obtain rfl := Validator.insertBlock_ok hu
          obtain ⟨⟨m', n', u⟩, hrest, h⟩ := bind_eq_ok.mp h
          obtain ⟨_, _, rfl⟩ : m' + 1 = m ∧ n' = n ∧ u = v' := by simpa using pure_eq_ok.mp h
          exact .head (.addBlock _ (Stored.inRange_of_stored hslot) (Stored.rootOk_of_root l.root))
            (ih hrest)

theorem edits_importAttestations {key : SignerId} {listed : List SignedAttestation} {index : Nat}
    (h : importAttestations key index listed v = .ok (m, n, v')) : v.Edits v' := by
  induction listed generalizing v index m n with
  | nil =>
      obtain ⟨_, _, rfl⟩ : 0 = m ∧ 0 = n ∧ v = v' := by simpa [importAttestations] using h
      exact .refl
  | cons l rest ih =>
      rw [importAttestations] at h
      split at h
      · cases h
      · obtain ⟨source, hsource, h⟩ := bind_eq_ok.mp h
        obtain ⟨target, htarget, h⟩ := bind_eq_ok.mp h
        obtain ⟨found, _, h⟩ := bind_eq_ok.mp h
        cases found with
        | nil =>
            obtain ⟨u, hu, h⟩ := bind_eq_ok.mp h
            obtain rfl := Validator.insertAttestation_ok hu
            obtain ⟨⟨m', n', u⟩, hrest, h⟩ := bind_eq_ok.mp h
            obtain ⟨_, _, rfl⟩ : m' + 1 = m ∧ n' = n ∧ u = v' := by simpa using pure_eq_ok.mp h
            exact .head (.addVote _ (Stored.inRange_of_stored hsource)
              (Stored.inRange_of_stored htarget) (Stored.rootOk_of_root l.root)) (ih hrest)
        | cons c cs =>
            obtain ⟨⟨m', n', u⟩, hrest, h⟩ := bind_eq_ok.mp h
            obtain ⟨_, _, rfl⟩ : m' = m ∧ n' + 1 = n ∧ u = v' := by simpa using pure_eq_ok.mp h
            exact ih hrest

theorem edits_raiseSlot {h : History} (hr : h.raiseSlot v = .ok v') : v.Edits v' := by
  rcases raiseSlot_ok hr with ⟨_, rfl⟩ | ⟨top, htop, rfl, _⟩
  · exact .refl
  · exact .single (.raiseSlot top htop)

theorem edits_importTo {h : History} {summary : ImportSummary}
    (hr : h.importTo v = .ok (summary, v')) : v.Edits v' := by
  obtain ⟨⟨m, n, u₁⟩, hblocks, hr⟩ := bind_eq_ok.mp hr
  obtain ⟨u₂, hslot, hr⟩ := bind_eq_ok.mp hr
  obtain ⟨⟨m', n', u₃⟩, hvotes, hr⟩ := bind_eq_ok.mp hr
  obtain ⟨u₄, hepochs, hr⟩ := bind_eq_ok.mp hr
  obtain ⟨_, rfl⟩ := Prod.mk.inj (pure_eq_ok.mp hr)
  have hforward := (importAttestations_taken hvotes).choose_spec.2.forward
  have hlast : u₃.Edits u₄ := by
    rcases raiseEpochs_ok hepochs hforward with ⟨_, rfl⟩ | ⟨s, t, hs, ht, _, rfl, _⟩
    · exact .refl
    · exact .single (.raiseEpochs s t hs ht)
  exact (((edits_importBlocks hblocks).trans (edits_raiseSlot hslot)).trans
    (edits_importAttestations hvotes)).trans hlast

end History

/-! ## Statements on the database -/

namespace Database

/-- The database with another ceiling. -/
def withCeiling (slot epoch : Option Int) (db : Database) : Database :=
  let m := db.metadata.getD ⟨none, none, none⟩
  { db with metadata := some { m with highSlot := slot, highEpoch := epoch } }

/-- A statement that writes to the database. -/
inductive Edit (db : Database) : Database → Prop
  | storeRoot (root : Root) (hnone : db.genesisRoot? = none) : Edit db (db.storeGenesisRoot root)
  | storeCeiling (slot epoch : Option Int) (hslot : ∀ i ∈ slot, Stored.InRange i)
      (hepoch : ∀ i ∈ epoch, Stored.InRange i) :
      Edit db (db.withCeiling slot epoch)
  | create (key : SignerId) (hnew : db.find? key = none) :
      Edit db { db with validators := db.validators ++ [.fresh key] }
  | change (f : Validator → Validator) (hf : ∀ v ∈ db.validators, v.Edits (f v)) :
      Edit db { db with validators := db.validators.map f }

/-- Some statements one after another. -/
def Edits : Database → Database → Prop :=
  Relation.ReflTransGen Edit

/-- No row goes, no part of a watermark is lowered or cleared, and a genesis root stays. -/
structure Onward (db db' : Database) : Prop where
  rows : ∀ key, (db.row key).Onward (db'.row key)
  kept : ∀ key, (db.find? key).isSome → (db'.find? key).isSome
  genesisRoot : ∀ root ∈ db.genesisRoot?, root ∈ db'.genesisRoot?

theorem Onward.refl (db : Database) : db.Onward db :=
  ⟨fun _ => .refl _, fun _ h => h, fun _ h => h⟩

theorem Onward.trans {db db' db'' : Database} (h : db.Onward db') (h' : db'.Onward db'') :
    db.Onward db'' :=
  ⟨fun key => (h.rows key).trans (h'.rows key), fun key hk => h'.kept key (h.kept key hk),
    fun root hr => h'.genesisRoot root (h.genesisRoot root hr)⟩

variable {db db' : Database} {key : SignerId} {root : Root}

theorem find?_create (hnew : db.find? key = none) (other : SignerId) :
    ({ db with validators := db.validators ++ [.fresh key] } : Database).find? other =
      if other = key then some (.fresh key) else db.find? other := by
  have hensure := find?_ensure db key other
  rwa [ensure, hnew, row, hnew] at hensure

theorem genesisRoot?_withCeiling (slot epoch : Option Int) (db : Database) :
    (db.withCeiling slot epoch).genesisRoot? = db.genesisRoot? := by
  unfold genesisRoot? withCeiling
  cases db.metadata <;> rfl

theorem Edit.onward (h : db.Edit db') : db.Onward db' := by
  cases h with
  | storeRoot _ hnone =>
      refine ⟨fun _ => .refl _, fun _ h => h, fun root hroot => ?_⟩
      rw [hnone] at hroot
      cases hroot
  | storeCeiling slot epoch _ _ =>
      refine ⟨fun _ => .refl _, fun _ h => h, fun root hroot => ?_⟩
      rwa [genesisRoot?_withCeiling]
  | create key hnew =>
      refine ⟨fun other => ?_, fun other hk => ?_, fun _ hroot => hroot⟩
      · rw [row, row, find?_create hnew]
        split
        · rename_i heq
          rw [heq, hnew]
          exact .refl _
        · exact .refl _
      · rw [find?_create hnew]
        split
        · rfl
        · exact hk
  | change f hf =>
      have hfind (other : SignerId) : find? other { db with validators := db.validators.map f } =
          (db.find? other).map f := find?_map (fun v hv => (hf v hv).onward.key_eq) other
      refine ⟨fun other => ?_, fun other hk => ?_, fun _ hroot => hroot⟩
      · rw [row, row, hfind]
        cases hv : db.find? other with
        | none => exact .refl _
        | some v => exact (hf v (find?_mem hv).1).onward
      · rwa [hfind, Option.isSome_map]

theorem Edit.keysDistinct (h : db.Edit db') (hdb : db.KeysDistinct) : db'.KeysDistinct := by
  cases h with
  | storeRoot _ _ => exact hdb
  | storeCeiling _ _ _ _ => exact hdb
  | create key hnew =>
      exact Validator.distinct_concat hdb (by simpa [find?, Validator.fresh] using hnew)
  | change f hf =>
      have hkeys : (db.validators.map f).map (·.key) = db.validators.map (·.key) := by
        rw [List.map_map]
        exact List.map_congr_left fun v hv => (hf v hv).onward.key_eq
      rw [KeysDistinct, hkeys]
      exact hdb

theorem Edit.readable (h : db.Edit db') (hdb : db.Readable) : db'.Readable := by
  refine ⟨h.keysDistinct hdb.keys_distinct, ?_, ?_⟩
  · intro v hv
    cases h with
    | storeRoot _ _ => exact hdb.rows v hv
    | storeCeiling _ _ _ _ => exact hdb.rows v hv
    | create key _ =>
        rcases List.mem_append.mp hv with hv | hv
        · exact hdb.rows v hv
        · rw [List.mem_singleton.mp hv]
          exact (Validator.sound_fresh key).toReadable
    | change f hf =>
        obtain ⟨w, hw, rfl⟩ := List.mem_map.mp hv
        exact (hf w hw).readable (hdb.rows w hw)
  · intro m hm
    cases h with
    | storeRoot root _ =>
        obtain rfl := Option.some.inj hm
        cases hmeta : db.metadata with
        | none => simp
        | some m => exact hdb.ceiling_inRange m hmeta
    | storeCeiling slot epoch hslot hepoch =>
        obtain rfl := Option.some.inj hm
        exact ⟨hslot, hepoch⟩
    | create _ _ => exact hdb.ceiling_inRange m hm
    | change _ _ => exact hdb.ceiling_inRange m hm

namespace Edits

theorem onward (h : db.Edits db') : db.Onward db' := by
  induction h with
  | refl => exact .refl db
  | tail _ hlast ih => exact ih.trans hlast.onward

theorem keysDistinct (h : db.Edits db') (hdb : db.KeysDistinct) : db'.KeysDistinct := by
  induction h with
  | refl => exact hdb
  | tail _ hlast ih => exact hlast.keysDistinct ih

theorem readable (h : db.Edits db') (hdb : db.Readable) : db'.Readable := by
  induction h with
  | refl => exact hdb
  | tail _ hlast ih => exact hlast.readable ih

end Edits

/-! ## What operations are made of -/

theorem edits_ensure (db : Database) (key : SignerId) : db.Edits (db.ensure key) := by
  unfold ensure
  split
  · exact .refl
  · rename_i hnew
    exact .single (.create key (by simpa using hnew))

/-- Replacing the row of a validator is done by statements on it. -/
theorem edits_put (h : db.KeysDistinct) {v : Validator} (hv : (db.row key).Edits v) :
    db.Edits (db.put key v) := by
  have hensured := edits_ensure db key
  refine .tail hensured (.change _ fun w hw => ?_)
  split
  · rename_i hkey
    have hrow : w = db.row key := by
      rw [← row_ensure db key key]
      exact (row_eq (eq_of_beq hkey ▸ (hensured.keysDistinct h).find?_eq hw)).symm
    exact hrow ▸ hv
  · exact .refl

theorem edits_admitGenesisRoot {admitted : Bool}
    (h : db.admitGenesisRoot root = (admitted, db')) : db.Edits db' := by
  unfold admitGenesisRoot at h
  split at h
  · obtain ⟨_, rfl⟩ := Prod.mk.inj h
    exact .refl
  · rename_i hnone
    obtain ⟨_, rfl⟩ := Prod.mk.inj h
    exact .single (.storeRoot root hnone)

end Database

/-- A successful run is made of statements. -/
def Operation.Edits {α : Type} (body : Operation α) : Prop :=
  ∀ ⦃db db' : Database⦄ ⦃a : α⦄, db.KeysDistinct → body db = .ok (a, db') → db.Edits db'

theorem Operation.Reads.edits {α : Type} {body : Operation α} (hread : body.Reads) :
    body.Edits := by
  intro db db' a _ hr
  rw [hread hr]
  exact .refl

namespace Database

theorem edits_checked {key : SignerId} {root : Root}
    (check : HighWatermark → Validator → Protected (Decision × Validator))
    (hcheck : ∀ {high v v' d}, check high v = .ok (d, v') → Validator.Edits v v') :
    (checked key root check).Edits := by
  intro db db' d h hr
  rcases checked_ok hr with ⟨_, hchain | ⟨db₁, hchain, rfl⟩⟩ |
    ⟨db₁, high, v, hchain, _, _, hv, rfl⟩
  · exact edits_admitGenesisRoot hchain
  · have hadmitted := edits_admitGenesisRoot hchain
    exact hadmitted.trans (edits_put (hadmitted.keysDistinct h) .refl)
  · have hadmitted := edits_admitGenesisRoot hchain
    refine hadmitted.trans (edits_put (hadmitted.keysDistinct h) ?_)
    rw [row_admitGenesisRoot hchain]
    exact hcheck hv

theorem edits_register (keys : List SignerId) : (register keys).Edits := by
  intro db db' a h hr
  obtain ⟨_, rfl⟩ := Prod.mk.inj (Except.ok.inj hr)
  clear hr h
  induction keys generalizing db with
  | nil => exact .refl
  | cons key rest ih => exact (edits_ensure db key).trans (@ih (db.ensure key))

theorem edits_setEnabled (key : SignerId) (enabled : Bool) : (setEnabled key enabled).Edits := by
  intro db db' a _ hr
  obtain ⟨_, rfl⟩ := Prod.mk.inj (Except.ok.inj hr)
  refine .single (.change _ fun v _ => ?_)
  split
  · exact .single (.enable enabled)
  · exact .refl

theorem edits_raiseLow (slot : Option Slot) (epoch : Option Epoch) :
    (raiseLow slot epoch).Edits := by
  intro db db' a _ hr
  unfold raiseLow at hr
  split at hr
  · obtain ⟨_, rfl⟩ := Prod.mk.inj (Except.ok.inj hr)
    exact .refl
  · obtain ⟨s, hs, hr⟩ := bind_eq_ok.mp hr
    obtain ⟨e, he, hr⟩ := bind_eq_ok.mp hr
    obtain ⟨_, rfl⟩ := Prod.mk.inj (pure_eq_ok.mp hr)
    refine .single (.change _ fun v _ => ?_)
    have hslot : v.Edits (s.elim v (v.raiseSlot ·)) := by
      cases s with
      | none => exact .refl
      | some i => exact .single (.raiseSlot i (store?_inRange hs i rfl))
    cases e with
    | none => exact hslot
    | some i =>
        have hi := store?_inRange he i rfl
        exact .tail hslot (.raiseEpochs i i hi hi)

theorem edits_replaceHigh (high : HighWatermark) : (replaceHigh high).Edits := by
  intro db db' a _ hr
  obtain ⟨u, hu, hr⟩ := bind_eq_ok.mp hr
  obtain ⟨_, rfl⟩ := Prod.mk.inj (pure_eq_ok.mp hr)
  obtain ⟨slot, hslot, hu⟩ := bind_eq_ok.mp hu
  obtain ⟨epoch, hepoch, hu⟩ := bind_eq_ok.mp hu
  obtain rfl := pure_eq_ok.mp hu
  exact .single (.storeCeiling slot epoch (store?_inRange hslot) (store?_inRange hepoch))

theorem edits_pruneOne (c : PruningConfig) (key : SignerId) : (pruneOne c key).Edits := by
  intro db db' a h hr
  unfold pruneOne at hr
  cases hf : db.find? key with
  | none =>
      rw [hf] at hr
      obtain ⟨_, rfl⟩ := Prod.mk.inj (Except.ok.inj hr)
      exact .refl
  | some v =>
      rw [hf] at hr
      obtain ⟨⟨counts, w⟩, hprune, hr⟩ := bind_eq_ok.mp hr
      obtain ⟨_, rfl⟩ := Prod.mk.inj (pure_eq_ok.mp hr)
      rw [← put_eq_update hf]
      exact edits_put h (by rw [row_eq hf]; exact Validator.edits_prune hprune)

end Database

namespace Interchange

theorem edits_importHistories {hs : List History} {db db' : Database} {summary : ImportSummary}
    (h : db.KeysDistinct) (hr : importHistories hs db = .ok (summary, db')) : db.Edits db' := by
  induction hs generalizing db summary with
  | nil =>
      obtain ⟨_, rfl⟩ := Prod.mk.inj (Except.ok.inj hr)
      exact .refl
  | cons x rest ih =>
      obtain ⟨⟨first, db₁⟩, hfirst, hr⟩ := bind_eq_ok.mp hr
      obtain ⟨⟨others, db₂⟩, hrest, hr⟩ := bind_eq_ok.mp hr
      obtain ⟨_, rfl⟩ := Prod.mk.inj (pure_eq_ok.mp hr)
      obtain ⟨v, hv, rfl⟩ := Database.withValidator_ok hfirst
      have hput := Database.edits_put h (History.edits_importTo hv)
      exact hput.trans (ih (hput.keysDistinct h) hrest)

theorem edits_importTo (d : Interchange) : Operation.Edits d.importTo := by
  intro db db' summary h hr
  obtain ⟨db₁, hchain, hr⟩ := importTo_ok hr
  have hadmitted := Database.edits_admitGenesisRoot hchain
  exact hadmitted.trans (edits_importHistories (hadmitted.keysDistinct h) hr)

end Interchange

/-! ## Calls and runs -/

namespace Engine

open Database

variable {e : Engine}

theorem transact_edits {α : Type} {body : Operation α} (h : e.database.KeysDistinct)
    (hbody : body.Edits) : e.database.Edits (e.transact body).2.database := by
  rcases transact_cases e body with ⟨_, hf⟩ | ⟨a, db, hr, hok⟩
  · rw [hf]
    exact .refl
  · rw [hok]
    exact hbody h hr

theorem pruneEach_edits {c : PruningConfig} {keys : List SignerId} {report : PruneReport}
    (h : e.database.KeysDistinct) : e.database.Edits (pruneEach c keys report e).2.database := by
  induction keys generalizing report e with
  | nil => exact .refl
  | cons key rest ih =>
      have hone := transact_edits h (edits_pruneOne c key)
      rw [pruneEach]
      generalize e.transact (pruneOne c key) = r at hone ⊢
      obtain ⟨result, e₁⟩ := r
      cases result with
      | error fault => exact hone
      | ok counts => exact hone.trans (ih (hone.keysDistinct h))

theorem prune_edits (h : e.database.KeysDistinct) (c : PruningConfig) :
    e.database.Edits (e.prune c).2.database := by
  unfold prune
  split
  · exact .refl
  · have hkeys := transact_edits h reads_readKeys.edits
    generalize e.transact readKeys = r at hkeys ⊢
    obtain ⟨result, e₁⟩ := r
    cases result with
    | error fault => exact hkeys
    | ok keys => exact hkeys.trans (pruneEach_edits (hkeys.keysDistinct h))

/-- Every call is made of statements, whatever the columns hold. -/
theorem perform_edits (h : e.database.KeysDistinct) (c : Call) :
    e.database.Edits (e.perform c).2.database := by
  cases c with
  | block key request root =>
      exact transact_edits h
        (edits_checked (fun high v => v.signBlock high request) Validator.edits_signBlock)
  | attest key request root =>
      exact transact_edits h
        (edits_checked (fun high v => v.signAttestation high request)
          Validator.edits_signAttestation)
  | register keys =>
      show e.database.Edits (e.register keys).2.database
      unfold register
      split
      · exact .refl
      · exact transact_edits h (edits_register keys)
  | setEnabled key enabled => exact transact_edits h (edits_setEnabled key enabled)
  | raiseLow slot epoch =>
      show e.database.Edits (e.raiseLow slot epoch).2.database
      unfold raiseLow
      split
      · exact .refl
      · exact transact_edits h (edits_raiseLow slot epoch)
  | highWatermark => exact transact_edits h reads_readHigh.edits
  | setHighWatermark high =>
      show e.database.Edits (e.setHighWatermark high).2.database
      unfold setHighWatermark
      split
      · exact .refl
      · exact transact_edits h (edits_replaceHigh high)
  | removeHighWatermark => exact transact_edits h (edits_replaceHigh .none)
  | exportHistory filter => exact transact_edits h (reads_readHistory filter).edits
  | importHistory d => exact transact_edits h (Interchange.edits_importTo d)
  | prune c => exact prune_edits h c
  | pruneOne c key => exact transact_edits h (edits_pruneOne c key)
  | lock held => exact .refl

/-- Every run is made of statements, whatever the columns hold. -/
theorem after_edits (h : e.database.KeysDistinct) (calls : List Call) :
    e.database.Edits (e.after calls).database := by
  induction calls generalizing e with
  | nil => exact .refl
  | cons c rest ih =>
      have hone := perform_edits h c
      exact hone.trans (ih (hone.keysDistinct h))

end Engine

end RemoteSigner
