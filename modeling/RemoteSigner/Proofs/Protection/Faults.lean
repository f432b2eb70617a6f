import RemoteSigner.Proofs.Protection.Edits

/-!
# Documents that are refused

What may be wrong with a document is listed in `Interchange.Faulty`: its version,
its chain, a vote that runs backwards or a number that does not fit its column,
anywhere in it. A faulty document fails on every database (`importTo_not_faulty`),
and on a database that can be read no other does (`exists_importTo_iff`).
-/

namespace RemoteSigner

namespace History

open Validator

variable {h : History} {v : Validator}

/-- What may be wrong with a history. -/
inductive Faulty (h : History) : Prop
  | slot (b : SignedBlock) (hb : b ∈ h.blocks) (hbound : Stored.bound < b.slot.toNat)
  | backward (a : SignedAttestation) (ha : a ∈ h.attestations) (hback : a.target < a.source)
  | epoch (a : SignedAttestation) (ha : a ∈ h.attestations)
      (hbound : Stored.bound < a.source.toNat ∨ Stored.bound < a.target.toNat)

theorem not_faulty_iff :
    ¬ h.Faulty ↔ (∀ b ∈ h.blocks, b.slot.toNat ≤ Stored.bound) ∧
      ∀ a ∈ h.attestations, a.source ≤ a.target ∧ a.source.toNat ≤ Stored.bound ∧
        a.target.toNat ≤ Stored.bound := by
  constructor
  · intro hfine
    refine ⟨fun b hb => Nat.le_of_not_lt fun hlt => hfine (.slot b hb hlt),
      fun a ha => ⟨?_, ?_, ?_⟩⟩
    · exact UInt64.not_lt.mp fun hlt => hfine (.backward a ha hlt)
    · exact Nat.le_of_not_lt fun hlt => hfine (.epoch a ha (.inl hlt))
    · exact Nat.le_of_not_lt fun hlt => hfine (.epoch a ha (.inr hlt))
  · rintro ⟨hblocks, hvotes⟩ hfaulty
    cases hfaulty with
    | slot b hb hlt => exact Nat.not_lt.mpr (hblocks b hb) hlt
    | backward a ha hlt => exact UInt64.not_lt.mpr (hvotes a ha).1 hlt
    | epoch a ha hlt =>
        have hfits := (hvotes a ha).2
        omega

/-- A history that is taken in has no fault, whatever the row holds. -/
theorem importTo_not_faulty {r : ImportSummary × Validator} (hr : h.importTo v = .ok r) :
    ¬ h.Faulty := by
  obtain ⟨⟨m, n, v₁⟩, hblocks, hr⟩ := bind_eq_ok.mp hr
  obtain ⟨v₂, _, hr⟩ := bind_eq_ok.mp hr
  obtain ⟨⟨m', n', v₃⟩, hvotes, _⟩ := bind_eq_ok.mp hr
  obtain ⟨_, _, htaken⟩ := importBlocks_taken hblocks
  obtain ⟨_, _, hvoted⟩ := importAttestations_taken hvotes
  refine not_faulty_iff.mpr ⟨fun b hb => ?_, fun a ha => ⟨hvoted.forward a ha, ?_⟩⟩
  · obtain ⟨_, _, hslot⟩ := htaken.held b hb
    exact (Stored.ofUInt64_eq_ok.mp hslot).1
  · obtain ⟨_, _, hsource, htarget, _⟩ := hvoted.met a ha
    exact ⟨(Stored.ofUInt64_eq_ok.mp hsource).1, (Stored.ofUInt64_eq_ok.mp htarget).1⟩

/-! ## Rows that can be read -/

/-- Blocks that fit are taken in. -/
theorem exists_importBlocks (hv : v.Readable) {listed : List SignedBlock}
    (hfits : ∀ b ∈ listed, b.slot.toNat ≤ Stored.bound) :
    ∃ r, importBlocks listed v = .ok r := by
  induction listed generalizing v with
  | nil => exact ⟨_, rfl⟩
  | cons l rest ih =>
      obtain ⟨hl, hrest⟩ := List.forall_mem_cons.mp hfits
      have hslot := Stored.ofUInt64_of_le hl
      cases hfound : v.blocks.find? (·.slot == (l.slot.toNat : Int)) with
      | some b =>
          obtain ⟨⟨m, n, u⟩, hr⟩ := ih hv hrest
          simp only [importBlocks, hslot, hv.findBlock_eq, hfound, Option.map_some, hr, bind,
            Except.bind]
          exact ⟨_, rfl⟩
      | none =>
          have hfree : ∀ b ∈ v.blocks, b.slot ≠ (l.slot.toNat : Int) := by
            simpa [List.find?_eq_none] using hfound
          have hadd := Edit.addBlock (v := v) ⟨l.slot.toNat, l.root.map (·.bytes)⟩
            (Stored.inRange_of_stored hslot) (Stored.rootOk_of_root l.root)
          obtain ⟨⟨m, n, u⟩, hr⟩ := ih (hadd.readable hv) hrest
          simp only [importBlocks, hslot, hv.findBlock_eq, hfound, Option.map_none,
            insertBlock_eq (b := ⟨l.slot.toNat, l.root.map (·.bytes)⟩) hfree, hr, bind,
            Except.bind]
          exact ⟨_, rfl⟩

/-- Votes that fit and do not run backwards are taken in. -/
theorem exists_importAttestations (hv : v.Readable) (key : SignerId)
    {listed : List SignedAttestation} (index : Nat)
    (hfits : ∀ a ∈ listed, a.source ≤ a.target ∧ a.source.toNat ≤ Stored.bound ∧
      a.target.toNat ≤ Stored.bound) :
    ∃ r, importAttestations key index listed v = .ok r := by
  induction listed generalizing v index with
  | nil => exact ⟨_, rfl⟩
  | cons l rest ih =>
      obtain ⟨⟨hforward, hs, ht⟩, hrest⟩ := List.forall_mem_cons.mp hfits
      have hsource := Stored.ofUInt64_of_le hs
      have htarget := Stored.ofUInt64_of_le ht
      have hlookup := hv.findConflicts_eq (l.source.toNat : Int) (l.target.toNat : Int)
      have hnil := findConflicts_nil_iff hlookup
      generalize List.map StoredAttestation.record _ = found at hlookup hnil
      cases found with
      | cons c cs =>
          obtain ⟨⟨m, n, u⟩, hr⟩ := ih hv (index + 1) hrest
          simp only [importAttestations, if_neg (UInt64.not_lt.mpr hforward), hsource, htarget,
            hlookup, hr, bind, Except.bind]
          exact ⟨_, rfl⟩
      | nil =>
          have hfree := hnil.mp rfl
          have hadd := Edit.addVote (v := v)
            ⟨l.source.toNat, l.target.toNat, l.root.map (·.bytes)⟩
            (Stored.inRange_of_stored hsource) (Stored.inRange_of_stored htarget)
            (Stored.rootOk_of_root l.root)
          obtain ⟨⟨m, n, u⟩, hr⟩ := ih (hadd.readable hv) (index + 1) hrest
          simp only [importAttestations, if_neg (UInt64.not_lt.mpr hforward), hsource, htarget,
            hlookup, insertAttestation_eq (v := v)
              (a := ⟨l.source.toNat, l.target.toNat, l.root.map (·.bytes)⟩)
              (fun a ha => target_ne_of_not_conflicts (hfree a ha)), hr, bind, Except.bind]
          exact ⟨_, rfl⟩

theorem exists_raiseSlot (hfits : ∀ b ∈ h.blocks, b.slot.toNat ≤ Stored.bound) (v : Validator) :
    ∃ v', h.raiseSlot v = .ok v' := by
  unfold History.raiseSlot
  cases hmax : maximum? (h.blocks.map (·.slot)) with
  | none => exact ⟨v, rfl⟩
  | some top =>
      obtain ⟨l, hl, rfl⟩ := List.mem_map.mp (maximum?_spec hmax).1
      simp only [Stored.ofUInt64_of_le (hfits l hl)]
      exact ⟨_, rfl⟩

theorem exists_raiseEpochs (hfits : ∀ a ∈ h.attestations, a.source.toNat ≤ Stored.bound ∧
    a.target.toNat ≤ Stored.bound) (v : Validator) : ∃ v', h.raiseEpochs v = .ok v' := by
  unfold History.raiseEpochs
  cases hs : maximum? (h.attestations.map (·.source)) with
  | none => exact ⟨v, rfl⟩
  | some topSource =>
      cases ht : maximum? (h.attestations.map (·.target)) with
      | none => exact ⟨v, rfl⟩
      | some topTarget =>
          obtain ⟨l, hl, rfl⟩ := List.mem_map.mp (maximum?_spec hs).1
          obtain ⟨l', hl', rfl⟩ := List.mem_map.mp (maximum?_spec ht).1
          simp only [Stored.ofUInt64_of_le (hfits l hl).1, Stored.ofUInt64_of_le (hfits l' hl').2]
          exact ⟨_, rfl⟩

/-- A history without a fault is taken in. -/
theorem exists_importTo (hv : v.Readable) (hfine : ¬ h.Faulty) : ∃ r, h.importTo v = .ok r := by
  obtain ⟨hblocks, hvotes⟩ := not_faulty_iff.mp hfine
  obtain ⟨⟨m, n, v₁⟩, h₁⟩ := exists_importBlocks hv hblocks
  obtain ⟨v₂, h₂⟩ := exists_raiseSlot hblocks v₁
  have hreadable : v₂.Readable :=
    (edits_raiseSlot h₂).readable ((edits_importBlocks h₁).readable hv)
  obtain ⟨⟨m', n', v₃⟩, h₃⟩ := exists_importAttestations hreadable h.key 0 hvotes
  obtain ⟨v₄, h₄⟩ := exists_raiseEpochs (fun a ha => (hvotes a ha).2) v₃
  simp only [importTo, h₁, h₂, h₃, h₄, bind, Except.bind]
  exact ⟨_, rfl⟩

end History

namespace Interchange

open Database

variable {d : Interchange} {db db' : Database} {hs : List History}

/-- What may be wrong with a document, for a database of some chain. -/
inductive Faulty (d : Interchange) (db : Database) : Prop
  | version (hversion : d.version ≠ formatVersion)
  | chain (root : Root) (hroot : db.genesisRoot? = some root) (hother : root ≠ d.genesisRoot)
  | history (h : History) (hmem : h ∈ d.data) (hfault : h.Faulty)

/-- Of the database only its chain matters. -/
theorem Faulty.congr (h : d.Faulty db) (hroot : db.genesisRoot? = db'.genesisRoot?) :
    d.Faulty db' := by
  cases h with
  | version hversion => exact .version hversion
  | chain root hstored hother => exact .chain root (hroot ▸ hstored) hother
  | history h hmem hfault => exact .history h hmem hfault

theorem importHistories_not_faulty {summary : ImportSummary}
    (hr : importHistories hs db = .ok (summary, db')) : ∀ h ∈ hs, ¬ h.Faulty := by
  induction hs generalizing db summary with
  | nil => simp
  | cons x rest ih =>
      obtain ⟨⟨first, db₁⟩, hfirst, hr⟩ := bind_eq_ok.mp hr
      obtain ⟨⟨others, db₂⟩, hrest, hr⟩ := bind_eq_ok.mp hr
      obtain ⟨_, rfl⟩ := Prod.mk.inj (pure_eq_ok.mp hr)
      obtain ⟨v, hv, rfl⟩ := withValidator_ok hfirst
      exact List.forall_mem_cons.mpr ⟨History.importTo_not_faulty hv, ih hrest⟩

/-- A document that is taken in has no fault, whatever the columns hold. -/
theorem importTo_not_faulty {summary : ImportSummary} (hr : d.importTo db = .ok (summary, db')) :
    ¬ d.Faulty db := by
  intro hfaulty
  cases hfaulty with
  | version hversion =>
      rw [importTo, if_pos hversion] at hr
      cases hr
  | chain root hroot hother =>
      obtain ⟨db₁, hchain, _⟩ := importTo_ok hr
      rw [admitGenesisRoot, hroot] at hchain
      exact hother (eq_of_beq (Prod.mk.inj hchain).1)
  | history h hmem hfault =>
      obtain ⟨db₁, _, hr⟩ := importTo_ok hr
      exact importHistories_not_faulty hr h hmem hfault

theorem exists_importHistories (h : db.Readable) (hfine : ∀ x ∈ hs, ¬ x.Faulty) :
    ∃ r, importHistories hs db = .ok r := by
  induction hs generalizing db with
  | nil => exact ⟨_, rfl⟩
  | cons x rest ih =>
      obtain ⟨hx, hrest⟩ := List.forall_mem_cons.mp hfine
      obtain ⟨⟨first, v⟩, hv⟩ := History.exists_importTo (h.row x.key) hx
      have hput := (edits_put h.keys_distinct (History.edits_importTo hv)).readable h
      obtain ⟨⟨others, db₁⟩, hr⟩ := ih hput hrest
      simp only [importHistories, withValidator_eq hv, hr, bind, Except.bind]
      exact ⟨_, rfl⟩

/-- A database that can be read takes in exactly the documents without a fault. -/
theorem exists_importTo_iff (h : db.Readable) : (∃ r, d.importTo db = .ok r) ↔ ¬ d.Faulty db := by
  constructor
  · rintro ⟨⟨summary, db'⟩, hr⟩
    exact importTo_not_faulty hr
  · intro hfine
    have hversion : ¬ d.version ≠ formatVersion := fun hne => hfine (.version hne)
    obtain ⟨db₁, hchain⟩ : ∃ db₁, db.admitGenesisRoot d.genesisRoot = (true, db₁) := by
      unfold admitGenesisRoot
      cases hroot : db.genesisRoot? with
      | none => exact ⟨_, rfl⟩
      | some root =>
          have hsame : root = d.genesisRoot := by
            by_contra hne
            exact hfine (.chain root hroot hne)
          exact ⟨db, by simp [hsame]⟩
    have hreadable := (edits_admitGenesisRoot hchain).readable h
    simp only [importTo, if_neg hversion, hchain]
    exact exists_importHistories hreadable fun x hx hfault => hfine (.history x hx hfault)

end Interchange

end RemoteSigner
