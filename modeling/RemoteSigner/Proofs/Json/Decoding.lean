import RemoteSigner.Proofs.Json.Legible

/-!
# Decoding records

A record is decoded from its parts: a decoder that succeeds had each of its fields from a
part of what was read (`record_eq_ok`, `required_eq_value`).
-/

namespace RemoteSigner.Json

/-! ## Parts that are there -/

namespace Placed

variable {α β : Type} {f : α → β} {g : Placed (α → β)} {x : Placed α} {b : β}

theorem map_eq_value : f <$> x = .value b ↔ ∃ a, x = .value a ∧ f a = b := by
  constructor
  · intro h
    cases x with
    | value a => exact ⟨a, rfl, Placed.value.inj h⟩
    | fault p e => cases h
  · rintro ⟨a, rfl, rfl⟩
    rfl

theorem seq_eq_value : g <*> x = .value b ↔ ∃ f a, g = .value f ∧ x = .value a ∧ f a = b := by
  constructor
  · intro h
    cases g with
    | value f =>
        cases x with
        | value a => exact ⟨f, a, rfl, rfl, Placed.value.inj h⟩
        | fault p e => cases h
    | fault p e =>
        cases x with
        | value a => cases h
        | fault q d =>
            have hfault : (if q < p then Placed.fault q d else .fault p e : Placed β) =
                .value b := h
            split at hfault <;> cases hfault
  · rintro ⟨f, a, rfl, rfl, rfl⟩
    rfl

theorem toExcept_eq_ok {x : Placed α} {a : α} : x.toExcept = .ok a ↔ x = .value a := by
  cases x <;> simp [toExcept]

theorem map₂_eq_value {γ : Type} {f : α → β → γ} {x : Placed α} {y : Placed β} {c : γ} :
    map₂ f x y = .value c ↔ ∃ a b, x = .value a ∧ y = .value b ∧ f a b = c := by
  cases x <;> cases y <;> simp [map₂]
  split <;> simp

end Placed

/-! ## Fields -/

/-- The values directly inside what was read. -/
def Reading.children : Reading → List Reading
  | .list items _ => items
  | .record members _ => members.map (·.2)
  | _ => []

theorem Reading.Legible.child {r part : Reading} (h : r.Legible) (hpart : part ∈ r.children) :
    part.Legible := by
  cases r with
  | list items stop => exact LegibleItems.mem h hpart
  | record members stop =>
      obtain ⟨⟨k, r⟩, hmem, rfl⟩ := List.mem_map.mp hpart
      exact LegibleMembers.mem h hmem
  | _ => cases hpart

/-- The members of an object, each value read by `f`. -/
def readMembers (f : Json → Reading) (members : List (String × Json)) :
    List (Reading.Key × Reading) :=
  members.map fun m => (.ok m.1, f m.2)

theorem ofMembers_eq (members : List (String × Json)) :
    Reading.ofMembers members = readMembers .ofJson members := by
  induction members with
  | nil => rfl
  | cons m rest ih => exact congrArg (_ :: ·) ih

theorem echoMembers_eq (members : List (String × Json)) :
    echoMembers members = readMembers echo members := by
  induction members with
  | nil => rfl
  | cons m rest ih => exact congrArg (_ :: ·) ih

namespace Fields

variable {α : Type} {fs : Fields} {f : Field} {decode : Decoder α} {a : α} {r : Reading}

/-- The fields of a record are values directly inside what was read. -/
structure Of (fs : Fields) (depth : Nat) (r : Reading) : Prop where
  depth_eq : fs.depth = depth
  given : ∀ f place part, (place, part) ∈ fs.given f → part ∈ r.children

theorem mem_placed {α : Type} {place p : Nat} {a : α} {l : List α} (h : (p, a) ∈ placed place l) :
    a ∈ l := by
  induction l generalizing place with
  | nil => cases h
  | cons first rest ih =>
      rcases List.mem_cons.mp h with h | h
      · exact (Prod.mk.inj h).2 ▸ List.mem_cons_self
      · exact List.mem_cons_of_mem first (ih h)

theorem of_ofMembers (shape : List Field) (depth : Nat) (members : List (Reading.Key × Reading))
    (stop : Stop) : (ofMembers shape depth members).Of depth (.record members stop) := by
  refine ⟨rfl, fun f place part h => ?_⟩
  obtain ⟨⟨p, key, r⟩, hmem, hgives⟩ := List.mem_filterMap.mp h
  cases key with
  | error fault => cases hgives
  | ok k =>
      simp only at hgives
      split at hgives
      · obtain ⟨rfl, rfl⟩ := Prod.mk.inj (Option.some.inj hgives)
        exact List.mem_map.mpr ⟨_, mem_placed hmem, rfl⟩
      · cases hgives

theorem of_ofItems (expecting : String) (shape : List Field) (depth : Nat) (items : List Reading)
    (stop : Stop) : (ofItems expecting shape depth items).Of depth (.list items stop) := by
  refine ⟨rfl, fun f place part h => ?_⟩
  simp only [ofItems] at h
  split at h
  · rename_i r hr
    obtain ⟨_, rfl⟩ := Prod.mk.inj (List.mem_singleton.mp h)
    exact List.mem_of_getElem? hr
  · cases h

/-- A field that must be given was decoded from a value given for it. -/
theorem required_eq_value (h : fs.required f decode = .value a) :
    ∃ place part, (place, part) ∈ fs.given f ∧ decode fs.depth part = .ok a := by
  unfold required fieldOr at h
  simp only at h
  split at h
  · cases h
  · rename_i place part more hgiven
    refine ⟨place, part, hgiven ▸ List.mem_cons_self, ?_⟩
    split at h
    · cases h
    · obtain rfl := Placed.value.inj h
      assumption
    · cases h

section Members

variable {shape : List Field} {depth : Nat} {f : Json → Reading} {members : List (String × Json)}
  {k : String} {j : Json}

/-- Members of other names give a field no value. -/
theorem givenBy_unnamed {field : Field} (h : ∀ m ∈ members, field.names m.1 = false)
    (place : Nat) : givenBy (placed place (readMembers f members)) field = [] := by
  induction members generalizing place with
  | nil => rfl
  | cons m rest ih =>
      have hrest := ih (fun m hm => h m (List.mem_cons_of_mem _ hm)) (place + 1)
      have hfirst := h m List.mem_cons_self
      unfold givenBy at hrest ⊢
      simpa [readMembers, placed, hfirst] using hrest

theorem givenBy_missing (h : k ∉ members.map (·.1)) (place : Nat) :
    givenBy (placed place (readMembers f members)) k = [] := by
  refine givenBy_unnamed (fun m hm => ?_) place
  have hne : m.1 ≠ k := fun heq => h (heq ▸ List.mem_map_of_mem hm)
  simp [Field.names, hne]

theorem givenBy_member (hkeys : (members.map (·.1)).Nodup) (h : (k, j) ∈ members) (place : Nat) :
    ∃ found, givenBy (placed place (readMembers f members)) k = [(found, f j)] := by
  induction members generalizing place with
  | nil => cases h
  | cons m rest ih =>
      rw [List.map_cons, List.nodup_cons] at hkeys
      rcases List.mem_cons.mp h with rfl | hmem
      · have hrest := givenBy_missing (f := f) hkeys.1 (place + 1)
        refine ⟨place, ?_⟩
        unfold givenBy at hrest ⊢
        simpa [readMembers, placed, Field.names] using hrest
      · obtain ⟨found, hrest⟩ := ih hkeys.2 hmem (place + 1)
        have hfirst : m.1 ≠ k := fun heq => hkeys.1 (heq ▸ List.mem_map.mpr ⟨_, hmem, rfl⟩)
        refine ⟨found, ?_⟩
        unfold givenBy at hrest ⊢
        simpa [readMembers, placed, Field.names, hfirst] using hrest

/-- A field is decoded from the only member with its name. -/
theorem fieldOr_member (hkeys : (members.map (·.1)).Nodup) (h : (k, j) ∈ members)
    (hdecode : decode depth (f j) = .ok a) (absent : Placed α) :
    (ofMembers shape depth (readMembers f members)).fieldOr k decode absent = .value a := by
  obtain ⟨found, hgiven⟩ := givenBy_member (f := f) hkeys h 0
  unfold fieldOr
  rw [show (ofMembers shape depth (readMembers f members)).given k = [(found, f j)] from hgiven]
  simp only
  rw [show decode (ofMembers shape depth (readMembers f members)).depth (f j) = .ok a from hdecode]

theorem required_member (hkeys : (members.map (·.1)).Nodup) (h : (k, j) ∈ members)
    (hdecode : decode depth (f j) = .ok a) :
    (ofMembers shape depth (readMembers f members)).required k decode = .value a :=
  fieldOr_member hkeys h hdecode _

theorem withDefault_member (hkeys : (members.map (·.1)).Nodup) (h : (k, j) ∈ members)
    (hdecode : decode depth (f j) = .ok a) (b : α) :
    (ofMembers shape depth (readMembers f members)).withDefault k decode b = .value a :=
  fieldOr_member hkeys h hdecode _

theorem withDefault_missing (h : k ∉ members.map (·.1)) (b : α) :
    (ofMembers shape depth (readMembers f members)).withDefault k decode b = .value b := by
  have hgiven : (ofMembers shape depth (readMembers f members)).given k = [] := givenBy_missing h 0
  unfold withDefault fieldOr
  rw [hgiven]

theorem required_missing (h : k ∉ members.map (·.1)) :
    (ofMembers shape depth (readMembers f members)).required k decode ≠ .value a := by
  have hgiven : (ofMembers shape depth (readMembers f members)).given k = [] := givenBy_missing h 0
  intro hvalue
  obtain ⟨_, _, hmem, _⟩ := required_eq_value hvalue
  rw [hgiven] at hmem
  cases hmem

end Members

end Fields

/-! ## Records -/

namespace Decoder

variable {α : Type} {expecting : String} {shape : List Field} {read : Fields → Placed α}
  {depth : Nat} {r : Reading} {a : α}

theorem read_of_record {members : List (Reading.Key × Reading)} {stop : Stop}
    (h : record expecting shape read depth (.record members stop) = .ok a) :
    read (Fields.ofMembers shape (depth - 1) members) = .value a := by
  unfold record at h
  simp only at h
  split at h
  · cases h
  · obtain ⟨_, b, _, hread, rfl⟩ := Placed.map₂_eq_value.mp (Placed.toExcept_eq_ok.mp h)
    exact hread

/-- A record that was decoded was read from fields inside it. -/
theorem record_eq_ok (h : record expecting shape read depth r = .ok a) :
    ∃ fs : Fields, fs.Of (depth - 1) r ∧ read fs = .value a := by
  cases r with
  | record members stop => exact ⟨_, Fields.of_ofMembers .., read_of_record h⟩
  | list items stop =>
      unfold record at h
      simp only at h
      split at h
      · cases h
      · obtain ⟨_, b, _, hread, rfl⟩ := Placed.map₂_eq_value.mp (Placed.toExcept_eq_ok.mp h)
        exact ⟨_, Fields.of_ofItems .., hread⟩
  | _ => cases h

/-- An object whose keys all name fields is decoded from them. -/
theorem record_members {f : Json → Reading} {members : List (String × Json)} {stop : Stop}
    (hdepth : 1 < depth) (hstop : stop = .closed ∨ stop = .kept)
    (hkeys : ∀ m ∈ members, shape.any (·.names m.1) = true)
    (hread : read (Fields.ofMembers shape (depth - 1) (readMembers f members)) = .value a) :
    record expecting shape read depth (.record (readMembers f members) stop) = .ok a := by
  have hframe : ∀ (empty : Bool) (place last : Nat), Fields.frameFault shape stop empty
      (Fields.placed place (readMembers f members)) last = .value () := by
    have hfault : ∀ empty, stop.recordFault empty = none := by
      rcases hstop with rfl | rfl <;> exact fun _ => rfl
    clear hread
    induction members with
    | nil =>
        intro empty place last
        simp [readMembers, Fields.placed, Fields.frameFault, hfault]
    | cons m rest ih =>
        intro empty place last
        rw [readMembers, List.map_cons, Fields.placed, Fields.frameFault,
          if_pos (hkeys m List.mem_cons_self)]
        exact ih (fun m hm => hkeys m (List.mem_cons_of_mem _ hm)) ..
  unfold record
  simp only
  rw [if_neg (by omega), hframe, hread]
  rfl

/-- A text that was decoded was read as something legible. -/
theorem ofText_eq_ok {decode : Decoder α} {text : String} (h : decode.ofText text = .ok a) :
    ∃ r : Reading, r.Legible ∧ decode nestingBound r = .ok a := by
  have hlegible := legible_ofTokens (text.toList.map some)
  unfold ofText run at h
  generalize Reading.ofTokens (Token.ofSymbols (text.toList.map some)) = read at h hlegible
  obtain ⟨r, more⟩ := read
  obtain ⟨b, hb, h⟩ := bind_eq_ok.mp h
  refine ⟨r, hlegible, hb.trans ?_⟩
  cases more with
  | true => cases h
  | false => exact h

/-- A number that was decoded is within its bound. -/
theorem natural_le {bound n : Nat} {kind : String} (h : natural bound kind depth r = .ok n) :
    n ≤ bound ∧ n ≤ RemoteSigner.Numeral.maxUInt64 := by
  unfold natural at h
  split at h
  · rename_i m
    split at h
    · obtain rfl := Except.ok.inj h
      exact ⟨‹_›, Nat.lt_succ_iff.mp m.toNat_lt⟩
    · cases h
  · cases h
  · cases h

/-- A number within its bound is decoded from its document. -/
theorem natural_ofJson {bound n : Nat} {kind : String} (h : n ≤ bound)
    (hsize : n ≤ RemoteSigner.Numeral.maxUInt64) :
    natural bound kind depth (.ofJson (.count n)) = .ok n := by
  have hn : (UInt64.ofNat n).toNat = n := by
    rw [UInt64.toNat_ofNat']
    exact Nat.mod_eq_of_lt (Nat.lt_succ_of_le hsize)
  show (if (UInt64.ofNat n).toNat ≤ bound then Except.ok (UInt64.ofNat n).toNat else _) = _
  rw [hn, if_pos h]

end Decoder

end RemoteSigner.Json
