import Mathlib.Data.List.Basic
import RemoteSigner.Proofs.Json.Decoding
import RemoteSigner.Proofs.Text.Numeral

/-!
# Decoders that restore what was written

A decoder restores the values of a type if it decodes the document of each as the value
(`Decoder.Restores`). Documents made of strings and objects alone are `Wordy`: such a
document is read back from its text unchanged (`Wordy.reread_eq`), so restoring it from its
text is restoring it from itself. A record is restored if its fields are (`restores_record`).
-/

namespace RemoteSigner.Json

/-- A document of strings and of objects that hold such documents, at most `levels` deep. -/
def Wordy : Nat → Json → Prop
  | _, .text _ => True
  | levels + 1, .record members => ∀ m ∈ members, Wordy levels m.2
  | _, _ => False

theorem wordy_text (levels : Nat) (s : String) : (text s).Wordy levels := by
  cases levels <;> trivial

namespace Wordy

variable {levels depth : Nat} {j : Json}

theorem readable (h : j.Wordy levels) (hdepth : levels < depth) : j.Readable depth := by
  induction levels generalizing j depth with
  | zero =>
      cases j with
      | text s => trivial
      | _ => exact h.elim
  | succ levels ih =>
      cases j with
      | text s => trivial
      | record members =>
          exact ⟨by omega, readableMembers_iff.mpr fun m hm => ih (h m hm) (by omega)⟩
      | _ => exact h.elim

theorem rereadMembers_eq {members : List (String × Json)} (h : ∀ m ∈ members, m.2.reread = m.2) :
    rereadMembers members = members := by
  induction members with
  | nil => rfl
  | cons m rest ih =>
      obtain ⟨k, v⟩ := m
      have hv : v.reread = v := h (k, v) List.mem_cons_self
      rw [rereadMembers, hv, ih fun m hm => h m (List.mem_cons_of_mem _ hm)]

/-- A document without numbers is read back unchanged. -/
theorem reread_eq (h : j.Wordy levels) : j.reread = j := by
  induction levels generalizing j with
  | zero =>
      cases j with
      | text s => rfl
      | _ => exact h.elim
  | succ levels ih =>
      cases j with
      | text s => rfl
      | record members => rw [reread, rereadMembers_eq fun m hm => ih (h m hm)]
      | _ => exact h.elim

end Wordy

/-! ## Parts that are there -/

namespace Placed

variable {α β : Type} {f : α → β} {g : Placed (α → β)} {x : Placed α} {a : α}

theorem map_value (hx : x = .value a) : f <$> x = .value (f a) :=
  map_eq_value.mpr ⟨a, hx, rfl⟩

theorem seq_value (hg : g = .value f) (hx : x = .value a) : g <*> x = .value (f a) :=
  seq_eq_value.mpr ⟨f, a, hg, hx, rfl⟩

end Placed

/-! ## Decoders -/

namespace Decoder

variable {α : Type} {decode : Decoder α} {toJson : α → Json} {levels : Nat}

/-- The documents of a type are wordy, and decoded as the values they were written of. -/
structure Restores (decode : Decoder α) (toJson : α → Json) (levels : Nat) : Prop where
  wordy : ∀ a, (toJson a).Wordy levels
  decode_ofJson : ∀ a {depth}, levels < depth → decode depth (.ofJson (toJson a)) = .ok a

/-- The fields of a record are had from the members with their names, as far as decoders
restore them. -/
def FieldsOf (levels : Nat) (members : List (String × Json)) (fs : Fields) : Prop :=
  ∀ {β : Type} {decode : Decoder β} {toJson : β → Json}, decode.Restores toJson levels →
    ∀ {k : String} {b : β}, (k, toJson b) ∈ members → fs.required k decode = .value b

/-- Records are restored if their documents have the fields of the record in order, and
reading the fields gives the record. -/
theorem restores_record {expecting : String} {shape : List Field} {read : Fields → Placed α}
    {members : α → List (String × Json)} (hshape : ∀ a, (members a).map (·.1) = shape.map (·.name))
    (hdistinct : (shape.map (·.name)).Nodup)
    (hwordy : ∀ a, (members a).Forall fun m => m.2.Wordy levels)
    (hread : ∀ a fs, FieldsOf levels (members a) fs → read fs = .value a) :
    (record expecting shape read).Restores (fun a => .record (members a)) (levels + 1) := by
  constructor
  · exact fun a => List.forall_iff_forall_mem.mp (hwordy a)
  · intro a depth hdepth
    show record expecting shape read depth (.record (Reading.ofMembers (members a)) .kept) = .ok a
    rw [ofMembers_eq]
    -- every key names a field, so nothing is skipped
    refine record_members (by omega) (.inr rfl) (fun m hm => ?_) (hread a _ fun h k b hmem => ?_)
    · have hkey : m.1 ∈ shape.map (·.name) := hshape a ▸ List.mem_map.mpr ⟨m, hm, rfl⟩
      obtain ⟨f, hf, hname⟩ := List.mem_map.mp hkey
      exact List.any_eq_true.mpr ⟨f, hf, by simp [Field.names, hname]⟩
    · exact Fields.required_member (hshape a ▸ hdistinct) hmem (h.decode_ofJson b (by omega))

theorem restores_text : text.Restores Json.text levels :=
  ⟨fun s => wordy_text _ s, fun _ _ _ => rfl⟩

/-- A string that the domain accepts as the value it was written of. -/
theorem restores_textWith {accept : String → Except String α} {write : α → String}
    (h : ∀ a, accept (write a) = .ok a) :
    (textWith accept).Restores (fun a => .text (write a)) levels := by
  refine ⟨fun a => wordy_text _ _, fun a depth _ => ?_⟩
  have htext : text depth (.ofJson (.text (write a))) = .ok (write a) := rfl
  rw [textWith, htext]
  simp [bind, Except.bind, h, pure, Except.pure]

end Decoder

end RemoteSigner.Json
