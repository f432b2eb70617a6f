import RemoteSigner.Proofs.Json.Restoring
import RemoteSigner.Proofs.Json.RoundTrip

/-!
# Values read back from their documents

A value is read back from a document (`Decoder.Rereads`) if the document can be read and what
is read of it is decoded as the value. Unlike `Decoder.Restores` this is said of one value and
one document at a time, so a list is read back if each of its elements is (`rereads_list`),
whatever holds of other values, and a record may leave members out (`rereads_record`).
-/

namespace RemoteSigner.Json

theorem readableItems_iff {depth : Nat} {items : List Json} :
    ReadableItems depth items ↔ ∀ j ∈ items, j.Readable depth := by
  induction items with
  | nil => exact ⟨fun _ _ h => (nomatch h), fun _ => trivial⟩
  | cons j rest ih =>
      rw [List.forall_mem_cons, ← ih]
      exact Iff.rfl

namespace Decoder

variable {α : Type} {decode : Decoder α} {levels : Nat} {j : Json} {a : α}

/-- A value is read back from a document of it, wherever that may hold so many levels. -/
structure Rereads (decode : Decoder α) (levels : Nat) (j : Json) (a : α) : Prop where
  readable : ∀ {depth}, levels < depth → j.Readable depth
  decode_echo : ∀ {depth}, levels < depth → decode depth j.echo = .ok a

/-- A value that is restored from a text is read back from it. -/
theorem Restores.rereads {toJson : α → Json} (h : decode.Restores toJson 0) (a : α) :
    decode.Rereads levels (toJson a) a := by
  have hwordy := h.wordy a
  refine ⟨fun hdepth => hwordy.readable (by omega), fun {depth} hdepth => ?_⟩
  rw [← h.decode_ofJson a (by omega : 0 < depth)]
  cases hj : toJson a with
  | text s => rfl
  | _ =>
      rw [hj] at hwordy
      exact hwordy.elim

/-- A value that is there is read back as one that may be missing. -/
theorem Rereads.optional (h : decode.Rereads levels j a) (hj : j ≠ .null) :
    (optional decode).Rereads levels j (some a) := by
  refine ⟨h.readable, fun {depth} hdepth => ?_⟩
  have hsome : Decoder.optional decode depth j.echo = (decode depth j.echo).map some := by
    cases j with
    | null => exact absurd rfl hj
    | _ => rfl
  rw [hsome, h.decode_echo hdepth]
  rfl

/-! ## Lists -/

/-- Elements that are each read back are read back together. -/
theorem items_echo {write : α → Json} {as : List α} {depth : Nat}
    (h : ∀ a ∈ as, decode depth (write a).echo = .ok a) :
    items decode depth (echoItems (as.map write)) = .ok as := by
  induction as with
  | nil => rfl
  | cons a rest ih =>
      rw [List.map_cons, echoItems, items, h a List.mem_cons_self,
        ih fun b hb => h b (List.mem_cons_of_mem a hb)]
      rfl

/-- A list is read back if each of its elements is. -/
theorem rereads_list {write : α → Json} {as : List α}
    (h : ∀ a ∈ as, decode.Rereads levels (write a) a) :
    (list decode).Rereads (levels + 1) (.list (as.map write)) as := by
  constructor
  · intro depth hdepth
    refine ⟨by omega, readableItems_iff.mpr fun j hj => ?_⟩
    obtain ⟨a, ha, rfl⟩ := List.mem_map.mp hj
    exact (h a ha).readable (by omega)
  · intro depth hdepth
    show list decode depth (.list (echoItems (as.map write)) .closed) = .ok as
    have hitems := items_echo fun a ha => (h a ha).decode_echo (by omega : levels < depth - 1)
    simp only [list, if_neg (show ¬ depth ≤ 1 by omega), hitems]
    rfl

/-- Each element of a list was decoded by itself. -/
theorem items_eq_ok {depth : Nat} {rs : List Reading} {as : List α}
    (h : items decode depth rs = .ok as) (ha : a ∈ as) : ∃ r, decode depth r = .ok a := by
  induction rs generalizing as with
  | nil =>
      obtain rfl := Except.ok.inj h
      cases ha
  | cons r rest ih =>
      obtain ⟨b, hb, h⟩ := bind_eq_ok.mp h
      obtain ⟨bs, hbs, h⟩ := bind_eq_ok.mp h
      obtain rfl := pure_eq_ok.mp h
      rcases List.mem_cons.mp ha with rfl | ha
      · exact ⟨r, hb⟩
      · exact ih hbs ha

theorem list_eq_ok {depth : Nat} {r : Reading} {as : List α} (h : list decode depth r = .ok as)
    (ha : a ∈ as) : ∃ depth r, decode depth r = .ok a := by
  cases r with
  | list rs stop =>
      unfold list at h
      simp only at h
      split at h
      · cases h
      · obtain ⟨bs, hbs, h⟩ := bind_eq_ok.mp h
        split at h
        · cases h
        · obtain rfl := pure_eq_ok.mp h
          exact ⟨_, items_eq_ok hbs ha⟩
  | _ => cases h

/-- A text that was decoded is one that the domain accepts. -/
theorem textWith_eq_ok {accept : String → Except String α} {depth : Nat} {r : Reading}
    (h : textWith accept depth r = .ok a) : ∃ s, accept s = .ok a := by
  obtain ⟨s, _, h⟩ := bind_eq_ok.mp h
  refine ⟨s, ?_⟩
  cases hs : accept s with
  | error message =>
      rw [hs] at h
      cases h
  | ok b =>
      rw [hs] at h
      rw [pure_eq_ok.mp h]

/-! ## Records -/

/-- The fields of a record are had from the members with their names as far as they are read
back from them, and those that have no member are the defaults. -/
structure HeldBy (levels : Nat) (members : List (String × Json)) (fs : Fields) : Prop where
  required : ∀ {β : Type} {decode : Decoder β} {k : String} {j : Json} {b : β},
    (k, j) ∈ members → decode.Rereads levels j b → fs.required k decode = .value b
  given : ∀ {β : Type} {decode : Decoder β} {k : String} {j : Json} {b : β} (default : β),
    (k, j) ∈ members → decode.Rereads levels j b → fs.withDefault k decode default = .value b
  missing : ∀ {β : Type} {decode : Decoder β} {k : String} (default : β),
    k ∉ members.map (·.1) → fs.withDefault k decode default = .value default

/-- A record is read back if the names of its members are different names of its fields, the
members can be read, and reading the fields gives the record. -/
theorem rereads_record {expecting : String} {shape : List Field} {read : Fields → Placed α}
    {members : List (String × Json)} (names : List String) (hnames : members.map (·.1) = names)
    (hshape : ∀ k ∈ names, shape.any (·.names k) = true) (hdistinct : names.Nodup)
    (hreadable : members.Forall fun m => ∀ {depth}, levels < depth → m.2.Readable depth)
    (hread : ∀ fs, HeldBy levels members fs → read fs = .value a) :
    (record expecting shape read).Rereads (levels + 1) (.record members) a := by
  subst hnames
  rw [List.forall_iff_forall_mem] at hreadable
  constructor
  · intro depth hdepth
    exact ⟨by omega, readableMembers_iff.mpr fun m hm => hreadable m hm (by omega)⟩
  · intro depth hdepth
    show record expecting shape read depth (.record (echoMembers members) .closed) = .ok a
    rw [echoMembers_eq]
    have hlevels : levels < depth - 1 := by omega
    refine record_members (by omega) (.inl rfl) (fun m hm => hshape _ (List.mem_map_of_mem hm))
      (hread _ ⟨?_, ?_, ?_⟩)
    · exact fun hmem h => Fields.required_member hdistinct hmem (h.decode_echo hlevels)
    · exact fun default hmem h =>
        Fields.withDefault_member hdistinct hmem (h.decode_echo hlevels) default
    · exact fun default hmissing => Fields.withDefault_missing hmissing default

/-- What is read back from a document is read back from its text. -/
theorem Rereads.ofText_pretty (h : decode.Rereads levels j a) (hlevels : levels < nestingBound) :
    decode.ofText j.pretty = .ok a := by
  rw [Json.ofText_pretty decode (h.readable hlevels), h.decode_echo hlevels]

end Decoder

end RemoteSigner.Json
