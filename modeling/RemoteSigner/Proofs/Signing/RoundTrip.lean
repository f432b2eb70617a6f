import RemoteSigner.Proofs.Chain.Restoring
import RemoteSigner.Proofs.Json.Compact
import RemoteSigner.Proofs.Text.Utf8
import RemoteSigner.Signing.Artifact

/-!
# Signing requests written and read back

The members of an artifact name its kind first, and the kind decodes what is left of them
(`ofMembers_onChain`, `ofMembers_offChain`), so every artifact is decoded from its members
(`Artifact.ofMembers_members`). A request reads its members as whole documents, all but the
expected root, and only then looks for the type. Those documents are wordy, so they are the
members that were written (`others_members`), and every request is decoded from what its own
document echoes (`decode_echo`). A text that is read, in whatever spelling, is therefore written
as one that is read as the same request (`request_restored`).
-/

namespace RemoteSigner

open Json (Decoder Fields Placed)
open Json.Placed (map_value seq_value)

namespace Artifact

variable {α : Type} {decode : Decoder α} {toJson : α → Json} {name field : String}

/-! ## Kinds -/

theorem splitKind_some {k : Kind} {members : List (String × Json)}
    (h : ∀ m ∈ members, m.1 ≠ "type") : splitKind (some k) members = .ok (k, members) := by
  induction members with
  | nil => rfl
  | cons m rest ih =>
      obtain ⟨key, j⟩ := m
      have hkey : key ≠ "type" := h (key, j) List.mem_cons_self
      rw [splitKind, if_neg hkey, ih fun m hm => h m (List.mem_cons_of_mem _ hm)]
      rfl

/-- Members that begin with the name of a kind are decoded by that kind. -/
theorem ofMembers_kind {k : Kind} {members : List (String × Json)} {a : Artifact}
    (hkind : kindOf (.text name) = .ok k) (hmembers : ∀ m ∈ members, m.1 ≠ "type")
    (hfields : k.fields (.ofMembers shape Json.nestingBound
      (Json.readMembers .ofJson members)) = .value a) :
    ofMembers (("type", .text name) :: members) = .ok a := by
  have hsplit : splitKind none (("type", .text name) :: members) = .ok (k, members) := by
    rw [splitKind, if_pos rfl, hkind]
    exact splitKind_some hmembers
  rw [← Json.ofMembers_eq] at hfields
  rw [ofMembers, hsplit]
  simp only [bind, Except.bind, hfields]
  rfl

/-- No document of an artifact holds objects deeper than this. -/
def depthBound : Nat := 4

theorem ofMembers_onChain {make : ForkInfo → α → Artifact} (f : ForkInfo) (x : α)
    (hkind : kindOf (.text name) = .ok (.onChain name field decode make))
    (hx : decode.Restores toJson depthBound) (htype : field ≠ "type")
    (hfork : field ≠ "fork_info") :
    ofMembers [("type", .text name), ("fork_info", f.toJson), (field, toJson x)] =
      .ok (make f x) := by
  have hkeys : ([("fork_info", f.toJson), (field, toJson x)].map (·.1)).Nodup := by
    simpa using hfork.symm
  have hf : ForkInfo.decode Json.nestingBound (.ofJson f.toJson) = .ok f :=
    ForkInfo.restores.decode_ofJson f (by decide : 2 < Json.nestingBound)
  refine ofMembers_kind hkind (by simpa using htype) (seq_value (map_value ?_) ?_)
  · exact Fields.required_member hkeys (by simp) hf
  · exact Fields.required_member hkeys (by simp) (hx.decode_ofJson x (by decide))

theorem ofMembers_offChain {make : α → Artifact} (x : α)
    (hkind : kindOf (.text name) = .ok (.offChain name field decode make))
    (hx : decode.Restores toJson depthBound) (htype : field ≠ "type") :
    ofMembers [("type", .text name), (field, toJson x)] = .ok (make x) := by
  refine ofMembers_kind hkind (by simpa using htype) (map_value ?_)
  exact Fields.required_member (by simp) (by simp) (hx.decode_ofJson x (by decide))

/-- Every artifact is decoded from its members. -/
theorem ofMembers_members (a : Artifact) : ofMembers a.members = .ok a := by
  cases a with
  | block f x => exact ofMembers_onChain f x rfl BlockHeader.restores (by decide) (by decide)
  | versionedBlock f x =>
      exact ofMembers_onChain f x rfl VersionedHeader.restores (by decide) (by decide)
  | attestation f x =>
      exact ofMembers_onChain f x rfl AttestationData.restores (by decide) (by decide)
  | aggregationSlot f x =>
      exact ofMembers_onChain f x rfl AggregationSlot.restores (by decide) (by decide)
  | aggregateAndProof f x =>
      exact ofMembers_onChain f x rfl AggregateAndProof.restores (by decide) (by decide)
  | syncCommitteeMessage f x =>
      exact ofMembers_onChain f x rfl SyncCommitteeMessage.restores (by decide) (by decide)
  | syncSelectionProof f x =>
      exact ofMembers_onChain f x rfl SyncSelectionData.restores (by decide) (by decide)
  | contributionAndProof f x =>
      exact ofMembers_onChain f x rfl ContributionAndProof.restores (by decide) (by decide)
  | voluntaryExit f x =>
      exact ofMembers_onChain f x rfl VoluntaryExit.restores (by decide) (by decide)
  | randaoReveal f x =>
      exact ofMembers_onChain f x rfl RandaoReveal.restores (by decide) (by decide)
  | deposit x => exact ofMembers_offChain x rfl DepositMessage.restores (by decide)
  | validatorRegistration x =>
      exact ofMembers_offChain x rfl ValidatorRegistration.restores (by decide)

/-! ## Members -/

/-- The payload of an artifact is a wordy document. -/
theorem wordy_payload (a : Artifact) : a.payload.2.Wordy depthBound := by
  cases a with
  | block f x => exact BlockHeader.restores.wordy x
  | versionedBlock f x => exact VersionedHeader.restores.wordy x
  | attestation f x => exact AttestationData.restores.wordy x
  | aggregationSlot f x => exact AggregationSlot.restores.wordy x
  | aggregateAndProof f x => exact AggregateAndProof.restores.wordy x
  | syncCommitteeMessage f x => exact SyncCommitteeMessage.restores.wordy x
  | syncSelectionProof f x => exact SyncSelectionData.restores.wordy x
  | contributionAndProof f x => exact ContributionAndProof.restores.wordy x
  | voluntaryExit f x => exact VoluntaryExit.restores.wordy x
  | randaoReveal f x => exact RandaoReveal.restores.wordy x
  | deposit x => exact DepositMessage.restores.wordy x
  | validatorRegistration x => exact ValidatorRegistration.restores.wordy x

/-- The members of an artifact are wordy documents, and none is the expected root. -/
theorem members_spec (a : Artifact) : ∀ m ∈ a.members,
    m.2.Wordy depthBound ∧ SigningRequest.rootField.names m.1 = false := by
  intro m hm
  rcases List.mem_cons.mp hm with rfl | hm
  · exact ⟨Json.wordy_text _ _, rfl⟩
  rcases List.mem_append.mp hm with hm | hm
  · obtain ⟨f, _, rfl⟩ := Option.map_eq_some_iff.mp (Option.mem_toList.mp hm)
    exact ⟨ForkInfo.restores.wordy f, rfl⟩
  · rw [List.mem_singleton.mp hm]
    exact ⟨a.wordy_payload, by cases a <;> rfl⟩

end Artifact

namespace SigningRequest

/-- The member that carries the expected root. -/
def rootMember (r : SigningRequest) : List (String × Json) :=
  (r.supplied.map fun root => ("signingRoot", root.toJson)).toList

variable {levels depth : Nat} {members : List (String × Json)}

/-- Wordy members that are not the expected root are read as they were written. -/
theorem others_members (h : ∀ m ∈ members, m.2.Wordy levels ∧ rootField.names m.1 = false)
    (hdepth : levels < depth) (empty : Bool) (place last : Nat) :
    others depth .closed empty (Fields.placed place (Json.readMembers Json.echo members)) last =
      .value members := by
  -- the places move along the members, and nothing is read at them
  induction members generalizing place with
  | nil => cases empty <;> rfl
  | cons m rest ih =>
      obtain ⟨hwordy, hname⟩ := h m List.mem_cons_self
      have hrest := ih (fun m hm => h m (List.mem_cons_of_mem _ hm)) (place + 1)
      have hdocument : m.2.echo.toJson depth = .ok m.2 := by
        rw [Json.toJson_echo m.2 (hwordy.readable hdepth), hwordy.reread_eq]
      rw [Json.readMembers, List.map_cons, Fields.placed, others, hname, hdocument]
      simp only [Bool.false_eq_true, if_false]
      rw [Json.readMembers] at hrest
      rw [hrest]
      rfl

/-- The expected root is passed over. -/
theorem others_toJson (r : SigningRequest) (empty : Bool) (last : Nat) :
    others 127 .closed empty
      (Fields.placed 0 (Json.readMembers Json.echo (r.rootMember ++ r.artifact.members))) last =
        .value r.artifact.members := by
  have hmembers := fun place => others_members r.artifact.members_spec
    (by decide : Artifact.depthBound < 127) empty place last
  unfold rootMember
  cases r.supplied with
  | none => exact hmembers 0
  | some root => exact hmembers 1

/-- The expected root is decoded from its member. -/
theorem nullableField_rootField (r : SigningRequest) :
    (Fields.ofMembers [rootField] 127
      (Json.readMembers Json.echo (r.rootMember ++ r.artifact.members))).nullableField rootField
        FixedBytes.decode = .value r.supplied := by
  have hothers := fun place => show Fields.givenBy (Fields.placed place (Json.readMembers Json.echo
      r.artifact.members)) rootField = [] from
    Fields.givenBy_unnamed (fun m hm => (r.artifact.members_spec m hm).2) place
  unfold Fields.nullableField Fields.fieldOr rootMember
  -- a root that is not expected is not written, and a field that is not given is null
  cases hr : r.supplied with
  | none =>
      have hgiven := hothers 0
      simp only [Option.map_none, Option.toList_none, List.nil_append, Fields.ofMembers, hgiven]
      rfl
  | some root =>
      have hgiven : Fields.givenBy (Fields.placed 0 (Json.readMembers Json.echo
          (("signingRoot", root.toJson) :: r.artifact.members))) rootField =
            [(0, root.toJson.echo)] := congrArg (_ :: ·) (hothers 1)
      have hroot : FixedBytes.decode 127 root.toJson.echo = .ok root :=
        FixedBytes.restores.decode_ofJson root (by decide : 0 < 127)
      have hoptional : Decoder.optional FixedBytes.decode 127 root.toJson.echo = .ok (some root) :=
        congrArg (Except.map some) hroot
      simp only [Option.map_some, Option.toList_some, List.singleton_append, Fields.ofMembers,
        hgiven, hoptional]

/-- Every request is decoded from what its document echoes. -/
theorem decode_echo (r : SigningRequest) :
    decode Json.nestingBound r.toJson.echo = .ok r := by
  have hecho : r.toJson.echo = .record (Json.readMembers Json.echo
      (r.rootMember ++ r.artifact.members)) .closed := by
    rw [← Json.echoMembers_eq]
    rfl
  have hroot := r.nullableField_rootField
  have hrest := r.others_toJson
  rw [hecho]
  unfold decode
  simp only
  rw [if_neg (by decide), show Json.nestingBound - 1 = 127 from rfl, hroot, hrest]
  simp only [Placed.map₂, Placed.toExcept, bind, Except.bind, r.artifact.ofMembers_members]
  rfl

/-- The document of a request is wordy. -/
theorem wordy_toJson (r : SigningRequest) : r.toJson.Wordy (Artifact.depthBound + 1) := by
  intro m hm
  rcases List.mem_append.mp hm with hm | hm
  · obtain ⟨root, _, rfl⟩ := Option.map_eq_some_iff.mp (Option.mem_toList.mp hm)
    exact Json.wordy_text _ _
  · exact (r.artifact.members_spec m hm).1

theorem readable_toJson (r : SigningRequest) : r.toJson.Readable Json.nestingBound :=
  r.wordy_toJson.readable (by decide)

/-! ## Texts -/

theorem ofText_compact_toJson (r : SigningRequest) : decode.ofText r.toJson.compact = .ok r := by
  rw [Json.ofText_compact decode r.readable_toJson, r.decode_echo]

theorem ofText_pretty_toJson (r : SigningRequest) : decode.ofText r.toJson.pretty = .ok r := by
  rw [Json.ofText_pretty decode r.readable_toJson, r.decode_echo]

/-- The bytes of a text are decoded as the text is. -/
theorem ofBytes_encode (text : String) :
    decode.ofBytes (Utf8.encode text) = decode.ofText text := by
  rw [Decoder.ofBytes, Decoder.ofText, Utf8.symbols_encode]

/-- What a text in any spelling is written as, once it was read. -/
def normalized (text : String) : Except Json.DecodeError String := do
  pure (← decode.ofText text).toJson.compact

theorem normalized_of_ofText {text : String} {r : SigningRequest}
    (h : decode.ofText text = .ok r) : normalized text = .ok r.toJson.compact := by
  rw [normalized, h]
  rfl

/-- Every request is read back from its text, with or without blanks, and from the bytes of
it. A text that is read as a request, in whatever spelling, is in one pass written as a text
that is read as the same request and that a further pass leaves as it is. -/
theorem request_restored :
    (∀ r : SigningRequest, decode.ofText r.toJson.compact = .ok r ∧
      decode.ofText r.toJson.pretty = .ok r ∧
      decode.ofBytes (Utf8.encode r.toJson.compact) = .ok r) ∧
    ∀ (text : String) (r : SigningRequest), decode.ofText text = .ok r →
      ∃ t, normalized text = .ok t ∧ decode.ofText t = .ok r ∧ normalized t = .ok t := by
  constructor
  · intro r
    exact ⟨r.ofText_compact_toJson, r.ofText_pretty_toJson,
      (ofBytes_encode _).trans r.ofText_compact_toJson⟩
  · intro text r h
    have hagain := r.ofText_compact_toJson
    exact ⟨r.toJson.compact, normalized_of_ofText h, hagain, normalized_of_ofText hagain⟩

/-- A document with bare numbers, unmarked and upper-case digits, the other name of the expected
root and the artifact before its type. -/
def looseDocument : Json :=
  .record [("randao_reveal", .record [("epoch", .natural 7)]), ("type", .text "RANDAO_REVEAL"),
    ("signing_root", .text "ABABABABABABABABABABABABABABABABABABABABABABABABABABABABABABABAB"),
    ("fork_info", .record [
      ("fork", .record [("previous_version", .text "0A000000"),
        ("current_version", .text "0x0B000000"), ("epoch", .natural 5)]),
      ("genesis_validators_root",
        .text "0xCdCdCdCdCdCdCdCdCdCdCdCdCdCdCdCdCdCdCdCdCdCdCdCdCdCdCdCdCdCdCdCd")])]

/-- The request it stands for. -/
def looseRequest : SigningRequest where
  supplied := some (.fit 32 (List.replicate 32 0xab))
  artifact := .randaoReveal
    ⟨⟨.fit 4 [0x0a, 0, 0, 0], .fit 4 [0x0b, 0, 0, 0], 5⟩, .fit 32 (List.replicate 32 0xcd)⟩ ⟨7⟩

/-- One pass turns the text of the loose document into that of the request. -/
theorem looseDocument_restored :
    decode.ofText looseDocument.compact = .ok looseRequest ∧
      normalized looseDocument.compact = .ok looseRequest.toJson.compact ∧
      normalized looseRequest.toJson.compact = .ok looseRequest.toJson.compact := by
  have hreadable : looseDocument.Readable Json.nestingBound := by
    simp [looseDocument, Json.Readable, Json.ReadableMembers, Json.nestingBound, Json.natural,
      Json.Number.legible_natural]
  have hecho : decode Json.nestingBound looseDocument.echo = .ok looseRequest :=
    ok_of_toOption (by decide +kernel)
  have hread : decode.ofText looseDocument.compact = .ok looseRequest :=
    (Json.ofText_compact decode hreadable).trans hecho
  obtain ⟨t, ht, -, hstable⟩ := request_restored.2 _ _ hread
  obtain rfl := Except.ok.inj (ht.symm.trans (normalized_of_ofText hread))
  exact ⟨hread, ht, hstable⟩

end SigningRequest

end RemoteSigner
