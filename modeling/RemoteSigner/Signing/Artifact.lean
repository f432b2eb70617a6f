import RemoteSigner.Chain.Attestation
import RemoteSigner.Chain.Block
import RemoteSigner.Chain.SyncCommittee
import RemoteSigner.Chain.Validator

/-!
# Signing requests

A request names its artifact by a `type` and carries it in a field of its own,
beside the fork info where the artifact belongs to a chain. The members of a
request other than the supplied root are read as a whole before the type
decides what they mean.
-/

namespace RemoteSigner

/-- What a client asks to have signed. -/
inductive Artifact where
  | block (fork : ForkInfo) (header : BlockHeader)
  | versionedBlock (fork : ForkInfo) (block : VersionedHeader)
  | attestation (fork : ForkInfo) (data : AttestationData)
  | aggregationSlot (fork : ForkInfo) (slot : AggregationSlot)
  | aggregateAndProof (fork : ForkInfo) (aggregate : AggregateAndProof)
  | syncCommitteeMessage (fork : ForkInfo) (message : SyncCommitteeMessage)
  | syncSelectionProof (fork : ForkInfo) (data : SyncSelectionData)
  | contributionAndProof (fork : ForkInfo) (contribution : ContributionAndProof)
  | voluntaryExit (fork : ForkInfo) (exit : VoluntaryExit)
  | randaoReveal (fork : ForkInfo) (reveal : RandaoReveal)
  | deposit (message : DepositMessage)
  | validatorRegistration (registration : ValidatorRegistration)
deriving DecidableEq

namespace Artifact

/-- The name of the type of an artifact. -/
def kind : Artifact → String
  | .block .. => "BLOCK"
  | .versionedBlock .. => "BLOCK_V2"
  | .attestation .. => "ATTESTATION"
  | .aggregationSlot .. => "AGGREGATION_SLOT"
  | .aggregateAndProof .. => "AGGREGATE_AND_PROOF"
  | .syncCommitteeMessage .. => "SYNC_COMMITTEE_MESSAGE"
  | .syncSelectionProof .. => "SYNC_COMMITTEE_SELECTION_PROOF"
  | .contributionAndProof .. => "SYNC_COMMITTEE_CONTRIBUTION_AND_PROOF"
  | .voluntaryExit .. => "VOLUNTARY_EXIT"
  | .randaoReveal .. => "RANDAO_REVEAL"
  | .deposit .. => "DEPOSIT"
  | .validatorRegistration .. => "VALIDATOR_REGISTRATION"

/-- The fork info of an artifact that belongs to a chain. -/
def forkInfo? : Artifact → Option ForkInfo
  | .block fork _ | .versionedBlock fork _ | .attestation fork _ | .aggregationSlot fork _
  | .aggregateAndProof fork _ | .syncCommitteeMessage fork _ | .syncSelectionProof fork _
  | .contributionAndProof fork _ | .voluntaryExit fork _ | .randaoReveal fork _ => some fork
  | .deposit _ | .validatorRegistration _ => none

/-- The field that carries an artifact, and its document. -/
def payload : Artifact → String × Json
  | .block _ x => ("block", x.toJson)
  | .versionedBlock _ x => ("beacon_block", x.toJson)
  | .attestation _ x => ("attestation", x.toJson)
  | .aggregationSlot _ x => ("aggregation_slot", x.toJson)
  | .aggregateAndProof _ x => ("aggregate_and_proof", x.toJson)
  | .syncCommitteeMessage _ x => ("sync_committee_message", x.toJson)
  | .syncSelectionProof _ x => ("sync_aggregator_selection_data", x.toJson)
  | .contributionAndProof _ x => ("contribution_and_proof", x.toJson)
  | .voluntaryExit _ x => ("voluntary_exit", x.toJson)
  | .randaoReveal _ x => ("randao_reveal", x.toJson)
  | .deposit x => ("deposit", x.toJson)
  | .validatorRegistration x => ("validator_registration", x.toJson)

/-- The members of the document of an artifact. -/
def members (a : Artifact) : List (String × Json) :=
  ("type", .text a.kind) ::
    ((a.forkInfo?.map fun f => ("fork_info", f.toJson)).toList ++ [a.payload])

/-- How the fields of one type of artifact are decoded. -/
structure Kind where
  name : String
  fields : Json.Fields → Json.Placed Artifact

/-- A type of artifact that belongs to a chain. -/
def Kind.onChain {α : Type} (name field : String) (decode : Json.Decoder α)
    (make : ForkInfo → α → Artifact) : Kind where
  name := name
  fields fs := make <$> fs.required "fork_info" ForkInfo.decode <*> fs.required field decode

/-- A type of artifact that belongs to no chain. -/
def Kind.offChain {α : Type} (name field : String) (decode : Json.Decoder α)
    (make : α → Artifact) : Kind where
  name := name
  fields fs := make <$> fs.required field decode

/-- The types of artifacts. -/
def kinds : List Kind := [
  .onChain "BLOCK" "block" BlockHeader.decode block,
  .onChain "BLOCK_V2" "beacon_block" VersionedHeader.decode versionedBlock,
  .onChain "ATTESTATION" "attestation" AttestationData.decode attestation,
  .onChain "AGGREGATION_SLOT" "aggregation_slot" AggregationSlot.decode aggregationSlot,
  .onChain "AGGREGATE_AND_PROOF" "aggregate_and_proof" AggregateAndProof.decode aggregateAndProof,
  .onChain "SYNC_COMMITTEE_MESSAGE" "sync_committee_message" SyncCommitteeMessage.decode
    syncCommitteeMessage,
  .onChain "SYNC_COMMITTEE_SELECTION_PROOF" "sync_aggregator_selection_data"
    SyncSelectionData.decode syncSelectionProof,
  .onChain "SYNC_COMMITTEE_CONTRIBUTION_AND_PROOF" "contribution_and_proof"
    ContributionAndProof.decode contributionAndProof,
  .onChain "VOLUNTARY_EXIT" "voluntary_exit" VoluntaryExit.decode voluntaryExit,
  .onChain "RANDAO_REVEAL" "randao_reveal" RandaoReveal.decode randaoReveal,
  .offChain "DEPOSIT" "deposit" DepositMessage.decode deposit,
  .offChain "VALIDATOR_REGISTRATION" "validator_registration" ValidatorRegistration.decode
    validatorRegistration]

/-- The fields any type of artifact has. -/
def shape : List Json.Field := [
  "fork_info", "block", "beacon_block", "attestation", "aggregation_slot", "aggregate_and_proof",
  "sync_committee_message", "sync_aggregator_selection_data", "contribution_and_proof",
  "voluntary_exit", "randao_reveal", "deposit", "validator_registration"]

/-- The type that a document names, by its name or its position. -/
def kindOf : Json → Except Json.DecodeError Kind
  | .text s =>
      match kinds.find? (·.name == s) with
      | some k => .ok k
      | none => .error (.unknownVariant s (kinds.map (·.name)))
  | .number (.natural n) =>
      match kinds[n.toNat]? with
      | some k => .ok k
      | none =>
          .error (.wrongValue (.number (.natural n))
            ("variant index 0 <= i < " ++ toString kinds.length))
  | j => .error (Json.Decoder.mismatch "variant identifier" (Json.Reading.ofJson j))

/-- Find the type among members, and the members left over. A second type is a
fault where it stands. -/
def splitKind : Option Kind → List (String × Json) →
    Except Json.DecodeError (Kind × List (String × Json))
  | none, [] => .error (.missingField "type")
  | some k, [] => .ok (k, [])
  | found, (key, j) :: rest => do
      if key = "type" then
        if found.isSome then .error (.duplicateField "type")
        else splitKind (some (← kindOf j)) rest
      else
        let (k, others) ← splitKind found rest
        pure (k, (key, j) :: others)

/-- Decode an artifact from the members of a document. -/
def ofMembers (members : List (String × Json)) : Except Json.DecodeError Artifact := do
  let (k, rest) ← splitKind none members
  (k.fields (.ofMembers shape Json.nestingBound (Json.Reading.ofMembers rest))).toExcept

end Artifact

/-- A request to sign an artifact, with the root the client expects. -/
structure SigningRequest where
  supplied : Option Root
  artifact : Artifact
deriving DecidableEq

namespace SigningRequest

/-- The field of the expected root. -/
def rootField : Json.Field := ⟨"signingRoot", ["signing_root"]⟩

/-- The document of a request. -/
def toJson (r : SigningRequest) : Json :=
  .record ((r.supplied.map fun root => ("signingRoot", root.toJson)).toList ++
    r.artifact.members)

/-- The members of a request other than the expected root, read as a whole. -/
def others (depth : Nat) (stop : Json.Stop) (empty : Bool) :
    List (Nat × Json.Reading.Key × Json.Reading) → Nat → Json.Placed (List (String × Json))
  | [], place =>
      match stop.recordFault empty with
      | some e => .fault place (.grammar e)
      | none => .value []
  | (place, .error e, _) :: _, _ => .fault place (.grammar e)
  | (place, .ok k, r) :: rest, last =>
      if rootField.names k then others depth stop empty rest last
      else
        match r.toJson depth with
        | .error e => .fault place (.grammar e)
        | .ok j => (others depth stop empty rest last).map ((k, j) :: ·)

/-- Decode a request. Only an object is one. -/
def decode : Json.Decoder SigningRequest := fun depth r =>
  match r with
  | .record members stop =>
      if depth ≤ 1 then .error (.grammar .nestingLimit)
      else do
        let fs := Json.Fields.ofMembers [rootField] (depth - 1) members
        let root := fs.nullableField rootField FixedBytes.decode
        let rest := others (depth - 1) stop members.isEmpty (Json.Fields.placed 0 members)
          members.length
        let (supplied, rest) ← (Json.Placed.map₂ Prod.mk root rest).toExcept
        pure ⟨supplied, ← Artifact.ofMembers rest⟩
  | r => .error (Json.Decoder.mismatch "struct SigningRequest" r)

end SigningRequest

end RemoteSigner
