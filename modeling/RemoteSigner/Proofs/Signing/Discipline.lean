import RemoteSigner.Proofs.Signing.NoBypass
import RemoteSigner.Proofs.SignerId

/-!
# The order of the checks

A request to sign passes its checks in a fixed order, and what comes later is not touched
before: `checked` lists the ways in which they end.

That no key was asked (`AsksNone`) is told from the answers of the keys: the request ends as
it does whatever the keys would have answered (`actingBy`). Up to the last step this is so,
since finding the key and asking slashing protection read the identifiers of the keys only
(`authorize_actingBy`). That slashing protection was not asked is told the same way: the
request ends as it does whatever the database is.

`sign_discipline` has all of this.
-/

namespace RemoteSigner

/-- Whether a request failed before slashing protection and the key come into it. -/
def SigningError.IsEarly : SigningError → Prop
  | .invalidIdentifier _ | .invalidRequest _ | .rootMismatch .. | .noSuchKey _ => True
  | .protectionEnforced _ | .protection _ | .signer _ | .task _ => False

/-! ## Other answers of the same keys -/

/-- The answers of keys to messages. -/
abbrev Answers := SignerId → Bytes → Except KeyError Signature

/-- A signer that answers otherwise. -/
def Signer.actingBy (f : Answers) (x : Signer) : Signer :=
  { x with sign := f x.identifier }

@[simp] theorem Signer.identifier_actingBy (f : Answers) (x : Signer) :
    (x.actingBy f).identifier = x.identifier := rfl

/-- What is installed, where all keys answer otherwise. -/
def Snapshot.actingBy (f : Answers) (s : Snapshot) : Snapshot where
  signers := s.signers.map (·.actingBy f)
  proxies := s.proxies.map fun entry => (entry.1, entry.2.map (·.actingBy f))
  proxyIndex := s.proxyIndex.map (·.actingBy f)

theorem Snapshot.find?_actingBy (f : Answers) (s : Snapshot) (id : SignerId) :
    (s.actingBy f).find? id = (s.find? id).map (·.actingBy f) := by
  unfold find? actingBy
  rw [List.find?_map]
  rfl

theorem Snapshot.identifier_of_find? {s : Snapshot} {id : SignerId} {x : Signer}
    (h : s.find? id = some x) : x.identifier = id := by
  simpa using List.find?_some h

namespace Custody

open Ssz

/-- Custody where all keys answer otherwise. -/
def actingBy (c : Custody) (f : Answers) : Custody :=
  { c with registry := { c.registry with snapshot := c.snapshot.actingBy f } }

/-- Custody with another protection database, or none. -/
def protectedBy (c : Custody) (protection : Option Engine) : Custody :=
  { c with protection := protection }

/-- No key is asked to answer a request, which ends the same whatever the keys would have
answered. -/
structure AsksNone (c : Custody) (net : Network) (identifier : String)
    (request : SigningRequest) : Prop where
  unaddressed : c.addressed (.sign net identifier request) = none
  indifferent : ∀ f, (c.actingBy f).sign net identifier request =
    ((c.sign net identifier request).1, (c.sign net identifier request).2.actingBy f)

/-- Slashing protection is not asked about a request, which ends the same whatever the
database is and leaves it. -/
def ConsultsNone (c : Custody) (net : Network) (identifier : String)
    (request : SigningRequest) : Prop :=
  ∀ protection, (c.protectedBy protection).sign net identifier request =
    ((c.sign net identifier request).1, c.protectedBy protection)

variable {c : Custody} {net : Network} {identifier : String} {request : SigningRequest}
  {f : Answers}

/-! ## What the checks read -/

theorem resolve_actingBy (c : Custody) (f : Answers) (net : Network) (identifier : String)
    (request : SigningRequest) : (c.actingBy f).resolve net identifier request =
      (c.resolve net identifier request).map fun found => (found.1.actingBy f, found.2) := by
  unfold resolve
  cases (SignerId.parse identifier).mapError _ with
  | error fault => rfl
  | ok id =>
      cases request.artifact.rootToSign net with
      | error fault => rfl
      | ok root =>
          simp only [bind, Except.bind]
          cases request.supplied.filter (· ≠ root) with
          | some supplied => rfl
          | none =>
              simp only
              rw [show (c.actingBy f).snapshot.find? id = _ from Snapshot.find?_actingBy f _ id]
              cases c.snapshot.find? id <;> rfl

theorem protect_actingBy {α : Type} (c : Custody) (f : Answers) (a : α)
    (g : Engine → Protected α × Engine) :
    (c.actingBy f).protect a g = ((c.protect a g).1, (c.protect a g).2.actingBy f) := by
  obtain ⟨registry, protection, disk⟩ := c
  cases protection <;> rfl

/-- Keys are let through or not whatever they would answer. -/
theorem authorize_actingBy (c : Custody) (f : Answers) (net : Network) (identifier : String)
    (request : SigningRequest) : (c.actingBy f).authorize net identifier request =
      ((c.authorize net identifier request).1.map fun found => (found.1.actingBy f, found.2),
        (c.authorize net identifier request).2.actingBy f) := by
  unfold authorize
  rw [resolve_actingBy]
  cases c.resolve net identifier request with
  | error fault => rfl
  | ok found =>
      obtain ⟨x, root⟩ := found
      simp only [Except.map, protect_actingBy, Signer.identifier_actingBy]
      generalize c.protect none _ = r
      obtain ⟨result, c'⟩ := r
      rcases result with fault | _ | _ | _ <;> rfl

/-- The ways in which the checks of a request end: it cannot be resolved, slashing protection
fails or rejects it, or it passes. -/
inductive Checked (c : Custody) (net : Network) (identifier : String) (request : SigningRequest) :
    Except SigningError (Signer × Root) × Custody → Prop where
  | unresolved {e : SigningError} (resolved : c.resolve net identifier request = .error e) :
      Checked c net identifier request (.error e, c)
  | failed {x : Signer} {root : Root} {fault : ProtectionError} {c' : Custody}
      (resolved : c.resolve net identifier request = .ok (x, root))
      (consulted : c.protect none (fun e => e.consult x.identifier root request.artifact) =
        (.error fault, c')) :
      Checked c net identifier request (.error (.protection fault), c')
  | rejected {x : Signer} {root : Root} {reason : Rejection} {c' : Custody}
      (resolved : c.resolve net identifier request = .ok (x, root))
      (consulted : c.protect none (fun e => e.consult x.identifier root request.artifact) =
        (.ok (some (.reject reason)), c')) :
      Checked c net identifier request (.error (.protectionEnforced reason), c')
  | passed {x : Signer} {root : Root} {decision : Option Decision} {c' : Custody}
      (resolved : c.resolve net identifier request = .ok (x, root))
      (consulted : c.protect none (fun e => e.consult x.identifier root request.artifact) =
        (.ok decision, c')) (accepted : ∀ reason, decision ≠ some (.reject reason)) :
      Checked c net identifier request (.ok (x, root), c')

theorem checked (c : Custody) (net : Network) (identifier : String) (request : SigningRequest) :
    Checked c net identifier request (c.authorize net identifier request) := by
  unfold authorize
  cases hresolve : c.resolve net identifier request with
  | error fault => exact .unresolved hresolve
  | ok found =>
      obtain ⟨x, root⟩ := found
      simp only
      generalize hconsult : c.protect none _ = r
      obtain ⟨result, c'⟩ := r
      rcases result with fault | _ | record | reason
      · exact .failed hresolve hconsult
      · exact .passed hresolve hconsult (by simp)
      · exact .passed hresolve hconsult (by simp)
      · exact .rejected hresolve hconsult

/-- What a request resolves to: the key that its identifier names, and the root of its
artifact, which is the one that was supplied. -/
theorem resolve_eq_ok {x : Signer} {root : Root}
    (h : c.resolve net identifier request = .ok (x, root)) :
    ∃ id, SignerId.parse identifier = .ok id ∧ c.snapshot.find? id = some x ∧
      request.artifact.rootToSign net = .ok root ∧
      ∀ supplied, request.supplied = some supplied → supplied = root := by
  obtain ⟨id, hid, h⟩ := bind_eq_ok.mp h
  obtain ⟨root', hroot, h⟩ := bind_eq_ok.mp h
  split at h
  · cases h
  · rename_i hsupplied
    split at h
    · cases h
    · rename_i hfound
      obtain ⟨rfl, rfl⟩ := Prod.mk.inj (Except.ok.inj h)
      refine ⟨id, mapError_ok hid, hfound, hroot, fun supplied hs => ?_⟩
      simpa [hs] using hsupplied

/-- A request that failed early could not be resolved. -/
theorem resolve_of_isEarly {e : SigningError} (hearly : e.IsEarly)
    (h : (c.sign net identifier request).1 = .error e) :
    c.resolve net identifier request = .error e := by
  have hchecked := checked c net identifier request
  unfold sign at h
  generalize c.authorize net identifier request = r at h hchecked
  cases hchecked with
  | unresolved hresolve => rwa [← Except.error.inj h]
  | failed => exact absurd hearly (Except.error.inj h ▸ id)
  | rejected => exact absurd hearly (Except.error.inj h ▸ id)
  | @passed x root decision c' =>
      cases hs : x.sign root.bytes with
      | ok s => simp [hs, Except.mapError] at h
      | error fault =>
          simp only [hs, Except.mapError] at h
          exact absurd hearly (Except.error.inj h ▸ id)

/-- A request that fails its checks ends with them. -/
theorem sign_of_error {e : SigningError} (h : (c.authorize net identifier request).1 = .error e) :
    c.sign net identifier request = (.error e, (c.authorize net identifier request).2) := by
  unfold sign
  generalize c.authorize net identifier request = r at h ⊢
  obtain ⟨result, c'⟩ := r
  obtain rfl : result = .error e := h
  rfl

/-- What slashing protection answers about a request decides it, unless it is let through. -/
theorem authorize_of_answer {engine : Engine} {x : Signer} {root : Root}
    (hengine : c.protection = some engine)
    (hresolve : c.resolve net identifier request = .ok (x, root)) :
    (∀ fault, (engine.consult x.identifier root request.artifact).1 = .error fault →
        (c.authorize net identifier request).1 = .error (.protection fault)) ∧
      ∀ reason,
        (engine.consult x.identifier root request.artifact).1 = .ok (some (.reject reason)) →
        (c.authorize net identifier request).1 = .error (.protectionEnforced reason) := by
  unfold authorize
  simp only [hresolve, protect, hengine]
  generalize engine.consult x.identifier root request.artifact = r
  obtain ⟨answer, engine'⟩ := r
  constructor
  · rintro fault rfl
    rfl
  · rintro reason rfl
    rfl

/-- A signature is that of the named key over the root of the artifact. -/
theorem signed {s : Signature} (h : (c.sign net identifier request).1 = .ok s) :
    ∃ id x root, SignerId.parse identifier = .ok id ∧ c.snapshot.find? id = some x ∧
      request.artifact.rootToSign net = .ok root ∧
      (∀ supplied, request.supplied = some supplied → supplied = root) ∧
      x.sign root.bytes = .ok s := by
  have hchecked := checked c net identifier request
  unfold sign at h
  generalize c.authorize net identifier request = r at h hchecked
  cases hchecked with
  | unresolved => cases h
  | failed => cases h
  | rejected => cases h
  | passed hresolve =>
      obtain ⟨id, hid, hfound, hroot, hsupplied⟩ := resolve_eq_ok hresolve
      exact ⟨id, _, _, hid, hfound, hroot, hsupplied, mapError_ok h⟩

/-- Unless it passes its checks, a request asks no key. -/
theorem asksNone_of_error {e : SigningError}
    (h : (c.authorize net identifier request).1 = .error e) :
    c.AsksNone net identifier request where
  unaddressed := by rw [addressed, h]; rfl
  indifferent f := by
    have hacting : ((c.actingBy f).authorize net identifier request).1 = .error e := by
      rw [authorize_actingBy, h]
      rfl
    rw [sign_of_error hacting, sign_of_error h, authorize_actingBy]

/-- A request that cannot be resolved does not consult slashing protection. -/
theorem consultsNone_of_resolve {e : SigningError}
    (h : c.resolve net identifier request = .error e) :
    c.ConsultsNone net identifier request := by
  intro protection
  have h' : (c.protectedBy protection).resolve net identifier request = .error e := h
  unfold sign authorize
  rw [h, h']

/-- Neither does one for an artifact that is no block and no vote. -/
theorem consultsNone_of_kind (h : request.artifact.kind ∉ ["BLOCK", "BLOCK_V2", "ATTESTATION"]) :
    c.ConsultsNone net identifier request := by
  have hconsult : ∀ (e : Engine) (key : SignerId) (root : Root),
      e.consult key root request.artifact = (.ok none, e) := by
    intro e key root
    generalize request.artifact = a at h
    cases a with
    | block | versionedBlock | attestation => simp [Artifact.kind] at h
    | _ => rfl
  have hprotect : ∀ (c : Custody) (key : SignerId) (root : Root),
      (c.protect none fun e => e.consult key root request.artifact) = (.ok none, c) := by
    intro c key root
    obtain ⟨registry, protection, disk⟩ := c
    cases protection <;> simp [protect, hconsult]
  intro protection
  have hresolve : (c.protectedBy protection).resolve net identifier request =
      c.resolve net identifier request := rfl
  unfold sign authorize
  rw [hresolve]
  cases c.resolve net identifier request with
  | error fault => rfl
  | ok found =>
      obtain ⟨x, root⟩ := found
      simp only [hprotect]

/-- Requests whose identifiers are read alike end the same. -/
theorem sign_congr {other : String} (h : SignerId.parse identifier = SignerId.parse other) :
    c.sign net identifier request = c.sign net other request := by
  unfold sign authorize resolve
  rw [h]

/-! ## The discipline -/

/-- What comes of a request for a signature, whatever the installed keys and the protection
database are. If it fails early, neither the database nor a key comes into it; if the database
fails or rejects it, no key does. An artifact that is no block and no vote leaves the database
out. A signature is that of the named key over the root of the artifact, which is the one that
was supplied, and is written as it was asked for. And of the identifier only the key counts
that it spells. -/
theorem sign_discipline (c : Custody) (net : Network) (identifier : String)
    (request : SigningRequest) :
    let outcome := c.sign net identifier request
    (∀ e, outcome.1 = .error e → e.IsEarly → outcome.2 = c ∧
        c.ConsultsNone net identifier request ∧ c.AsksNone net identifier request) ∧
      (∀ engine x root, c.protection = some engine →
        c.resolve net identifier request = .ok (x, root) →
        let answer := (engine.consult x.identifier root request.artifact).1
        (∀ fault, answer = .error fault → outcome.1 = .error (.protection fault) ∧
          c.AsksNone net identifier request) ∧
        (∀ reason, answer = .ok (some (.reject reason)) →
          outcome.1 = .error (.protectionEnforced reason) ∧
          c.AsksNone net identifier request)) ∧
      (request.artifact.kind ∉ ["BLOCK", "BLOCK_V2", "ATTESTATION"] →
        c.ConsultsNone net identifier request) ∧
      (∀ encoding text, outcome.1.map (·.toText encoding) = .ok text →
        ∃ id x root s, SignerId.parse identifier = .ok id ∧ c.snapshot.find? id = some x ∧
          x.identifier = id ∧ request.artifact.rootToSign net = .ok root ∧
          (∀ supplied, request.supplied = some supplied → supplied = root) ∧
          x.sign root.bytes = .ok s ∧ text = s.toText encoding) ∧
      ∀ id other, id.key ≠ [] → SignerId.Spells identifier id → SignerId.Spells other id →
        c.sign net other request = outcome := by
  intro outcome
  refine ⟨fun e he hearly => ?_, fun engine x root hengine hresolve => ?_,
    consultsNone_of_kind, fun encoding text htext => ?_, fun id other hid hspells hother => ?_⟩
  · have hresolve := resolve_of_isEarly hearly he
    have hauthorize : c.authorize net identifier request = (.error e, c) := by
      unfold authorize
      rw [hresolve]
    have herror : (c.authorize net identifier request).1 = .error e := by rw [hauthorize]
    refine ⟨?_, consultsNone_of_resolve hresolve, asksNone_of_error herror⟩
    exact (congrArg Prod.snd (sign_of_error herror)).trans (by rw [hauthorize])
  · obtain ⟨hfails, hrejects⟩ := authorize_of_answer hengine hresolve
    have hends : ∀ e, (c.authorize net identifier request).1 = .error e →
        outcome.1 = .error e ∧ c.AsksNone net identifier request :=
      fun e he => ⟨congrArg Prod.fst (sign_of_error he), asksNone_of_error he⟩
    exact ⟨fun fault hfault => hends _ (hfails fault hfault),
      fun reason hreject => hends _ (hrejects reason hreject)⟩
  · cases houtcome : outcome.1 with
    | error fault =>
        rw [houtcome] at htext
        cases htext
    | ok s =>
        rw [houtcome] at htext
        obtain ⟨id, x, root, hid, hfound, hroot, hsupplied, hs⟩ := signed houtcome
        exact ⟨id, x, root, s, hid, hfound, Snapshot.identifier_of_find? hfound, hroot, hsupplied,
          hs, (Except.ok.inj htext).symm⟩
  · exact sign_congr ((SignerId.parse_iff_spells.mpr ⟨hid, hother⟩).trans
      (SignerId.parse_iff_spells.mpr ⟨hid, hspells⟩).symm)

/-- A request of the first slot. -/
def genesisRequest (artifact : ForkInfo → Artifact) : SigningRequest :=
  ⟨none, artifact ⟨⟨.zero 4, .zero 4, 0⟩, .zero 32⟩⟩

/-- The request for its block. -/
def blockRequest : SigningRequest :=
  genesisRequest (.block · genesisBlock)

/-- The key for the block, with a protection database. -/
def genesisCustody (engine : Engine) : Custody :=
  ⟨genesisRegistry, some engine, .empty⟩

/-- For a key that is not there nothing is asked, and for the block no key is where the database
is locked; an aggregation slot leaves the database out. The key is named in capital letters with
blanks around as well, and the request for the block succeeds with what the key answers to its
root. -/
theorem genesis_discipline :
    (genesisCustody (.fresh 1)).ConsultsNone Artifact.firstNetwork "02" blockRequest ∧
      (genesisCustody ⟨1, true, .empty⟩).AsksNone Artifact.firstNetwork "01" blockRequest ∧
      (genesisCustody (.fresh 1)).ConsultsNone Artifact.firstNetwork "01"
        (genesisRequest (.aggregationSlot · ⟨0⟩)) ∧
      (genesisCustody (.fresh 1)).sign Artifact.firstNetwork " 0X01\n" blockRequest =
        (genesisCustody (.fresh 1)).sign Artifact.firstNetwork "01" blockRequest ∧
      ∃ root s, ((genesisCustody (.fresh 1)).sign Artifact.firstNetwork "01" blockRequest).1 =
          .ok s ∧ blockRequest.artifact.rootToSign Artifact.firstNetwork = .ok root ∧
        genesisSigner.sign root.bytes = .ok s := by
  have hspelled : SignerId.Spells "01" ⟨[1]⟩ :=
    (SignerId.parse_iff_spells.mp (show SignerId.parse "01" = .ok ⟨[1]⟩ from rfl)).2
  have hcapital : SignerId.Spells " 0X01\n" ⟨[1]⟩ :=
    ⟨[' '], ['0', 'X'], ['0', '1'], ['\n'], rfl,
      List.forall_mem_cons.mpr ⟨rfl, List.forall_mem_singleton.mpr rfl⟩, .inr (by decide),
      by decide⟩
  obtain ⟨hearly, _⟩ := sign_discipline (genesisCustody (.fresh 1)) Artifact.firstNetwork "02"
    blockRequest
  obtain ⟨_, hanswer, _⟩ := sign_discipline (genesisCustody ⟨1, true, .empty⟩)
    Artifact.firstNetwork "01" blockRequest
  obtain ⟨_, _, hunguarded, _⟩ := sign_discipline (genesisCustody (.fresh 1))
    Artifact.firstNetwork "01" (genesisRequest (.aggregationSlot · ⟨0⟩))
  obtain ⟨_, _, _, hsigned, hnamed⟩ := sign_discipline (genesisCustody (.fresh 1))
    Artifact.firstNetwork "01" blockRequest
  have hsucceeds : ((genesisCustody (.fresh 1)).sign Artifact.firstNetwork "01" blockRequest).1 =
      .ok ⟨[]⟩ := rfl
  refine ⟨(hearly (.noSuchKey "0x02") rfl trivial).2.1,
    ((hanswer _ genesisSigner _ rfl rfl).1 _ rfl).2, hunguarded (by decide),
    hnamed ⟨[1]⟩ _ (by decide) hspelled hcapital, ?_⟩
  obtain ⟨id, x, root, s, hid, hfound, _, hroot, _, hs, _⟩ :=
    hsigned .hex (Signature.toText ⟨[]⟩ .hex) (by rw [hsucceeds]; rfl)
  obtain rfl : ⟨[1]⟩ = id := Except.ok.inj hid
  obtain rfl : genesisSigner = x := Option.some.inj hfound
  obtain rfl : ⟨[]⟩ = s := Except.ok.inj hs
  exact ⟨root, ⟨[]⟩, hsucceeds, hroot, hs⟩

end Custody

end RemoteSigner
