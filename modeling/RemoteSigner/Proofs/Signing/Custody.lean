import RemoteSigner.Proofs.Protection.Slashing
import RemoteSigner.Proofs.Signing.Separation
import RemoteSigner.Signing.Authorization

/-!
# Runs of keys in custody

Keys in custody are asked to sign by three flows: signing requests, requests of
modules and delegations to new proxies. A run interleaves them with any change
of the installed keys and the files, and with any calls to slashing protection
(`Act`). For a run:

* `askings` — the keys that were asked to sign, with the messages: what they
  answered is exactly what the run hands out (`signatures_eq`);
* `asked` — the messages, by the identifier of the key;
* `hashed` — the pairs that were hashed for the roots of the run;
* `calls` — the calls to slashing protection, so that the protection after an
  act is that after its calls (`perform_protection`);
* `Origin` — where an asked message comes from: an artifact that protection
  accepted if it is a block or a vote, or the commit-boost domain
  (`asked_origin`).
-/

namespace RemoteSigner

open Ssz

namespace Engine

/-- The calls that asking about an artifact makes. -/
def consultCalls (key : SignerId) (root : Root) : Artifact → List Call
  | .block fork x => [.block key ⟨x.slot, root⟩ fork.genesisRoot]
  | .versionedBlock fork x => [.block key ⟨x.header.slot, root⟩ fork.genesisRoot]
  | .attestation fork x => [.attest key ⟨x.source.epoch, x.target.epoch, root⟩ fork.genesisRoot]
  | _ => []

variable {e : Engine} {key : SignerId} {root : Root} {a : Artifact}

theorem consult_after (e : Engine) (key : SignerId) (root : Root) (a : Artifact) :
    (e.consult key root a).2 = e.after (consultCalls key root a) := by
  cases a <;> rfl

/-- The outcome of a check as consulting tells it. -/
theorem accept_of_map {r : Protected Decision} {o : Option Decision}
    (h : r.map some = .ok o) (hpass : ∀ reason, o ≠ some (.reject reason)) :
    ∃ record, r = .ok (.accept record) := by
  cases r with
  | error fault => exact absurd h (by simp [Except.map])
  | ok d =>
      obtain rfl := Except.ok.inj h
      cases d with
      | accept record => exact ⟨record, rfl⟩
      | reject reason => exact absurd rfl (hpass reason)

/-- A block is checked as such under either of its kinds. -/
theorem consult_header (e : Engine) (key : SignerId) (root : Root) {x : BlockHeader}
    (hx : a.header? = some x) : ∃ genesisRoot,
    consultCalls key root a = [.block key ⟨x.slot, root⟩ genesisRoot] ∧
      (e.consult key root a).1 = (e.mayBlock key ⟨x.slot, root⟩ genesisRoot).1.map some := by
  cases a with
  | block fork y =>
      obtain rfl := Option.some.inj hx
      exact ⟨fork.genesisRoot, rfl, rfl⟩
  | versionedBlock fork y =>
      obtain rfl := Option.some.inj hx
      exact ⟨fork.genesisRoot, rfl, rfl⟩
  | _ => exact absurd hx (by simp [Artifact.header?])

/-- A block that is let through was accepted. -/
theorem consult_block {x : BlockHeader} {o : Option Decision} (hx : a.header? = some x)
    (h : (e.consult key root a).1 = .ok o) (hpass : ∀ reason, o ≠ some (.reject reason)) :
    AcceptedBlock (e.trace (consultCalls key root a)) key ⟨x.slot, root⟩ := by
  obtain ⟨genesisRoot, hcalls, hconsult⟩ := consult_header e key root hx
  obtain ⟨record, hr⟩ := accept_of_map (hconsult.symm.trans h) hpass
  refine ⟨genesisRoot, record, ?_⟩
  rw [hcalls]
  simp [trace, perform, answer, hr, Except.map]

/-- A vote that is let through was accepted. -/
theorem consult_vote {x : AttestationData} {o : Option Decision} (hx : a.vote? = some x)
    (h : (e.consult key root a).1 = .ok o) (hpass : ∀ reason, o ≠ some (.reject reason)) :
    AcceptedVote (e.trace (consultCalls key root a)) key
      ⟨x.source.epoch, x.target.epoch, root⟩ := by
  cases a with
  | attestation fork y =>
      obtain rfl := Option.some.inj hx
      obtain ⟨record, hr⟩ := accept_of_map h hpass
      refine ⟨fork.genesisRoot, record, ?_⟩
      simp [consultCalls, trace, perform, answer, hr, Except.map]
  | _ => exact absurd hx (by simp [Artifact.vote?])

end Engine

namespace Custody

/-! ## Runs -/

/-- Something that happens to keys in custody. -/
inductive Act where
  | sign (net : Network) (identifier : String) (request : SigningRequest)
  | signForModule (genesisForkVersion : Version) (request : ModuleSignRequest)
  | generateProxy (genesisForkVersion : Version) (mint : Option ProxyMint)
      (entropy : ProxyEntropy) (request : ProxyKeyRequest)
  /-- Keys are installed, replaced or taken out, and files change. -/
  | rearrange (registry : Registry) (disk : Disk)
  /-- A call to slashing protection that no request makes. -/
  | call (c : Engine.Call)

/-- The keys after an act. -/
def perform (c : Custody) : Act → Custody
  | .sign net identifier request => (c.sign net identifier request).2
  | .signForModule .. => c
  | .generateProxy version mint entropy request =>
      (c.generateProxy version mint entropy request).2
  | .rearrange registry disk => { c with registry := registry, disk := disk }
  | .call x => { c with protection := c.protection.map fun e => (e.perform x).2 }

/-- The key that an act asks for a signature, and the message. -/
def addressed (c : Custody) : Act → Option (Signer × Root)
  | .sign net identifier request => (c.authorize net identifier request).1.toOption
  | .signForModule version request => (c.resolveModule version request).toOption
  | .generateProxy version mint entropy request =>
      (c.delegate mint entropy request).1.toOption.map fun d =>
        (d.1, CommitBoost.signingRoot sha256Pair version (d.2.root sha256Pair))
  | .rearrange .. | .call _ => none

/-- The pairs that an act hashes for the roots it computes. -/
def hashedBy (c : Custody) : Act → List (Root × Root)
  | .sign net identifier request =>
      match SignerId.parse identifier with
      | .error _ => []
      | .ok _ => request.artifact.inputs sha256Pair net
  | .signForModule version request =>
      match c.resolveModule version request with
      | .error _ => []
      | .ok _ => CommitBoost.inputs sha256Pair version request.objectRoot
  | .generateProxy version mint entropy request =>
      match (c.delegate mint entropy request).1 with
      | .error _ => []
      | .ok (_, d) =>
          d.inputs sha256Pair ++ CommitBoost.inputs sha256Pair version (d.root sha256Pair)
  | .rearrange .. | .call _ => []

/-- The calls that an act makes to slashing protection. -/
def callsOf (c : Custody) : Act → List Engine.Call
  | .sign net identifier request =>
      match c.resolve net identifier request with
      | .error _ => []
      | .ok (signer, root) => Engine.consultCalls signer.identifier root request.artifact
  | .call x => [x]
  | _ => []

/-- The artifact whose signing root an act computes. -/
def Act.rooted : Act → Option (Network × Artifact)
  | .sign net identifier request =>
      match SignerId.parse identifier with
      | .error _ => none
      | .ok _ => some (net, request.artifact)
  | _ => none

/-- The keys that were asked to sign in a run, with the messages. -/
def askings : Custody → List Act → List (Signer × Root)
  | _, [] => []
  | c, act :: rest => (c.addressed act).toList ++ (c.perform act).askings rest

/-- The messages that keys were asked to sign in a run. -/
def asked (c : Custody) (acts : List Act) : List (SignerId × Root) :=
  (c.askings acts).map fun s => (s.1.identifier, s.2)

/-- What a key answers that is asked to sign a message, as text. -/
def answer? (s : Signer × Root) : Option String :=
  (s.1.sign s.2.bytes).toOption.map Signature.toHex

/-- The signature that an act hands out, as text. -/
def signature? (c : Custody) : Act → Option String
  | .sign net identifier request =>
      (c.sign net identifier request).1.toOption.map Signature.toHex
  | .signForModule version request => (c.signForModule version request).toOption.map Signature.toHex
  | .generateProxy version mint entropy request =>
      (c.generateProxy version mint entropy request).1.toOption.map (·.signature)
  | .rearrange .. | .call _ => none

/-- The signatures that are handed out in a run. -/
def signatures : Custody → List Act → List String
  | _, [] => []
  | c, act :: rest => (c.signature? act).toList ++ (c.perform act).signatures rest

/-- The pairs that were hashed in a run. -/
def hashed : Custody → List Act → List (Root × Root)
  | _, [] => []
  | c, act :: rest => c.hashedBy act ++ (c.perform act).hashed rest

/-- The calls to slashing protection in a run. -/
def calls : Custody → List Act → List Engine.Call
  | _, [] => []
  | c, act :: rest => c.callsOf act ++ (c.perform act).calls rest

/-- A message is the signing root of a block that was sent in a run. -/
def SentBlock (acts : List Act) (m : Root) (x : BlockHeader) : Prop :=
  ∃ net a, (net, a) ∈ acts.filterMap Act.rooted ∧ a.header? = some x ∧ a.rootToSign net = .ok m

/-- A message is the signing root of a vote that was sent in a run. -/
def SentVote (acts : List Act) (m : Root) (x : AttestationData) : Prop :=
  ∃ net a, (net, a) ∈ acts.filterMap Act.rooted ∧ a.vote? = some x ∧ a.rootToSign net = .ok m

/-! ## What is handed out is what keys answered -/

variable {c : Custody} {e : Engine} {act : Act}

/-- A signature that a request is answered with is the key's, of what it was
asked to sign. -/
theorem sign_signature {net : Network} {identifier : String} {request : SigningRequest}
    {s : Signature} (h : (c.sign net identifier request).1 = .ok s) :
    ∃ signer m, c.addressed (.sign net identifier request) = some (signer, m) ∧
      signer.sign m.bytes = .ok s := by
  obtain ⟨result, c', hr⟩ : ∃ result c', c.authorize net identifier request = (result, c') :=
    ⟨_, _, rfl⟩
  rw [sign, hr] at h
  cases result with
  | error fault => exact absurd h (by simp)
  | ok sm =>
      refine ⟨sm.1, sm.2, ?_, mapError_ok h⟩
      rw [addressed, hr]
      rfl

/-- What an act hands out is what the key answered that it asked. -/
theorem signature?_eq (c : Custody) (act : Act) :
    c.signature? act = (c.addressed act).bind answer? := by
  cases act with
  | sign net identifier request =>
      simp only [signature?, addressed, sign]
      obtain ⟨result, c'⟩ := c.authorize net identifier request
      cases result with
      | error fault => rfl
      | ok s => exact congrArg (Option.map _) (toOption_mapError _ _)
  | signForModule version request =>
      simp only [signature?, addressed, signForModule]
      cases c.resolveModule version request with
      | error fault => rfl
      | ok s => exact congrArg (Option.map _) (toOption_mapError _ _)
  | generateProxy version mint entropy request =>
      simp only [signature?, addressed, generateProxy]
      obtain ⟨result, c'⟩ := c.delegate mint entropy request
      cases result with
      | error fault => rfl
      | ok found =>
          obtain ⟨signer, message⟩ := found
          simp only [Except.toOption, Option.map_some, Option.bind_some, answer?]
          cases signer.sign _ <;> rfl
  | rearrange registry disk => rfl
  | call x => rfl

/-- What a run hands out is what the keys answered that it asked. -/
theorem signatures_eq (c : Custody) (acts : List Act) :
    c.signatures acts = (c.askings acts).filterMap answer? := by
  induction acts generalizing c with
  | nil => rfl
  | cons act rest ih =>
      rw [signatures, askings, List.filterMap_append, ← ih, signature?_eq]
      cases c.addressed act with
      | none => rfl
      | some s => cases h : answer? s <;> simp [h]

/-! ## Generating a proxy -/

/-- What a delegation comes from: a key that is installed, and a proxy of it that was. -/
theorem delegate_ok {mint : Option ProxyMint} {entropy : ProxyEntropy} {request : ProxyKeyRequest}
    {signer : Signer} {message : ProxyDelegation} {c' : Custody}
    (h : c.delegate mint entropy request = (.ok (signer, message), c')) :
    ∃ m proxy, mint = some m ∧ c.delegator request = .ok (message.delegator, signer) ∧
      c.installProxy m entropy message.delegator request.scheme = (.ok proxy, c') ∧
      proxy.identifier = message.proxy := by
  cases mint with
  | none => exact absurd h (by simp [delegate])
  | some mint =>
      cases hd : c.delegator request with
      | error fault => exact absurd h (by simp [delegate, hd])
      | ok ids =>
          obtain ⟨id, consensus⟩ := ids
          obtain ⟨result, c', hi⟩ : ∃ result c',
              c.installProxy mint entropy id request.scheme = (result, c') := ⟨_, _, rfl⟩
          cases result with
          | error fault => exact absurd h (by simp [delegate, hd, hi])
          | ok proxy =>
              simp only [delegate, hd, hi] at h
              obtain ⟨hmessage, rfl⟩ := Prod.mk.inj h
              obtain ⟨rfl, rfl⟩ := Prod.mk.inj (Except.ok.inj hmessage)
              exact ⟨mint, proxy, rfl, rfl, hi, rfl⟩

/-- A proxy that is generated comes with a delegation that the key of the request signed. -/
theorem generateProxy_ok {version : Version} {mint : Option ProxyMint} {entropy : ProxyEntropy}
    {request : ProxyKeyRequest} {d : SignedDelegation}
    (h : (c.generateProxy version mint entropy request).1 = .ok d) :
    ∃ signer c', c.delegate mint entropy request = (.ok (signer, d.message), c') ∧
      c.generateProxy version mint entropy request = (.ok d, c') := by
  unfold generateProxy at h ⊢
  generalize c.delegate mint entropy request = r at h ⊢
  obtain ⟨result, c'⟩ := r
  cases result with
  | error fault => cases h
  | ok found =>
      obtain ⟨signer, message⟩ := found
      simp only at h ⊢
      split at h
      · cases h
      · obtain rfl := Except.ok.inj h
        exact ⟨signer, c', rfl, rfl⟩

/-! ## Protection in a run -/

theorem authorize_protection (he : c.protection = some e) (net : Network) (identifier : String)
    (request : SigningRequest) :
    (c.authorize net identifier request).2.protection =
      some (e.after (c.callsOf (.sign net identifier request))) := by
  cases hr : c.resolve net identifier request with
  | error fault =>
      simp only [authorize, callsOf, hr]
      exact he
  | ok sm =>
      obtain ⟨signer, m⟩ := sm
      simp only [authorize, callsOf, hr, protect, he, ← Engine.consult_after]
      generalize e.consult signer.identifier m request.artifact = r
      obtain ⟨result, e'⟩ := r
      cases result with
      | error fault => rfl
      | ok o =>
          cases o with
          | none => rfl
          | some d => cases d <;> rfl

theorem installProxy_protection (mint : ProxyMint) (entropy : ProxyEntropy) (id : SignerId)
    (scheme : KeyType) : (c.installProxy mint entropy id scheme).2.protection = c.protection := by
  unfold installProxy
  split
  · rfl
  · split <;> rfl

theorem delegate_protection (mint : Option ProxyMint) (entropy : ProxyEntropy)
    (request : ProxyKeyRequest) :
    (c.delegate mint entropy request).2.protection = c.protection := by
  cases mint with
  | none => rfl
  | some mint =>
      cases hd : c.delegator request with
      | error fault => simp only [delegate, hd]
      | ok ids =>
          obtain ⟨id, consensus⟩ := ids
          have hinstall := installProxy_protection (c := c) mint entropy id request.scheme
          simp only [delegate, hd]
          generalize c.installProxy mint entropy id request.scheme = r at hinstall ⊢
          obtain ⟨result, c'⟩ := r
          cases result <;> exact hinstall

theorem generateProxy_protection (version : Version) (mint : Option ProxyMint)
    (entropy : ProxyEntropy) (request : ProxyKeyRequest) :
    (c.generateProxy version mint entropy request).2.protection = c.protection := by
  have hdelegate := delegate_protection (c := c) mint entropy request
  unfold generateProxy
  generalize c.delegate mint entropy request = r at hdelegate ⊢
  obtain ⟨result, c'⟩ := r
  cases result with
  | error fault => exact hdelegate
  | ok found =>
      simp only
      split <;> exact hdelegate

/-- The protection after an act is that after its calls. -/
theorem perform_protection (he : c.protection = some e) (act : Act) :
    (c.perform act).protection = some (e.after (c.callsOf act)) := by
  cases act with
  | sign net identifier request =>
      have hauthorize := authorize_protection he net identifier request
      show (c.sign net identifier request).2.protection = _
      unfold sign
      generalize c.authorize net identifier request = r at hauthorize ⊢
      obtain ⟨result, c'⟩ := r
      cases result <;> exact hauthorize
  | signForModule version request => exact he
  | generateProxy version mint entropy request =>
      exact (generateProxy_protection version mint entropy request).trans he
  | rearrange registry disk => exact he
  | call x =>
      show c.protection.map _ = _
      rw [he]
      rfl

/-! ## Where messages come from -/

/-- Where a message that a key was asked to sign comes from. -/
inductive Origin (t : List Engine.Entry) (hashed : List (Root × Root)) (key : SignerId)
    (m : Root) : Prop where
  /-- An artifact, accepted if protection covers it. -/
  | artifact (net : Network) (a : Artifact) (root : a.signingRoot sha256Pair net = .ok m)
      (covered : a.inputs sha256Pair net ⊆ hashed)
      (block : ∀ x, a.header? = some x → Engine.AcceptedBlock t key ⟨x.slot, m⟩)
      (vote : ∀ x, a.vote? = some x →
        Engine.AcceptedVote t key ⟨x.source.epoch, x.target.epoch, m⟩)
  /-- An object root in the commit-boost domain. -/
  | commitBoost (version : Version) (objectRoot : Root)
      (root : m = CommitBoost.signingRoot sha256Pair version objectRoot)
      (covered : CommitBoost.inputs sha256Pair version objectRoot ⊆ hashed)

theorem Origin.mono {t t' : List Engine.Entry} {hs hs' : List (Root × Root)} {key : SignerId}
    {m : Root} (h : Origin t hs key m) (ht : t ⊆ t') (hhs : hs ⊆ hs') : Origin t' hs' key m := by
  cases h with
  | artifact net a hroot hcovered hblock hvote =>
      refine .artifact net a hroot (fun p hp => hhs (hcovered hp)) ?_ ?_
      · intro x hx
        obtain ⟨root, record, hmem⟩ := hblock x hx
        exact ⟨root, record, ht hmem⟩
      · intro x hx
        obtain ⟨root, record, hmem⟩ := hvote x hx
        exact ⟨root, record, ht hmem⟩
  | commitBoost version objectRoot hroot hcovered =>
      exact .commitBoost version objectRoot hroot fun p hp => hhs (hcovered hp)

/-- What a request resolves to: the signing root of its artifact. -/
theorem resolve_ok {net : Network} {identifier : String} {request : SigningRequest}
    {signer : Signer} {m : Root} (h : c.resolve net identifier request = .ok (signer, m)) :
    (∃ id, SignerId.parse identifier = .ok id) ∧
      request.artifact.signingRoot sha256Pair net = .ok m := by
  obtain ⟨id, hid, h⟩ := bind_eq_ok.mp h
  obtain ⟨root, hroot, h⟩ := bind_eq_ok.mp h
  refine ⟨⟨id, mapError_ok hid⟩, ?_⟩
  split at h
  · exact absurd h (by simp)
  · split at h
    · exact absurd h (by simp)
    · obtain ⟨_, rfl⟩ := Prod.mk.inj (Except.ok.inj h)
      exact Artifact.rootToSign_ok hroot

/-- A request that reaches its key was let through by protection. -/
theorem authorize_ok (he : c.protection = some e) {net : Network} {identifier : String}
    {request : SigningRequest} {signer : Signer} {m : Root}
    (h : (c.authorize net identifier request).1 = .ok (signer, m)) :
    c.resolve net identifier request = .ok (signer, m) ∧
      ∃ o, (e.consult signer.identifier m request.artifact).1 = .ok o ∧
        ∀ reason, o ≠ some (.reject reason) := by
  unfold authorize at h
  cases hr : c.resolve net identifier request with
  | error fault => simp [hr] at h
  | ok sm =>
      obtain ⟨signer', m'⟩ := sm
      simp only [hr, protect, he] at h
      generalize hconsult : e.consult signer'.identifier m' request.artifact = r at h
      obtain ⟨result, e'⟩ := r
      cases result with
      | error fault => exact absurd h (by simp)
      | ok o =>
          cases o with
          | none =>
              obtain ⟨rfl, rfl⟩ := Prod.mk.inj (Except.ok.inj h)
              exact ⟨rfl, none, by rw [hconsult], by simp⟩
          | some d =>
              cases d with
              | reject reason => exact absurd h (by simp)
              | accept record =>
                  obtain ⟨rfl, rfl⟩ := Prod.mk.inj (Except.ok.inj h)
                  exact ⟨rfl, some (.accept record), by rw [hconsult], by simp⟩

/-- Whatever flow asks a key, the message has an origin. -/
theorem addressed_origin (he : c.protection = some e) {signer : Signer} {m : Root}
    (h : c.addressed act = some (signer, m)) :
    Origin (e.trace (c.callsOf act)) (c.hashedBy act) signer.identifier m := by
  cases act with
  | sign net identifier request =>
      obtain ⟨hresolve, o, hconsult, hpass⟩ := authorize_ok he (ok_of_toOption h)
      obtain ⟨⟨id, hid⟩, hroot⟩ := resolve_ok hresolve
      have hcalls : c.callsOf (.sign net identifier request) =
          Engine.consultCalls signer.identifier m request.artifact := by
        simp only [callsOf, hresolve]
      have hhashed : c.hashedBy (.sign net identifier request) =
          request.artifact.inputs sha256Pair net := by
        simp only [hashedBy, hid]
      rw [hcalls, hhashed]
      exact .artifact net request.artifact hroot (fun _ hp => hp)
        (fun x hx => Engine.consult_block hx hconsult hpass)
        fun x hx => Engine.consult_vote hx hconsult hpass
  | signForModule version request =>
      have hresolve := ok_of_toOption h
      have hhashed : c.hashedBy (.signForModule version request) =
          CommitBoost.inputs sha256Pair version request.objectRoot := by
        simp only [hashedBy, hresolve]
      rw [hhashed]
      refine .commitBoost version request.objectRoot ?_ fun _ hp => hp
      obtain ⟨id, _, hresolve⟩ := bind_eq_ok.mp hresolve
      split at hresolve
      · exact absurd hresolve (by simp)
      · exact (Prod.mk.inj (Except.ok.inj hresolve)).2.symm
  | generateProxy version mint entropy request =>
      obtain ⟨⟨signer', d⟩, hd, heq⟩ := Option.map_eq_some_iff.mp h
      obtain ⟨rfl, rfl⟩ := Prod.mk.inj heq
      refine .commitBoost version (d.root sha256Pair) rfl ?_
      simp only [hashedBy, ok_of_toOption hd]
      exact fun _ hp => List.mem_append_right _ hp
  | rearrange registry disk => exact absurd h (by simp [addressed])
  | call x => exact absurd h (by simp [addressed])

/-- Every key that is asked in a run is asked for a message with an origin in it. -/
theorem askings_origin {acts : List Act} (he : c.protection = some e) {signer : Signer} {m : Root}
    (h : (signer, m) ∈ c.askings acts) :
    Origin (e.trace (c.calls acts)) (c.hashed acts) signer.identifier m := by
  induction acts generalizing c e with
  | nil => exact absurd h (by simp [askings])
  | cons act rest ih =>
      rw [calls, hashed, Engine.trace_append]
      rcases List.mem_append.mp h with h | h
      · exact (addressed_origin he (Option.mem_toList.mp h)).mono
          (fun _ hp => List.mem_append_left _ hp) fun _ hp => List.mem_append_left _ hp
      · -- the rest of the run starts from the protection that the act left
        exact (ih (perform_protection he act) h).mono (fun _ hp => List.mem_append_right _ hp)
          fun _ hp => List.mem_append_right _ hp

theorem asked_origin {acts : List Act} (he : c.protection = some e) {key : SignerId} {m : Root}
    (h : (key, m) ∈ c.asked acts) : Origin (e.trace (c.calls acts)) (c.hashed acts) key m := by
  obtain ⟨⟨signer, m'⟩, hs, heq⟩ := List.mem_map.mp h
  obtain ⟨rfl, rfl⟩ := Prod.mk.inj heq
  exact askings_origin he hs

/-- What was hashed for an artifact that was sent was hashed in the run. -/
theorem rooted_hashed {acts : List Act} {net : Network} {a : Artifact}
    (h : (net, a) ∈ acts.filterMap Act.rooted) : a.inputs sha256Pair net ⊆ c.hashed acts := by
  induction acts generalizing c with
  | nil => exact absurd h (by simp)
  | cons act rest ih =>
      rw [hashed]
      obtain ⟨act', hmem, hact⟩ := List.mem_filterMap.mp h
      rcases List.mem_cons.mp hmem with rfl | hmem
      · refine fun _ hp => List.mem_append_left _ ?_
        unfold Act.rooted at hact
        split at hact
        · rename_i net' identifier request
          split at hact
          · exact absurd hact (by simp)
          · rename_i hid
            obtain ⟨rfl, rfl⟩ := Prod.mk.inj (Option.some.inj hact)
            simpa only [hashedBy, hid] using hp
        · exact absurd hact (by simp)
      · have hrest := ih (c := c.perform act) (List.mem_filterMap.mpr ⟨act', hmem, hact⟩)
        exact fun p hp => List.mem_append_right _ (hrest hp)

end Custody

end RemoteSigner
