import RemoteSigner.Proofs.KeyManager.Importing
import RemoteSigner.Proofs.Protection.Confinement
import RemoteSigner.Proofs.Protection.Reimporting
import RemoteSigner.Proofs.Protection.RoundTrip

/-!
# What an import tells, and what it did

An import that is refused as a whole changes nothing (`importKeys_refused`). Otherwise it gives
an account of each keystore of the request, and what it did agrees with it (`Account`,
`import_accounts`).

History that comes with a request is cut down to the keys of the request and stored first
(`importHistory_stores`): the registry is then as it was, and each keystore takes its step from
there. Of other keys nothing is changed by the whole request, since its keystores only register
and enable keys of their own (`after_sameView`).
-/

namespace RemoteSigner

namespace Interchange

/-- A document, as far as it is about some keys. -/
def about (d : Interchange) (keys : List SignerId) : Interchange :=
  { d with data := d.data.filter fun h => keys.contains h.key }

theorem mem_about {d : Interchange} {keys : List SignerId} {h : History} :
    h ∈ (d.about keys).data ↔ h ∈ d.data ∧ h.key ∈ keys := by
  simp [about]

end Interchange

namespace Engine

variable {e e' : Engine} {d : Interchange} {keys : List SignerId} {key : SignerId}

/-- The history of a document was stored, as far as it is about some keys: it is absorbed by
their rows, and the rows of all others are as they were. -/
structure StoresAbout (d : Interchange) (keys : List SignerId) (e e' : Engine) : Prop where
  taken : ∃ summary, e.importHistory (d.about keys) = (.ok summary, e')
  absorbed : e.database.KeysDistinct → ∀ h ∈ d.data, h.key ∈ keys →
    (e'.database.find? h.key).isSome ∧ h.Absorbed (e'.database.row h.key)
  others : ∀ key, key ∉ keys → e'.database.find? key = e.database.find? key

theorem importHistory_stores {summary : ImportSummary}
    (h : e.importHistory (d.about keys) = (.ok summary, e')) : StoresAbout d keys e e' := by
  obtain ⟨hfree, db, hbody⟩ := transact_ok_iff.mp (congrArg Prod.fst h)
  obtain rfl : { e with database := db } = e' :=
    congrArg Prod.snd ((transact_of_ok _ hfree hbody).symm.trans h)
  obtain ⟨db₁, hchain, hall⟩ := Interchange.importTo_ok hbody
  refine ⟨⟨summary, h⟩, fun hkeys x hx hkey => ?_, fun key hkey => ?_⟩
  · have hkeys₁ := (Database.edits_admitGenesisRoot hchain).keysDistinct hkeys
    exact (Interchange.importHistories_merged hkeys₁ hall).2 x
      (Interchange.mem_about.mpr ⟨hx, hkey⟩)
  · have hothers : ∀ x ∈ (d.about keys).data, x.key ≠ key := fun x hx heq =>
      hkey (heq ▸ (Interchange.mem_about.mp hx).2)
    rw [(Database.sameView_importHistories hothers hall).find?_eq, Database.find?, Database.find?,
      (Database.rows_admitGenesisRoot hchain).2]

/-- Registering and enabling keys is seen by no other. -/
theorem after_sameView {calls : List Call}
    (hcalls : ∀ x ∈ calls, ∃ other, key ≠ other ∧
      (x = .register [other] ∨ x = .setEnabled other true)) (e : Engine) :
    (e.after calls).SameView key e := by
  induction calls generalizing e with
  | nil => exact .refl key e
  | cons x rest ih =>
      obtain ⟨other, hother, hx⟩ := hcalls x List.mem_cons_self
      have hone : (e.perform x).2.SameView key e := by
        rcases hx with rfl | rfl
        · exact transact_sameView (Database.sameView_register (by simpa using hother) _)
        · exact transact_sameView (Database.sameView_setEnabled hother true _)
      exact (ih (fun y hy => hcalls y (List.mem_cons_of_mem x hy)) _).trans hone

end Engine

namespace Custody

variable {c : Custody} {m : KeyManager} {request : ImportRequest} {response : ImportResponse}
  {deposits : List Deposit}

/-! ## A request that is refused -/

theorem importHistory_refused {history : Option String} {keys : List SignerId}
    {fault : SigningError} (h : (c.importHistory history keys).1 = .error fault) :
    (c.importHistory history keys).2 = c := by
  unfold importHistory at h ⊢
  split
  · rename_i e text he
    rw [he] at h
    simp only at h
    split
    · rfl
    · rename_i document hdocument
      rw [hdocument] at h
      simp only at h
      cases hr : (e.importHistory (document.about keys)).1 with
      | ok summary =>
          rw [show (e.importHistory { document with data := _ }).1 = _ from hr] at h
          cases h
      | error cause =>
          show { c with protection := some (e.importHistory (document.about keys)).2 } = c
          rw [show (e.importHistory (document.about keys)).2 = e from Engine.transact_error hr,
            ← he]
  · rfl

/-- A request that is refused as a whole changes nothing. -/
theorem importKeys_refused {fault : SigningError} (h : (c.importKeys m request).1 = .error fault) :
    (c.importKeys m request).2 = c := by
  unfold importKeys at h ⊢
  cases hdeposits : request.deposits with
  | error cause => rfl
  | ok deposits =>
      cases deposits with
      | nil => rfl
      | cons d rest =>
          have hrefused : ∀ cause,
              (c.importHistory request.history ((d :: rest).map (·.key))).1 = .error cause →
              (c.importHistory request.history ((d :: rest).map (·.key))).2 = c :=
            fun _ => importHistory_refused
          simp only [hdeposits] at h ⊢
          generalize c.importHistory request.history _ = r at h hrefused ⊢
          obtain ⟨result, c₁⟩ := r
          cases result with
          | error cause => exact hrefused cause rfl
          | ok _ => cases h

/-! ## A request that is answered -/

theorem importHistory_taken {e e' : Engine} {text : String} {document : Interchange}
    {keys : List SignerId} {summary : ImportSummary} (he : c.protection = some e)
    (hdocument : Interchange.ofText text = .ok document)
    (h : e.importHistory (document.about keys) = (.ok summary, e')) :
    c.importHistory (some text) keys = (.ok (), { c with protection := some e' }) := by
  unfold Interchange.about at h
  simp only [importHistory, he, hdocument, h]
  rfl

/-- History that comes with a request is stored before anything else, as far as it is about
the keys of the request. -/
theorem stored_history {e : Engine} {text : String} (he : c.protection = some e)
    (htext : request.history = some text) (hdeposits : request.deposits = .ok deposits)
    (hne : deposits ≠ [])
    (h : (c.importHistory request.history (deposits.map (·.key))).1 = .ok ()) :
    ∃ document e', Interchange.ofText text = .ok document ∧
      c.stored request = { c with protection := some e' } ∧
      Engine.StoresAbout document (deposits.map (·.key)) e e' := by
  obtain ⟨d, rest, rfl⟩ := List.exists_cons_of_ne_nil hne
  unfold stored
  rw [hdeposits]
  simp only
  rw [htext] at h ⊢
  unfold importHistory at h ⊢
  simp only [he] at h ⊢
  cases hdocument : Interchange.ofText text with
  | error cause =>
      rw [hdocument] at h
      cases h
  | ok document =>
      simp only [hdocument] at h ⊢
      cases hr : e.importHistory (document.about ((d :: rest).map (·.key))) with
      | mk result e' =>
      rw [show e.importHistory { document with data := _ } = _ from hr] at h ⊢
      cases result with
      | error cause => cases h
      | ok summary => exact ⟨document, e', rfl, rfl, Engine.importHistory_stores hr⟩

/-- The account that an import gives, with what it did: one outcome for each keystore of the
request, in order, from where its history was stored to where it ended. -/
structure Account (c : Custody) (m : KeyManager) (request : ImportRequest)
    (response : ImportResponse) (deposits : List Deposit) : Prop where
  keystores : List.Forall₂ (fun text d => ImportRequest.readKeystore text = .ok (d.key, d.keystore))
    request.keystores deposits
  passwords : deposits.map (·.password) = request.passwords
  length_eq : response.data.length = request.keystores.length
  /-- No key is told to be taken in twice. -/
  once : (takenKeys deposits response.data).Nodup
  /-- A duplicate is a keystore of a key that was installed or taken in before. -/
  duplicate_iff : ∀ (n : Nat) d o, deposits[n]? = some d → response.data[n]? = some o →
    (o = .duplicate ↔
      c.snapshot.Has d.key ∨ d.key ∈ takenKeys (deposits.take n) response.data)
  installed_iff : ∀ key, (c.importKeys m request).2.snapshot.Has key ↔
    c.snapshot.Has key ∨ key ∈ takenKeys deposits response.data
  /-- When the history is stored, nothing is installed yet. -/
  beginning : (c.importing m request 0).registry = c.registry
  steps : ∀ (n : Nat) d o, deposits[n]? = some d → response.data[n]? = some o →
    ImportStep m (c.importing m request n) d o (c.importing m request (n + 1))
  ending : c.importing m request deposits.length = (c.importKeys m request).2
  nothing : deposits = [] → (c.importKeys m request).2 = c
  /-- The history of the keys of the request is stored, and of no other key anything changes. -/
  history : ∀ e text, c.protection = some e → request.history = some text → deposits ≠ [] →
    ∃ document e₀ e₁, Interchange.ofText text = .ok document ∧
      c.importing m request 0 = { c with protection := some e₀ } ∧
      Engine.StoresAbout document (deposits.map (·.key)) e e₀ ∧
      (c.importKeys m request).2.protection = some e₁ ∧
      ∀ key, key ∉ deposits.map (·.key) → e₁.database.find? key = e.database.find? key

/-- An import that is refused as a whole changes nothing: not the registry, not the files and
not slashing protection. Every other import gives an account of the request: an outcome for
each keystore in order, a key told to be taken in at most once, a duplicate exactly where the
key was installed before or taken in earlier in the request, and installed in the end exactly
what was before and what is told to be taken in. History that comes with it is stored for the
keys of the request only, and before any of them is newly installed. -/
theorem import_accounts (c : Custody) (m : KeyManager) (request : ImportRequest) :
    (∀ fault, (c.importKeys m request).1 = .error fault → (c.importKeys m request).2 = c) ∧
      ∀ response, (c.importKeys m request).1 = .ok response →
        ∃ deposits, request.deposits = .ok deposits ∧ c.Account m request response deposits := by
  refine ⟨fun fault => importKeys_refused, fun response hresponse => ?_⟩
  obtain ⟨deposits, hdeposits, hhistory, heach⟩ := importKeys_ok hresponse
  obtain ⟨hkeystores, hpasswords⟩ := ImportRequest.deposits_ok hdeposits
  have hkeys : ∀ d ∈ deposits, SignerId.parse d.keystore.publicKey = .ok d.key := fun d hd =>
    (ImportRequest.of_mem_deposits hdeposits hd).2
  have hdata : (importEach m c.snapshot.identifiers deposits (c.stored request)).1 =
      response.data := congrArg Prod.fst heach
  have hlast : (importEach m c.snapshot.identifiers deposits (c.stored request)).2 =
      (c.importKeys m request).2 := congrArg Prod.snd heach
  have hsame : (c.stored request).snapshot = c.snapshot :=
    congrArg Registry.snapshot (stored_registry c request)
  have hbeginning : c.importing m request 0 = c.stored request := by
    rw [importing_eq hdeposits, List.take_zero]
    rfl
  refine ⟨deposits, hdeposits, hkeystores, hpasswords, ?_, ?_, fun n d o hd ho => ?_, fun key => ?_,
    ?_, fun n d o => importing_step hdeposits hresponse, ?_, ?_, fun e text he htext hne => ?_⟩
  · rw [← hdata, importEach_length, hkeystores.length_eq]
  · rw [← hdata]
    exact (importEach_nodup ..).1
  · rw [← hdata] at ho ⊢
    rw [importEach_duplicate hd ho, Snapshot.mem_identifiers]
  · rw [← hlast, ← hdata, importEach_installed m hkeys, hsame]
  · rw [hbeginning, stored_registry]
  · rw [importing_eq hdeposits, List.take_length, hlast]
  · rintro rfl
    unfold importKeys
    rw [hdeposits]
  · obtain ⟨document, e₀, hdocument, hstored, hstores⟩ :=
      stored_history he htext hdeposits hne (hhistory hne)
    -- the keystores themselves register and enable their own keys only
    have hmoves : Moves (fun x => ∃ d ∈ deposits, x = .register [d.key] ∨
        x = .setEnabled d.key true) (c.stored request) (c.importKeys m request).2 := by
      rw [← hlast]
      exact importEach_moves (fun d hd => ⟨d, hd, .inl rfl⟩) fun d hd _ => ⟨d, hd, .inr rfl⟩
    obtain ⟨calls, hcalls, hprotection⟩ := hmoves.calls e₀ (by rw [hstored])
    refine ⟨document, e₀, _, hdocument, hbeginning.trans hstored, hstores, hprotection,
      fun key hkey => ?_⟩
    have hother : ∀ x ∈ calls, ∃ other, key ≠ other ∧
        (x = .register [other] ∨ x = .setEnabled other true) := by
      intro x hx
      obtain ⟨d, hd, hcall⟩ := hcalls x hx
      exact ⟨d.key, fun heq => hkey (heq ▸ List.mem_map_of_mem hd), hcall⟩
    exact (Engine.after_sameView hother e₀).database.find?_eq.trans (hstores.others key hkey)

/-! ## A keystore that comes twice -/

/-- No keys and no files, and slashing protection without history. -/
def freshCustody : Custody :=
  ⟨.empty, some (Engine.fresh 1), .empty⟩

/-- History of the key of the keystore and of another. -/
def twoHistories : Interchange :=
  ⟨Interchange.formatVersion, .fit 32 [9], [⟨⟨[1]⟩, [⟨7, none⟩], []⟩, ⟨⟨[2]⟩, [⟨5, none⟩], []⟩]⟩

/-- The keystore twice, with history. -/
def repeatedRequest : ImportRequest :=
  ⟨[plainKeystore.toText, plainKeystore.toText], ["pw", "x"], some twoHistories.toText⟩

/-- Slashing protection with the history of the key. -/
def withHistory : Custody :=
  ⟨.empty, some ((Engine.fresh 1).importHistory (twoHistories.about [⟨[1]⟩, ⟨[1]⟩])).2, .empty⟩

theorem deposits_repeatedRequest : repeatedRequest.deposits =
    .ok [⟨⟨[1]⟩, plainKeystore, "pw"⟩, ⟨⟨[1]⟩, plainKeystore, "x"⟩] := by
  unfold repeatedRequest ImportRequest.deposits
  simp only [List.mapM_cons, readKeystore_plainKeystore]
  rfl

/-- The keystore is told to be taken in once, and its history is stored before. -/
theorem repeatedRequest_accounts :
    freshCustody.Account rootManager repeatedRequest ⟨[.imported, .duplicate]⟩
      [⟨⟨[1]⟩, plainKeystore, "pw"⟩, ⟨⟨[1]⟩, plainKeystore, "x"⟩] := by
  have hdocument : Interchange.ofText twoHistories.toText = .ok twoHistories :=
    Interchange.ofText_toText (by simp [twoHistories, SignerId.valid_iff])
  have hresponse : (freshCustody.importKeys rootManager repeatedRequest).1 =
      .ok ⟨[.imported, .duplicate]⟩ := by
    have htaken : ((Engine.fresh 1).importHistory (twoHistories.about [⟨[1]⟩, ⟨[1]⟩])).1 =
        .ok ⟨1, 1, 0, 0, 0⟩ := by
      decide
    have hstored : freshCustody.importHistory (some twoHistories.toText) [⟨[1]⟩, ⟨[1]⟩] =
        (.ok (), withHistory) :=
      importHistory_taken rfl hdocument (Prod.ext htaken rfl)
    have hnone : withHistory.snapshot.identifiers = [] := rfl
    have houtcomes : (importEach rootManager [] [⟨⟨[1]⟩, plainKeystore, "pw"⟩,
        ⟨⟨[1]⟩, plainKeystore, "x"⟩] withHistory).1 = [.imported, .duplicate] := by
      decide +kernel
    rw [importKeys_stored deposits_repeatedRequest (List.cons_ne_nil _ _) hstored, hnone,
      houtcomes]
  obtain ⟨deposits, hdeposits, h⟩ := (import_accounts _ _ _).2 _ hresponse
  obtain rfl := Except.ok.inj (deposits_repeatedRequest.symm.trans hdeposits)
  exact h

end Custody

end RemoteSigner
