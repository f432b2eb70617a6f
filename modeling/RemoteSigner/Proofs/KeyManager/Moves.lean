import RemoteSigner.KeyManager.Delete
import RemoteSigner.Proofs.Keys.Loading
import RemoteSigner.Proofs.Signing.Custody

/-!
# What the key manager can do

Taking in and giving up keys changes keys in custody in two ways only: by calls to
slashing protection, and by changes to the registry, which stays as it is once it
is closed (`Custody.Moves`). There is one lemma for each flow, for any kind `p` of
calls that has the calls of the flow. Where a flow fails, the calls that fail count
for nothing (`protect_failed`), so that for a keystore that is not taken in its
key need not be enabled (`importEach_moves`).
-/

namespace RemoteSigner

namespace Registry

/-- A registry changes to another, which is itself if it is closed. -/
structure Follows (r r' : Registry) : Prop where
  isClosed_eq : r'.isClosed = r.isClosed
  frozen : r.isClosed = true → r' = r

variable {r r' : Registry}

theorem Follows.refl (r : Registry) : r.Follows r :=
  ⟨rfl, fun _ => rfl⟩

theorem Follows.trans {r'' : Registry} (h : r.Follows r') (h' : r'.Follows r'') : r.Follows r'' :=
  ⟨h'.isClosed_eq.trans h.isClosed_eq, fun hclosed =>
    (h'.frozen (h.isClosed_eq.trans hclosed)).trans (h.frozen hclosed)⟩

theorem change_follows {α : Type} (r : Registry) (f : Snapshot → α × Snapshot) :
    r.Follows (r.change f).2 := by
  unfold change
  split
  · exact .refl r
  · rename_i hopen
    exact ⟨rfl, fun hclosed => absurd hclosed hopen⟩

theorem addSigner_follows (r : Registry) (signer : Signer) : r.Follows (r.addSigner signer).2 :=
  change_follows r _

theorem removeSigner_follows (r : Registry) (id : SignerId) : r.Follows (r.removeSigner id).2 :=
  change_follows r _

theorem load_follows (r : Registry) (view : Option LoadView) : r.Follows (r.load view).2 := by
  cases hclosed : r.isClosed with
  | true =>
      have hr : (r.load view).2 = r := by simp [load, tryLoad, hclosed]
      rw [hr]
      exact .refl r
  | false =>
      refine ⟨?_, fun h => absurd (hclosed.symm.trans h) (by simp)⟩
      cases view with
      | none => simp [load, tryLoad, hclosed]
      | some view =>
          cases hl : view.listing with
          | ok listed => simp [load, tryLoad, hclosed, hl, absorb]
          | error fault => cases fault <;> simp [load, tryLoad, hclosed, hl]

/-- An open registry takes a signer. -/
theorem addSigner_ok (hopen : r.isClosed = false) (signer : Signer) :
    (r.addSigner signer).1 = .ok () := by
  simp [addSigner, change, hopen]

end Registry

namespace Custody

/-- Keys in custody change by calls of a kind to slashing protection, and by
changes to an open registry. -/
structure Moves (p : Engine.Call → Prop) (c c' : Custody) : Prop where
  calls : ∀ e, c.protection = some e →
    ∃ calls : List Engine.Call, (∀ x ∈ calls, p x) ∧ c'.protection = some (e.after calls)
  registry : c.registry.Follows c'.registry

variable {p : Engine.Call → Prop} {c c' : Custody} {m : KeyManager} {key : SignerId}

namespace Moves

/-- Slashing protection and a registry that follows are left as they are. -/
theorem of_registry (hp : c'.protection = c.protection) (hr : c.registry.Follows c'.registry) :
    Moves p c c' :=
  ⟨fun e he => ⟨[], by simp, hp.trans he⟩, hr⟩

theorem refl (c : Custody) : Moves p c c :=
  of_registry rfl (.refl _)

theorem trans {c'' : Custody} (h : Moves p c c') (h' : Moves p c' c'') : Moves p c c'' := by
  refine ⟨fun e he => ?_, h.registry.trans h'.registry⟩
  obtain ⟨xs, hxs, he'⟩ := h.calls e he
  obtain ⟨ys, hys, he''⟩ := h'.calls _ he'
  refine ⟨xs ++ ys, fun x hx => ?_, by rw [he'', Engine.after_append]⟩
  rcases List.mem_append.mp hx with hx | hx
  · exact hxs x hx
  · exact hys x hx

theorem withDisk (h : Moves p c c') (disk : Disk) : Moves p c { c' with disk := disk } :=
  ⟨h.calls, h.registry⟩

theorem withRegistry (h : Moves p c c') {registry : Registry}
    (hr : c'.registry.Follows registry) : Moves p c { c' with registry := registry } :=
  ⟨h.calls, h.registry.trans hr⟩

theorem call (h : Moves p c c') {e e' : Engine} {x : Engine.Call} (he : c'.protection = some e)
    (hx : p x) (heq : e' = (e.perform x).2) : Moves p c { c' with protection := some e' } := by
  refine h.trans ⟨fun e₁ he₁ => ⟨[x], by simpa using hx, ?_⟩, .refl _⟩
  obtain rfl := Option.some.inj (he.symm.trans he₁)
  exact congrArg some heq

end Moves

/-- An operation on slashing protection that does what a call does. -/
theorem protect_moves {α : Type} (c : Custody) (a : α) {f : Engine → Protected α × Engine}
    {x : Engine.Call} (hx : p x) (hf : ∀ e, (f e).2 = (e.perform x).2) :
    Moves p c (c.protect a f).2 := by
  unfold protect
  cases hc : c.protection with
  | none => exact .refl c
  | some e => exact (Moves.refl c).call hc hx (hf e)

/-- An operation that fails changes nothing. -/
theorem protect_failed {α : Type} {c : Custody} {a : α} {f : Engine → Protected α × Engine}
    {fault : ProtectionError} (hf : ∀ e, (f e).1 = .error fault → (f e).2 = e)
    (h : (c.protect a f).1 = .error fault) : (c.protect a f).2 = c := by
  unfold protect at h ⊢
  cases hc : c.protection with
  | none => rfl
  | some e =>
      rw [hc] at h
      show { c with protection := some (f e).2 } = c
      rw [hf e h, ← hc]

/-! ## Giving up keys -/

theorem deleteOne_moves (hoff : p (.setEnabled key false)) (c : Custody) :
    Moves p c (c.deleteOne m key).2 := by
  have hremoved := Registry.removeSigner_follows c.registry key
  unfold deleteOne
  generalize c.registry.removeSigner key = r at hremoved ⊢
  obtain ⟨result, registry⟩ := r
  have hmoved : Moves p c { c with registry := registry } := (Moves.refl c).withRegistry hremoved
  cases result with
  | error fault => exact hmoved
  | ok found =>
      have hdisabled := hmoved.trans (protect_moves { c with registry := registry } true
        (f := fun e => e.setEnabled key false) hoff fun _ => rfl)
      simp only
      generalize Custody.protect _ true _ = r at hdisabled ⊢
      obtain ⟨result, c₁⟩ := r
      cases result with
      | error fault => exact hdisabled
      | ok known =>
          simp only
          split <;> exact hdisabled.withDisk _

theorem deleteEntry_moves (hoff : ∀ key, p (.setEnabled key false)) (c : Custody)
    (entry : String) : Moves p c (c.deleteEntry m entry).2 := by
  unfold deleteEntry
  cases SignerId.parse entry with
  | error fault => exact .refl c
  | ok key =>
      have hone := deleteOne_moves (m := m) (hoff key) c
      simp only
      split
      · exact .refl c
      · generalize c.deleteOne m key = r at hone ⊢
        obtain ⟨result, c₁⟩ := r
        cases result <;> exact hone

theorem deleteEach_moves (hoff : ∀ key, p (.setEnabled key false)) (entries : List String)
    (c : Custody) : Moves p c (deleteEach m entries c).2 := by
  induction entries generalizing c with
  | nil => exact .refl c
  | cons entry rest ih => exact (deleteEntry_moves hoff c entry).trans (ih _)

/-- The keys after a deletion: history is handed over after the last entry. -/
theorem deleteKeys_left (c : Custody) (m : KeyManager) (request : DeleteRequest) :
    (c.deleteKeys m request).2 =
      let (steps, c) := deleteEach m request.publicKeys c
      { c with protection := c.protection.map fun e =>
          (e.exportHistory (some (steps.filterMap (·.handedOver?)))).2 } := by
  unfold deleteKeys
  generalize deleteEach m request.publicKeys c = r
  obtain ⟨steps, registry, protection, disk⟩ := r
  cases protection with
  | none => rfl
  | some e =>
      simp only [Option.map_some]
      split <;> rfl

theorem deleteKeys_moves (hoff : ∀ key, p (.setEnabled key false))
    (hexport : ∀ filter, p (.exportHistory filter)) (c : Custody) (request : DeleteRequest) :
    Moves p c (c.deleteKeys m request).2 := by
  have heach := deleteEach_moves (m := m) hoff request.publicKeys c
  rw [deleteKeys_left]
  generalize deleteEach m request.publicKeys c = r at heach ⊢
  obtain ⟨steps, registry, protection, disk⟩ := r
  cases protection with
  | none => exact heach
  | some e => exact heach.call rfl (hexport _) rfl

/-! ## Taking in keys -/

theorem importHistory_moves (himport : ∀ d, p (.importHistory d)) (c : Custody)
    (history : Option String) (keys : List SignerId) :
    Moves p c (c.importHistory history keys).2 := by
  unfold importHistory
  split
  · rename_i he
    split
    · exact .refl c
    · exact (Moves.refl c).call he (himport _) rfl
  · exact .refl c

theorem importHistory_registry (c : Custody) (history : Option String) (keys : List SignerId) :
    (c.importHistory history keys).2.registry = c.registry := by
  unfold importHistory
  split
  · split <;> rfl
  · rfl

/-- Enabling a key that fails does not enable it. -/
theorem enable_moves (hreg : p (.register [key]))
    (hon : (c.enable key).1 = .ok () → p (.setEnabled key true)) : Moves p c (c.enable key).2 := by
  have hregistered : Moves p c (c.protect () fun e => e.register [key]).2 :=
    protect_moves c () hreg fun _ => rfl
  unfold enable at hon ⊢
  generalize Custody.protect c () _ = r at hregistered hon ⊢
  obtain ⟨result, c₁⟩ := r
  cases result with
  | error fault => exact hregistered
  | ok _ =>
      have hfailed : ∀ fault, (c₁.protect true fun e => e.setEnabled key true).1 = .error fault →
          (c₁.protect true fun e => e.setEnabled key true).2 = c₁ :=
        fun _ => protect_failed fun _ => Engine.transact_error
      have henabled := fun hx => protect_moves (p := p) (x := .setEnabled key true) c₁ true
        (f := fun e => e.setEnabled key true) hx fun _ => rfl
      simp only at hon ⊢
      generalize Custody.protect c₁ true _ = r at hfailed henabled hon ⊢
      obtain ⟨result, c₂⟩ := r
      cases result with
      | error fault =>
          obtain rfl := hfailed fault rfl
          exact hregistered
      | ok _ => exact hregistered.trans (henabled (hon rfl))

theorem enable_follows (c : Custody) (key : SignerId) :
    c.registry.Follows (c.enable key).2.registry :=
  (enable_moves (p := fun _ => True) trivial fun _ => trivial).registry

variable {d : Deposit}

/-- The key of a keystore need be enabled only if the keystore is taken in or the
registry is closed. -/
theorem importOne_moves (hreg : p (.register [d.key]))
    (hon : c.registry.isClosed = true ∨ (c.importOne m d).1 = .ok () →
      p (.setEnabled d.key true)) : Moves p c (c.importOne m d).2 := by
  unfold importOne at hon ⊢
  cases hs : d.keystore.toSigner m.suite d.password .bls with
  | error fault => exact .refl c
  | ok signer =>
      simp only [hs] at hon ⊢
      generalize KeystoreFiles.write m.medium m.directory d.key d.keystore d.password .bls c.disk =
        w at hon ⊢
      obtain ⟨written, disk⟩ := w
      have hwritten : Moves p c { c with disk := disk } := (Moves.refl c).withDisk disk
      cases written with
      | error fault => exact hwritten
      | ok _ =>
          have henabled := fun hx => hwritten.trans
            (enable_moves (c := { c with disk := disk }) hreg hx)
          have hfollows := (enable_follows { c with disk := disk } d.key).isClosed_eq
          simp only at hon hfollows ⊢
          generalize Custody.enable _ d.key = r at henabled hfollows hon ⊢
          obtain ⟨result, c₁⟩ := r
          cases result with
          | error fault => exact henabled fun h => by cases h
          | ok _ =>
              have hadded := Registry.addSigner_follows c₁.registry signer
              have htaken := fun hopen => Registry.addSigner_ok (r := c₁.registry) hopen signer
              simp only at hon ⊢
              generalize c₁.registry.addSigner signer = r at hadded htaken hon ⊢
              obtain ⟨result, registry⟩ := r
              cases result with
              | ok _ => exact (henabled fun _ => hon (.inr rfl)).withRegistry hadded
              | error fault =>
                  -- only a closed registry takes no signer
                  have hclosed : c.registry.isClosed = true := by
                    by_contra hopen
                    cases htaken (hfollows.trans (by simpa using hopen))
                  exact ((henabled fun _ => hon (.inl hclosed)).withRegistry hadded).withDisk _

theorem importOne_follows (c : Custody) (m : KeyManager) (d : Deposit) :
    c.registry.Follows (c.importOne m d).2.registry :=
  (importOne_moves (p := fun _ => True) trivial fun _ => trivial).registry

/-- Keystores are taken in one after another. A key need be enabled only if one of
its keystores is taken in, or it is not installed and the registry is closed. -/
theorem importEach_moves {deposits : List Deposit} (hreg : ∀ d ∈ deposits, p (.register [d.key]))
    {seen : List SignerId} {c : Custody}
    (hon : ∀ d ∈ deposits, (d.key ∉ seen ∧ c.registry.isClosed = true) ∨
      (d, ImportOutcome.imported) ∈ deposits.zip (importEach m seen deposits c).1 →
        p (.setEnabled d.key true)) : Moves p c (importEach m seen deposits c).2 := by
  induction deposits generalizing seen c with
  | nil => exact .refl c
  | cons d rest ih =>
      have hrest := fun x hx => hon x (List.mem_cons_of_mem d hx)
      have hlater := fun x hx => hreg x (List.mem_cons_of_mem d hx)
      by_cases hseen : d.key ∈ seen
      · have hstep : importEach m seen (d :: rest) c =
            (.duplicate :: (importEach m seen rest c).1, (importEach m seen rest c).2) := by
          simp [importEach, hseen]
        rw [hstep] at hrest ⊢
        exact ih hlater fun x hx h => hrest x hx (h.imp_right (List.mem_cons_of_mem _))
      · have hfollows := (importOne_follows c m d).isClosed_eq
        have hmoved := importOne_moves (m := m) (c := c) (hreg d List.mem_cons_self)
        generalize hr : c.importOne m d = r at hmoved hfollows
        obtain ⟨result, c₁⟩ := r
        cases result with
        | error fault =>
            have hstep : importEach m seen (d :: rest) c =
                (.failed ("error importing keystore: " ++ fault.message) ::
                  (importEach m seen rest c₁).1, (importEach m seen rest c₁).2) := by
              simp [importEach, hseen, hr]
            have hone : Moves p c c₁ := hmoved fun h =>
              hon d List.mem_cons_self (.inl ⟨hseen, h.resolve_right (by simp)⟩)
            rw [hstep] at hrest ⊢
            refine hone.trans (ih hlater fun x hx h => hrest x hx ?_)
            exact h.imp (fun h => ⟨h.1, hfollows ▸ h.2⟩) (List.mem_cons_of_mem _)
        | ok _ =>
            have hstep : importEach m seen (d :: rest) c =
                (.imported :: (importEach m (d.key :: seen) rest c₁).1,
                  (importEach m (d.key :: seen) rest c₁).2) := by
              simp [importEach, hseen, hr]
            rw [hstep] at hon hrest ⊢
            have hone : Moves p c c₁ := hmoved fun _ =>
              hon d List.mem_cons_self (.inr List.mem_cons_self)
            refine hone.trans (ih hlater fun x hx h => hrest x hx ?_)
            exact h.imp (fun h => ⟨fun hx => h.1 (List.mem_cons_of_mem _ hx), hfollows ▸ h.2⟩)
              (List.mem_cons_of_mem _)

/-- The keys whose keystores a request is told were taken in. -/
def importedKeys (c : Custody) (m : KeyManager) (request : ImportRequest) : List SignerId :=
  match request.deposits, (c.importKeys m request).1 with
  | .ok deposits, .ok response =>
      ((deposits.zip response.data).filter (·.2 = .imported)).map (·.1.key)
  | _, _ => []

/-- A key need be enabled only if the request is told so, or it is not installed
and the registry is closed. -/
theorem importKeys_moves (himport : ∀ d, p (.importHistory d))
    (hreg : ∀ key, p (.register [key])) {request : ImportRequest}
    (hon : ∀ key, (¬ c.snapshot.Has key ∧ c.registry.isClosed = true) ∨
      key ∈ c.importedKeys m request → p (.setEnabled key true)) :
    Moves p c (c.importKeys m request).2 := by
  unfold importedKeys at hon
  unfold importKeys at hon ⊢
  cases hd : request.deposits with
  | error fault => exact .refl c
  | ok deposits =>
      cases deposits with
      | nil => exact .refl c
      | cons d rest =>
          have hstored := importHistory_moves himport c request.history ((d :: rest).map (·.key))
          have hregistry := importHistory_registry c request.history ((d :: rest).map (·.key))
          simp only [hd] at hon ⊢
          generalize c.importHistory request.history _ = r at hstored hregistry hon ⊢
          obtain ⟨result, c₁⟩ := r
          cases result with
          | error fault => exact hstored
          | ok _ =>
              refine hstored.trans (importEach_moves (fun x _ => hreg x.key) fun x _ h =>
                hon x.key (h.imp ?_ ?_))
              · rintro ⟨hnew, hclosed⟩
                rw [Snapshot.mem_identifiers] at hnew
                unfold snapshot at hnew ⊢
                rw [hregistry] at hnew hclosed
                exact ⟨hnew, hclosed⟩
              · intro htaken
                exact List.mem_map.mpr ⟨_, List.mem_filter.mpr ⟨htaken, by simp⟩, rfl⟩

end Custody

end RemoteSigner
