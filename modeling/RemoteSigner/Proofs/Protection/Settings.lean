import RemoteSigner.Proofs.Protection.Enabling
import RemoteSigner.Proofs.Protection.Slashing

/-!
# Each setting has one writer

The genesis root and the ceiling share the row of metadata, and a call writes at most one of
them: `Engine.perform_metadata` says what any call does to that row.

* a genesis root is stored by a check or a document, where there was none, and stays
  (`after_genesisRoot`, `genesisRoot_after`);
* whatever is accepted or taken in afterwards was meant for that chain (`trace_admitted`);
* the ceiling is written by the calls that set and remove it, and by no other
  (`after_ceiling`), and these write nothing else (`after_setsCeiling`);
* rows stay, and no call but `setEnabled` writes whether a validator is enabled
  (`after_enabled`, `trace_disabled`).

`settings_single_writer` puts them together for every run from an empty database.
-/

namespace RemoteSigner

/-- A successful run leaves the metadata as they were. -/
def Operation.KeepsMetadata {α : Type} (body : Operation α) : Prop :=
  ∀ ⦃db db' : Database⦄ ⦃a : α⦄, body db = .ok (a, db') → db'.metadata = db.metadata

theorem Operation.Reads.keepsMetadata {α : Type} {body : Operation α} (hread : body.Reads) :
    body.KeepsMetadata :=
  fun _ _ _ hr => by rw [hread hr]

namespace Database

variable {db db' : Database} {key : SignerId} {root : Root}

/-! ## The row of metadata -/

/-- A chain that is admitted leaves the metadata alone, or stores its root where there was
none. -/
def Admitted (root : Root) (db db' : Database) : Prop :=
  db'.metadata = db.metadata ∨
    db.genesisRoot? = none ∧ db'.metadata = (db.storeGenesisRoot root).metadata

theorem admitted_admitGenesisRoot {admitted : Bool}
    (h : db.admitGenesisRoot root = (admitted, db')) : Admitted root db db' := by
  unfold admitGenesisRoot at h
  split at h
  · obtain ⟨_, rfl⟩ := Prod.mk.inj h
    exact .inl rfl
  · rename_i hnone
    obtain ⟨_, rfl⟩ := Prod.mk.inj h
    exact .inr ⟨hnone, rfl⟩

theorem Admitted.of_metadata_eq {db'' : Database} (h : Admitted root db db')
    (heq : db''.metadata = db'.metadata) : Admitted root db db'' := by
  unfold Admitted
  rw [heq]
  exact h

theorem admitted_checked {check : HighWatermark → Validator → Protected (Decision × Validator)}
    {d : Decision} (h : checked key root check db = .ok (d, db')) : Admitted root db db' := by
  rcases checked_ok h with ⟨_, hchain | ⟨db₁, hchain, rfl⟩⟩ | ⟨db₁, _, v, hchain, _, _, _, rfl⟩
  · exact admitted_admitGenesisRoot hchain
  · exact (admitted_admitGenesisRoot hchain).of_metadata_eq (metadata_put _)
  · exact (admitted_admitGenesisRoot hchain).of_metadata_eq (metadata_put v)

/-- The ceiling is no part of what storing a root writes. -/
theorem highWatermark_storeGenesisRoot (db : Database) (root : Root) :
    (db.storeGenesisRoot root).highWatermark = db.highWatermark := by
  unfold highWatermark storeGenesisRoot
  cases db.metadata <;> rfl

theorem keepsMetadata_register (keys : List SignerId) :
    Operation.KeepsMetadata (register keys) := by
  intro db db' _ hr
  obtain ⟨_, rfl⟩ := Prod.mk.inj (Except.ok.inj hr)
  clear hr
  induction keys generalizing db with
  | nil => rfl
  | cons key rest ih => exact ih.trans (metadata_ensure db key)

theorem keepsMetadata_setEnabled (key : SignerId) (enabled : Bool) :
    Operation.KeepsMetadata (setEnabled key enabled) := by
  intro db db' _ hr
  obtain ⟨_, rfl⟩ := Prod.mk.inj (Except.ok.inj hr)
  rfl

theorem keepsMetadata_raiseLow (slot : Option Slot) (epoch : Option Epoch) :
    Operation.KeepsMetadata (raiseLow slot epoch) := by
  intro db db' _ hr
  unfold raiseLow at hr
  split at hr
  · obtain ⟨_, rfl⟩ := Prod.mk.inj (Except.ok.inj hr)
    rfl
  · obtain ⟨s, _, hr⟩ := bind_eq_ok.mp hr
    obtain ⟨e, _, hr⟩ := bind_eq_ok.mp hr
    obtain ⟨_, rfl⟩ := Prod.mk.inj (pure_eq_ok.mp hr)
    rfl

/-- Replacing the ceiling leaves the genesis root, also where there is no row yet. -/
theorem genesisRoot?_replaceHigh {high : HighWatermark} {a : Unit}
    (hr : replaceHigh high db = .ok (a, db')) : db'.genesisRoot? = db.genesisRoot? := by
  obtain ⟨u, hu, hr⟩ := bind_eq_ok.mp hr
  obtain ⟨_, rfl⟩ := Prod.mk.inj (pure_eq_ok.mp hr)
  obtain ⟨slot, _, hu⟩ := bind_eq_ok.mp hu
  obtain ⟨epoch, _, hu⟩ := bind_eq_ok.mp hu
  obtain rfl := pure_eq_ok.mp hu
  unfold genesisRoot?
  cases db.metadata <;> rfl

end Database

theorem Interchange.metadata_importHistories {hs : List History} {db db' : Database}
    {summary : ImportSummary} (hr : importHistories hs db = .ok (summary, db')) :
    db'.metadata = db.metadata := by
  induction hs generalizing db summary with
  | nil =>
      obtain ⟨_, rfl⟩ := Prod.mk.inj (Except.ok.inj hr)
      rfl
  | cons x rest ih =>
      obtain ⟨⟨first, db₁⟩, hfirst, hr⟩ := bind_eq_ok.mp hr
      obtain ⟨⟨others, db₂⟩, hrest, hr⟩ := bind_eq_ok.mp hr
      obtain ⟨_, rfl⟩ := Prod.mk.inj (pure_eq_ok.mp hr)
      obtain ⟨v, _, rfl⟩ := Database.withValidator_ok hfirst
      rw [ih hrest, Database.metadata_put]

namespace Engine

open Database

variable {e : Engine} {c : Call} {root : Root} {key : SignerId}

/-! ## What a call writes -/

/-- The genesis root that a call brings: a check that of its chain, a document its own. -/
def Call.chain? : Call → Option Root
  | .block _ _ root | .attest _ _ root => some root
  | .importHistory d => some d.genesisRoot
  | _ => none

/-- Whether a call sets or removes the ceiling. -/
def Call.SetsCeiling : Call → Prop
  | .setHighWatermark _ | .removeHighWatermark => True
  | _ => False

/-- What a call does to the metadata. -/
inductive Wrote (c : Call) (db db' : Database) : Prop
  | nothing (h : db'.metadata = db.metadata)
  | root (root : Root) (hchain : c.chain? = some root) (hnone : db.genesisRoot? = none)
      (h : db'.metadata = (db.storeGenesisRoot root).metadata)
  | ceiling (hsets : c.SetsCeiling) (h : db'.genesisRoot? = db.genesisRoot?)

theorem Wrote.of_admitted {db db' : Database} (hchain : c.chain? = some root)
    (h : Admitted root db db') : Wrote c db db' := by
  rcases h with h | ⟨hnone, h⟩
  · exact .nothing h
  · exact .root root hchain hnone h

/-- What an operation writes if it succeeds, a call of it writes at most. -/
theorem transact_wrote {α : Type} {body : Operation α}
    (h : ∀ a db, body e.database = .ok (a, db) → Wrote c e.database db) :
    Wrote c e.database (e.transact body).2.database := by
  rcases transact_cases e body with ⟨_, hf⟩ | ⟨a, db, hr, hok⟩
  · rw [hf]
    exact .nothing rfl
  · rw [hok]
    exact h a db hr

theorem transact_wrote_nothing {α : Type} {body : Operation α} (h : body.KeepsMetadata) :
    Wrote c e.database (e.transact body).2.database :=
  transact_wrote fun _ _ hr => .nothing (h hr)

theorem transact_wrote_checked
    {check : HighWatermark → Validator → Protected (Decision × Validator)}
    (hchain : c.chain? = some root) :
    Wrote c e.database (e.transact (checked key root check)).2.database :=
  transact_wrote fun _ _ hr => .of_admitted hchain (admitted_checked hr)

/-- A call writes nothing of the metadata, or a root where there was none, or the ceiling. -/
theorem perform_metadata (h : e.database.Sound) (c : Call) :
    Wrote c e.database (e.perform c).2.database := by
  cases c with
  | block key' request root => exact transact_wrote_checked rfl
  | attest key' request root => exact transact_wrote_checked rfl
  | register keys =>
      show Wrote _ _ (e.register keys).2.database
      unfold register
      split
      · exact .nothing rfl
      · exact transact_wrote_nothing (keepsMetadata_register keys)
  | setEnabled other enabled =>
      exact transact_wrote_nothing (keepsMetadata_setEnabled other enabled)
  | raiseLow slot epoch =>
      show Wrote _ _ (e.raiseLow slot epoch).2.database
      unfold raiseLow
      split
      · exact .nothing rfl
      · exact transact_wrote_nothing (keepsMetadata_raiseLow slot epoch)
  | highWatermark => exact transact_wrote_nothing reads_readHigh.keepsMetadata
  | setHighWatermark high =>
      show Wrote _ _ (e.setHighWatermark high).2.database
      unfold setHighWatermark
      split
      · exact .nothing rfl
      · exact transact_wrote fun _ _ hr => .ceiling trivial (genesisRoot?_replaceHigh hr)
  | removeHighWatermark =>
      exact transact_wrote fun _ _ hr => .ceiling trivial (genesisRoot?_replaceHigh hr)
  | exportHistory filter => exact transact_wrote_nothing (reads_readHistory filter).keepsMetadata
  | importHistory d =>
      refine transact_wrote fun _ _ hr => ?_
      obtain ⟨db₁, hchain, hr⟩ := Interchange.importTo_ok hr
      refine .of_admitted rfl ((admitted_admitGenesisRoot hchain).of_metadata_eq ?_)
      exact Interchange.metadata_importHistories hr
  | prune config => exact .nothing (prune_twins (K := anyKey) h config).database.metadata_eq.symm
  | pruneOne config other =>
      exact .nothing
        (transact_pruneOne_twins (K := anyKey) h config other).database.metadata_eq.symm
  | lock held => exact .nothing rfl

/-! ## The genesis root -/

/-- A genesis root that is stored after a run was stored before it or brought by one of its
calls. -/
theorem after_genesisRoot (h : e.database.Sound) {calls : List Call}
    (hroot : (e.after calls).database.genesisRoot? = some root) :
    e.database.genesisRoot? = some root ∨ ∃ c ∈ calls, c.chain? = some root := by
  induction calls generalizing e with
  | nil => exact .inl hroot
  | cons c rest ih =>
      rcases ih (perform_step h c).1 hroot with hone | ⟨d, hd, hchain⟩
      · cases perform_metadata h c with
        | nothing hsame => exact .inl ((genesisRoot?_congr hsame).symm.trans hone)
        | root stored hchain _ hstored =>
            have hnew := (genesisRoot?_congr hstored).symm.trans hone
            obtain rfl : stored = root := Option.some.inj hnew
            exact .inr ⟨c, List.mem_cons_self, hchain⟩
        | ceiling _ hsame => exact .inl (hsame.symm.trans hone)
      · exact .inr ⟨d, List.mem_cons_of_mem c hd, hchain⟩

/-- A genesis root that is stored stays. -/
theorem genesisRoot_after (h : e.database.Sound) (hroot : e.database.genesisRoot? = some root)
    (calls : List Call) : (e.after calls).database.genesisRoot? = some root :=
  (after_step h calls).2.genesisRoot root hroot

/-- The genesis root for which a check was accepted or a document taken in. -/
def admitted? : Entry → Option Root
  | (.block _ _ root, .ok (.decision (.accept _))) => some root
  | (.attest _ _ root, .ok (.decision (.accept _))) => some root
  | (.importHistory d, .ok _) => some d.genesisRoot
  | _ => none

theorem transact_checked_accept
    {check : HighWatermark → Validator → Protected (Decision × Validator)} {record : Bool}
    (hr : (answer .decision (e.transact (checked key root check))).1 =
      .ok (.decision (.accept record))) :
    (e.transact (checked key root check)).2.database.genesisRoot? = some root := by
  obtain ⟨d, db, hd, hbody, hdb⟩ := answer_transact_ok hr
  obtain rfl := Answer.decision.inj hd
  change (e.transact (checked key root check)).2 = _ at hdb
  rw [hdb]
  rcases checked_ok hbody with ⟨⟨_, hreject⟩, _⟩ | ⟨db₁, _, v, hchain, _, _, _, rfl⟩
  · cases hreject
  · rw [genesisRoot?_congr (metadata_put v), genesisRoot_admitted hchain]

/-- The root for which a call was let through is stored afterwards. -/
theorem perform_admitted (h : e.database.Sound)
    (hc : admitted? (c, (e.perform c).1) = some root) :
    (e.perform c).2.database.genesisRoot? = some root := by
  unfold admitted? at hc
  split at hc
  case h_1 heq | h_2 heq =>
      obtain ⟨rfl, hans⟩ := Prod.mk.inj heq
      obtain rfl := Option.some.inj hc
      exact transact_checked_accept hans
  case h_3 d a heq =>
      obtain ⟨rfl, hans⟩ := Prod.mk.inj heq
      obtain rfl := Option.some.inj hc
      obtain ⟨summary, db, _, hbody, hdb⟩ := answer_transact_ok hans
      show (answer Answer.imported (e.importHistory d)).2.database.genesisRoot? = _
      rw [importHistory, hdb]
      exact Interchange.importTo_genesisRoot h hbody
  case h_4 => cases hc

/-- Once a genesis root is stored, all that is accepted or taken in was meant for that
chain. -/
theorem trace_admitted (h : e.database.Sound) (hroot : e.database.genesisRoot? = some root)
    {calls : List Call} {x : Entry} (hx : x ∈ e.trace calls) {other : Root}
    (hother : admitted? x = some other) : other = root := by
  induction calls generalizing e with
  | nil => cases hx
  | cons c rest ih =>
      have hone : (e.perform c).2.database.genesisRoot? = some root :=
        genesisRoot_after h hroot [c]
      rcases List.mem_cons.mp hx with rfl | hx
      · exact Option.some.inj ((perform_admitted h hother).symm.trans hone)
      · exact ih (perform_step h c).1 hone hx

/-! ## The ceiling -/

/-- The ceiling is that of before, where no call set or removed it. -/
theorem after_ceiling (h : e.database.Sound) {calls : List Call}
    (hcalls : ∀ c ∈ calls, ¬ c.SetsCeiling) :
    (e.after calls).database.highWatermark = e.database.highWatermark := by
  induction calls generalizing e with
  | nil => rfl
  | cons c rest ih =>
      have hrest := ih (perform_step h c).1 fun d hd => hcalls d (List.mem_cons_of_mem c hd)
      refine hrest.trans ?_
      cases perform_metadata h c with
      | nothing hsame => exact highWatermark_congr hsame
      | root stored _ _ hstored =>
          rw [highWatermark_congr hstored, highWatermark_storeGenesisRoot]
      | ceiling hsets _ => exact absurd hsets (hcalls c List.mem_cons_self)

/-- Setting and removing the ceiling neither stores a genesis root nor changes one. -/
theorem after_setsCeiling (h : e.database.Sound) {calls : List Call}
    (hcalls : ∀ c ∈ calls, c.SetsCeiling) :
    (e.after calls).database.genesisRoot? = e.database.genesisRoot? := by
  induction calls generalizing e with
  | nil => rfl
  | cons c rest ih =>
      have hrest := ih (perform_step h c).1 fun d hd => hcalls d (List.mem_cons_of_mem c hd)
      refine hrest.trans ?_
      have hsets := hcalls c List.mem_cons_self
      cases perform_metadata h c with
      | nothing hsame => exact genesisRoot?_congr hsame
      -- no call that sets the ceiling brings a root
      | root stored hchain _ _ =>
          cases c <;> first | exact hsets.elim | cases hchain
      | ceiling _ hsame => exact hsame

/-! ## Validators -/

/-- Enabling or disabling one validator leaves the others. -/
theorem row_setEnabled {other : SignerId} (hother : other ≠ key) (enabled : Bool) :
    (e.setEnabled other enabled).2.database.row key = e.database.row key := by
  unfold setEnabled
  rcases transact_cases e (Database.setEnabled other enabled) with ⟨_, hf⟩ | ⟨_, db, hr, hok⟩
  · rw [hf]
  · rw [hok]
    obtain ⟨_, rfl⟩ := Prod.mk.inj (Except.ok.inj hr)
    rw [row, row, find?_setEnabled]
    cases hv : e.database.find? key with
    | none => rfl
    | some v =>
        have hkey : v.key ≠ other := fun heq => hother (heq.symm.trans (find?_mem hv).2)
        rw [Option.map_some, if_neg (by simpa using hkey)]

/-- A validator is enabled after a run as before it, if no call of the run writes that. -/
theorem after_enabled (h : e.database.Sound) {calls : List Call}
    (hcalls : ∀ enabled, Call.setEnabled key enabled ∉ calls) :
    ((e.after calls).database.row key).enabled = (e.database.row key).enabled := by
  induction calls generalizing e with
  | nil => rfl
  | cons c rest ih =>
      have hrest := ih (perform_step h c).1 fun enabled hmem =>
        hcalls enabled (List.mem_cons_of_mem c hmem)
      refine hrest.trans ?_
      by_cases hset : ∃ other enabled, c = .setEnabled other enabled
      · obtain ⟨other, enabled, rfl⟩ := hset
        have hother : other ≠ key := fun heq => hcalls enabled (heq ▸ List.mem_cons_self)
        exact congrArg Validator.enabled (row_setEnabled hother enabled)
      · exact perform_enabled h (fun other enabled heq => hset ⟨other, enabled, heq⟩) key

/-- No check of a disabled validator answers that it accepts. -/
theorem Disabled.not_accept (hoff : e.Disabled key)
    {check : HighWatermark → Validator → Protected (Decision × Validator)} {record : Bool} :
    (answer .decision (e.transact (checked key root check))).1 ≠
      .ok (.decision (.accept record)) := by
  intro hans
  obtain ⟨d, _, hd, hbody, _⟩ := answer_transact_ok hans
  obtain ⟨reason, rfl⟩ := checked_disabled hoff hbody
  cases hd

/-- Nothing is accepted for a disabled validator in a run that does not enable it. -/
theorem trace_disabled (h : e.database.Sound) (hoff : e.Disabled key) {calls : List Call}
    (hcalls : Call.setEnabled key true ∉ calls) :
    (∀ r, ¬ AcceptedBlock (e.trace calls) key r) ∧ ∀ r, ¬ AcceptedVote (e.trace calls) key r := by
  induction calls generalizing e with
  | nil => exact ⟨fun _ ⟨_, _, hmem⟩ => (by cases hmem), fun _ ⟨_, _, hmem⟩ => (by cases hmem)⟩
  | cons c rest ih =>
      obtain ⟨hblocks, hvotes⟩ := ih (perform_step h c).1
        (perform_disabled h hoff fun heq => hcalls (heq ▸ List.mem_cons_self))
        fun hmem => hcalls (List.mem_cons_of_mem c hmem)
      constructor
      · rintro r ⟨root, record, hmem⟩
        rcases List.mem_cons.mp hmem with heq | hmem
        · obtain ⟨rfl, hans⟩ := Prod.mk.inj heq
          exact hoff.not_accept hans.symm
        · exact hblocks r ⟨root, record, hmem⟩
      · rintro r ⟨root, record, hmem⟩
        rcases List.mem_cons.mp hmem with heq | hmem
        · obtain ⟨rfl, hans⟩ := Prod.mk.inj heq
          exact hoff.not_accept hans.symm
        · exact hvotes r ⟨root, record, hmem⟩

/-! ## All settings -/

/-- From whatever state calls on an empty database lead to, along any further calls: a stored
genesis root stays, and all that is accepted or taken in was meant for it; one that is new was
brought by a check or a document. The ceiling is changed only by the calls that set and remove
it, and those leave the genesis root, stored or not. Every validator keeps its row; it stays
enabled or disabled unless it is set, and until it is enabled nothing is accepted for it. -/
theorem settings_single_writer (maxAttempts : Nat) (before calls : List Call) :
    let e := (fresh maxAttempts).after before
    let e' := e.after calls
    (∀ root, e.database.genesisRoot? = some root → e'.database.genesisRoot? = some root ∧
      ∀ x ∈ e.trace calls, ∀ other, admitted? x = some other → other = root) ∧
    (∀ root, e'.database.genesisRoot? = some root →
      e.database.genesisRoot? = some root ∨ ∃ c ∈ calls, c.chain? = some root) ∧
    ((∀ c ∈ calls, ¬ c.SetsCeiling) → e'.database.highWatermark = e.database.highWatermark) ∧
    ((∀ c ∈ calls, c.SetsCeiling) → e'.database.genesisRoot? = e.database.genesisRoot?) ∧
    ∀ v ∈ e.database.validators, ∃ v' ∈ e'.database.validators, v'.key = v.key ∧
      ((∀ enabled, Call.setEnabled v.key enabled ∉ calls) → v'.enabled = v.enabled) ∧
      (v.enabled = false → Call.setEnabled v.key true ∉ calls → v'.enabled = false ∧
        (∀ r, ¬ AcceptedBlock (e.trace calls) v.key r) ∧
        ∀ r, ¬ AcceptedVote (e.trace calls) v.key r) := by
  intro e e'
  have he : e.database.Sound := sound_after_fresh maxAttempts before
  refine ⟨fun root hroot => ⟨genesisRoot_after he hroot calls, fun x hx other hother =>
    trace_admitted he hroot hx hother⟩, fun root => after_genesisRoot he, after_ceiling he,
    after_setsCeiling he, fun v hv => ?_⟩
  have hfound := he.find?_eq hv
  obtain ⟨v', hv'⟩ := Option.isSome_iff_exists.mp
    ((after_step he calls).2.kept v.key (by rw [hfound]; rfl))
  refine ⟨v', (find?_mem hv').1, (find?_mem hv').2, fun hcalls => ?_, fun hoff hcalls => ?_⟩
  · have henabled := after_enabled he hcalls
    rwa [row_eq hv', row_eq hfound] at henabled
  · have hdisabled : e.Disabled v.key := by rwa [Disabled, row_eq hfound]
    have hafter := after_disabled he hdisabled fun c hc heq => hcalls (heq ▸ hc)
    rw [Disabled, row_eq hv'] at hafter
    exact ⟨hafter, trace_disabled he hdisabled hcalls⟩

/-- The ceiling set before anything was signed, a block of one validator, which is then
disabled. -/
def ceilingFirst : List Call :=
  [.setHighWatermark ⟨some 100, none⟩,
    .block ⟨List.replicate 48 1⟩ ⟨7, .fit 32 [2]⟩ (.fit 32 [9]),
    .setEnabled ⟨List.replicate 48 1⟩ false]

/-- More of that validator: it is registered again, signs, gets history and is pruned. -/
def disabledUse : List Call :=
  [.register [⟨List.replicate 48 1⟩],
    .block ⟨List.replicate 48 1⟩ ⟨8, .fit 32 [3]⟩ (.fit 32 [9]),
    .importHistory ⟨Interchange.formatVersion, .fit 32 [9],
      [⟨⟨List.replicate 48 1⟩, [⟨6, none⟩], []⟩]⟩,
    .prune ⟨1, 32, 0, true⟩]

/-- The ceiling and the root of the first signature are what they were, and the validator has
nothing accepted. -/
theorem ceilingFirst_settings :
    let e := (fresh 1).after ceilingFirst
    (e.after disabledUse).database.highWatermark = .ok ⟨some 100, none⟩ ∧
      (e.after disabledUse).database.genesisRoot? = some (.fit 32 [9]) ∧
      ∀ r, ¬ AcceptedBlock (e.trace disabledUse) ⟨List.replicate 48 1⟩ r := by
  intro e
  obtain ⟨hroot, _, hceiling, _, hrows⟩ := settings_single_writer 1 ceilingFirst disabledUse
  have hvalidator : e.database.validators =
      [⟨⟨List.replicate 48 1⟩, false, some ⟨some 7, none, none⟩,
        [⟨7, some (FixedBytes.fit 32 [2]).bytes⟩], []⟩] := rfl
  obtain ⟨_, _, _, _, hoff⟩ := hrows _ (by rw [hvalidator]; exact List.mem_cons_self)
  refine ⟨(hceiling ?_).trans rfl, (hroot _ rfl).1, (hoff rfl ?_).2.1⟩
  · simp [disabledUse, Call.SetsCeiling]
  · simp [disabledUse]

end Engine

end RemoteSigner
