import Mathlib.Algebra.Ring.Nat
import Mathlib.Data.List.Nodup
import RemoteSigner.Proofs.Protection.Validator

/-!
# Consistent databases

A database is `Sound` if its keys are distinct, each of its rows is sound and
its ceiling can be read. It `Advances` to another if each of its rows does. A
validator without a row counts as a fresh one (`row`), so creating rows changes
nothing:

* `KeysDistinct`, `Readable` — what the tables demand, and what can be read of any
  database, whether or not its records are consistent;
* `Sound.mapRows` — advancing every row by itself advances the database;
* `withValidator_ok`, `Sound.put` — so does an operation on one row, created if
  it is missing, and it leaves all other rows alone;
* `total_put` — what it does to a number that is counted over all rows.
-/

namespace RemoteSigner

namespace Database

/-- The row of a validator, a fresh one if there is none. -/
def row (db : Database) (key : SignerId) : Validator :=
  (db.find? key).getD (.fresh key)

/-- What holds of the database between any two operations. -/
structure Sound (db : Database) : Prop where
  keys_distinct : (db.validators.map (·.key)).Nodup
  rows : ∀ v ∈ db.validators, v.Sound
  ceiling_inRange : ∀ m ∈ db.metadata,
    (∀ i ∈ m.highSlot, Stored.InRange i) ∧ ∀ i ∈ m.highEpoch, Stored.InRange i

/-- No two rows have the same key, as the table of validators demands. -/
def KeysDistinct (db : Database) : Prop :=
  (db.validators.map (·.key)).Nodup

/-- A database all of whose columns can be read. -/
structure Readable (db : Database) : Prop where
  keys_distinct : db.KeysDistinct
  rows : ∀ v ∈ db.validators, v.Readable
  ceiling_inRange : ∀ m ∈ db.metadata,
    (∀ i ∈ m.highSlot, Stored.InRange i) ∧ ∀ i ∈ m.highEpoch, Stored.InRange i

theorem Sound.readable {db : Database} (h : db.Sound) : db.Readable :=
  ⟨h.keys_distinct, fun v hv => (h.rows v hv).toReadable, h.ceiling_inRange⟩

/-- How the database may change from one operation to the next. -/
structure Advances (db db' : Database) : Prop where
  rows : ∀ key, (db.row key).Advances (db'.row key)
  kept : ∀ key, (db.find? key).isSome → (db'.find? key).isSome
  genesisRoot : ∀ root ∈ db.genesisRoot?, root ∈ db'.genesisRoot?

variable {db db' : Database} {key : SignerId}

theorem sound_empty : empty.Sound :=
  ⟨List.nodup_nil, by simp [empty], by simp [empty]⟩

theorem Advances.refl (db : Database) : db.Advances db :=
  ⟨fun _ => .refl _, fun _ h => h, fun _ h => h⟩

theorem Advances.trans {db'' : Database} (h : db.Advances db') (h' : db'.Advances db'') :
    db.Advances db'' :=
  ⟨fun key => (h.rows key).trans (h'.rows key), fun key hk => h'.kept key (h.kept key hk),
    fun root hr => h'.genesisRoot root (h.genesisRoot root hr)⟩

/-! ## Looking up rows -/

theorem find?_mem {v : Validator} (h : db.find? key = some v) : v ∈ db.validators ∧ v.key = key :=
  ⟨List.mem_of_find?_eq_some h, by simpa using List.find?_some h⟩

/-- Keys are distinct, so every row is the one that its key finds. -/
theorem KeysDistinct.find?_eq (h : db.KeysDistinct) {v : Validator} (hv : v ∈ db.validators) :
    db.find? v.key = some v := by
  cases hf : db.find? v.key with
  | none => exact absurd (List.find?_eq_none.mp hf v hv) (by simp)
  | some w =>
      obtain ⟨hw, hkey⟩ := find?_mem hf
      rw [List.inj_on_of_nodup_map h hw hv hkey]

theorem Sound.find?_eq (h : db.Sound) {v : Validator} (hv : v ∈ db.validators) :
    db.find? v.key = some v :=
  KeysDistinct.find?_eq h.keys_distinct hv

theorem row_eq {v : Validator} (h : db.find? key = some v) : db.row key = v := by
  rw [row, h, Option.getD_some]

theorem row_key (db : Database) (key : SignerId) : (db.row key).key = key := by
  cases h : db.find? key with
  | none => rw [row, h]; rfl
  | some v => rw [row_eq h]; exact (find?_mem h).2

theorem Readable.row (h : db.Readable) (key : SignerId) : (db.row key).Readable := by
  cases hf : db.find? key with
  | none => rw [Database.row, hf]; exact (Validator.sound_fresh key).toReadable
  | some v => rw [row_eq hf]; exact h.rows v (find?_mem hf).1

theorem Sound.row (h : db.Sound) (key : SignerId) : (db.row key).Sound := by
  cases hf : db.find? key with
  | none => rw [Database.row, hf]; exact Validator.sound_fresh key
  | some v => rw [row_eq hf]; exact h.rows v (find?_mem hf).1

/-! ## Changing rows -/

/-- Rows that keep their keys are found as before. -/
theorem find?_map {f : Validator → Validator} {vs : List Validator}
    (hf : ∀ v ∈ vs, (f v).key = v.key) (key : SignerId) :
    (vs.map f).find? (·.key == key) = (vs.find? (·.key == key)).map f := by
  induction vs with
  | nil => rfl
  | cons v rest ih =>
      have hrest := ih fun w hw => hf w (List.mem_cons_of_mem _ hw)
      rw [List.map_cons, List.find?_cons, List.find?_cons, hf v List.mem_cons_self, hrest]
      cases v.key == key <;> rfl

/-- Advancing every row by itself advances the database. -/
theorem Sound.mapRows (h : db.Sound) {f : Validator → Validator}
    (hf : ∀ v ∈ db.validators, (f v).Sound ∧ v.Advances (f v)) :
    ({ db with validators := db.validators.map f } : Database).Sound ∧
      db.Advances { db with validators := db.validators.map f } := by
  have hkey : ∀ v ∈ db.validators, (f v).key = v.key := fun v hv => (hf v hv).2.key_eq
  have hfind := fun key => find?_map hkey key
  refine ⟨⟨?_, ?_, h.ceiling_inRange⟩, ⟨?_, ?_, fun _ hr => hr⟩⟩
  · rw [List.map_map, List.map_congr_left (g := (·.key)) hkey]
    exact h.keys_distinct
  · intro v hv
    obtain ⟨w, hw, rfl⟩ := List.mem_map.mp hv
    exact (hf w hw).1
  · intro key
    unfold Database.row find?
    rw [hfind key]
    cases hv : db.validators.find? (·.key == key) with
    | none => exact .refl _
    | some v => exact (hf v (find?_mem hv).1).2
  · intro key hk
    unfold find? at hk ⊢
    rw [hfind key, Option.isSome_map]
    exact hk

theorem find?_update {f : Validator → Validator} (hf : ∀ v, v.key = key → (f v).key = key)
    (other : SignerId) :
    (db.update key f).find? other =
      (db.find? other).map fun v => if v.key == key then f v else v := by
  refine find?_map (fun v _ => ?_) other
  by_cases hv : v.key = key
  · simp [hv, hf v hv]
  · simp [hv]

/-! ## Creating rows -/

theorem find?_ensure (db : Database) (key other : SignerId) :
    (db.ensure key).find? other =
      if other = key then some (db.row key) else db.find? other := by
  unfold ensure
  cases h : db.find? key with
  | some v =>
      by_cases ho : other = key
      · simp [ho, h, row_eq h]
      · simp [ho]
  | none =>
      have happ : ({ db with validators := db.validators ++ [.fresh key] } : Database).find? other =
          (db.find? other).or ([Validator.fresh key].find? (·.key == other)) :=
        List.find?_append
      simp only [Option.isSome_none, Bool.false_eq_true, if_false, happ]
      by_cases ho : other = key
      · subst ho
        simp [h, row, Validator.fresh]
      · have hne : ¬ key = other := fun he => ho he.symm
        simp [ho, hne, Validator.fresh]

theorem row_ensure (db : Database) (key other : SignerId) :
    (db.ensure key).row other = db.row other := by
  rw [row, find?_ensure]
  by_cases ho : other = key
  · rw [if_pos ho, ho]; rfl
  · rw [if_neg ho]; rfl

theorem Sound.ensure (h : db.Sound) (key : SignerId) :
    (db.ensure key).Sound ∧ db.Advances (db.ensure key) := by
  refine ⟨?_, ⟨fun k => by rw [row_ensure]; exact .refl _, fun k hk => ?_, ?_⟩⟩
  · unfold Database.ensure
    split
    · exact h
    · rename_i hnone
      have hnew : ∀ v ∈ db.validators, v.key ≠ key := by
        simpa [find?, List.find?_isSome] using hnone
      refine ⟨?_, ?_, h.ceiling_inRange⟩
      · exact Validator.distinct_concat h.keys_distinct hnew
      · intro v hv
        rcases List.mem_append.mp hv with hv | hv
        · exact h.rows v hv
        · rw [List.mem_singleton.mp hv]
          exact Validator.sound_fresh key
  · rw [find?_ensure]
    split
    · rfl
    · exact hk
  · intro root hr
    unfold Database.ensure
    split <;> exact hr

/-! ## An operation on one row -/

/-- The database with another row for a validator. -/
def put (db : Database) (key : SignerId) (v : Validator) : Database :=
  (db.ensure key).update key fun _ => v

/-- What an operation on a row does, it does to the row as it was. -/
theorem withValidator_eq_map {α : Type} (f : Validator → Protected (α × Validator)) :
    db.withValidator key f = (f (db.row key)).map fun r => (r.1, db.put key r.2) := by
  unfold withValidator
  simp only [find?_ensure, if_true]
  cases f (db.row key) <;> rfl

theorem withValidator_ok {α : Type} {f : Validator → Protected (α × Validator)} {a : α}
    (h : db.withValidator key f = .ok (a, db')) :
    ∃ v, f (db.row key) = .ok (a, v) ∧ db' = db.put key v := by
  rw [withValidator_eq_map] at h
  cases hf : f (db.row key) with
  | error fault =>
      rw [hf] at h
      exact absurd h (by simp [Except.map])
  | ok r =>
      rw [hf] at h
      obtain ⟨rfl, rfl⟩ := Prod.mk.inj (Except.ok.inj h)
      exact ⟨r.2, rfl, rfl⟩

theorem withValidator_eq {α : Type} {f : Validator → Protected (α × Validator)} {a : α}
    {v : Validator} (h : f (db.row key) = .ok (a, v)) :
    db.withValidator key f = .ok (a, db.put key v) := by
  rw [withValidator_eq_map, h]
  rfl

theorem metadata_put (v : Validator) : (db.put key v).metadata = db.metadata := by
  rw [put, update, ensure]
  split <;> rfl

theorem version_put (v : Validator) : (db.put key v).version = db.version := by
  rw [put, update, ensure]
  split <;> rfl

theorem find?_put {v : Validator} (hv : v.key = key) (other : SignerId) :
    (db.put key v).find? other = if other = key then some v else db.find? other := by
  rw [put, find?_update (fun _ _ => hv), find?_ensure]
  by_cases ho : other = key
  · simp [ho, row_key]
  · cases hf : db.find? other with
    | none => simp [ho]
    | some w =>
        have hw : ¬ w.key = key := fun he => ho ((find?_mem hf).2.symm.trans he)
        simp [ho, hw]

theorem row_put {v : Validator} (hv : v.key = key) (other : SignerId) :
    (db.put key v).row other = if other = key then v else db.row other := by
  rw [row, find?_put hv]
  split <;> rfl

/-- Advancing one row advances the database. -/
theorem Sound.put (h : db.Sound) {v : Validator} (hv : v.Sound)
    (hadv : (db.row key).Advances v) : (db.put key v).Sound ∧ db.Advances (db.put key v) := by
  obtain ⟨hsound, hensured⟩ := h.ensure key
  -- once the row is there, putting another in its place maps every row
  have hstep : ∀ w ∈ (db.ensure key).validators,
      (if w.key == key then v else w).Sound ∧ w.Advances (if w.key == key then v else w) := by
    intro w hw
    by_cases hk : w.key = key
    · have hrow : w = db.row key := by
        rw [← row_ensure db key key]
        exact (row_eq (hk ▸ hsound.find?_eq hw)).symm
      rw [if_pos (by simpa using hk)]
      exact ⟨hv, hrow ▸ hadv⟩
    · rw [if_neg (by simpa using hk)]
      exact ⟨hsound.rows w hw, .refl w⟩
  obtain ⟨hs, ha⟩ := hsound.mapRows hstep
  exact ⟨hs, hensured.trans ha⟩

/-! ## Rows as they are put -/

theorem KeysDistinct.ensure (h : db.KeysDistinct) (key : SignerId) :
    (db.ensure key).KeysDistinct := by
  unfold Database.ensure
  split
  · exact h
  · rename_i hnone
    have hnew : ∀ v ∈ db.validators, v.key ≠ key := by
      simpa [find?, List.find?_isSome] using hnone
    exact Validator.distinct_concat h hnew

theorem mem_ensure (db : Database) (key : SignerId) :
    db.row key ∈ (db.ensure key).validators := by
  have hfound : (db.ensure key).find? key = some (db.row key) := by
    rw [find?_ensure, if_pos rfl]
  exact (find?_mem hfound).1

/-- A validator has a row exactly if its key is among the keys. -/
theorem isSome_find?_iff :
    (db.find? key).isSome ↔ key ∈ db.validators.map (·.key) := by
  simp [find?, List.find?_isSome]

/-- Replacing an existing row creates none. -/
theorem put_eq_update {v : Validator} (h : db.find? key = some v) (w : Validator) :
    db.put key w = db.update key fun _ => w := by
  rw [put, ensure, h, Option.isSome_some, if_pos rfl]

/-- Putting a row in its own place changes nothing. -/
theorem put_row (h : db.KeysDistinct) (hknown : (db.find? key).isSome) :
    db.put key (db.row key) = db := by
  obtain ⟨v, hv⟩ := Option.isSome_iff_exists.mp hknown
  rw [put_eq_update hv, update]
  have hsame : (db.validators.map fun x => if x.key == key then db.row key else x) =
      db.validators.map id := by
    refine List.map_congr_left fun x hx => ?_
    split
    · rename_i heq
      rw [← eq_of_beq heq, row_eq (h.find?_eq hx), id]
    · rfl
  rw [hsame, List.map_id]

theorem keys_put {v : Validator} (hv : v.key = key) :
    (db.put key v).validators.map (·.key) = (db.ensure key).validators.map (·.key) := by
  rw [put, update, List.map_map]
  refine List.map_congr_left fun x _ => ?_
  show (if x.key == key then v else x).key = x.key
  split
  · rename_i heq
    rw [hv, eq_of_beq heq]
  · rfl

/-- A row is created after the others, if at all. -/
theorem keys_ensure (db : Database) (key : SignerId) :
    (db.ensure key).validators.map (·.key) = db.validators.map (·.key) ∨
      db.find? key = none ∧
        (db.ensure key).validators.map (·.key) = db.validators.map (·.key) ++ [key] := by
  unfold ensure
  split
  · exact .inl rfl
  · rename_i hnone
    refine .inr ⟨by simpa using hnone, ?_⟩
    rw [List.map_append]
    rfl

/-! ## Totals -/

/-- What the rows of a database have of something, all together. -/
def total (db : Database) (f : Validator → Nat) : Nat :=
  (db.validators.map f).sum

/-- Where one of several distinct rows is replaced, the total changes by its share. -/
theorem sum_replace {vs : List Validator} (hkeys : (vs.map (·.key)).Nodup) {v w : Validator}
    (hv : v ∈ vs) (f : Validator → Nat) :
    (vs.map fun x => f (if x.key == v.key then w else x)).sum + f v = (vs.map f).sum + f w := by
  induction vs with
  | nil => cases hv
  | cons x rest ih =>
      obtain ⟨hnew, hrest⟩ := List.nodup_cons.mp hkeys
      rw [List.map_cons, List.map_cons, List.sum_cons, List.sum_cons]
      rcases List.mem_cons.mp hv with rfl | hv
      · have hother : rest.map (fun y => f (if y.key == v.key then w else y)) = rest.map f := by
          refine List.map_congr_left fun y hy => ?_
          have hne : y.key ≠ v.key := fun heq => hnew (List.mem_map.mpr ⟨y, hy, heq⟩)
          rw [if_neg (by simpa using hne)]
        rw [if_pos (by simp), hother]
        omega
      · have hne : x.key ≠ v.key := fun heq => hnew (List.mem_map.mpr ⟨v, hv, heq.symm⟩)
        rw [if_neg (by simpa using hne)]
        have := ih hrest hv
        omega

/-- A row that has nothing may be created. -/
theorem total_ensure {f : Validator → Nat} (hfresh : f (.fresh key) = 0) :
    (db.ensure key).total f = db.total f := by
  unfold ensure total
  split
  · rfl
  · simp [hfresh]

theorem total_put (h : db.KeysDistinct) (key : SignerId) (f : Validator → Nat)
    (hfresh : f (.fresh key) = 0) (v : Validator) :
    (db.put key v).total f + f (db.row key) = db.total f + f v := by
  have hkeys := h.ensure key
  have hsum := sum_replace hkeys (w := v) (mem_ensure db key) f
  have hput : (db.put key v).total f = ((db.ensure key).validators.map fun x =>
      f (if x.key == (db.row key).key then v else x)).sum := by
    rw [row_key, total, put, update, List.map_map]
    rfl
  rw [hput, hsum, ← total_ensure hfresh, total]

end Database

end RemoteSigner
