/-!
# Steps that can fail

A sequence of steps succeeds exactly if each of them does (`bind_eq_ok`), so a
success is taken apart step by step. Renaming a fault hides no success
(`mapError_ok`). Two outcomes `Agree` if they are the same fault or results in
relation, and sequences agree if their steps do (`Agree.bind`).
-/

namespace RemoteSigner

variable {ε δ α β γ κ : Type}

/-- A sequence of two steps succeeds exactly if both do. -/
theorem bind_eq_ok {x : Except ε α} {f : α → Except ε β} {b : β} :
    (x >>= f) = .ok b ↔ ∃ a, x = .ok a ∧ f a = .ok b := by
  cases x <;> simp [bind, Except.bind]

/-- A sequence of two steps fails with the fault of the first, or of the second after the first
succeeded. -/
theorem bind_eq_error {x : Except ε α} {f : α → Except ε β} {fault : ε} :
    (x >>= f) = .error fault ↔ x = .error fault ∨ ∃ a, x = .ok a ∧ f a = .error fault := by
  cases x <;> simp [bind, Except.bind]

theorem pure_eq_ok {a b : α} : (pure a : Except ε α) = .ok b ↔ a = b := by
  simp [pure, Except.pure]

/-- Where a step finds the image of something, so do the sequences that go on from it. -/
theorem bind_pure_eq_ok_iff {x : Except ε α} {f : α → β} {P : κ → Prop} {image : κ → α}
    {result : κ → β} (h : ∀ a, x = .ok a ↔ ∃ k, P k ∧ image k = a)
    (hresult : ∀ k, f (image k) = result k) {b : β} :
    (x >>= fun a => pure (f a)) = .ok b ↔ ∃ k, P k ∧ result k = b := by
  rw [bind_eq_ok]
  constructor
  · rintro ⟨a, hx, hf⟩
    obtain ⟨k, hk, rfl⟩ := (h a).mp hx
    exact ⟨k, hk, (hresult k).symm.trans (pure_eq_ok.mp hf)⟩
  · rintro ⟨k, hk, hf⟩
    exact ⟨image k, (h _).mpr ⟨k, hk, rfl⟩, pure_eq_ok.mpr ((hresult k).trans hf)⟩

theorem mapError_ok {f : ε → δ} {x : Except ε α} {a : α} (h : x.mapError f = .ok a) :
    x = .ok a := by
  cases x with
  | error fault =>
      have hfault : Except.error (f fault) = .ok a := h
      cases hfault
  | ok b => exact congrArg Except.ok (Except.ok.inj h)

theorem toOption_mapError (f : ε → δ) (x : Except ε α) : (x.mapError f).toOption = x.toOption := by
  cases x <;> rfl

theorem ok_of_toOption {x : Except ε α} {a : α} (h : x.toOption = some a) : x = .ok a := by
  cases x with
  | error fault => exact absurd h (by simp [Except.toOption])
  | ok b => exact congrArg Except.ok (Option.some.inj h)

theorem exists_of_isOk {x : Except ε α} (h : x.isOk = true) : ∃ a, x = .ok a := by
  cases x with
  | error fault => cases h
  | ok a => exact ⟨a, rfl⟩

/-- Steps that all succeed succeed together. -/
theorem mapM_eq_ok {f : α → Except ε β} {g : α → β} {l : List α}
    (h : ∀ a ∈ l, f a = .ok (g a)) : l.mapM f = .ok (l.map g) := by
  induction l with
  | nil => rfl
  | cons a rest ih =>
      rw [List.mapM_cons, h a List.mem_cons_self,
        ih fun b hb => h b (List.mem_cons_of_mem a hb)]
      rfl

/-- Steps over a list succeed exactly if each of them does. -/
theorem exists_mapM_eq_ok_iff {f : α → Except ε β} {l : List α} :
    (∃ r, l.mapM f = .ok r) ↔ ∀ a ∈ l, ∃ b, f a = .ok b := by
  induction l with
  | nil => exact ⟨fun _ _ ha => absurd ha List.not_mem_nil, fun _ => ⟨[], rfl⟩⟩
  | cons a rest ih =>
      simp only [List.mapM_cons, bind_eq_ok, pure_eq_ok, List.forall_mem_cons, ← ih]
      constructor
      · rintro ⟨_, b, hb, bs, hbs, _⟩
        exact ⟨⟨b, hb⟩, bs, hbs⟩
      · rintro ⟨⟨b, hb⟩, bs, hbs⟩
        exact ⟨b :: bs, b, hb, bs, hbs, rfl⟩

/-- Steps over a list yield nothing only for an empty one. -/
theorem mapM_ok_nil_iff {f : α → Except ε β} {l : List α} {r : List β}
    (h : l.mapM f = .ok r) : r = [] ↔ l = [] := by
  cases l with
  | nil =>
      rw [List.mapM_nil, pure_eq_ok] at h
      simp [h.symm]
  | cons a rest =>
      rw [List.mapM_cons, bind_eq_ok] at h
      obtain ⟨b, _, h⟩ := h
      obtain ⟨bs, _, h⟩ := bind_eq_ok.mp h
      simp [(pure_eq_ok.mp h).symm]

/-! ## Outcomes that agree -/

/-- The same fault, or results in relation. -/
inductive Agree (r : α → β → Prop) : Except ε α → Except ε β → Prop
  | error (fault : ε) : Agree r (.error fault) (.error fault)
  | ok {a : α} {b : β} (h : r a b) : Agree r (.ok a) (.ok b)

namespace Agree

variable {r : α → β → Prop} {s : γ → κ → Prop} {x : Except ε α} {y : Except ε β}

/-- An outcome agrees with itself if its result is in relation with itself. -/
theorem refl {r : α → α → Prop} {x : Except ε α} (h : ∀ a, x = .ok a → r a a) : Agree r x x := by
  cases x with
  | error fault => exact .error fault
  | ok a => exact .ok (h a rfl)

/-- Sequences agree whose steps do; the later steps may use what came before. -/
theorem bind {f : α → Except ε γ} {g : β → Except ε κ} (h : Agree r x y)
    (hf : ∀ a b, x = .ok a → y = .ok b → r a b → Agree s (f a) (g b)) :
    Agree s (x >>= f) (y >>= g) := by
  cases h with
  | error fault => exact .error fault
  | ok hab => exact hf _ _ rfl rfl hab

theorem map {f : α → γ} {g : β → κ} (h : Agree r x y)
    (hf : ∀ a b, x = .ok a → y = .ok b → r a b → s (f a) (g b)) :
    Agree s (x.map f) (y.map g) := by
  cases h with
  | error fault => exact .error fault
  | ok hab => exact .ok (hf _ _ rfl rfl hab)

theorem mono {s : α → β → Prop} (h : Agree r x y) (hrs : ∀ a b, r a b → s a b) : Agree s x y := by
  cases h with
  | error fault => exact .error fault
  | ok hab => exact .ok (hrs _ _ hab)

theorem of_map {f : α → γ} {g : β → κ} (h : Agree s (x.map f) (y.map g)) :
    Agree (fun a b => s (f a) (g b)) x y := by
  cases x with
  | error fault =>
      cases y with
      | error fault' =>
          cases h
          exact .error fault
      | ok b => cases h
  | ok a =>
      cases y with
      | error fault => cases h
      | ok b =>
          cases h with
          | ok hab => exact .ok hab

/-- Outcomes that agree are equal in what the relation makes equal. -/
theorem map_eq {f : α → γ} {g : β → γ} (h : Agree r x y) (hf : ∀ a b, r a b → f a = g b) :
    x.map f = y.map g := by
  cases h with
  | error fault => rfl
  | ok hab => exact congrArg Except.ok (hf _ _ hab)

theorem eq {r : α → α → Prop} {x y : Except ε α} (h : Agree r x y) (hr : ∀ a b, r a b → a = b) :
    x = y := by
  cases h with
  | error fault => rfl
  | ok hab => exact congrArg Except.ok (hr _ _ hab)

end Agree

end RemoteSigner
