import Mathlib.Data.List.Forall2

/-!
Steps that may fail, one after another: what success and failure of the whole say about the steps,
and when two runs of such steps go alike.
-/

namespace ParamSchema

variable {ε α β : Type} {x : Except ε α} {f : α → Except ε β}

@[simp] theorem ok_bind (a : α) (f : α → Except ε β) : Except.ok a >>= f = f a := rfl

@[simp] theorem error_bind (e : ε) (f : α → Except ε β) : Except.error e >>= f = .error e := rfl

theorem bind_eq_ok_iff {b : β} : x >>= f = .ok b ↔ ∃ a, x = .ok a ∧ f a = .ok b := by
  cases x <;> simp [bind, Except.bind]

theorem bind_eq_error_iff {e : ε} :
    x >>= f = .error e ↔ x = .error e ∨ ∃ a, x = .ok a ∧ f a = .error e := by
  cases x <;> simp [bind, Except.bind]

theorem pure_eq_ok_iff {a b : α} : (pure a : Except ε α) = .ok b ↔ a = b := by
  simp [pure, Except.pure]

theorem exists_unit_eq_ok_iff {x : Except ε Unit} : (∃ u, x = .ok u) ↔ x = .ok () :=
  Unique.exists_iff

theorem exists_error_iff : (∃ e, x = .error e) ↔ ¬∃ a, x = .ok a := by
  cases x <;> simp

theorem toOption_eq_some_iff {a : α} : x.toOption = some a ↔ x = .ok a := by
  cases x <;> simp [Except.toOption]

theorem map_eq_ok_iff {f : α → β} {b : β} : x.map f = .ok b ↔ ∃ a, x = .ok a ∧ f a = b := by
  cases x <;> simp [Except.map]

theorem map_eq_error_iff {f : α → β} {e : ε} : x.map f = .error e ↔ x = .error e := by
  cases x <;> simp [Except.map]

theorem mapError_eq_ok_iff {ε' : Type} {f : ε → ε'} {a : α} : x.mapError f = .ok a ↔ x = .ok a := by
  cases x <;> simp [Except.mapError]

theorem mapError_eq_error_iff {ε' : Type} {f : ε → ε'} {e' : ε'} :
    x.mapError f = .error e' ↔ ∃ e, x = .error e ∧ f e = e' := by
  cases x <;> simp [Except.mapError]

/-- A step whose result is only put in place succeeds if the step does. -/
theorem exists_bind_pure_iff {f : α → β} :
    (∃ b, (x >>= fun a => pure (f a)) = .ok b) ↔ ∃ a, x = .ok a := by
  cases x <;> simp [pure, Except.pure]

theorem map_bind_pure {γ : Type} {f : α → β} {g : β → γ} :
    (x >>= fun a => pure (f a)).map g = x >>= fun a => pure (g (f a)) := by
  cases x <;> rfl

/-- A change of the result passes through two steps if the second one does with it what it did
without. -/
theorem map_bind_map {γ δ : Type} {f : α → γ} {g : β → δ} {next : α → Except ε β}
    {next' : γ → Except ε δ} (h : ∀ a, next' (f a) = (next a).map g) :
    x.map f >>= next' = (x >>= next).map g := by
  cases x with
  | ok a => exact h a
  | error e => rfl

/-- What stands in the second of two parallel lists stands beside something in the first. -/
theorem exists_of_forall₂ {R : α → β → Prop} {xs : List α} {ys : List β} {y : β}
    (h : List.Forall₂ R xs ys) (hy : y ∈ ys) : ∃ x ∈ xs, R x y := by
  induction h with
  | nil => cases hy
  | cons hfirst _ ih =>
    rcases List.mem_cons.mp hy with rfl | hy
    · exact ⟨_, List.mem_cons_self, hfirst⟩
    · obtain ⟨x, hx, hxy⟩ := ih hy
      exact ⟨x, List.mem_cons_of_mem _ hx, hxy⟩

theorem exists_iff_of_forall₂ {R : α → β → Prop} {P : α → Prop} {Q : β → Prop} {xs : List α}
    {ys : List β} (h : List.Forall₂ R xs ys) (hiff : ∀ x y, R x y → (P x ↔ Q y)) :
    (∃ x ∈ xs, P x) ↔ ∃ y ∈ ys, Q y := by
  induction h with
  | nil => simp
  | cons hfirst _ ih => simp [hiff _ _ hfirst, ih]

theorem exists_forall₂ {R : α → β → Prop} {xs : List α} (h : ∀ x ∈ xs, ∃ y, R x y) :
    ∃ ys, List.Forall₂ R xs ys := by
  induction xs with
  | nil => exact ⟨[], .nil⟩
  | cons x rest ih =>
    obtain ⟨⟨y, hy⟩, hrest⟩ := List.forall_mem_cons.mp h
    obtain ⟨ys, hys⟩ := ih hrest
    exact ⟨y :: ys, .cons hy hys⟩

/-- A run over a list takes a step for each item in order and joins their results. -/
structure Stepwise {γ : Type} (step : γ → Except ε α) (run : List γ → Except ε β) : Prop where
  nil : ∃ b, run [] = .ok b
  cons : ∀ item rest, ∃ join : α → β → β,
    run (item :: rest) = step item >>= fun a => run rest >>= fun b => .ok (join a b)

namespace Stepwise

variable {γ : Type} {step : γ → Except ε α} {run : List γ → Except ε β} {items : List γ}

theorem exists_ok_iff (stepwise : Stepwise step run) :
    (∃ b, run items = .ok b) ↔ ∀ item ∈ items, ∃ a, step item = .ok a := by
  induction items with
  | nil => simpa using stepwise.nil
  | cons item rest ih =>
    obtain ⟨join, hrun⟩ := stepwise.cons item rest
    simp only [hrun, bind_eq_ok_iff, List.forall_mem_cons, ← ih]
    constructor
    · rintro ⟨_, a, ha, b, hb, _⟩
      exact ⟨⟨a, ha⟩, b, hb⟩
    · rintro ⟨⟨a, ha⟩, b, hb⟩
      exact ⟨_, a, ha, b, hb, rfl⟩

/-- The first step that fails ends the run. -/
theorem eq_error_iff (stepwise : Stepwise step run) {e : ε} :
    run items = .error e ↔ ∃ before item after, items = before ++ item :: after ∧
      (∀ earlier ∈ before, ∃ a, step earlier = .ok a) ∧ step item = .error e := by
  constructor
  · intro h
    induction items with
    | nil =>
      obtain ⟨b, hb⟩ := stepwise.nil
      cases hb.symm.trans h
    | cons item rest ih =>
      obtain ⟨join, hrun⟩ := stepwise.cons item rest
      rw [hrun] at h
      rcases bind_eq_error_iff.mp h with h | ⟨a, ha, h⟩
      · exact ⟨[], item, rest, rfl, by simp, h⟩
      · rcases bind_eq_error_iff.mp h with h | ⟨b, _, h⟩
        · obtain ⟨before, stop, after, rfl, hbefore, hstop⟩ := ih h
          exact ⟨item :: before, stop, after, rfl,
            List.forall_mem_cons.mpr ⟨⟨a, ha⟩, hbefore⟩, hstop⟩
        · cases h
  · rintro ⟨before, item, after, rfl, hbefore, hstop⟩
    induction before with
    | nil =>
      obtain ⟨join, hrun⟩ := stepwise.cons item after
      rw [List.nil_append, hrun, hstop, error_bind]
    | cons first before ih =>
      obtain ⟨⟨a, ha⟩, hbefore⟩ := List.forall_mem_cons.mp hbefore
      obtain ⟨join, hrun⟩ := stepwise.cons first (before ++ item :: after)
      rw [List.cons_append, hrun, ha, ok_bind, ih hbefore, error_bind]

end Stepwise

theorem mapM_stepwise (f : α → Except ε β) : Stepwise f (List.mapM f) where
  nil := ⟨[], rfl⟩
  cons item rest := by
    refine ⟨List.cons, ?_⟩
    rw [List.mapM_cons]
    rfl

theorem mapM_eq_ok_iff {f : α → Except ε β} {xs : List α} {ys : List β} :
    xs.mapM f = .ok ys ↔ List.Forall₂ (fun x y => f x = .ok y) xs ys := by
  induction xs generalizing ys with
  | nil => rw [List.mapM_nil, pure_eq_ok_iff, List.forall₂_nil_left_iff, eq_comm]
  | cons x xs ih =>
    simp only [List.mapM_cons, bind_eq_ok_iff, pure_eq_ok_iff, List.forall₂_cons_left_iff, ih]
    constructor
    · rintro ⟨y, hy, ys, hys, rfl⟩
      exact ⟨y, ys, hy, hys, rfl⟩
    · rintro ⟨y, ys, hy, hys, rfl⟩
      exact ⟨y, hy, ys, hys, rfl⟩

/-- Both succeed with related results, or both fail with related faults. -/
inductive Alike (E : ε → ε → Prop) (R : α → β → Prop) : Except ε α → Except ε β → Prop
  | ok {a : α} {b : β} (h : R a b) : Alike E R (.ok a) (.ok b)
  | error {e e' : ε} (h : E e e') : Alike E R (.error e) (.error e')

namespace Alike

variable {γ δ : Type} {E E' : ε → ε → Prop} {R R' : α → β → Prop} {S : γ → δ → Prop}
  {y : Except ε β}

theorem imp (h : Alike E R x y) (hE : ∀ e e', E e e' → E' e e')
    (hR : ∀ a b, x = .ok a → y = .ok b → R a b → R' a b) : Alike E' R' x y := by
  cases h with
  | ok h => exact .ok (hR _ _ rfl rfl h)
  | error h => exact .error (hE _ _ h)

theorem imp_error (h : Alike E R x y) (hE : ∀ e e', E e e' → E' e e') : Alike E' R x y :=
  h.imp hE fun _ _ _ _ hR => hR

/-- Two steps that go alike, each followed by one that goes alike on related results. -/
theorem bind {f : α → Except ε γ} {g : β → Except ε δ} (h : Alike E R x y)
    (hnext : ∀ a b, x = .ok a → y = .ok b → R a b → Alike E S (f a) (g b)) :
    Alike E S (x >>= f) (y >>= g) := by
  cases h with
  | ok h => exact hnext _ _ rfl rfl h
  | error h => exact .error h

end Alike

end ParamSchema
