import Mathlib.Data.List.Forall2

/-!
# Computations that may fail

Inversion of computations in `Except`: what it means that a sequence of steps, a mapped error or a
test that fails on a condition ends with a value, and what follows a step of a computation with a
state.  `Yields` says something of whatever a computation ends with.  `Alike` compares two
computations: they end with related values or with the same error.
-/

namespace HostGpu.Outcome

variable {ε δ α β : Type}

theorem pure_eq_ok {a b : α} : (pure a : Except ε α) = .ok b ↔ a = b := by
  simp [pure, Except.pure]

theorem throw_eq_error (e : ε) : (throw e : Except ε α) = .error e := rfl

theorem error_bind (e : ε) (f : α → Except ε β) : (Except.error e >>= f) = .error e := rfl

theorem ok_bind (a : α) (f : α → Except ε β) : (Except.ok a >>= f) = f a := rfl

theorem eq_ok_get {x : Except ε α} (h : x.toOption.isSome = true) : x = .ok (x.toOption.get h) := by
  cases x with
  | error e => cases h
  | ok a => rfl

theorem toOption_eq_some {x : Except ε α} {a : α} : x.toOption = some a ↔ x = .ok a := by
  cases x with
  | error e => simp [Except.toOption]
  | ok b => simp [Except.toOption]

/-- A sequence ends with a value if its first step does and what follows does. -/
theorem bind_eq_ok {x : Except ε α} {f : α → Except ε β} {b : β} :
    (x >>= f) = .ok b ↔ ∃ a, x = .ok a ∧ f a = .ok b := by
  cases x with
  | error e => simp [error_bind]
  | ok a => simp [ok_bind]

/-- What follows only matters for the values that there are. -/
theorem bind_congr_ok {x : Except ε α} {f g : α → Except ε β} (h : ∀ a, x = .ok a → f a = g a) :
    x >>= f = x >>= g := by
  cases x with
  | ok a => exact h a rfl
  | error e => rfl

theorem map_eq_ok {x : Except ε α} {f : α → β} {b : β} :
    (f <$> x) = .ok b ↔ ∃ a, x = .ok a ∧ f a = b := by
  cases x with
  | error e => simp [Functor.map, Except.map]
  | ok a => simp [Functor.map, Except.map]

theorem mapError_eq_ok {x : Except ε α} {f : ε → δ} {a : α} :
    x.mapError f = .ok a ↔ x = .ok a := by
  cases x with
  | error e => simp [Except.mapError]
  | ok b => simp [Except.mapError]

/-- A test that fails on a condition lets what follows go on when the condition does not hold. -/
theorem ite_error_eq_ok {c : Prop} [Decidable c] {e : ε} {x : Except ε α} {a : α} :
    (if c then .error e else x) = .ok a ↔ ¬ c ∧ x = .ok a := by
  by_cases h : c
  · simp [h]
  · simp [h]

/-- A test that goes on under a condition ends with a value when the condition holds. -/
theorem ite_ok_error {c : Prop} [Decidable c] {e : ε} {x : Except ε α} {a : α} :
    (if c then x else .error e) = .ok a ↔ c ∧ x = .ok a := by
  by_cases h : c
  · simp [h]
  · simp [h]

/-! ## What a computation ends with -/

/-- Whatever a computation ends with has a property. -/
def Yields (P : α → Prop) (x : Except ε α) : Prop := ∀ a, x = .ok a → P a

namespace Yields

variable {P : α → Prop} {Q : β → Prop} {x : Except ε α} {f : α → Except ε β}

theorem pure {a : α} (h : P a) : Yields P (pure a : Except ε α) := by
  rintro _ ⟨⟩
  exact h

theorem mapError (h : Yields P x) (g : ε → δ) : Yields P (x.mapError g) :=
  fun a ha => h a (mapError_eq_ok.mp ha)

theorem bind (hx : Yields P x) (hf : ∀ a, P a → Yields Q (f a)) : Yields Q (x >>= f) := by
  intro b hb
  obtain ⟨a, ha, hb⟩ := bind_eq_ok.mp hb
  exact hf a (hx a ha) b hb

/-- Nothing needs to be known of a first step. -/
theorem next (hf : ∀ a, Yields Q (f a)) : Yields Q (x >>= f) :=
  bind (P := fun _ => True) (fun _ _ => trivial) fun a _ => hf a

end Yields

instance decidableYields {P : α → Prop} [DecidablePred P] (x : Except ε α) :
    Decidable (Yields P x) :=
  match x with
  | .ok a => decidable_of_iff (P a) ⟨fun h _ ha => Except.ok.inj ha ▸ h, fun h => h a rfl⟩
  | .error _ => isTrue nofun

/-- A computation ends with a value that has a property, or with an error that has one. -/
def Results (P : α → Prop) (F : ε → Prop) : Except ε α → Prop
  | .ok a => P a
  | .error e => F e

namespace Results

variable {P P' : α → Prop} {Q : β → Prop} {F : ε → Prop} {x : Except ε α} {f : α → Except ε β}

theorem of_eq {a : α} (h : x = .ok a) (ha : P a) : Results P F x := h ▸ ha

theorem mono (h : Results P F x) (hP : ∀ a, P a → P' a) : Results P' F x := by
  cases x with
  | ok a => exact hP a h
  | error e => exact h

theorem mono_ok (h : Results P F x) (hP : ∀ a, x = .ok a → P' a) : Results P' F x := by
  cases x with
  | ok a => exact hP a rfl
  | error e => exact h

theorem weaken {F' : ε → Prop} (h : Results P F x) (hF : ∀ e, F e → F' e) : Results P F' x := by
  cases x with
  | ok a => exact h
  | error e => exact hF e h

theorem bind (hx : Results P F x) (hf : ∀ a, x = .ok a → P a → Results Q F (f a)) :
    Results Q F (x >>= f) := by
  cases x with
  | ok a => exact hf a rfl hx
  | error e => exact hx

/-- Of some computations only the errors matter. -/
theorem any (h : ∀ e, F e) : Results (fun _ => True) F x := by
  cases x with
  | ok a => trivial
  | error e => exact h e

end Results

/-! ## Computations with a state -/

section State

variable {σ : Type}

theorem get_bind (f : σ → ExceptT ε (StateM σ) α) (s : σ) : (get >>= f).run s = (f s).run s := rfl

/-- What follows a step starts from the state that the step left. -/
theorem bind_run (x : ExceptT ε (StateM σ) α) (f : α → ExceptT ε (StateM σ) β) (s : σ) :
    (x >>= f).run s = match x.run s with
      | (.ok a, s') => (f a).run s'
      | (.error e, s') => (.error e, s') := by
  rw [ExceptT.run_bind]
  rcases hx : x.run s with ⟨_ | _, s'⟩
  · simp only [bind, StateT.bind, hx]
    rfl
  · simp only [bind, StateT.bind, hx]

/-- What follows a computation without a state. -/
theorem lift_bind (x : Except ε α) (f : α → ExceptT ε (StateM σ) β) (s : σ) :
    (liftM x >>= f).run s = match x with
      | .ok a => (f a).run s
      | .error e => (.error e, s) := by
  cases x <;> rfl

theorem modify_bind (g : σ → σ) (f : Unit → ExceptT ε (StateM σ) α) (s : σ) :
    (modify g >>= f).run s = (f ()).run (g s) := rfl

end State

/-! ## Two computations side by side -/

/-- Two computations end alike: both with related values or both with the same error. -/
inductive Alike (R : α → β → Prop) : Except ε α → Except ε β → Prop
  | ok {a : α} {b : β} (h : R a b) : Alike R (.ok a) (.ok b)
  | error (e : ε) : Alike R (.error e) (.error e)

namespace Alike

variable {α' β' : Type} {R : α → α' → Prop} {Q : β → β' → Prop}

theorem mono {R' : α → α' → Prop} {x : Except ε α} {y : Except ε α'} (h : Alike R x y)
    (hR : ∀ a b, R a b → R' a b) : Alike R' x y := by
  cases h with
  | ok h => exact .ok (hR _ _ h)
  | error e => exact .error e

/-- Related values are those that the computations end with. -/
theorem and_eq_ok {x : Except ε α} {y : Except ε α'} (h : Alike R x y) :
    Alike (fun a b => x = .ok a ∧ R a b) x y := by
  cases h with
  | ok h => exact .ok ⟨rfl, h⟩
  | error e => exact .error e

/-- A computation ends like itself. -/
theorem same {R : α → α → Prop} (x : Except ε α) (h : ∀ a, R a a) : Alike R x x := by
  cases x with
  | error e => exact .error e
  | ok a => exact .ok (h a)

/-- What follows computations that end alike. -/
theorem bind {x : Except ε α} {y : Except ε α'} {f : α → Except ε β} {g : α' → Except ε β'}
    (hx : Alike R x y) (hfg : ∀ a b, R a b → Alike Q (f a) (g b)) :
    Alike Q (x >>= f) (y >>= g) := by
  cases hx with
  | ok h => exact hfg _ _ h
  | error e => exact .error e

/-- What follows one computation in two ways. -/
theorem bind_same {x : Except ε α} {f : α → Except ε β} {g : α → Except ε β'}
    (hfg : ∀ a, x = .ok a → Alike Q (f a) (g a)) : Alike Q (x >>= f) (x >>= g) := by
  cases x with
  | ok a => exact hfg a rfl
  | error e => exact .error e

theorem mapM {f : α → Except ε β} {g : α' → Except ε β'} {list : List α} {list' : List α'}
    (hlist : List.Forall₂ R list list') (hfg : ∀ a b, R a b → Alike Q (f a) (g b)) :
    Alike (List.Forall₂ Q) (list.mapM f) (list'.mapM g) := by
  induction hlist with
  | nil => exact .ok .nil
  | cons h _ ih =>
    rw [List.mapM_cons, List.mapM_cons]
    exact (hfg _ _ h).bind fun b b' hb => ih.bind fun bs bs' hbs => .ok (.cons hb hbs)

end Alike

/-! ### Options side by side -/

variable {α' : Type} {R : α → α' → Prop} {o : Option α} {o' : Option α'}

theorem elim_eq_of_rel (h : Option.Rel R o o') {f : α → β} {g : α' → β} (b : β)
    (hfg : ∀ a a', R a a' → f a = g a') : o.elim b f = o'.elim b g := by
  cases h with
  | none => rfl
  | some h => exact hfg _ _ h

theorem map_eq_of_rel (h : Option.Rel R o o') {f : α → β} {g : α' → β}
    (hfg : ∀ a a', R a a' → f a = g a') : o.map f = o'.map g := by
  cases h with
  | none => rfl
  | some h => exact congrArg some (hfg _ _ h)

end HostGpu.Outcome
