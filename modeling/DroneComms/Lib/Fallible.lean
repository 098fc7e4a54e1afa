import Mathlib.Data.List.Basic
import Mathlib.Data.List.Induction

/-!
# Loops that may raise

`es.foldlM step s` is a loop over `es` whose turns may raise.  It raises what its
first failing turn raises, and before that turn it has run like a loop that
returns.  So a property of what a loop raises is a property of its turns at the
states that are reached (`Throughout`).
-/

namespace DroneComms.Fallible

universe u v w

variable {σ : Type u} {α : Type v} {χ : Type w} {step : σ → α → Except χ σ} {s t : σ} {a : α}
  {as bs : List α} {e : χ}

/-- What a sequence raises has a property exactly if whatever either part raises has it. -/
theorem bind_errors_iff {β γ : Type u} {E : χ → Prop} {x : Except χ β} {f : β → Except χ γ} :
    (∀ e, x >>= f = .error e → E e) ↔
      (∀ e, x = .error e → E e) ∧ ∀ b, x = .ok b → ∀ e, f b = .error e → E e := by
  cases x with
  | error e => simp [bind, Except.bind]
  | ok b => simp [bind, Except.bind]

theorem map_errors_iff {β γ : Type u} {E : χ → Prop} {x : Except χ β} {f : β → γ} :
    (∀ e, x.map f = .error e → E e) ↔ ∀ e, x = .error e → E e := by
  cases x <;> simp [Except.map]

theorem mapError_eq_ok {β : Type u} {χ' : Type w} {g : χ → χ'} {x : Except χ β} {b : β} :
    x.mapError g = .ok b ↔ x = .ok b := by
  cases x <;> simp [Except.mapError]

/-- The errors of a sequence are renamed part by part. -/
theorem mapError_bind {β γ : Type u} {χ' : Type w} {g : χ → χ'} {x : Except χ β}
    {f : β → Except χ γ} :
    (x >>= f).mapError g = x.mapError g >>= fun b ↦ (f b).mapError g := by
  cases x <;> rfl

theorem foldlM_nil_eq_ok : [].foldlM step s = .ok t ↔ s = t := by
  rw [List.foldlM_nil]
  exact ⟨Except.ok.inj, congrArg _⟩

theorem foldlM_cons_of_ok (h : step s a = .ok t) : (a :: as).foldlM step s = as.foldlM step t := by
  rw [List.foldlM_cons, h]
  rfl

theorem foldlM_cons_of_error (h : step s a = .error e) : (a :: as).foldlM step s = .error e := by
  rw [List.foldlM_cons, h]
  rfl

/-- The errors of a loop are renamed turn by turn. -/
theorem foldlM_mapError {χ' : Type w} {g : χ → χ'} {step' : σ → α → Except χ' σ}
    (h : ∀ s a, step' s a = (step s a).mapError g) (s : σ) (as : List α) :
    as.foldlM step' s = (as.foldlM step s).mapError g := by
  induction as generalizing s with
  | nil => rfl
  | cons a as ih =>
      rw [List.foldlM_cons, List.foldlM_cons, mapError_bind, h]
      exact congrArg _ (funext ih)

theorem foldlM_append_of_ok (h : as.foldlM step s = .ok t) :
    (as ++ bs).foldlM step s = bs.foldlM step t := by
  rw [List.foldlM_append, h]
  rfl

theorem foldlM_concat_eq_ok {u : σ} : (as ++ [a]).foldlM step s = .ok u ↔
    ∃ t, as.foldlM step s = .ok t ∧ step t a = .ok u := by
  cases h : as.foldlM step s with
  | error e =>
      rw [List.foldlM_append, h]
      simp [Except.bind, bind]
  | ok t =>
      rw [foldlM_append_of_ok h]
      cases ha : step t a with
      | error e =>
          rw [foldlM_cons_of_error ha]
          simp [ha]
      | ok v =>
          rw [foldlM_cons_of_ok ha, foldlM_nil_eq_ok]
          simp [ha]

/-- Every turn that is reached meets `P` at the state it is reached in. -/
def Throughout (step : σ → α → Except χ σ) (P : σ → α → Prop) (s : σ) (es : List α) : Prop :=
  ∀ as a bs t, es = as ++ a :: bs → as.foldlM step s = .ok t → P t a

variable {P Q : σ → α → Prop} {es : List α}

theorem throughout_nil : Throughout step P s [] := by
  intro as a bs t h
  cases as <;> cases h

theorem throughout_cons : Throughout step P s (a :: es) ↔
    P s a ∧ ∀ t, step s a = .ok t → Throughout step P t es := by
  constructor
  · intro h
    refine ⟨h [] a es s rfl rfl, ?_⟩
    rintro t ht as b bs u rfl hu
    exact h (a :: as) b bs u rfl (by rw [foldlM_cons_of_ok ht, hu])
  · rintro ⟨hhead, htail⟩ as b bs u heq hu
    cases as with
    | nil =>
        obtain ⟨rfl, rfl⟩ := List.cons.inj heq
        rw [foldlM_nil_eq_ok] at hu
        exact hu ▸ hhead
    | cons c as =>
        obtain ⟨rfl, rfl⟩ := List.cons.inj heq
        cases hstep : step s a with
        | error e =>
            rw [foldlM_cons_of_error hstep] at hu
            cases hu
        | ok t =>
            rw [foldlM_cons_of_ok hstep] at hu
            exact htail t hstep as b bs u rfl hu

theorem Throughout.congr (h : ∀ t a, P t a ↔ Q t a) :
    Throughout step P s es ↔ Throughout step Q s es := by
  constructor
  · exact fun hP as a bs t heq ht ↦ (h t a).mp (hP as a bs t heq ht)
  · exact fun hQ as a bs t heq ht ↦ (h t a).mpr (hQ as a bs t heq ht)

/-- **Errors.**  What a loop raises has a property exactly if whatever a reached turn raises
has it. -/
theorem errors_iff {E : χ → Prop} : (∀ e, es.foldlM step s = .error e → E e) ↔
    Throughout step (fun t a ↦ ∀ e, step t a = .error e → E e) s es := by
  induction es generalizing s with
  | nil => exact iff_of_true (fun e h ↦ by cases h) throughout_nil
  | cons a es ih =>
      rw [throughout_cons]
      cases h : step s a with
      | error e =>
          rw [foldlM_cons_of_error h]
          constructor
          · exact fun he ↦ ⟨he, fun t ht ↦ by cases ht⟩
          · exact fun he ↦ he.1
      | ok t =>
          rw [foldlM_cons_of_ok h, ih]
          constructor
          · intro ht
            exact ⟨fun e he ↦ (by cases he), fun u hu ↦ Except.ok.inj hu ▸ ht⟩
          · exact fun ht ↦ ht.2 t rfl

/-- What every turn keeps holds behind a loop that returns. -/
theorem foldlM_invariant {I : List α → σ → Prop} (hI : ∀ as a t u, I as t → step t a = .ok u →
    I (as ++ [a]) u) (h₀ : I [] s) (h : es.foldlM step s = .ok t) : I es t := by
  induction es using List.reverseRecOn generalizing t with
  | nil =>
      rw [foldlM_nil_eq_ok] at h
      exact h ▸ h₀
  | append_singleton es a ih =>
      obtain ⟨u, hu, ha⟩ := foldlM_concat_eq_ok.mp h
      exact hI es a u t (ih hu) ha

end DroneComms.Fallible
