import Mathlib.Data.List.Basic

/-!
# Runs of partial automata

A system is given by a partial transition function `step : σ → ε → Option σ`.
Every choice the environment makes is an *event*, so that a state and an event
determine the next state, and `none` means that the event cannot happen there.

* `exec step s es` performs a list of events;
* `Along step P s es` says that every step of a run meets `P` at the state it
  is taken from;
* `Always step I s es` says that `I` holds in every state a run passes through.

The rules at the end relate the two: an invariant may be assumed to hold only
under a condition on the steps (`exec_invariant_along`), and where a step keeps
the invariant *exactly* under that condition, a run keeps it exactly if all of
its steps meet the condition (`always_iff_along`).
-/

namespace DroneComms.Automaton

universe u v

variable {σ : Type u} {ε : Type v}

section

variable (step : σ → ε → Option σ)

/-- Perform the events in order, giving `none` as soon as one cannot happen. -/
def exec : σ → List ε → Option σ
  | s, [] => some s
  | s, e :: es => (step s e).bind fun t ↦ exec t es

/-- Every step of the run from `s` on `es` meets `P` at the state it is taken
from. -/
def Along (P : σ → ε → Prop) : σ → List ε → Prop
  | _, [] => True
  | s, e :: es => ∀ t, step s e = some t → P s e ∧ Along P t es

/-- Every state the run from `s` on `es` passes through satisfies `I`. -/
def Always (I : σ → Prop) : σ → List ε → Prop
  | s, [] => I s
  | s, e :: es => I s ∧ ∀ t, step s e = some t → Always I t es

end

variable {step : σ → ε → Option σ}

/-! ## Composing runs -/

@[simp] theorem exec_nil (s : σ) : exec step s [] = some s := rfl

@[simp] theorem exec_cons (s : σ) (e : ε) (es : List ε) :
    exec step s (e :: es) = (step s e).bind fun t ↦ exec step t es := rfl

/-- A nonempty run exposes its first step. -/
theorem exec_cons_eq_some {s u : σ} {e : ε} {es : List ε} :
    exec step s (e :: es) = some u ↔
      ∃ t, step s e = some t ∧ exec step t es = some u := by
  rw [exec_cons, Option.bind_eq_some_iff]

theorem exec_append (s : σ) (es fs : List ε) :
    exec step s (es ++ fs) = (exec step s es).bind fun t ↦ exec step t fs := by
  induction es generalizing s with
  | nil => rfl
  | cons e es ih =>
      cases h : step s e with
      | none => simp [h]
      | some t => simpa [h] using ih t

/-- Runs compose. -/
theorem exec_trans {s t u : σ} {es fs : List ε} (h : exec step s es = some t)
    (h' : exec step t fs = some u) : exec step s (es ++ fs) = some u := by
  rw [exec_append, h]
  exact h'

/-! ## Conditions on the steps of a run -/

@[simp] theorem along_nil (P : σ → ε → Prop) (s : σ) : Along step P s [] := trivial

/-- A condition holds along a run that is given step by step. -/
theorem Along.cons {P : σ → ε → Prop} {s t : σ} {e : ε} {es : List ε} (h : step s e = some t)
    (hP : P s e) (hes : Along step P t es) : Along step P s (e :: es) := by
  intro t' ht'
  rw [h] at ht'
  cases ht'
  exact ⟨hP, hes⟩

theorem Along.of_forall {P : ε → Prop} {s : σ} {es : List ε} (h : ∀ e ∈ es, P e) :
    Along step (fun _ e ↦ P e) s es := by
  induction es generalizing s with
  | nil => trivial
  | cons e es ih =>
      obtain ⟨he, hes⟩ := List.forall_mem_cons.mp h
      exact fun t _ ↦ ⟨he, ih hes⟩

/-- Where every event can happen, a condition on events holds along a run that is made of such. -/
theorem along_iff_forall {P : ε → Prop} (htotal : ∀ s e, ∃ t, step s e = some t) {s : σ}
    {es : List ε} : Along step (fun _ e ↦ P e) s es ↔ ∀ e ∈ es, P e := by
  refine ⟨fun h ↦ ?_, Along.of_forall⟩
  induction es generalizing s with
  | nil => exact List.forall_mem_nil P
  | cons e es ih =>
      obtain ⟨t, ht⟩ := htotal s e
      exact List.forall_mem_cons.mpr ⟨(h t ht).1, ih (h t ht).2⟩

theorem Along.mono {P Q : σ → ε → Prop} (hPQ : ∀ s e, P s e → Q s e) {s : σ} {es : List ε}
    (h : Along step P s es) : Along step Q s es := by
  induction es generalizing s with
  | nil => trivial
  | cons e es ih => exact fun t ht ↦ ⟨hPQ s e (h t ht).1, ih (h t ht).2⟩

/-- Whether a condition holds along a run can be decided by performing it. -/
instance decidableAlong (P : σ → ε → Prop) [∀ s e, Decidable (P s e)] :
    ∀ (s : σ) (es : List ε), Decidable (Along step P s es)
  | _, [] => .isTrue trivial
  | s, e :: es =>
      match h : step s e with
      | none => .isTrue fun t ht ↦ by
          rw [h] at ht
          cases ht
      | some t =>
          have := decidableAlong P t es
          decidable_of_iff (P s e ∧ Along step P t es)
            ⟨fun hP ↦ .cons h hP.1 hP.2, fun hP ↦ hP t h⟩

/-! ## Invariants -/

theorem Always.head {I : σ → Prop} {s : σ} {es : List ε} (h : Always step I s es) : I s := by
  cases es with
  | nil => exact h
  | cons e es => exact h.1

/-- `Always` speaks of exactly the states reached by the prefixes of a run. -/
theorem always_iff_prefix {I : σ → Prop} {s : σ} {es : List ε} :
    Always step I s es ↔ ∀ pre t, pre <+: es → exec step s pre = some t → I t := by
  induction es generalizing s with
  | nil =>
      constructor
      · intro h pre t hpre ht
        rw [List.prefix_nil.mp hpre] at ht
        cases ht
        exact h
      · exact fun h ↦ h [] s (List.prefix_refl _) rfl
  | cons e es ih =>
      constructor
      · rintro ⟨hs, h⟩ pre t hpre ht
        cases pre with
        | nil =>
            cases ht
            exact hs
        | cons f pre =>
            obtain ⟨rfl, hpre'⟩ := List.cons_prefix_cons.mp hpre
            obtain ⟨r, hr, hrt⟩ := exec_cons_eq_some.mp ht
            exact ih.mp (h r hr) pre t hpre' hrt
      · intro h
        refine ⟨h [] s (List.nil_prefix) rfl, fun r hr ↦ ih.mpr fun pre t hpre ht ↦ ?_⟩
        exact h (e :: pre) t (List.cons_prefix_cons.mpr ⟨rfl, hpre⟩)
          (exec_cons_eq_some.mpr ⟨r, hr, ht⟩)

/-- What every step preserves holds in the state a run ends in. -/
theorem exec_invariant {I : σ → Prop} (hI : ∀ s e t, I s → step s e = some t → I t)
    {s t : σ} {es : List ε} (hs : I s) (h : exec step s es = some t) : I t := by
  induction es generalizing s with
  | nil =>
      cases h
      exact hs
  | cons e es ih =>
      obtain ⟨r, hr, ht⟩ := exec_cons_eq_some.mp h
      exact ih (hI s e r hs hr) ht

/-- What every step meeting `P` preserves holds in the state a run ends in, if
all of its steps meet `P`. -/
theorem exec_invariant_along {I : σ → Prop} {P : σ → ε → Prop}
    (hI : ∀ s e t, I s → P s e → step s e = some t → I t)
    {s t : σ} {es : List ε} (hs : I s) (hP : Along step P s es)
    (h : exec step s es = some t) : I t := by
  induction es generalizing s with
  | nil =>
      cases h
      exact hs
  | cons e es ih =>
      obtain ⟨r, hr, ht⟩ := exec_cons_eq_some.mp h
      exact ih (hI s e r hs (hP r hr).1 hr) (hP r hr).2 ht

theorem Always.mono {I I' : σ → Prop} (hI : ∀ s, I s → I' s) {s : σ} {es : List ε}
    (h : Always step I s es) : Always step I' s es := by
  induction es generalizing s with
  | nil => exact hI s h
  | cons e es ih => exact ⟨hI s h.1, fun t ht ↦ ih (h.2 t ht)⟩

/-- What every step meeting `P` preserves holds in every state of a run all of
whose steps meet `P`. -/
theorem always_of_along {I : σ → Prop} {P : σ → ε → Prop}
    (hI : ∀ s e t, I s → P s e → step s e = some t → I t)
    {s : σ} {es : List ε} (hs : I s) (hP : Along step P s es) : Always step I s es := by
  induction es generalizing s with
  | nil => exact hs
  | cons e es ih =>
      refine ⟨hs, fun t ht ↦ ?_⟩
      obtain ⟨hPe, hPes⟩ := hP t ht
      exact ih (hI s e t hs hPe ht) hPes

/-- Where a step from a state with `J` that does not meet `P` leads out of `I`, and one that
does keeps `J`, every step of a run that stays in `I` meets `P`. -/
theorem along_of_always {J I : σ → Prop} {P : σ → ε → Prop}
    (hJ : ∀ s e t, J s → P s e → step s e = some t → J t)
    (hI : ∀ s e t, J s → step s e = some t → I t → P s e)
    {s : σ} {es : List ε} (hs : J s) (h : Always step I s es) : Along step P s es := by
  induction es generalizing s with
  | nil => trivial
  | cons e es ih =>
      intro t ht
      have hP := hI s e t hs ht (h.2 t ht).head
      exact ⟨hP, ih (hJ s e t hs hP ht) (h.2 t ht)⟩

/-- A condition that implies another one at every step from an invariant state
implies it along a run. -/
theorem Along.imp {J : σ → Prop} {P Q : σ → ε → Prop}
    (hJ : ∀ s e t, J s → P s e → step s e = some t → J t)
    (hQ : ∀ s e t, J s → P s e → step s e = some t → Q s e)
    {s : σ} {es : List ε} (hs : J s) (h : Along step P s es) : Along step Q s es := by
  induction es generalizing s with
  | nil => trivial
  | cons e es ih =>
      intro t ht
      obtain ⟨hP, hes⟩ := h t ht
      exact ⟨hQ s e t hs hP ht, ih (hJ s e t hs hP ht) hes⟩

theorem Along.and {P Q : σ → ε → Prop} {s : σ} {es : List ε} (hP : Along step P s es)
    (hQ : Along step Q s es) : Along step (fun s e ↦ P s e ∧ Q s e) s es := by
  induction es generalizing s with
  | nil => trivial
  | cons e es ih =>
      intro t ht
      exact ⟨⟨(hP t ht).1, (hQ t ht).1⟩, ih (hP t ht).2 (hQ t ht).2⟩

/-- The exact-condition rule.  Let `J` be kept by every step, and let a step
from a state with `J` and `I` keep `I` if and only if it meets `P`.  Then a run
keeps `I` throughout if and only if all of its steps meet `P`. -/
theorem always_iff_along {J I : σ → Prop} {P : σ → ε → Prop}
    (hJ : ∀ s e t, J s → step s e = some t → J t)
    (hI : ∀ s e t, J s → I s → step s e = some t → (I t ↔ P s e))
    {s : σ} (hs : J s) (hi : I s) (es : List ε) :
    Always step I s es ↔ Along step P s es := by
  induction es generalizing s with
  | nil => exact ⟨fun _ ↦ trivial, fun _ ↦ hi⟩
  | cons e es ih =>
      constructor
      · rintro ⟨-, h⟩ t ht
        have hit : I t := (h t ht).head
        exact ⟨(hI s e t hs hi ht).mp hit, (ih (hJ s e t hs ht) hit).mp (h t ht)⟩
      · refine fun h ↦ ⟨hi, fun t ht ↦ ?_⟩
        have hit : I t := (hI s e t hs hi ht).mpr (h t ht).1
        exact (ih (hJ s e t hs ht) hit).mpr (h t ht).2

/-- The rule for what is never regained.  Let `J` be kept by every step, and let a step from a
state with `J` lead to `I` if and only if it starts from `I` and meets `P`.  Then a run ends
with `I` if and only if it starts from `I` and all of its steps meet `P`. -/
theorem exec_iff_along {J I : σ → Prop} {P : σ → ε → Prop}
    (hJ : ∀ s e t, J s → step s e = some t → J t)
    (hI : ∀ s e t, J s → step s e = some t → (I t ↔ I s ∧ P s e))
    {s t : σ} {es : List ε} (hs : J s) (h : exec step s es = some t) :
    I t ↔ I s ∧ Along step P s es := by
  induction es generalizing s with
  | nil =>
      cases h
      exact (and_iff_left trivial).symm
  | cons e es ih =>
      obtain ⟨r, hr, ht⟩ := exec_cons_eq_some.mp h
      rw [ih (hJ s e r hs hr) ht, hI s e r hs hr, and_assoc]
      refine and_congr_right fun _ ↦ ⟨fun hP ↦ .cons hr hP.1 hP.2, fun hP ↦ hP r hr⟩

/-! ## Logs -/

section

variable {ω : Type u}

/-- The automaton that keeps a log of what its steps show. -/
def traced (step : σ → ε → Option σ) (observe : σ → ε → List ω) (s : σ × List ω) (e : ε) :
    Option (σ × List ω) :=
  (step s.1 e).map fun t ↦ (t, s.2 ++ observe s.1 e)

variable {observe : σ → ε → List ω}

theorem traced_eq_some {s t : σ × List ω} {e : ε} : traced step observe s e = some t ↔
    step s.1 e = some t.1 ∧ t.2 = s.2 ++ observe s.1 e := by
  rw [traced, Option.map_eq_some_iff]
  constructor
  · rintro ⟨t', ht', rfl⟩
    exact ⟨ht', rfl⟩
  · rintro ⟨ht, hlog⟩
    exact ⟨t.1, ht, by rw [← hlog]⟩

/-- What every step preserves together with its log holds throughout every run. -/
theorem always_traced {I : σ → List ω → Prop}
    (hI : ∀ s e t log, I s log → step s e = some t → I t (log ++ observe s e))
    {s : σ} {log : List ω} (hs : I s log) (es : List ε) :
    Always (traced step observe) (fun p ↦ I p.1 p.2) (s, log) es := by
  induction es generalizing s log with
  | nil => exact hs
  | cons e es ih =>
      refine ⟨hs, ?_⟩
      rintro ⟨t, log'⟩ ht
      obtain ⟨hstep, hlog⟩ := traced_eq_some.mp ht
      dsimp only at hstep hlog
      rw [hlog]
      exact ih (hI s e t log hs hstep)

end

end DroneComms.Automaton
