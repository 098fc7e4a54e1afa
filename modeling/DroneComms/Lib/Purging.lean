import Mathlib.Data.List.Basic

/-!
# Services that refuse requests

A service answers requests one after the other.  Where a refused request leaves the state
alone and has an answer that does not depend on it, a run is that of the requests that are
not refused, with the refusals put in between: who is refused everything neither changes
nor learns anything.
-/

namespace DroneComms.Purging

universe u v w

variable {σ : Type u} {ρ : Type v} {ω : Type w}

/-- Answer requests in order: the last state, and every request with its answer. -/
def run (handle : σ → ρ → σ × ω) : σ → List ρ → σ × List (ρ × ω)
  | s, [] => (s, [])
  | s, r :: rs =>
      let t := handle s r
      let u := run handle t.1 rs
      (u.1, (r, t.2) :: u.2)

variable {handle : σ → ρ → σ × ω} {admitted : ρ → Prop} [DecidablePred admitted] {refusal : ρ → ω}

/-- The requests that are not admitted are refused whatever the state. -/
def Refuses (handle : σ → ρ → σ × ω) (admitted : ρ → Prop) (refusal : ρ → ω) : Prop :=
  ∀ s r, ¬ admitted r → handle s r = (s, refusal r)

/-- The state is that of the admitted requests. -/
theorem Refuses.run_fst (h : Refuses handle admitted refusal) (s : σ) (rs : List ρ) :
    (run handle s rs).1 = (run handle s (rs.filter admitted)).1 := by
  induction rs generalizing s with
  | nil => rfl
  | cons r rs ih =>
      by_cases hr : admitted r
      · rw [List.filter_cons_of_pos (by simpa using hr), run, run]
        exact ih (handle s r).1
      · rw [List.filter_cons_of_neg (by simpa using hr), run, h s r hr]
        exact ih s

/-- The answers to the admitted requests are the answers to them alone. -/
theorem Refuses.filter_run_snd (h : Refuses handle admitted refusal) (s : σ) (rs : List ρ) :
    (run handle s rs).2.filter (fun p ↦ admitted p.1) = (run handle s (rs.filter admitted)).2 := by
  induction rs generalizing s with
  | nil => rfl
  | cons r rs ih =>
      by_cases hr : admitted r
      · rw [List.filter_cons_of_pos (by simpa using hr), run, run,
          List.filter_cons_of_pos (by simpa using hr), ih]
      · rw [List.filter_cons_of_neg (by simpa using hr), run, h s r hr,
          List.filter_cons_of_neg (by simpa using hr)]
        exact ih s

omit [DecidablePred admitted] in
/-- The other answers are refusals. -/
theorem Refuses.eq_refusal (h : Refuses handle admitted refusal) {s : σ} {rs : List ρ} {p : ρ × ω}
    (hp : p ∈ (run handle s rs).2) (hadmitted : ¬ admitted p.1) : p.2 = refusal p.1 := by
  induction rs generalizing s with
  | nil => cases hp
  | cons r rs ih =>
      rw [run] at hp
      rcases List.mem_cons.mp hp with rfl | hp
      · exact congrArg Prod.snd (h s r hadmitted)
      · exact ih hp

/-- What every admitted request preserves holds after a run. -/
theorem Refuses.run_invariant (h : Refuses handle admitted refusal) {I : σ → Prop}
    (hI : ∀ s r, admitted r → I s → I (handle s r).1) {s : σ} (hs : I s) (rs : List ρ) :
    I (run handle s rs).1 := by
  induction rs generalizing s with
  | nil => exact hs
  | cons r rs ih =>
      rw [run]
      apply ih
      by_cases hr : admitted r
      · exact hI s r hr hs
      · rw [h s r hr]
        exact hs

end DroneComms.Purging
