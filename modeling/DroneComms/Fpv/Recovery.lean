import DroneComms.Fpv.Hysteresis

/-!
# Recovery

A candidate is one raw state, not a bound on the raw states.  So a link whose raw
states are all better than the confirmed one recovers only when one of them was
held for the hysteresis window.
-/

namespace DroneComms.Fpv

open Automaton Debounce

/-- **Recovery.**  Behind evaluations with raw states up to `p`, whatever time they span, the
confirmed state is up to `p` if and only if it was so before them, or one of them confirms a
raw state that was held for the hysteresis window. -/
theorem recovers_iff {s : HealthSettings} {now : ℚ} {es : List WatchEvent} {w : Watch}
    {window before : List Evaluation} {p : HealthState}
    (h : exec (Watch.step s) { now } es = some w) (hlog : (window ++ before) <:+ w.log)
    (hwindow : ∀ e ∈ window, e.raw ≤ p) :
    confirmedBy (window ++ before) ≤ p ↔
      confirmedBy before ≤ p ∨ ∃ newer e older, window = newer ++ e :: older ∧
        HeldFor s.due Evaluation.time Evaluation.raw e.raw (e :: (older ++ before)) := by
  have hw := sound_of_run h
  rw [hw.confirmed _ hlog, hw.confirmed before ((List.suffix_append window before).trans hlog)]
  exact confirm_le_iff s.due_mono rfl (hw.ordered.sublist hlog.sublist) hwindow

/-- A frame with an uplink quality, and its evaluation. -/
def frameAt (t : ℚ) (lq : ℤ) : List WatchEvent :=
  [.advance t, .update (.linkStatistics { strongLink with uplinkLq := lq }) t, .evaluate none]

/-- A link that stays at WARN recovers. -/
theorem recovers_steady : ∃ w window before,
    exec (Watch.step {}) {} (frameAt 0 40 ++ frameAt 2 40 ++ frameAt 3 60 ++ frameAt 5 60) =
      some w ∧ w.log = window ++ before ∧ window.length = 2 ∧
    (confirmedBy (window ++ before) ≤ .warn ↔
      confirmedBy before ≤ .warn ∨ ∃ newer e older, window = newer ++ e :: older ∧
        HeldFor ({} : HealthSettings).due Evaluation.time Evaluation.raw e.raw
          (e :: (older ++ before))) := by
  let w : Watch := (exec (Watch.step {}) {}
    (frameAt 0 40 ++ frameAt 2 40 ++ frameAt 3 60 ++ frameAt 5 60)).getD {}
  have hrun : exec (Watch.step {}) {}
      (frameAt 0 40 ++ frameAt 2 40 ++ frameAt 3 60 ++ frameAt 5 60) = some w := by decide +kernel
  refine ⟨w, w.log.take 2, w.log.drop 2, hrun, (List.take_append_drop 2 _).symm,
    by decide +kernel, ?_⟩
  exact recovers_iff hrun ((List.take_append_drop 2 w.log).symm ▸ List.suffix_rfl)
    (by decide +kernel)

/-- A link that was bad for two seconds and then flaps between WARN and OK. -/
def flapping : List WatchEvent :=
  frameAt 0 40 ++ frameAt 2 40 ++ frameAt 3 60 ++ frameAt 4 100 ++ frameAt 5 60 ++ frameAt 6 100

/-- The watch that has seen it. -/
def flapped : Watch := (exec (Watch.step {}) {} flapping).getD {}

/-- For three seconds it is never worse than WARN, and it is CRITICAL at the end of them. -/
theorem flapping_stays_critical : ∃ window before,
    exec (Watch.step {}) {} flapping = some flapped ∧ flapped.log = window ++ before ∧
    window.getLast?.map Evaluation.time = some 3 ∧ window.head?.map Evaluation.time = some 6 ∧
    ({} : HealthSettings).due 3 6 = true ∧ (∀ e ∈ window, e.raw ≤ .warn) ∧
    confirmedBy (window ++ before) = .critical :=
  ⟨flapped.log.take 4, flapped.log.drop 4, by decide +kernel, by decide +kernel,
    by decide +kernel, by decide +kernel, by decide +kernel, by decide +kernel,
    by decide +kernel⟩

end DroneComms.Fpv
