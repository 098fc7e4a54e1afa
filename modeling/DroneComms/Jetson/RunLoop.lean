import DroneComms.Jetson.Accounts
import DroneComms.Lib.Automaton

/-!
# The loop of the pipeline

`Pipeline.run` and `Pipeline.request_stop` of `jetson_yolo_gcs/pipeline.py`.  A signal handler may
ask the loop to stop at any time, also while a step runs or the loop sleeps, so the loop is cut
where it looks at the event, where it steps and where it sleeps.

The returns of the loop carry their reason, and the run keeps what its steps have returned: both
are what the model adds.
-/

namespace DroneComms.Jetson

open Py Py.Arith

variable {F D X W : Type}

/-- The arguments of `run`. -/
structure RunLimits where
  maxIterations : Option ℤ := none
  maxConsecutiveEmpty : Option ℤ := none

/-- Why `run` returns. -/
inductive RunEnd where
  | limit
  | stopped
  | starved
deriving DecidableEq, Repr

inductive RunPhase (X : Type) where
  | top
  | stepping
  | idle
  | returned (processed : ℕ) (why : RunEnd)
  | raised (x : X)

/-- A call of `run` on a pipeline. -/
structure Run (F X W : Type) where
  pipeline : Loop F X W
  processed : ℕ := 0
  empties : ℕ := 0
  /-- `_stop` -/
  stop : Bool := false
  phase : RunPhase X := .top
  /-- What the steps have returned, the latest first. -/
  reads : List Bool := []
  sleeps : ℕ := 0
  /-- The steps that ended after the loop was asked to stop. -/
  late : ℕ := 0

inductive RunEvent where
  | requestStop
  | top
  | step (tracked : TrackOutcome)
  | sleep

namespace Run

/-- A call on a pipeline that may have been asked to stop. -/
def start (pipeline : Loop F X W) (stop : Bool) : Run F X W := { pipeline, stop }

/-- Behind `step`. -/
def stepped (l : RunLimits) (w : Run F X W) : Except X Bool → Run F X W
  | .error x => { w with phase := .raised x }
  | .ok true => { w with
      processed := w.processed + 1
      empties := 0
      reads := true :: w.reads
      phase := .top }
  | .ok false =>
      let empties := w.empties + 1
      { w with
        empties
        reads := false :: w.reads
        phase := if l.maxConsecutiveEmpty.any (· ≤ (empties : ℤ)) then .returned w.processed .starved
          else .idle }

@[simp] theorem stepped_pipeline (l : RunLimits) (w : Run F X W) (r : Except X Bool) :
    (stepped l w r).pipeline = w.pipeline := by
  rcases r with x | read
  · rfl
  · cases read <;> rfl

/-- One step of the loop. -/
def step [Arith F] (s : StepSettings) (d : Devices F D X W) (tracking : Bool) (l : RunLimits)
    (w : Run F X W) : RunEvent → Option (Run F X W)
  | .requestStop => some { w with stop := true }
  | .top =>
      match w.phase with
      | .top => some { w with
          phase :=
            if l.maxIterations.all ((w.processed : ℤ) < ·) then
              if w.stop then .returned w.processed .stopped else .stepping
            else .returned w.processed .limit }
      | _ => none
  | .step tracked =>
      match w.phase with
      | .stepping =>
          let (r, pipeline) := Loop.step s d (if tracking then some tracked else none) w.pipeline
          some (stepped l { w with pipeline, late := w.late + if w.stop then 1 else 0 } r)
      | _ => none
  | .sleep =>
      match w.phase with
      | .idle => some { w with sleeps := w.sleeps + 1, phase := .top }
      | _ => none

end Run

/-! ## The account of a run -/

/-- The empty reads in a row that end a run. -/
def RunLimits.patience (l : RunLimits) : Option ℕ :=
  l.maxConsecutiveEmpty.map fun m ↦ max m.toNat 1

theorem RunLimits.one_le_patience {l : RunLimits} {m : ℕ} (h : m ∈ l.patience) : 1 ≤ m := by
  obtain ⟨n, -, rfl⟩ := Option.map_eq_some_iff.mp h
  exact le_max_right _ _

/-- The bound is reached by an empty read. -/
theorem RunLimits.any_patience {l : RunLimits} (empties : ℕ) :
    l.maxConsecutiveEmpty.any (· ≤ ((empties + 1 : ℕ) : ℤ)) = true ↔
      ∃ m ∈ l.patience, m ≤ empties + 1 := by
  cases hmax : l.maxConsecutiveEmpty with
  | none => simp [patience, hmax]
  | some m =>
      simp only [Option.any_some, decide_eq_true_eq, patience, hmax, Option.map_some,
        Option.mem_def, Option.some.injEq, exists_eq_left']
      omega

/-- The empty read that is not slept on, or not yet. -/
def RunPhase.unslept {X : Type} : RunPhase X → ℕ
  | .idle | .returned _ .starved => 1
  | _ => 0

/-- What a reason to return says of a run. -/
def RunEnd.Holds (l : RunLimits) (w : Run F X W) : RunEnd → Prop
  | .limit => ∃ n ∈ l.maxIterations, n ≤ (w.processed : ℤ)
  | .stopped => w.stop = true
  | .starved => ∃ m ∈ l.patience, w.empties = m

/-- The steps of the loop that a phase is away from its next read. -/
def RunPhase.weight {X : Type} : RunPhase X → ℕ
  | .idle => 3
  | .top => 2
  | .stepping => 1
  | .returned _ _ | .raised _ => 0

/-- The event is not one of the loop. -/
def RunEvent.isSignal : RunEvent → Bool
  | .requestStop => true
  | _ => false

namespace Run

/-- The account of a run. -/
structure Accounted (l : RunLimits) (w : Run F X W) : Prop where
  processed : w.processed = w.reads.count true
  /-- The empty reads since the last frame. -/
  empties : w.empties = (w.reads.takeWhile (!·)).length
  /-- Every empty read is slept on, but for the one that ends the run. -/
  sleeps : w.sleeps + w.phase.unslept = w.reads.count false
  limit : ∀ n ∈ l.maxIterations, (w.processed : ℤ) ≤ max n 0
  patience : ∀ m ∈ l.patience, w.empties ≤ m
  /-- Both bounds together bound the steps. -/
  steps : ∀ n ∈ l.maxIterations, ∀ m ∈ l.patience, w.reads.length ≤ n.toNat * m
  /-- Only the step that runs when the loop is asked to stop ends after it. -/
  late : w.late ≤ 1
  returned : ∀ n why, w.phase = .returned n why → n = w.processed ∧ why.Holds l w

/-- What is kept while the loop runs. -/
structure Sound (l : RunLimits) (w : Run F X W) : Prop where
  processed : w.processed = w.reads.count true
  empties : w.empties = (w.reads.takeWhile (!·)).length
  sleeps : w.sleeps + w.phase.unslept = w.reads.count false
  limit : ∀ n ∈ l.maxIterations, (w.processed : ℤ) ≤ max n 0
  patience : ∀ m ∈ l.patience, w.empties ≤ m ∧ (w.phase.unslept = 0 → w.empties < m)
  idle : w.phase = .idle → ∀ m ∈ l.patience, w.empties < m
  /-- Between two frames there are fewer empty reads than end the run. -/
  budget : ∀ m ∈ l.patience, w.reads.length ≤ w.processed * m + w.empties
  /-- The last frame ends a run that is full. -/
  full : ∀ n ∈ l.maxIterations, n ≤ (w.processed : ℤ) → w.empties = 0
  stepping : w.phase = .stepping → w.late = 0 ∧ ∀ n ∈ l.maxIterations, (w.processed : ℤ) < n
  prompt : w.stop = false → w.late = 0
  late : w.late ≤ 1
  returned : ∀ n why, w.phase = .returned n why → n = w.processed ∧ why.Holds l w

variable {l : RunLimits} {w w' : Run F X W}

theorem sound_start (l : RunLimits) (pipeline : Loop F X W) (stop : Bool) :
    (start pipeline stop).Sound l := by
  constructor
  case processed => rfl
  case empties => rfl
  case sleeps => rfl
  case limit => exact fun n _ ↦ le_max_right n 0
  case patience => exact fun m hm ↦ ⟨Nat.zero_le m, fun _ ↦ RunLimits.one_le_patience hm⟩
  case idle => exact fun h ↦ by cases h
  case budget => exact fun m _ ↦ Nat.zero_le _
  case full => exact fun n _ _ ↦ rfl
  case stepping => exact fun h ↦ by cases h
  case prompt => exact fun _ ↦ rfl
  case late => exact Nat.zero_le 1
  case returned => exact fun n why h ↦ by cases h

theorem Sound.requestStop (h : w.Sound l) : Sound l { w with stop := true } := {
  h with
  prompt := fun hstop ↦ by cases hstop
  returned := fun n why hphase ↦ by
    obtain ⟨hn, hwhy⟩ := h.returned n why hphase
    refine ⟨hn, ?_⟩
    cases why with
    | limit => exact hwhy
    | stopped => rfl
    | starved => exact hwhy }

/-- The loop goes on to a phase with as many empty reads to sleep on. -/
theorem Sound.turn (h : w.Sound l) {phase : RunPhase X} (hunslept : phase.unslept = w.phase.unslept)
    (hidle : phase ≠ .idle)
    (hstepping : phase = .stepping → w.late = 0 ∧ ∀ n ∈ l.maxIterations, (w.processed : ℤ) < n)
    (hreturned : ∀ n why, phase = .returned n why → n = w.processed ∧ why.Holds l w) :
    Sound l { w with phase } := {
  h with
  sleeps := (congrArg (w.sleeps + ·) hunslept).trans h.sleeps
  patience := fun m hm ↦ ⟨(h.patience m hm).1, fun hzero ↦
    (h.patience m hm).2 (hunslept.symm.trans hzero)⟩
  idle := fun hphase ↦ absurd hphase hidle
  stepping := hstepping
  returned := hreturned }

/-- The loop looks at its bound and at the event. -/
theorem Sound.top (h : w.Sound l) (htop : w.phase = .top) :
    Sound l { w with
      phase :=
        if l.maxIterations.all ((w.processed : ℤ) < ·) then
          if w.stop then .returned w.processed .stopped else .stepping
        else .returned w.processed .limit } := by
  have hunslept : 0 = w.phase.unslept := by
    rw [htop]
    rfl
  split_ifs with hlimit hstop
  · refine h.turn hunslept (by simp) (fun hstepping ↦ by cases hstepping) fun n why hphase ↦ ?_
    cases hphase
    exact ⟨rfl, hstop⟩
  · refine h.turn hunslept (by simp) (fun _ ↦ ⟨h.prompt (by simpa using hstop), fun n hn ↦ ?_⟩)
      fun n why hphase ↦ by cases hphase
    rw [Option.mem_def] at hn
    rw [hn] at hlimit
    simpa using hlimit
  · refine h.turn hunslept (by simp) (fun hstepping ↦ by cases hstepping) fun n why hphase ↦ ?_
    cases hphase
    refine ⟨rfl, ?_⟩
    cases hmax : l.maxIterations with
    | none =>
        rw [hmax] at hlimit
        exact absurd rfl hlimit
    | some n =>
        rw [hmax] at hlimit
        exact ⟨n, hmax, by simpa using hlimit⟩

/-- A step that begins before the loop is asked to stop is the only one to end after it. -/
theorem Sound.late_stepping (h : w.Sound l) (hphase : w.phase = .stepping) :
    w.late + (if w.stop then 1 else 0) ≤ 1 ∧
      (w.stop = false → w.late + (if w.stop then 1 else 0) = 0) := by
  have hlate : w.late = 0 := (h.stepping hphase).1
  rw [hlate]
  cases w.stop with
  | false => exact ⟨Nat.zero_le 1, fun _ ↦ rfl⟩
  | true => exact ⟨le_rfl, fun hstop ↦ by cases hstop⟩

/-- `step` raises. -/
theorem Sound.raised (h : w.Sound l) (hphase : w.phase = .stepping) (pipeline : Loop F X W)
    (x : X) :
    Sound l (stepped l { w with pipeline, late := w.late + if w.stop then 1 else 0 }
      (.error x)) := by
  have hunslept : 0 = w.phase.unslept := by
    rw [hphase]
    rfl
  obtain ⟨hlate, hprompt⟩ := h.late_stepping hphase
  have hraised : Sound l { w with phase := .raised x } :=
    h.turn hunslept (by simp) (fun hstepping ↦ by cases hstepping)
      fun n why hreturned ↦ by cases hreturned
  exact {
    hraised with
    stepping := fun hstepping ↦ by cases hstepping
    prompt := hprompt
    late := hlate }

/-- A frame is read. -/
theorem Sound.frame (h : w.Sound l) (hphase : w.phase = .stepping) (pipeline : Loop F X W) :
    Sound l (stepped l { w with pipeline, late := w.late + if w.stop then 1 else 0 }
      (.ok true)) := by
  have hsleeps := h.sleeps
  rw [hphase] at hsleeps
  obtain ⟨hlate, hprompt⟩ := h.late_stepping hphase
  exact {
    processed := by
      simp only [stepped, List.count_cons_self]
      rw [h.processed]
    empties := rfl
    sleeps := by
      simp only [stepped, List.count_cons_of_ne (by decide : true ≠ false)]
      exact hsleeps
    limit := fun n hn ↦ by
      have hlt : (w.processed : ℤ) < n := (h.stepping hphase).2 n hn
      simp only [stepped]
      omega
    patience := fun m hm ↦ ⟨Nat.zero_le m, fun _ ↦ RunLimits.one_le_patience hm⟩
    idle := fun hidle ↦ by cases hidle
    budget := fun m hm ↦ by
      have hbudget : w.reads.length ≤ w.processed * m + w.empties := h.budget m hm
      have hlt : w.empties < m := (h.patience m hm).2 (by rw [hphase]; rfl)
      simp only [stepped, List.length_cons, Nat.add_zero, Nat.succ_mul]
      omega
    full := fun n _ _ ↦ rfl
    stepping := fun hstepping ↦ by cases hstepping
    prompt := hprompt
    late := hlate
    returned := fun n why hreturned ↦ by cases hreturned }

/-- No frame is there; the read has not been slept on. -/
theorem Sound.emptied (h : w.Sound l) (hphase : w.phase = .stepping) (pipeline : Loop F X W)
    {phase : RunPhase X} (hunslept : phase.unslept = 1)
    (hidle : phase = .idle → ∀ m ∈ l.patience, w.empties + 1 < m)
    (hreturned : ∀ n why, phase = .returned n why →
      n = w.processed ∧ why = .starved ∧ ∃ m ∈ l.patience, w.empties + 1 = m) :
    Sound l { w with
      pipeline
      empties := w.empties + 1
      late := w.late + if w.stop then 1 else 0
      reads := false :: w.reads
      phase } := by
  have hsleeps := h.sleeps
  rw [hphase] at hsleeps
  have hlt : ∀ m ∈ l.patience, w.empties < m := fun m hm ↦
    (h.patience m hm).2 (by rw [hphase]; rfl)
  obtain ⟨hlate, hprompt⟩ := h.late_stepping hphase
  exact {
    processed := by
      rw [List.count_cons_of_ne (by decide : false ≠ true)]
      exact h.processed
    empties := congrArg (· + 1) h.empties
    sleeps := by
      have hcount : w.sleeps = w.reads.count false := hsleeps
      rw [List.count_cons_self, hunslept, hcount]
    limit := h.limit
    patience := fun m hm ↦ ⟨hlt m hm, fun hzero ↦ by
      rw [hunslept] at hzero
      cases hzero⟩
    idle := hidle
    budget := fun m hm ↦ Nat.succ_le_succ (h.budget m hm)
    full := fun n hn hle ↦ absurd hle ((h.stepping hphase).2 n hn).not_ge
    stepping := fun hstepping ↦ by
      have hstepping : phase = .stepping := hstepping
      rw [hstepping] at hunslept
      cases hunslept
    prompt := hprompt
    late := hlate
    returned := fun n why hphase ↦ by
      obtain ⟨hn, rfl, hstarved⟩ := hreturned n why hphase
      exact ⟨hn, hstarved⟩ }

theorem Sound.empty (h : w.Sound l) (hphase : w.phase = .stepping) (pipeline : Loop F X W) :
    Sound l (stepped l { w with pipeline, late := w.late + if w.stop then 1 else 0 }
      (.ok false)) := by
  have hlt : ∀ m ∈ l.patience, w.empties < m := fun m hm ↦
    (h.patience m hm).2 (by rw [hphase]; rfl)
  by_cases hstarved : l.maxConsecutiveEmpty.any (· ≤ ((w.empties + 1 : ℕ) : ℤ)) = true
  · simp only [stepped, hstarved, if_true]
    obtain ⟨m, hm, hle⟩ := (RunLimits.any_patience w.empties).mp hstarved
    refine h.emptied hphase pipeline rfl (fun hidle ↦ by cases hidle) fun n why hreturned ↦ ?_
    cases hreturned
    exact ⟨rfl, rfl, m, hm, le_antisymm (hlt m hm) hle⟩
  · simp only [stepped, hstarved, Bool.false_eq_true, if_false]
    refine h.emptied hphase pipeline rfl (fun _ m hm ↦ ?_) fun n why hreturned ↦ by
      cases hreturned
    by_contra hle
    exact hstarved ((RunLimits.any_patience w.empties).mpr ⟨m, hm, not_lt.mp hle⟩)

/-- The loop has slept. -/
theorem Sound.sleep (h : w.Sound l) (hphase : w.phase = .idle) :
    Sound l { w with sleeps := w.sleeps + 1, phase := .top } := by
  have hsleeps := h.sleeps
  rw [hphase] at hsleeps
  exact {
    h with
    sleeps := hsleeps
    patience := fun m hm ↦ ⟨(h.patience m hm).1, fun _ ↦ h.idle hphase m hm⟩
    idle := fun hidle ↦ by cases hidle
    stepping := fun hstepping ↦ by cases hstepping
    returned := fun n why hreturned ↦ by cases hreturned }

/-- The bound on the steps is reached by no fewer frames than end the run. -/
theorem Sound.length_reads_le (h : w.Sound l) {n : ℤ} (hn : n ∈ l.maxIterations) {m : ℕ}
    (hm : m ∈ l.patience) : w.reads.length ≤ n.toNat * m := by
  have hbudget : w.reads.length ≤ w.processed * m + w.empties := h.budget m hm
  have hlimit : (w.processed : ℤ) ≤ max n 0 := h.limit n hn
  have hempties : w.empties ≤ m := (h.patience m hm).1
  by_cases hfull : n ≤ (w.processed : ℤ)
  · have hzero : w.empties = 0 := h.full n hn hfull
    calc w.reads.length ≤ w.processed * m := by omega
      _ ≤ n.toNat * m := Nat.mul_le_mul_right m (by omega)
  · calc w.reads.length ≤ w.processed * m + m := by omega
      _ = (w.processed + 1) * m := (Nat.succ_mul _ _).symm
      _ ≤ n.toNat * m := Nat.mul_le_mul_right m (by omega)

theorem Sound.account (h : w.Sound l) : w.Accounted l where
  processed := h.processed
  empties := h.empties
  sleeps := h.sleeps
  limit := h.limit
  patience := fun m hm ↦ (h.patience m hm).1
  steps := fun _ hn _ hm ↦ h.length_reads_le hn hm
  late := h.late
  returned := h.returned

/-- The steps of a loop that reads at most `k` times. -/
def remaining (k : ℕ) (w : Run F X W) : ℕ :=
  3 * (k - w.reads.length) + w.phase.weight

/-- Where the loop calls `step`, neither bound is exhausted. -/
theorem Sound.length_reads_lt (h : w.Sound l) (hphase : w.phase = .stepping) {n : ℤ}
    (hn : n ∈ l.maxIterations) {m : ℕ} (hm : m ∈ l.patience) :
    w.reads.length < n.toNat * m := by
  have hbudget : w.reads.length ≤ w.processed * m + w.empties := h.budget m hm
  have hempties : w.empties < m := (h.patience m hm).2 (by rw [hphase]; rfl)
  have hprocessed : (w.processed : ℤ) < n := (h.stepping hphase).2 n hn
  calc w.reads.length < w.processed * m + m := by omega
    _ = (w.processed + 1) * m := (Nat.succ_mul _ _).symm
    _ ≤ n.toNat * m := Nat.mul_le_mul_right m (by omega)

theorem remaining_stepped {k : ℕ} (hphase : w.phase = .stepping) (hlt : w.reads.length < k)
    (r : Except X Bool) : (stepped l w r).remaining k + 1 ≤ w.remaining k := by
  have hbefore : w.remaining k = 3 * (k - w.reads.length) + 1 := by
    rw [remaining, hphase]
    rfl
  rw [hbefore]
  rcases r with x | read
  · exact Nat.succ_le_succ (Nat.le_add_right _ 0)
  · cases read with
    | true =>
        simp only [stepped, remaining, RunPhase.weight, List.length_cons]
        omega
    | false =>
        simp only [stepped, remaining, List.length_cons]
        split_ifs
        · simp only [RunPhase.weight]
          omega
        · simp only [RunPhase.weight]
          omega

variable [Arith F] {s : StepSettings} {d : Devices F D X W} {tracking : Bool}

theorem sound_step (e : RunEvent) (h : w.Sound l) (hstep : step s d tracking l w e = some w') :
    w'.Sound l := by
  cases e with
  | requestStop =>
      cases hstep
      exact h.requestStop
  | top =>
      simp only [step] at hstep
      split at hstep
      case h_1 htop =>
        cases hstep
        exact h.top htop
      case h_2 => cases hstep
  | step tracked =>
      simp only [step] at hstep
      split at hstep
      case h_1 hstepping =>
        cases hstep
        rcases (Loop.step s d (if tracking then some tracked else none) w.pipeline).1 with x | read
        · exact h.raised hstepping _ x
        · cases read with
          | false => exact h.empty hstepping _
          | true => exact h.frame hstepping _
      case h_2 => cases hstep
  | sleep =>
      simp only [step] at hstep
      split at hstep
      case h_1 hidle =>
        cases hstep
        exact h.sleep hidle
      case h_2 => cases hstep

/-- **The loop.**  Whatever the camera, the signals and the parts of the pipeline do, the loop
counts its frames and its empty reads, sleeps on each of these but the one that ends it, keeps to
both of its bounds, steps at most once more when it is asked to stop, and returns for a reason. -/
theorem always_accounted (s : StepSettings) (d : Devices F D X W) (tracking : Bool) (l : RunLimits)
    (pipeline : Loop F X W) (stop : Bool) (es : List RunEvent) :
    Automaton.Always (step s d tracking l) (Accounted l) (start pipeline stop) es := by
  have hsound : Automaton.Always (step s d tracking l) (Sound l) (start pipeline stop) es :=
    Automaton.always_of_along (P := fun _ _ ↦ True)
      (fun w e w' h _ hstep ↦ sound_step e h hstep) (sound_start l pipeline stop)
      (Automaton.Along.of_forall fun _ _ ↦ trivial)
  exact hsound.mono fun w ↦ Sound.account

/-! ## A bounded loop ends -/

/-- The loop has returned or raised. -/
def Ended (w : Run F X W) : Prop :=
  (∃ n why, w.phase = .returned n why) ∨ ∃ x, w.phase = .raised x

/-- Every step of the loop brings it nearer to its end, and no signal takes it back. -/
theorem remaining_step (h : w.Sound l) {n : ℤ} (hn : n ∈ l.maxIterations) {m : ℕ}
    (hm : m ∈ l.patience) {e : RunEvent} (hstep : step s d tracking l w e = some w') :
    (if e.isSignal then 0 else 1) + w'.remaining (n.toNat * m) ≤ w.remaining (n.toNat * m) := by
  cases e with
  | requestStop =>
      cases hstep
      exact (Nat.zero_add _).le
  | top =>
      simp only [step] at hstep
      split at hstep
      case h_1 htop =>
        cases hstep
        simp only [remaining, htop, RunEvent.isSignal, Bool.false_eq_true, if_false]
        split_ifs
        · simp only [RunPhase.weight]
          omega
        · simp only [RunPhase.weight]
          omega
        · simp only [RunPhase.weight]
          omega
      case h_2 => cases hstep
  | step tracked =>
      simp only [step] at hstep
      split at hstep
      case h_1 hstepping =>
        cases hstep
        rw [Nat.add_comm]
        exact remaining_stepped (w := { w with
          pipeline := _, late := w.late + if w.stop then 1 else 0 }) hstepping
          (h.length_reads_lt hstepping hn hm) _
      case h_2 => cases hstep
  | sleep =>
      simp only [step] at hstep
      split at hstep
      case h_1 hidle =>
        cases hstep
        simp only [remaining, hidle, RunEvent.isSignal, Bool.false_eq_true, if_false,
          RunPhase.weight]
        omega
      case h_2 => cases hstep

theorem exec_remaining (h : w.Sound l) {n : ℤ} (hn : n ∈ l.maxIterations) {m : ℕ}
    (hm : m ∈ l.patience) {es : List RunEvent}
    (hexec : Automaton.exec (step s d tracking l) w es = some w') :
    es.countP (!·.isSignal) + w'.remaining (n.toNat * m) ≤ w.remaining (n.toNat * m) := by
  induction es generalizing w with
  | nil =>
      cases hexec
      exact (Nat.zero_add _).le
  | cons e es ih =>
      obtain ⟨v, hstep, hrest⟩ := Automaton.exec_cons_eq_some.mp hexec
      have hhead := remaining_step h hn hm hstep
      have htail := ih (sound_step e h hstep) hrest
      rw [List.countP_cons]
      cases hsignal : e.isSignal with
      | true =>
          rw [hsignal] at hhead
          simp only [if_true, Bool.not_true, Bool.false_eq_true, if_false] at hhead ⊢
          omega
      | false =>
          rw [hsignal] at hhead
          simp only [Bool.false_eq_true, if_false, Bool.not_false, if_true] at hhead ⊢
          omega

/-- Nothing but its end stops the loop. -/
theorem ended_or_steps (s : StepSettings) (d : Devices F D X W) (tracking : Bool) (l : RunLimits)
    (w : Run F X W) :
    w.Ended ∨ ∃ e w', e.isSignal = false ∧ step s d tracking l w e = some w' := by
  cases hphase : w.phase with
  | top => exact .inr ⟨.top, _, rfl, by simp only [step, hphase]; rfl⟩
  | stepping => exact .inr ⟨.step .raised, _, rfl, by simp only [step, hphase]; rfl⟩
  | idle => exact .inr ⟨.sleep, _, rfl, by simp only [step, hphase]; rfl⟩
  | returned n why => exact .inl (.inl ⟨n, why, hphase⟩)
  | raised x => exact .inl (.inr ⟨x, hphase⟩)

/-- **Termination.**  A loop with both bounds ends: it has only so many steps, whatever its
devices do, and can take one until it has returned or raised. -/
theorem bounded_loop_ends {n : ℤ} (hn : n ∈ l.maxIterations) {m : ℕ} (hm : m ∈ l.patience)
    (pipeline : Loop F X W) (stop : Bool) {es : List RunEvent}
    (hexec : Automaton.exec (step s d tracking l) (start pipeline stop) es = some w) :
    es.countP (!·.isSignal) ≤ 3 * (n.toNat * m) + 2 ∧
      (w.Ended ∨ ∃ e w', e.isSignal = false ∧ step s d tracking l w e = some w') := by
  have hcount := exec_remaining (sound_start l pipeline stop) hn hm hexec
  have hstart : (start pipeline stop).remaining (n.toNat * m) = 3 * (n.toNat * m) + 2 := rfl
  exact ⟨by omega, ended_or_steps s d tracking l w⟩

/-- A camera that answers as listed, and a detector that fails. -/
def scripted (t : F) : Devices F Unit Unit (List Bool) where
  readFrame answers := (.ok (if answers.headD false then some ⟨t, ()⟩ else none), answers.tail)
  now := Prod.mk 0
  detect _ := Prod.mk .detectionError
  write _ := Prod.mk (.ok ())
  pollHeartbeat := Prod.mk (.ok ())
  publish _ _ _ := Prod.mk (.ok false)
  heartbeatFresh := Prod.mk none
  suppressedSnapshot _ _ := 0

/-- A frame and an empty read; the loop is asked to stop while it sleeps. -/
def interrupted : List RunEvent :=
  [.top, .step .raised, .top, .step .raised, .sleep, .requestStop, .top]

theorem interrupted_ends : ∃ w, Automaton.exec
      (step { bridge := false } (scripted (0 : ℝ)) false ⟨some 4, some 2⟩)
      (start { world := [true, false] } false) interrupted = some w ∧
    interrupted.countP (!·.isSignal) ≤ 3 * (4 * 2) + 2 ∧
      (w.Ended ∨ ∃ e w', e.isSignal = false ∧
        step { bridge := false } (scripted (0 : ℝ)) false ⟨some 4, some 2⟩ w e = some w') :=
  ⟨_, rfl, bounded_loop_ends (n := 4) (m := 2) rfl rfl { world := [true, false] } false rfl⟩

/-! ## The calls of a run -/

/-- The calls of the pipeline. -/
def calls (es : List RunEvent) : List PipelineCall :=
  es.filterMap fun
    | .step tracked => some (.step tracked)
    | _ => none

/-- What the loop leaves of the pipeline is what its steps leave, so that what holds along the
calls of a pipeline holds along the loop. -/
theorem pipeline_exec {es : List RunEvent}
    (h : Automaton.exec (step s d tracking l) w es = some w') :
    w'.pipeline = (Loop.run s d tracking w.pipeline (calls es)).2 := by
  induction es generalizing w with
  | nil =>
      cases h
      rfl
  | cons e es ih =>
      obtain ⟨v, hstep, hrest⟩ := Automaton.exec_cons_eq_some.mp h
      rw [ih hrest]
      cases e with
      | requestStop =>
          cases hstep
          rfl
      | top =>
          simp only [step] at hstep
          split at hstep
          case h_1 =>
            cases hstep
            rfl
          case h_2 => cases hstep
      | step tracked =>
          simp only [step] at hstep
          split at hstep
          case h_1 =>
            cases hstep
            rw [stepped_pipeline]
            rfl
          case h_2 => cases hstep
      | sleep =>
          simp only [step] at hstep
          split at hstep
          case h_1 =>
            cases hstep
            rfl
          case h_2 => cases hstep

/-- The loop of a pipeline with a bridge keeps the books of both. -/
theorem loop_accounted_exec {E : Type} {d : Devices F D X E} {b : LandingSettings F}
    {k : Link F X E} {w w' : Run F X (LinkState F E)} {es : List RunEvent}
    (h : Automaton.exec (step s (d.withBridge b k) tracking l) w es = some w')
    (hp : w.pipeline.Accounted b) : w'.pipeline.Accounted b := by
  rw [pipeline_exec h]
  exact Loop.accounted_run tracking (calls es) hp

end Run

end DroneComms.Jetson
