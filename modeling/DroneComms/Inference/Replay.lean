import DroneComms.Inference.Client
import DroneComms.Inference.OfflineQueue
import DroneComms.Lib.Automaton
import DroneComms.Py.JsonRoundTrip

/-!
# The tasks of the inference service

`_analyze_and_publish` and `_drain_offline` of `meshsa/inference/service.py`: any
number of tasks on one event loop.  Between two `await`s a task runs alone; an
event is what ends the `await` of a task.

Which messages become tasks is left open, and so is the order in which waiting
tasks get the lock.  The gate in front of the client only delays its reply.
-/

namespace DroneComms.Inference

open Mesh (Envelope)
open Py (Value)
open Relation (ReflTransGen)

/-- Where a task waits. -/
inductive Phase where
  /-- The task has not begun, or has ended. -/
  | absent
  | /-- For `_gated_analyze(envelope)`. -/ analyzing (envelope : Envelope)
  | /-- For `_publish(envelope, result)`. -/ publishing (envelope : Envelope)
  | /-- For the drain lock. -/ waiting (envelope : Envelope)
  | /-- For `_gated_analyze(pending)`. -/ replaying (envelope : Envelope) (pending : Entry)
  | /-- For `_publish(pending, result)`. -/ republishing (envelope : Envelope) (pending : Entry)

/-- The local variable `pending`. -/
def Phase.pending : Phase → Option Entry
  | replaying _ pending | republishing _ pending => some pending
  | _ => none

/-- The configuration of a service. -/
structure ServiceConfig where
  client : ClientConfig
  offlineQueueMax : ℕ

/-- The state of an `InferenceService` and its tasks. -/
structure Service where
  offline : OfflineQueue := {}
  drainLock : Option ℕ := none
  phase : ℕ → Phase := fun _ ↦ .absent

/-- What can happen next. -/
inductive ServiceEvent where
  | /-- `handle_message` creates a task. -/ arrive (t : ℕ) (envelope : Envelope)
  | /-- The client has its last reply. -/ analyzed (t : ℕ) (reply : Reply)
  | /-- `publish` returns or raises. -/ published (t : ℕ) (failure : Option Failure)
  | lockAcquired (t : ℕ)
  | /-- `stop` cancels a task. -/ cancelled (t : ℕ)

namespace Service

variable (cfg : ServiceConfig)

def setPhase (t : ℕ) (p : Phase) (s : Service) : Service :=
  { s with phase := Function.update s.phase t p }

/-- The handlers of `_analyze_and_publish`. -/
def fail (t : ℕ) (envelope : Envelope) (failure : Failure) (s : Service) : Service :=
  if failure.isInferenceError && (decide (0 < cfg.offlineQueueMax) && failure.isOfflineRetryable) then
    { s with offline := s.offline.enqueue cfg.offlineQueueMax envelope }.setPhase t .absent
  else s.setPhase t .absent

/-- The loop of `_drain_offline`, by the holder of the lock. -/
def drain (t : ℕ) (envelope : Envelope) (s : Service) : Service :=
  match s.offline.queue with
  | [] => { s with drainLock := none }.setPhase t .absent
  | item :: rest => { s with offline := s.offline.pop item rest }.setPhase t (.replaying envelope item)

/-- A live analysis has its reply. -/
def analyzedLive (t : ℕ) (envelope : Envelope) (reply : Reply) (s : Service) : Service :=
  match cfg.client.outcome reply with
  | .ok result => s.setPhase t (if result.summary ≠ "" then .publishing envelope else .absent)
  | .error failure => s.fail cfg t envelope failure

/-- A replay has its reply. -/
def analyzedReplay (t : ℕ) (envelope : Envelope) (pending : Entry) (reply : Reply) (s : Service) :
    Service :=
  match cfg.client.outcome reply with
  | .ok result =>
      if result.summary ≠ "" then s.setPhase t (.republishing envelope pending)
      else { s with offline := s.offline.deliver pending }.drain t envelope
  | .error failure =>
      if failure.isInferenceError then
        if failure.isOfflineRetryable then
          { s with
            offline := s.offline.put cfg.offlineQueueMax pending true
            drainLock := none }.setPhase t .absent
        else { s with offline := s.offline.recordDrop pending }.drain t envelope
      else { s with drainLock := none }.fail cfg t envelope failure

/-- The insight of a live analysis is published, or not. -/
def publishedLive (t : ℕ) (envelope : Envelope) (failure : Option Failure) (s : Service) : Service :=
  match failure with
  | none => s.setPhase t (if s.offline.queue.isEmpty then .absent else .waiting envelope)
  | some failure => s.fail cfg t envelope failure

/-- The insight of a replay is published, or not. -/
def publishedReplay (t : ℕ) (envelope : Envelope) (pending : Entry) (failure : Option Failure)
    (s : Service) : Service :=
  match failure with
  | none => { s with offline := s.offline.deliver pending }.drain t envelope
  | some failure => { s with drainLock := none }.fail cfg t envelope failure

def step (s : Service) : ServiceEvent → Option Service
  | .arrive t envelope =>
      match s.phase t with
      | .absent => some (s.setPhase t (.analyzing envelope))
      | _ => none
  | .analyzed t reply =>
      match s.phase t with
      | .analyzing envelope => some (s.analyzedLive cfg t envelope reply)
      | .replaying envelope pending => some (s.analyzedReplay cfg t envelope pending reply)
      | _ => none
  | .published t failure =>
      match s.phase t with
      | .publishing envelope => some (s.publishedLive cfg t envelope failure)
      | .republishing envelope pending => some (s.publishedReplay cfg t envelope pending failure)
      | _ => none
  | .lockAcquired t =>
      match s.phase t, s.drainLock with
      | .waiting envelope, none => some ({ s with drainLock := some t }.drain t envelope)
      | _, _ => none
  | .cancelled t =>
      match s.phase t with
      | .absent => none
      -- `async with` releases the lock
      | .replaying _ _ | .republishing _ _ =>
          some ({ s with drainLock := none }.setPhase t .absent)
      | _ => some (s.setPhase t .absent)

/-- The step ends a replay with an exception that `_drain_offline` does not handle. -/
def Loses (s : Service) : ServiceEvent → Prop
  | .analyzed t reply => (∃ envelope pending, s.phase t = .replaying envelope pending) ∧
      cfg.client.Unhandled reply
  | .published t failure => (∃ envelope pending, s.phase t = .republishing envelope pending) ∧
      failure ≠ none
  | .cancelled t => (s.phase t).pending ≠ none
  | _ => False

/-- The envelope that is being replayed. -/
def taken (s : Service) : Option Entry := s.drainLock.bind fun t ↦ (s.phase t).pending

/-- The lock is held by the task that replays, and no other task does. -/
def Locked (s : Service) : Prop := ∀ t, (s.phase t).pending ≠ none ↔ s.drainLock = some t

/-- Only this task may replay. -/
def Others (s : Service) (t : ℕ) : Prop := ∀ t', t' ≠ t → (s.phase t').pending = none

variable {cfg} {s q : Service} {t : ℕ} {e : ServiceEvent}

@[simp] theorem phase_setPhase (p : Phase) (t' : ℕ) :
    (s.setPhase t p).phase t' = if t' = t then p else s.phase t' := Function.update_apply ..

@[simp] theorem drainLock_setPhase (p : Phase) : (s.setPhase t p).drainLock = s.drainLock := rfl

theorem Locked.init : Locked {} := by
  intro t
  simp [Phase.pending]

theorem taken_eq_none (h : s.drainLock = none) : s.taken = none := by rw [taken, h, Option.bind_none]

/-- The task that replays holds the lock. -/
theorem Locked.holder (h : s.Locked) {pending : Entry} (hpending : (s.phase t).pending = some pending) :
    s.drainLock = some t ∧ s.taken = some pending ∧ s.Others t := by
  have hlock : s.drainLock = some t := (h t).mp (by simp [hpending])
  refine ⟨hlock, by rw [taken, hlock, Option.bind_some, hpending], fun t' ht' ↦ ?_⟩
  by_contra hne
  have hlock' := (h t').mp hne
  rw [hlock, Option.some_inj] at hlock'
  exact ht' hlock'.symm

theorem Locked.others (h : s.Locked) (hlock : s.drainLock = none) (t : ℕ) : s.Others t := by
  intro t' _
  by_contra hne
  have hlock' := (h t').mp hne
  rw [hlock] at hlock'
  cases hlock'

/-- A task that does not replay goes on without replaying. -/
theorem Locked.setPhase (h : s.Locked) (hpending : (s.phase t).pending = none) {p : Phase}
    (hp : p.pending = none) : (s.setPhase t p).Locked ∧ (s.setPhase t p).taken = s.taken := by
  have hphase : ∀ t', ((s.setPhase t p).phase t').pending = (s.phase t').pending := by
    intro t'
    rw [phase_setPhase]
    split
    · rename_i heq
      rw [heq, hp, hpending]
    · rfl
  constructor
  · intro t'
    rw [hphase, drainLock_setPhase, h t']
  · simp only [taken, hphase, drainLock_setPhase]

/-- A task that alone may replay does not, and no task holds the lock. -/
theorem Others.released (h : s.Others t) (hlock : s.drainLock = none) {p : Phase}
    (hp : p.pending = none) : (s.setPhase t p).Locked := by
  intro t'
  rw [drainLock_setPhase, hlock, phase_setPhase]
  split
  · simp [hp]
  · rename_i hne
    simp [h t' hne]

/-- A task that alone may replay does, and holds the lock. -/
theorem Others.holding (h : s.Others t) (hlock : s.drainLock = some t) {p : Phase} {pending : Entry}
    (hp : p.pending = some pending) :
    (s.setPhase t p).Locked ∧ (s.setPhase t p).taken = some pending := by
  constructor
  · intro t'
    rw [drainLock_setPhase, hlock, phase_setPhase]
    split
    · rename_i heq
      simp [hp, heq]
    · rename_i hne
      simp [h t' hne, Ne.symm hne]
  · simp [taken, hlock, hp]

/-! ## What a step does to the queue -/

/-- The queue and the envelope that is being replayed. -/
def view (s : Service) : OfflineQueue × Option Entry := (s.offline, s.taken)

variable (cfg) in
/-- The loop takes the oldest envelope out, if there is one. -/
theorem Others.drain (h : s.Others t) (hlock : s.drainLock = some t) (envelope : Envelope) :
    (s.drain t envelope).Locked ∧
      Moves cfg.offlineQueueMax (s.offline, none) (s.drain t envelope).view := by
  rw [Service.drain]
  cases hqueue : s.offline.queue with
  | nil =>
      have hrest : ({ s with drainLock := none } : Service).Others t := h
      refine ⟨hrest.released rfl rfl, ?_⟩
      rw [view, taken_eq_none rfl]
      exact ReflTransGen.refl
  | cons item rest =>
      have hrest : ({ s with offline := s.offline.pop item rest } : Service).Others t := h
      have hpending : (Phase.replaying envelope item).pending = some item := rfl
      obtain ⟨hlocked, htaken⟩ := hrest.holding hlock hpending
      refine ⟨hlocked, ?_⟩
      dsimp only
      rw [view, htaken]
      exact ReflTransGen.single (.pop hqueue)

variable (cfg) in
/-- A task that fails ends, and its envelope may be put into the queue. -/
theorem fail_moves (envelope : Envelope) (failure : Failure)
    (hlocked : (s.setPhase t .absent).Locked) :
    (s.fail cfg t envelope failure).Locked ∧
      (s.fail cfg t envelope failure).taken = (s.setPhase t .absent).taken ∧
      Moves cfg.offlineQueueMax (s.setPhase t .absent).view (s.fail cfg t envelope failure).view := by
  rw [fail]
  split
  · rename_i hput
    rw [Bool.and_eq_true, Bool.and_eq_true, decide_eq_true_eq] at hput
    exact ⟨hlocked, rfl, ReflTransGen.single (.enqueue envelope hput.2.1)⟩
  · exact ⟨hlocked, rfl, ReflTransGen.refl⟩

/-- A step of a task that does not replay. -/
theorem Locked.live (h : s.Locked) (hpending : (s.phase t).pending = none) {p : Phase}
    (hp : p.pending = none) :
    (s.setPhase t p).Locked ∧ Moves cfg.offlineQueueMax s.view (s.setPhase t p).view := by
  obtain ⟨hlocked, htaken⟩ := h.setPhase hpending hp
  refine ⟨hlocked, ?_⟩
  rw [view, view, htaken]
  exact ReflTransGen.refl

theorem Locked.liveFail (h : s.Locked) (hpending : (s.phase t).pending = none)
    (envelope : Envelope) (failure : Failure) :
    (s.fail cfg t envelope failure).Locked ∧
      Moves cfg.offlineQueueMax s.view (s.fail cfg t envelope failure).view := by
  obtain ⟨hlocked, htaken⟩ := h.setPhase hpending (p := .absent) rfl
  obtain ⟨hfail, -, hmoves⟩ := fail_moves cfg envelope failure hlocked
  refine ⟨hfail, ?_⟩
  rwa [view, htaken] at hmoves

variable (cfg) in
/-- The exception that ends a replay unhandled takes the envelope with it. -/
theorem Others.lose (h : s.Others t) (envelope : Envelope) (failure : Failure) :
    ({ s with drainLock := none }.fail cfg t envelope failure).Locked ∧
      ({ s with drainLock := none }.fail cfg t envelope failure).taken = none ∧
      Moves cfg.offlineQueueMax (s.offline, none)
        ({ s with drainLock := none }.fail cfg t envelope failure).view := by
  have hrest : ({ s with drainLock := none } : Service).Others t := h
  obtain ⟨hfail, htaken, hmoves⟩ :=
    fail_moves cfg envelope failure (hrest.released rfl (p := .absent) rfl)
  exact ⟨hfail, htaken, hmoves⟩

theorem analyzedLive_moves (h : s.Locked) {envelope : Envelope}
    (hphase : s.phase t = .analyzing envelope) (reply : Reply) :
    (s.analyzedLive cfg t envelope reply).Locked ∧
      Moves cfg.offlineQueueMax s.view (s.analyzedLive cfg t envelope reply).view := by
  have hpending : (s.phase t).pending = none := by
    rw [hphase]
    rfl
  rw [analyzedLive]
  cases cfg.client.outcome reply with
  | ok result =>
      apply h.live hpending
      split <;> rfl
  | error failure => exact h.liveFail hpending envelope failure

theorem publishedLive_moves (h : s.Locked) {envelope : Envelope}
    (hphase : s.phase t = .publishing envelope) (failure : Option Failure) :
    (s.publishedLive cfg t envelope failure).Locked ∧
      Moves cfg.offlineQueueMax s.view (s.publishedLive cfg t envelope failure).view := by
  have hpending : (s.phase t).pending = none := by
    rw [hphase]
    rfl
  cases failure with
  | none =>
      apply h.live hpending
      split <;> rfl
  | some failure => exact h.liveFail hpending envelope failure

variable (cfg) in
/-- The end of a replay, after which the loop goes on. -/
theorem Others.settle (h : s.Others t) (hlock : s.drainLock = some t) (envelope : Envelope)
    {offline : OfflineQueue} {pending : Entry}
    (hmove : Move cfg.offlineQueueMax (s.offline, some pending) (offline, none)) :
    ({ s with offline }.drain t envelope).Locked ∧
      Moves cfg.offlineQueueMax (s.offline, some pending)
        ({ s with offline }.drain t envelope).view := by
  have hrest : ({ s with offline } : Service).Others t := h
  obtain ⟨hlocked, hmoves⟩ := hrest.drain cfg hlock envelope
  exact ⟨hlocked, hmoves.head hmove⟩

/-- A replay that gets its reply is settled, goes on, or is lost. -/
theorem analyzedReplay_moves (h : s.Locked) {envelope : Envelope} {pending : Entry}
    (hphase : s.phase t = .replaying envelope pending) (reply : Reply) :
    (s.analyzedReplay cfg t envelope pending reply).Locked ∧
      (cfg.client.outcome reply ≠ .error .other →
        Moves cfg.offlineQueueMax s.view (s.analyzedReplay cfg t envelope pending reply).view) ∧
      (cfg.client.outcome reply = .error .other →
        (s.analyzedReplay cfg t envelope pending reply).taken = none ∧
        Moves cfg.offlineQueueMax (s.offline, none)
          (s.analyzedReplay cfg t envelope pending reply).view) := by
  have hpending : (s.phase t).pending = some pending := by
    rw [hphase]
    rfl
  obtain ⟨hlock, htaken, hothers⟩ := h.holder hpending
  have hview : s.view = (s.offline, some pending) := by rw [view, htaken]
  rw [analyzedReplay, hview]
  cases houtcome : cfg.client.outcome reply with
  | ok result =>
      refine ⟨?_, fun _ ↦ ?_, by simp⟩
      · dsimp only
        split
        · exact (hothers.holding hlock (p := .republishing envelope pending) rfl).1
        · exact (hothers.settle cfg hlock envelope .deliver).1
      · dsimp only
        split
        · rw [view, (hothers.holding hlock (p := .republishing envelope pending) rfl).2]
          exact ReflTransGen.refl
        · exact (hothers.settle cfg hlock envelope .deliver).2
  | error failure =>
      have hlost := hothers.lose cfg envelope failure
      have hrest : ({ s with
          offline := s.offline.put cfg.offlineQueueMax pending true
          drainLock := none } : Service).Others t := hothers
      cases failure with
      | other => exact ⟨hlost.1, by simp, fun _ ↦ hlost.2⟩
      | inferenceTransport =>
          refine ⟨hrest.released rfl rfl, fun _ ↦ ?_, by simp⟩
          exact ReflTransGen.single .requeue
      | inference =>
          obtain ⟨hlocked, hmoves⟩ := hothers.settle cfg hlock envelope .discard
          exact ⟨hlocked, fun _ ↦ hmoves, by simp⟩
      | inferenceHttp status =>
          cases htransient : isTransientStatus status with
          | true =>
              simp only [Failure.isInferenceError, Failure.isOfflineRetryable, htransient, if_true]
              refine ⟨hrest.released rfl rfl, fun _ ↦ ?_, by simp⟩
              exact ReflTransGen.single .requeue
          | false =>
              simp only [Failure.isInferenceError, Failure.isOfflineRetryable, htransient, if_true,
                Bool.false_eq_true, if_false]
              obtain ⟨hlocked, hmoves⟩ := hothers.settle cfg hlock envelope .discard
              exact ⟨hlocked, fun _ ↦ hmoves, by simp⟩

/-- A replay whose insight is published is settled; otherwise it is lost. -/
theorem publishedReplay_moves (h : s.Locked) {envelope : Envelope} {pending : Entry}
    (hphase : s.phase t = .republishing envelope pending) (failure : Option Failure) :
    (s.publishedReplay cfg t envelope pending failure).Locked ∧
      (failure = none →
        Moves cfg.offlineQueueMax s.view (s.publishedReplay cfg t envelope pending failure).view) ∧
      (failure ≠ none →
        (s.publishedReplay cfg t envelope pending failure).taken = none ∧
        Moves cfg.offlineQueueMax (s.offline, none)
          (s.publishedReplay cfg t envelope pending failure).view) := by
  have hpending : (s.phase t).pending = some pending := by
    rw [hphase]
    rfl
  obtain ⟨hlock, htaken, hothers⟩ := h.holder hpending
  have hview : s.view = (s.offline, some pending) := by rw [view, htaken]
  rw [hview]
  cases failure with
  | none =>
      obtain ⟨hlocked, hmoves⟩ := hothers.settle cfg hlock envelope .deliver
      exact ⟨hlocked, fun _ ↦ hmoves, by simp⟩
  | some failure =>
      have hlost := hothers.lose cfg envelope failure
      exact ⟨hlost.1, by simp, fun _ ↦ hlost.2⟩

/-- A task that replays holds an envelope. -/
theorem Locked.taken_ne_none (h : s.Locked) {pending : Entry}
    (hpending : (s.phase t).pending = some pending) : s.taken ≠ none := by
  rw [(h.holder hpending).2.1]
  exact Option.some_ne_none pending

/-- A cancelled task is gone, with the envelope that it replayed. -/
theorem cancelled_moves (h : s.Locked) (hstep : s.step cfg (.cancelled t) = some q) :
    q.Locked ∧
      ((s.phase t).pending = none → Moves cfg.offlineQueueMax s.view q.view) ∧
      ((s.phase t).pending ≠ none →
        s.taken ≠ none ∧ q.taken = none ∧ Moves cfg.offlineQueueMax (s.offline, none) q.view) := by
  cases hpending : (s.phase t).pending with
  | none =>
      have hq : q = s.setPhase t .absent := by
        cases hphase : s.phase t <;>
          simp_all [step, Phase.pending]
      subst hq
      obtain ⟨hlocked, hmoves⟩ := h.live hpending (p := .absent) rfl
      exact ⟨hlocked, fun _ ↦ hmoves, fun hne ↦ (hne rfl).elim⟩
  | some pending =>
      have hq : q = { s with drainLock := none }.setPhase t .absent := by
        cases hphase : s.phase t <;>
          simp_all [step, Phase.pending]
      subst hq
      have hrest : ({ s with drainLock := none } : Service).Others t := (h.holder hpending).2.2
      refine ⟨hrest.released rfl rfl, ?_, fun _ ↦ ⟨h.taken_ne_none hpending, rfl, ?_⟩⟩
      · intro hnone
        cases hnone
      · exact ReflTransGen.refl

/-- A step moves envelopes, or loses the one that is being replayed. -/
theorem step_moves (h : s.Locked) (hstep : s.step cfg e = some q) :
    q.Locked ∧
      (¬ s.Loses cfg e ∧ Moves cfg.offlineQueueMax s.view q.view ∨
        s.Loses cfg e ∧ s.taken ≠ none ∧ q.taken = none ∧
          Moves cfg.offlineQueueMax (s.offline, none) q.view) := by
  cases e with
  | arrive t envelope =>
      cases hphase : s.phase t <;> simp only [step, hphase, reduceCtorEq, Option.some.injEq] at hstep
      subst hstep
      obtain ⟨hlocked, hmoves⟩ := h.live (t := t) (by rw [hphase]; rfl) (p := .analyzing envelope) rfl
      exact ⟨hlocked, .inl ⟨id, hmoves⟩⟩
  | analyzed t reply =>
      cases hphase : s.phase t <;> simp only [step, hphase, reduceCtorEq, Option.some.injEq] at hstep
      case analyzing envelope =>
        subst hstep
        obtain ⟨hlocked, hmoves⟩ := analyzedLive_moves h hphase reply
        refine ⟨hlocked, .inl ⟨?_, hmoves⟩⟩
        rintro ⟨⟨envelope', pending, hreplaying⟩, -⟩
        rw [hphase] at hreplaying
        cases hreplaying
      case replaying envelope pending =>
        subst hstep
        obtain ⟨hlocked, hkept, hlost⟩ := analyzedReplay_moves h hphase reply
        have htaken : s.taken ≠ none := h.taken_ne_none (by rw [hphase]; rfl)
        refine ⟨hlocked, ?_⟩
        by_cases houtcome : cfg.client.outcome reply = .error .other
        · have hunhandled := ClientConfig.outcome_eq_other_iff.mp houtcome
          exact .inr ⟨⟨⟨envelope, pending, hphase⟩, hunhandled⟩, htaken, hlost houtcome⟩
        · refine .inl ⟨fun hloses ↦ ?_, hkept houtcome⟩
          exact houtcome (ClientConfig.outcome_eq_other_iff.mpr hloses.2)
  | published t failure =>
      cases hphase : s.phase t <;> simp only [step, hphase, reduceCtorEq, Option.some.injEq] at hstep
      case publishing envelope =>
        subst hstep
        obtain ⟨hlocked, hmoves⟩ := publishedLive_moves h hphase failure
        refine ⟨hlocked, .inl ⟨?_, hmoves⟩⟩
        rintro ⟨⟨envelope', pending, hreplaying⟩, -⟩
        rw [hphase] at hreplaying
        cases hreplaying
      case republishing envelope pending =>
        subst hstep
        obtain ⟨hlocked, hkept, hlost⟩ := publishedReplay_moves h hphase failure
        have htaken : s.taken ≠ none := h.taken_ne_none (by rw [hphase]; rfl)
        refine ⟨hlocked, ?_⟩
        by_cases hfailure : failure = none
        · exact .inl ⟨fun hloses ↦ hloses.2 hfailure, hkept hfailure⟩
        · exact .inr ⟨⟨⟨envelope, pending, hphase⟩, hfailure⟩, htaken, hlost hfailure⟩
  | lockAcquired t =>
      cases hphase : s.phase t <;> cases hlock : s.drainLock <;>
        simp only [step, hphase, hlock, reduceCtorEq, Option.some.injEq] at hstep
      subst hstep
      rename_i envelope
      have hothers : ({ s with drainLock := some t } : Service).Others t := h.others hlock t
      obtain ⟨hlocked, hmoves⟩ := hothers.drain cfg rfl envelope
      refine ⟨hlocked, .inl ⟨id, ?_⟩⟩
      rwa [view, taken_eq_none hlock]
  | cancelled t =>
      obtain ⟨hlocked, hkept, hlost⟩ := cancelled_moves h hstep
      refine ⟨hlocked, ?_⟩
      by_cases hpending : (s.phase t).pending = none
      · exact .inl ⟨fun hloses ↦ hloses hpending, hkept hpending⟩
      · exact .inr ⟨hpending, hlost hpending⟩

/-! ## Runs -/

/-- What every step keeps. -/
structure Sound (cfg : ServiceConfig) (s : Service) : Prop where
  locked : s.Locked
  fifo : s.offline.Fifo cfg.offlineQueueMax s.taken

theorem Sound.init : Sound cfg {} := ⟨Locked.init, OfflineQueue.Fifo.init⟩

theorem Sound.step (h : s.Sound cfg) (hstep : s.step cfg e = some q) : q.Sound cfg := by
  obtain ⟨hlocked, ⟨-, hmoves⟩ | ⟨-, -, -, hmoves⟩⟩ := step_moves h.locked hstep
  · exact ⟨hlocked, h.fifo.moves hmoves⟩
  · exact ⟨hlocked, h.fifo.forget.moves hmoves⟩

/-- Replays are started one at a time and in order. -/
structure ReplaysInOrder (maxlen : ℕ) (s : Service) : Prop where
  oneAtATime : ∀ t t', (s.phase t).pending ≠ none → (s.phase t').pending ≠ none → t = t'
  attempted : s.offline.attempts.Pairwise fun x y ↦ x.seq ≤ y.seq
  ordered : s.offline.replayed.Pairwise fun x y ↦ x.seq < y.seq
  sublist : s.offline.replayed.Sublist s.offline.enqueued
  bounded : s.offline.queue.length ≤ maxlen

theorem Sound.replaysInOrder (h : s.Sound cfg) : s.ReplaysInOrder cfg.offlineQueueMax where
  oneAtATime t t' ht ht' := by
    have hlock := (h.locked t).mp ht
    rw [(h.locked t').mp ht', Option.some_inj] at hlock
    exact hlock.symm
  attempted := h.fifo.attempted
  ordered := (List.pairwise_append.mp h.fifo.ordered).1
  sublist := h.fifo.replayed_sublist
  bounded := h.fifo.length_le

/-- **Offline replay is FIFO**, in every state of every run. -/
theorem offline_replay_is_fifo (cfg : ServiceConfig) (es : List ServiceEvent) :
    Automaton.Always (step cfg) (ReplaysInOrder cfg.offlineQueueMax) {} es :=
  (Automaton.always_of_along (fun _ _ _ hs _ hstep ↦ Sound.step hs hstep) Sound.init
    (Automaton.Along.of_forall fun _ _ ↦ trivial)).mono fun _ hs ↦ hs.replaysInOrder

/-- No replay is under way. -/
def AtRest (s : Service) : Prop := ∀ t, (s.phase t).pending = none

/-- At rest, every envelope that was queued waits, was replayed, or was dropped and counted. -/
def Accounted (s : Service) : Prop := s.AtRest → s.offline.Conserved

/-- No envelope is lost so far. -/
structure Complete (cfg : ServiceConfig) (s : Service) : Prop extends s.Sound cfg where
  balanced : s.offline.Balanced 0 s.taken

theorem Complete.init : Complete cfg {} := ⟨Sound.init, OfflineQueue.Balanced.init⟩

theorem Complete.step (h : s.Complete cfg) (hkeeps : ¬ s.Loses cfg e)
    (hstep : s.step cfg e = some q) : q.Complete cfg := by
  refine ⟨h.toSound.step hstep, ?_⟩
  obtain ⟨-, ⟨-, hmoves⟩ | ⟨hloses, -⟩⟩ := step_moves h.locked hstep
  · exact OfflineQueue.Balanced.moves hmoves h.fifo h.balanced
  · exact absurd hloses hkeeps

theorem Complete.accounts (h : s.Complete cfg) : s.Accounted := by
  intro hrest
  have htaken : s.taken = none := by
    rw [taken, Option.bind_eq_none_iff]
    exact fun t _ ↦ hrest t
  have hbalanced := h.balanced
  rw [htaken] at hbalanced
  exact hbalanced.conserved

/-- A step that loses an envelope shows, since no other replay is under way. -/
theorem Complete.not_accounted (h : s.Complete cfg) (hloses : s.Loses cfg e)
    (hstep : s.step cfg e = some q) : ¬ q.Accounted := by
  obtain ⟨hlocked, ⟨hkeeps, -⟩ | ⟨-, htaken, hrest, hmoves⟩⟩ := step_moves h.locked hstep
  · exact absurd hloses hkeeps
  · obtain ⟨item, hitem⟩ := Option.ne_none_iff_exists'.mp htaken
    have hbalanced := h.balanced
    rw [hitem] at hbalanced
    have hmissing := OfflineQueue.Balanced.moves hmoves h.fifo.forget hbalanced.lose
    rw [view, hrest] at hmissing
    intro haccounted
    refine hmissing.not_conserved (Multiset.singleton_ne_zero item) (haccounted fun t ↦ ?_)
    by_contra hpending
    have hlock := (hlocked t).mp hpending
    rw [taken, hlock, Option.bind_some] at hrest
    exact hpending hrest

/-- **The offline queue conserves envelopes** exactly in the runs in which no replay is
cancelled or ends with an exception that is no `InferenceError`. -/
theorem accounted_always_iff (cfg : ServiceConfig) (es : List ServiceEvent) :
    Automaton.Always (step cfg) Accounted {} es ↔
      Automaton.Along (step cfg) (fun s e ↦ ¬ s.Loses cfg e) {} es := by
  constructor
  · refine Automaton.along_of_always (J := Complete cfg) ?_ ?_ Complete.init
    · exact fun _ _ _ hs hkeeps hstep ↦ hs.step hkeeps hstep
    · exact fun _ _ _ hs hstep haccounted hloses ↦ hs.not_accounted hloses hstep haccounted
  · intro hkeeps
    have hcomplete := Automaton.always_of_along (I := Complete cfg)
      (fun _ _ _ hs hP hstep ↦ hs.step hP hstep) Complete.init hkeeps
    exact hcomplete.mono fun _ hs ↦ hs.accounts

/-- A reply with this completion text. -/
def completed (content : Value) : Reply :=
  .response 200 (chatCompletion content)

/-- The first envelope is queued, and the replay of it gets a completion without content.
`len(None)` raises a `TypeError`, and the envelope is neither queued nor replayed nor counted. -/
theorem empty_completion_loses_envelope :
    ¬ Automaton.Always (step ⟨.plain, 4⟩) Accounted {}
      [.arrive 0 ⟨1, "m0", .fin 0, "a", .chat, []⟩, .analyzed 0 .transportError,
        .arrive 1 ⟨1, "m1", .fin 1, "b", .chat, []⟩, .analyzed 1 (completed (.str "ok")),
        .published 1 none, .lockAcquired 1, .analyzed 1 (completed .none)] := by
  intro h
  have hend : (Automaton.exec (step ⟨.plain, 4⟩) {}
      [.arrive 0 ⟨1, "m0", .fin 0, "a", .chat, []⟩, .analyzed 0 .transportError,
        .arrive 1 ⟨1, "m1", .fin 1, "b", .chat, []⟩, .analyzed 1 (completed (.str "ok")),
        .published 1 none, .lockAcquired 1, .analyzed 1 (completed .none)]).any
      (fun s ↦ s.drainLock.isNone && (s.offline.enqueued.length == 1 &&
        (s.offline.queue ++ s.offline.replayed ++ s.offline.discarded).isEmpty)) = true := by
    decide +kernel
  obtain ⟨s, hs, hbad⟩ := (Option.any_eq_true _ _).mp hend
  have hsound : s.Sound _ :=
    Automaton.exec_invariant (fun _ _ _ hs hstep ↦ Sound.step hs hstep) Sound.init hs
  have haccounted := Automaton.always_iff_prefix.mp h _ s (List.prefix_refl _) hs
  simp only [Bool.and_eq_true, Option.isNone_iff_eq_none, beq_iff_eq, List.isEmpty_iff,
    List.append_eq_nil_iff] at hbad
  obtain ⟨hlock, hlength, ⟨hqueue, hreplayed⟩, hdiscarded⟩ := hbad
  have hrest : s.AtRest := by
    intro t
    by_contra hpending
    rw [(hsound.locked t).mp hpending] at hlock
    cases hlock
  have hbalance := congrArg Multiset.card (haccounted hrest).balance
  rw [hqueue, hreplayed, hdiscarded] at hbalance
  simp [hlength] at hbalance

end Service

end DroneComms.Inference
