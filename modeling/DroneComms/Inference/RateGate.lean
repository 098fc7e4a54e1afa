import DroneComms.Lib.Automaton
import Mathlib

/-!
# The rate gate

`_RateGate` of `meshsa/inference/service.py`, with any number of `run` calls on
one event loop.  Time passes at the `await` points only.  A call passes the
spacing, under a lock, and then the semaphore, if there is one; whoever waits for
either is served in order.

The spacing is between calls that leave it.  A call that then waits for a permit
starts when another one ends, however recently the last one started.
-/

namespace DroneComms.Inference

/-- The arguments of `_RateGate`. -/
structure GateSettings where
  /-- Zero is no bound. -/
  maxConcurrentRequests : ℕ
  minIntervalS : ℚ
  minIntervalS_nonneg : 0 ≤ minIntervalS

/-- A `_RateGate`, where its calls are, and what has happened so far. -/
structure RateGate where
  /-- The last reading of the clock. -/
  now : ℚ
  lastRequestAt : Option ℚ := none
  lockWaiters : List ℕ := []
  /-- The holder of the lock, and the time before which its sleep does not return. -/
  asleep : Option (ℕ × ℚ) := none
  permitWaiters : List ℕ := []
  /-- The wrapped calls that are running, the latest first. -/
  inProgress : List ℕ := []
  /-- When wrapped calls started, the latest first. -/
  started : List ℚ := []

/-- What can happen next; every event but a cancellation has the time at which it does. -/
inductive GateEvent where
  | /-- `run` is called. -/ run (id : ℕ) (now : ℚ)
  | /-- The first waiter gets the lock. -/ lockAcquired (now : ℚ)
  | /-- A sleep returns. -/ wake (now : ℚ)
  | /-- The first waiter gets a permit. -/ permit (now : ℚ)
  | /-- A wrapped call returns or raises. -/ finished (id : ℕ) (now : ℚ)
  | /-- A call is cancelled. -/ cancelled (id : ℕ)

namespace RateGate

variable (cfg : GateSettings)

/-- `await call()`. -/
def begin (id : ℕ) (g : RateGate) : RateGate :=
  { g with inProgress := id :: g.inProgress, started := g.now :: g.started }

/-- A call need not wait for a permit to run. -/
def PermitFree (g : RateGate) : Prop :=
  cfg.maxConcurrentRequests = 0 ∨
    g.inProgress.length < cfg.maxConcurrentRequests ∧ g.permitWaiters = []

instance (g : RateGate) : Decidable (g.PermitFree cfg) := by
  unfold PermitFree
  infer_instance

/-- `async with self._semaphore`. -/
def acquire (id : ℕ) (g : RateGate) : RateGate :=
  if g.PermitFree cfg then g.begin id else { g with permitWaiters := g.permitWaiters ++ [id] }

/-- The end of `_space`, and what follows. -/
def leave (id : ℕ) (g : RateGate) : RateGate :=
  { g with lastRequestAt := some g.now, asleep := none }.acquire cfg id

/-- How long a call that gets the lock sleeps. -/
def wait (g : RateGate) : ℚ :=
  match g.lastRequestAt with
  | none => 0
  | some last => cfg.minIntervalS - (g.now - last)

/-- `_space`, by the holder of the lock. -/
def space (id : ℕ) (g : RateGate) : RateGate :=
  if 0 < g.wait cfg then { g with asleep := some (id, g.now + g.wait cfg) } else g.leave cfg id

/-- The clock is read. -/
def tick (now : ℚ) (g : RateGate) : RateGate := { g with now }

def step (g : RateGate) : GateEvent → Option RateGate
  | .run id now =>
      if now < g.now then none
      else if cfg.minIntervalS ≤ 0 then some ((g.tick now).acquire cfg id)
      else if g.asleep = none ∧ g.lockWaiters = [] then some ((g.tick now).space cfg id)
      else some { g.tick now with lockWaiters := g.lockWaiters ++ [id] }
  | .lockAcquired now =>
      match g.asleep, g.lockWaiters with
      | none, id :: rest =>
          if now < g.now then none else some ({ g.tick now with lockWaiters := rest }.space cfg id)
      | _, _ => none
  | .wake now =>
      match g.asleep with
      | none => none
      | some (id, earliest) =>
          if now < g.now ∨ now < earliest then none else some ((g.tick now).leave cfg id)
  | .permit now =>
      match g.permitWaiters with
      | [] => none
      | id :: rest =>
          if now < g.now ∨ cfg.maxConcurrentRequests ≤ g.inProgress.length then none
          else some ({ g.tick now with permitWaiters := rest }.begin id)
  | .finished id now =>
      if now < g.now ∨ id ∉ g.inProgress then none
      else some { g.tick now with inProgress := g.inProgress.erase id }
  | .cancelled id =>
      some { g with
        lockWaiters := g.lockWaiters.erase id
        asleep := g.asleep.filter (·.1 ≠ id)
        permitWaiters := g.permitWaiters.erase id
        inProgress := g.inProgress.erase id }

/-- Any two wrapped calls started at least the interval apart. -/
def Spaced (g : RateGate) : Prop :=
  g.started.Pairwise fun later earlier ↦ cfg.minIntervalS ≤ later - earlier

/-- No more wrapped calls are running than allowed. -/
def Bounded (g : RateGate) : Prop :=
  0 < cfg.maxConcurrentRequests → g.inProgress.length ≤ cfg.maxConcurrentRequests

/-- A call that leaves the spacing with this event finds a permit. -/
def FindsPermit (g : RateGate) : GateEvent → Prop
  | .run _ now => g.asleep = none → g.lockWaiters = [] → (g.tick now).wait cfg ≤ 0 → g.PermitFree cfg
  | .lockAcquired now => (g.tick now).wait cfg ≤ 0 → g.PermitFree cfg
  | .wake _ => g.PermitFree cfg
  | _ => True

/-- What a step can be, with what it requires. -/
inductive Stepped (g : RateGate) : GateEvent → RateGate → Prop where
  | unspaced {id : ℕ} {now : ℚ} (hnow : g.now ≤ now) (hzero : cfg.minIntervalS ≤ 0) :
      Stepped g (.run id now) ((g.tick now).acquire cfg id)
  | spaced {id : ℕ} {now : ℚ} (hnow : g.now ≤ now) (hpos : 0 < cfg.minIntervalS)
      (hasleep : g.asleep = none) (hlock : g.lockWaiters = []) :
      Stepped g (.run id now) ((g.tick now).space cfg id)
  | queued {id : ℕ} {now : ℚ} (hnow : g.now ≤ now) :
      Stepped g (.run id now) { g.tick now with lockWaiters := g.lockWaiters ++ [id] }
  | lockAcquired {id : ℕ} {rest : List ℕ} {now : ℚ} (hnow : g.now ≤ now) :
      Stepped g (.lockAcquired now) ({ g.tick now with lockWaiters := rest }.space cfg id)
  | wake {id : ℕ} {earliest now : ℚ} (hnow : g.now ≤ now) (hasleep : g.asleep = some (id, earliest))
      (hearliest : earliest ≤ now) : Stepped g (.wake now) ((g.tick now).leave cfg id)
  | permit {id : ℕ} {rest : List ℕ} {now : ℚ} (hnow : g.now ≤ now)
      (hwaiters : g.permitWaiters = id :: rest)
      (hroom : g.inProgress.length < cfg.maxConcurrentRequests) :
      Stepped g (.permit now) ({ g.tick now with permitWaiters := rest }.begin id)
  | finished {id : ℕ} {now : ℚ} (hnow : g.now ≤ now) :
      Stepped g (.finished id now) { g.tick now with inProgress := g.inProgress.erase id }
  | cancelled {id : ℕ} :
      Stepped g (.cancelled id) { g with
        lockWaiters := g.lockWaiters.erase id
        asleep := g.asleep.filter (·.1 ≠ id)
        permitWaiters := g.permitWaiters.erase id
        inProgress := g.inProgress.erase id }

variable {cfg} {g q : RateGate} {e : GateEvent} {id : ℕ}

theorem stepped (h : g.step cfg e = some q) : g.Stepped cfg e q := by
  cases e with
  | run id now =>
      simp only [step, Option.ite_none_left_eq_some, not_lt] at h
      obtain ⟨hnow, h⟩ := h
      split_ifs at h with hzero hfree <;> cases h
      · exact .unspaced hnow hzero
      · exact .spaced hnow (not_le.mp hzero) hfree.1 hfree.2
      · exact .queued hnow
  | lockAcquired now =>
      simp only [step] at h
      split at h
      · rw [Option.ite_none_left_eq_some, not_lt] at h
        obtain ⟨hnow, h⟩ := h
        cases h
        exact .lockAcquired hnow
      · cases h
  | wake now =>
      simp only [step] at h
      split at h
      · cases h
      · rename_i id earliest hasleep
        rw [Option.ite_none_left_eq_some, not_or, not_lt, not_lt] at h
        obtain ⟨⟨hnow, hearliest⟩, h⟩ := h
        cases h
        exact .wake hnow hasleep hearliest
  | permit now =>
      simp only [step] at h
      split at h
      · cases h
      · rename_i id rest hwaiters
        rw [Option.ite_none_left_eq_some, not_or, not_lt, not_le] at h
        obtain ⟨⟨hnow, hroom⟩, h⟩ := h
        cases h
        exact .permit hnow hwaiters hroom
  | finished id now =>
      simp only [step, Option.ite_none_left_eq_some, not_or, not_lt] at h
      obtain ⟨⟨hnow, -⟩, h⟩ := h
      cases h
      exact .finished hnow
  | cancelled id =>
      cases h
      exact .cancelled

/-! ## Concurrency -/

theorem Bounded.acquire (h : g.Bounded cfg) : (g.acquire cfg id).Bounded cfg := by
  intro hpos
  rw [RateGate.acquire]
  split
  · rename_i hfree
    rcases hfree with hzero | ⟨hlt, -⟩
    · omega
    · exact hlt
  · exact h hpos

theorem Bounded.leave (h : g.Bounded cfg) : (g.leave cfg id).Bounded cfg :=
  Bounded.acquire (g := { g with lastRequestAt := some g.now, asleep := none }) h

theorem Bounded.space (h : g.Bounded cfg) : (g.space cfg id).Bounded cfg := by
  rw [RateGate.space]
  split
  · exact h
  · exact h.leave

theorem Bounded.step (h : g.Bounded cfg) (hstep : g.step cfg e = some q) : q.Bounded cfg := by
  cases stepped hstep with
  | unspaced => exact Bounded.acquire (g := g.tick _) h
  | spaced => exact Bounded.space (g := g.tick _) h
  | queued => exact h
  | lockAcquired => exact Bounded.space (g := { g.tick _ with lockWaiters := _ }) h
  | wake => exact Bounded.leave (g := g.tick _) h
  | permit _ _ hroom => exact fun _ ↦ hroom
  | finished => exact fun hpos ↦ List.length_erase_le.trans (h hpos)
  | cancelled => exact fun hpos ↦ List.length_erase_le.trans (h hpos)

/-! ## Spacing -/

/-- Starts are in order and not in the future. -/
structure Past (g : RateGate) : Prop where
  ordered : g.started.Pairwise fun later earlier ↦ earlier ≤ later
  past : ∀ t ∈ g.started, t ≤ g.now

theorem Past.init (now : ℚ) : Past { now } := ⟨List.Pairwise.nil, List.forall_mem_nil _⟩

theorem Past.tick (h : g.Past) {now : ℚ} (hnow : g.now ≤ now) : (g.tick now).Past :=
  ⟨h.ordered, fun t ht ↦ (h.past t ht).trans hnow⟩

/-- A change of the calls alone. -/
theorem Past.frame (h : g.Past) (hnow : q.now = g.now) (hstarted : q.started = g.started) :
    q.Past := by
  constructor
  · exact hstarted ▸ h.ordered
  · rw [hstarted, hnow]
    exact h.past

theorem Past.begin (h : g.Past) (id : ℕ) : (g.begin id).Past where
  ordered := List.pairwise_cons.mpr ⟨h.past, h.ordered⟩
  past := List.forall_mem_cons.mpr ⟨le_rfl, h.past⟩

theorem Past.acquire (h : g.Past) (id : ℕ) : (g.acquire cfg id).Past := by
  rw [RateGate.acquire]
  split
  · exact h.begin id
  · exact ⟨h.ordered, h.past⟩

theorem Past.leave (h : g.Past) (id : ℕ) : (g.leave cfg id).Past :=
  Past.acquire (g := { g with lastRequestAt := some g.now, asleep := none }) ⟨h.ordered, h.past⟩ id

theorem Past.space (h : g.Past) (id : ℕ) : (g.space cfg id).Past := by
  rw [RateGate.space]
  split
  · exact ⟨h.ordered, h.past⟩
  · exact h.leave id

theorem Past.step (h : g.Past) (hstep : g.step cfg e = some q) : q.Past := by
  cases stepped hstep with
  | unspaced hnow => exact (h.tick hnow).acquire _
  | spaced hnow => exact (h.tick hnow).space _
  | queued hnow => exact (h.tick hnow).frame rfl rfl
  | @lockAcquired _ rest now hnow =>
      have hrest : ({ g.tick now with lockWaiters := rest } : RateGate).Past :=
        (h.tick hnow).frame rfl rfl
      exact hrest.space _
  | wake hnow => exact (h.tick hnow).leave _
  | @permit _ rest now hnow =>
      have hrest : ({ g.tick now with permitWaiters := rest } : RateGate).Past :=
        (h.tick hnow).frame rfl rfl
      exact hrest.begin _
  | finished hnow => exact (h.tick hnow).frame rfl rfl
  | cancelled => exact h.frame rfl rfl

/-- Without an interval there is nothing to space. -/
theorem Past.spaced (h : g.Past) (hzero : cfg.minIntervalS ≤ 0) : g.Spaced cfg :=
  h.ordered.imp fun hle ↦ hzero.trans (sub_nonneg.mpr hle)

/-- The last call that left the spacing did so at least the interval ago. -/
def Clear (cfg : GateSettings) (last : Option ℚ) (now : ℚ) : Prop :=
  ∀ l ∈ last, l + cfg.minIntervalS ≤ now

/-- Every call that leaves the spacing starts at once. -/
structure Orderly (cfg : GateSettings) (g : RateGate) : Prop where
  spaced : g.Spaced cfg
  unqueued : g.permitWaiters = []
  last : ∀ t ∈ g.started, ∃ l ∈ g.lastRequestAt, t ≤ l
  asleep : ∀ p ∈ g.asleep, Clear cfg g.lastRequestAt p.2

theorem Orderly.init (now : ℚ) : Orderly cfg { now } where
  spaced := List.Pairwise.nil
  unqueued := rfl
  last := List.forall_mem_nil _
  asleep p hp := by cases hp

theorem Orderly.tick (h : g.Orderly cfg) (now : ℚ) : (g.tick now).Orderly cfg :=
  ⟨h.spaced, h.unqueued, h.last, h.asleep⟩

/-- A call that leaves the spacing in time, with a permit, starts in time. -/
theorem Orderly.leave (h : g.Orderly cfg) (hclear : Clear cfg g.lastRequestAt g.now)
    (hfree : g.PermitFree cfg) : (g.leave cfg id).Orderly cfg := by
  have hfree' : ({ g with lastRequestAt := some g.now, asleep := none } : RateGate).PermitFree cfg :=
    hfree
  rw [RateGate.leave, RateGate.acquire, if_pos hfree']
  have hearlier : ∀ t ∈ g.started, cfg.minIntervalS ≤ g.now - t := by
    intro t ht
    obtain ⟨l, hl, hle⟩ := h.last t ht
    linarith [hclear l hl]
  constructor
  · exact List.pairwise_cons.mpr ⟨hearlier, h.spaced⟩
  · exact h.unqueued
  · intro t ht
    refine ⟨g.now, rfl, ?_⟩
    rcases List.mem_cons.mp ht with rfl | ht
    · exact le_rfl
    · linarith [hearlier t ht, cfg.minIntervalS_nonneg]
  · rintro p ⟨⟩

theorem clear_of_wait (hwait : g.wait cfg ≤ 0) : Clear cfg g.lastRequestAt g.now := by
  intro l hl
  rw [wait, Option.mem_def.mp hl] at hwait
  linarith

theorem Orderly.space (h : g.Orderly cfg) (hfree : g.wait cfg ≤ 0 → g.PermitFree cfg) :
    (g.space cfg id).Orderly cfg := by
  rw [RateGate.space]
  split
  · refine ⟨h.spaced, h.unqueued, h.last, ?_⟩
    rintro p ⟨⟩ l hl
    rw [wait, Option.mem_def.mp hl]
    linarith
  · rename_i hwait
    exact h.leave (clear_of_wait (not_lt.mp hwait)) (hfree (not_lt.mp hwait))

/-- A step at which no call that leaves the spacing waits for a permit. -/
theorem Orderly.step (h : g.Orderly cfg) (hpos : 0 < cfg.minIntervalS) (hfinds : g.FindsPermit cfg e)
    (hstep : g.step cfg e = some q) : q.Orderly cfg := by
  have hframe : ∀ now lockWaiters inProgress,
      ({ g.tick now with lockWaiters, inProgress } : RateGate).Orderly cfg :=
    fun _ _ _ ↦ ⟨h.spaced, h.unqueued, h.last, h.asleep⟩
  cases stepped hstep with
  | unspaced _ hzero => exact absurd hzero (not_le.mpr hpos)
  | spaced _ _ hasleep hlock => exact (h.tick _).space (hfinds hasleep hlock)
  | queued => exact hframe _ _ _
  | lockAcquired => exact (hframe _ _ _).space hfinds
  | wake _ hasleep hearliest =>
      exact (h.tick _).leave (fun l hl ↦ (h.asleep _ hasleep l hl).trans hearliest) hfinds
  | permit _ hwaiters =>
      rw [h.unqueued] at hwaiters
      cases hwaiters
  | finished => exact hframe _ _ _
  | cancelled =>
      refine ⟨h.spaced, ?_, h.last, fun p hp ↦ ?_⟩
      · show g.permitWaiters.erase _ = []
        rw [h.unqueued]
        rfl
      · exact h.asleep p (Option.mem_filter_iff.mp hp).1

/-! ## Runs -/

theorem bounded_always (cfg : GateSettings) (now : ℚ) (es : List GateEvent) :
    Automaton.Always (step cfg) (Bounded cfg) { now } es :=
  Automaton.always_of_along (fun _ _ _ h _ hstep ↦ Bounded.step h hstep)
    (fun _ ↦ Nat.zero_le _) (Automaton.Along.of_forall fun _ _ ↦ trivial)

theorem past_always (cfg : GateSettings) (now : ℚ) (es : List GateEvent) :
    Automaton.Always (step cfg) Past { now } es :=
  Automaton.always_of_along (fun _ _ _ h _ hstep ↦ Past.step h hstep) (Past.init now)
    (Automaton.Along.of_forall fun _ _ ↦ trivial)

/-- Starts are spaced in every run in which every call that leaves the spacing finds a permit. -/
theorem spaced_of_findsPermit (cfg : GateSettings) {now : ℚ} {es : List GateEvent}
    (h : Automaton.Along (step cfg) (FindsPermit cfg) { now } es) :
    Automaton.Always (step cfg) (Spaced cfg) { now } es := by
  rcases cfg.minIntervalS_nonneg.eq_or_lt with hzero | hpos
  · exact (past_always cfg now es).mono fun _ hg ↦ hg.spaced hzero.ge
  · have horderly := Automaton.always_of_along (I := Orderly cfg)
      (fun _ _ _ h hfinds hstep ↦ Orderly.step h hpos hfinds hstep)
      (Orderly.init now) h
    exact horderly.mono fun _ hg ↦ hg.spaced

/-! ## Calls that overtake the spacing -/

section

variable {now : ℚ}

/-- A call that comes when the lock is free and the interval is over leaves the spacing at once. -/
theorem step_run (hpos : 0 < cfg.minIntervalS) (hnow : g.now ≤ now) (hasleep : g.asleep = none)
    (hlock : g.lockWaiters = []) (hwait : (g.tick now).wait cfg ≤ 0) :
    g.step cfg (.run id now) = some ((g.tick now).leave cfg id) := by
  rw [step, if_neg (not_lt.mpr hnow), if_neg (not_le.mpr hpos), if_pos ⟨hasleep, hlock⟩, space,
    if_neg (not_lt.mpr hwait)]

/-- The gate behind `k + 1` calls that came one interval apart and are still there. -/
structure Filled (cfg : GateSettings) (k : ℕ) (g : RateGate) : Prop where
  now : g.now = k * cfg.minIntervalS
  last : g.lastRequestAt = some g.now
  asleep : g.asleep = none
  lockWaiters : g.lockWaiters = []
  running : g.inProgress.length = min (k + 1) cfg.maxConcurrentRequests
  queued : g.permitWaiters.length = k + 1 - cfg.maxConcurrentRequests
  zero : 0 ∈ g.inProgress

variable {k : ℕ}

/-- The first call. -/
theorem Filled.first (hpos : 0 < cfg.minIntervalS) (hmax : 0 < cfg.maxConcurrentRequests) :
    ∃ q, step cfg { now := 0 } (.run 0 0) = some q ∧ Filled cfg 0 q := by
  refine ⟨_, step_run hpos le_rfl rfl rfl le_rfl, ?_⟩
  have hfree : PermitFree cfg { now := 0, lastRequestAt := some 0 } := .inr ⟨hmax, rfl⟩
  rw [leave, acquire, tick, if_pos hfree, begin]
  constructor
  · simp
  · rfl
  · rfl
  · rfl
  · simp
    omega
  · simp
    omega
  · exact List.mem_cons_self

/-- The next call, one interval later, runs if there is a permit left and waits otherwise. -/
theorem Filled.run (h : Filled cfg k g) (hpos : 0 < cfg.minIntervalS)
    (hmax : 0 < cfg.maxConcurrentRequests) :
    ∃ q, g.step cfg (.run (k + 1) ((k + 1 : ℕ) * cfg.minIntervalS)) = some q ∧
      Filled cfg (k + 1) q := by
  set now : ℚ := (k + 1 : ℕ) * cfg.minIntervalS with hnow
  have hlater : now = g.now + cfg.minIntervalS := by
    rw [hnow, h.now]
    push_cast
    ring
  have hwait : (g.tick now).wait cfg ≤ 0 := by
    simp only [wait, tick, h.last]
    linarith
  refine ⟨_, step_run hpos (by linarith) h.asleep h.lockWaiters hwait, ?_⟩
  have hrunning := h.running
  have hqueued := h.queued
  rw [leave, acquire]
  split
  · rename_i hfree
    obtain ⟨hlt, hnone⟩ := hfree.resolve_left hmax.ne'
    have hlt' : g.inProgress.length < cfg.maxConcurrentRequests := hlt
    have hnone' : g.permitWaiters = [] := hnone
    rw [hnone', List.length_nil] at hqueued
    refine ⟨hnow, rfl, rfl, h.lockWaiters, ?_, ?_, List.mem_cons_of_mem _ h.zero⟩
    · simp only [begin, tick, List.length_cons]
      omega
    · simp only [begin, tick, hnone', List.length_nil]
      omega
  · rename_i hbusy
    have hfull : cfg.maxConcurrentRequests ≤ k + 1 := by
      by_contra hlt
      refine hbusy (.inr ⟨?_, List.length_eq_zero_iff.mp ?_⟩)
      · show g.inProgress.length < cfg.maxConcurrentRequests
        omega
      · show g.permitWaiters.length = 0
        omega
    refine ⟨hnow, rfl, rfl, h.lockWaiters, ?_, ?_, h.zero⟩
    · simp only [tick]
      omega
    · simp only [tick, List.length_append, List.length_singleton]
      omega

/-- There is a run to the gate behind any number of calls. -/
theorem exists_filled (hpos : 0 < cfg.minIntervalS) (hmax : 0 < cfg.maxConcurrentRequests) (k : ℕ) :
    ∃ es g, Automaton.exec (step cfg) { now := 0 } es = some g ∧ Filled cfg k g := by
  induction k with
  | zero =>
      obtain ⟨q, hstep, hq⟩ := Filled.first hpos hmax
      exact ⟨[.run 0 0], q, by simp [hstep], hq⟩
  | succ k ih =>
      obtain ⟨es, g, hexec, hg⟩ := ih
      obtain ⟨q, hstep, hq⟩ := hg.run hpos hmax
      have hlast : Automaton.exec (step cfg) g [_] = some q :=
        Automaton.exec_cons_eq_some.mpr ⟨q, hstep, rfl⟩
      exact ⟨_, q, Automaton.exec_trans hexec hlast, hq⟩

/-- A call ends, and the first waiter starts at the same time. -/
theorem exec_handover {now : ℚ} {id id' : ℕ} {rest : List ℕ} (hnow : g.now ≤ now)
    (hmem : id ∈ g.inProgress) (hwaiters : g.permitWaiters = id' :: rest)
    (hbound : g.inProgress.length ≤ cfg.maxConcurrentRequests) :
    Automaton.exec (step cfg) g [.finished id now, .permit now] =
      some { g with
        now
        permitWaiters := rest
        inProgress := id' :: g.inProgress.erase id
        started := now :: g.started } := by
  have hroom : (g.inProgress.erase id).length < cfg.maxConcurrentRequests := by
    have hpos := List.length_pos_of_mem hmem
    rw [List.length_erase_of_mem hmem]
    omega
  have hidle : ¬ (now < g.now ∨ id ∉ g.inProgress) := by
    rw [not_or, not_lt, not_not]
    exact ⟨hnow, hmem⟩
  have hfree : ¬ (now < now ∨ cfg.maxConcurrentRequests ≤ (g.inProgress.erase id).length) := by
    rw [not_or, not_lt, not_le]
    exact ⟨le_rfl, hroom⟩
  simp only [Automaton.exec_cons, Automaton.exec_nil, step, if_neg hidle, Option.bind_some, tick,
    hwaiters, if_neg hfree, begin]

/-- With an interval and a bound, two calls that wait for a permit start at the same time. -/
theorem exists_not_spaced (hpos : 0 < cfg.minIntervalS) (hmax : 0 < cfg.maxConcurrentRequests) :
    ∃ es g, Automaton.exec (step cfg) { now := 0 } es = some g ∧ ¬ g.Spaced cfg := by
  obtain ⟨es, g, hexec, hg⟩ := exists_filled hpos hmax (cfg.maxConcurrentRequests + 1)
  have hqueued : g.permitWaiters.length = 2 := by
    rw [hg.queued]
    omega
  obtain ⟨a, b, hwaiters⟩ := List.length_eq_two.mp hqueued
  have hrunning : g.inProgress.length ≤ cfg.maxConcurrentRequests := by
    rw [hg.running]
    exact min_le_right _ _
  have hfirst := exec_handover le_rfl hg.zero hwaiters hrunning
  set g' : RateGate := { g with
    permitWaiters := [b]
    inProgress := a :: g.inProgress.erase 0
    started := g.now :: g.started }
  have hrunning' : g'.inProgress.length ≤ cfg.maxConcurrentRequests := by
    show (a :: g.inProgress.erase 0).length ≤ _
    have hlength := List.length_pos_of_mem hg.zero
    rw [List.length_cons, List.length_erase_of_mem hg.zero]
    omega
  have hsecond : Automaton.exec (step cfg) g' [.finished a g.now, .permit g.now] = some _ :=
    exec_handover le_rfl List.mem_cons_self rfl hrunning'
  refine ⟨_, _, Automaton.exec_trans hexec (Automaton.exec_trans hfirst hsecond), ?_⟩
  intro hspaced
  have hapart := (List.pairwise_cons.mp hspaced).1 g.now List.mem_cons_self
  rw [sub_self] at hapart
  exact absurd hapart (not_le.mpr hpos)

end

/-- **The minimum interval** is kept in every run exactly if there is none or there is no
semaphore; it is kept in a run in which every call that leaves the spacing finds a permit.  The
bound on the calls in progress is always kept. -/
theorem min_interval_kept_iff (cfg : GateSettings) :
    ((∀ now es, Automaton.Always (step cfg) (Spaced cfg) { now } es) ↔
      cfg.minIntervalS = 0 ∨ cfg.maxConcurrentRequests = 0) ∧
    ∀ now es, Automaton.Always (step cfg) (Bounded cfg) { now } es ∧
      (Automaton.Along (step cfg) (FindsPermit cfg) { now } es →
        Automaton.Always (step cfg) (Spaced cfg) { now } es) := by
  refine ⟨⟨fun hspaced ↦ ?_, ?_⟩, fun now es ↦ ⟨bounded_always cfg now es, spaced_of_findsPermit cfg⟩⟩
  · by_contra hcfg
    rw [not_or, ← Ne, ← Ne] at hcfg
    obtain ⟨es, g, hexec, hg⟩ := exists_not_spaced
      (lt_of_le_of_ne cfg.minIntervalS_nonneg hcfg.1.symm) (Nat.pos_of_ne_zero hcfg.2)
    exact hg (Automaton.always_iff_prefix.mp (hspaced 0 es) es g (List.prefix_refl _) hexec)
  · rintro (hzero | hmax) now es
    · exact (past_always cfg now es).mono fun _ hg ↦ hg.spaced hzero.le
    · apply spaced_of_findsPermit
      have hfree : ∀ g : RateGate, g.PermitFree cfg := fun _ ↦ .inl hmax
      exact (Automaton.Along.of_forall (P := fun _ ↦ True) fun _ _ ↦ trivial).mono
        fun g e _ ↦ by cases e <;> simp [FindsPermit, hfree]

/-- One permit and an interval of one second.  The first call is long, two more leave the
spacing and wait, and when the first ends at `2` they start at `2`, the one after the other. -/
theorem two_calls_start_at_once :
    ¬ Automaton.Always (step ⟨1, 1, by norm_num⟩) (Spaced ⟨1, 1, by norm_num⟩) { now := 0 }
      [.run 0 0, .run 1 1, .run 2 2, .finished 0 2, .permit 2, .finished 1 2, .permit 2] := by
  intro h
  have hend : (Automaton.exec (step ⟨1, 1, by norm_num⟩) { now := 0 }
      [.run 0 0, .run 1 1, .run 2 2, .finished 0 2, .permit 2, .finished 1 2, .permit 2]).map
      RateGate.started = some [2, 2, 0] := by
    decide +kernel
  obtain ⟨g, hg, hstarted⟩ := Option.map_eq_some_iff.mp hend
  have hspaced := Automaton.always_iff_prefix.mp h _ g (List.prefix_refl _) hg
  rw [Spaced, hstarted] at hspaced
  have hapart := (List.pairwise_cons.mp hspaced).1 2 List.mem_cons_self
  norm_num at hapart

end RateGate

end DroneComms.Inference
