import DroneComms.Lib.CappedGrowth

/-!
# The backoff of the transports

`meshsa/transports/backoff.py`.  A delay is a value of an ordered type, and growing it stands
for the product with the factor.
-/

namespace DroneComms.Transports

/-- What a `Backoff` is built with. -/
structure BackoffSettings (δ : Type) where
  initial : δ
  max : δ
  /-- The product with `factor`. -/
  grow : δ → δ

/-- A `Backoff`, with the delays it has slept for. -/
structure Backoff (δ : Type) where
  current : δ
  /-- How many sleeps have returned since the last reset. -/
  sleeps : ℕ := 0
  /-- All sleeps, each with the number of those before it since the last reset. -/
  slept : List (ℕ × δ) := []

namespace Backoff

variable {δ : Type}

def init (s : BackoffSettings δ) : Backoff δ := { current := s.initial }

def reset (s : BackoffSettings δ) (b : Backoff δ) : Backoff δ :=
  { b with current := s.initial, sleeps := 0 }

/-- `sleep_and_advance` up to its `await`. -/
def sleep (b : Backoff δ) : Backoff δ := { b with slept := b.slept ++ [(b.sleeps, b.current)] }

variable [LinearOrder δ]

/-- `sleep_and_advance` behind its `await`. -/
def advance (s : BackoffSettings δ) (b : Backoff δ) : Backoff δ :=
  { b with current := CappedGrowth.next s.grow s.max b.current, sleeps := b.sleeps + 1 }

/-- The delay behind `n` others. -/
def delay (s : BackoffSettings δ) (n : ℕ) : δ := (CappedGrowth.next s.grow s.max)^[n] s.initial

/-- The delay and all sleeps are those that the resets tell. -/
structure Timed (s : BackoffSettings δ) (b : Backoff δ) : Prop where
  current : b.current = delay s b.sleeps
  slept : ∀ p ∈ b.slept, p.2 = delay s p.1

variable {s : BackoffSettings δ} {b : Backoff δ}

theorem timed_init (s : BackoffSettings δ) : (init s).Timed s := ⟨rfl, List.forall_mem_nil _⟩

theorem Timed.reset (h : b.Timed s) : (b.reset s).Timed s := ⟨rfl, h.slept⟩

theorem Timed.sleep (h : b.Timed s) : b.sleep.Timed s where
  current := h.current
  slept := by
    show ∀ p ∈ b.slept ++ [(b.sleeps, b.current)], p.2 = delay s p.1
    exact List.forall_mem_append.mpr ⟨h.slept, List.forall_mem_singleton.mpr h.current⟩

theorem Timed.advance (h : b.Timed s) : (b.advance s).Timed s where
  current := by
    show CappedGrowth.next s.grow s.max b.current = delay s (b.sleeps + 1)
    rw [h.current, delay, delay, Function.iterate_succ_apply']
  slept := h.slept

/-- The delays in closed form. -/
theorem delay_eq (hmono : Monotone s.grow) (hmax : s.max ≤ s.grow s.max) (n : ℕ) :
    delay s n = if n = 0 then s.initial else min (s.grow^[n] s.initial) s.max := by
  split_ifs with hzero
  · rw [hzero]
    rfl
  · exact CappedGrowth.iterate_next hmono hmax s.initial hzero

end Backoff

end DroneComms.Transports
