import DroneComms.Lib.Automaton
import Mathlib

/-!
# Pacing

`Pacer` of `meshsa/transports/pacing.py`, with any number of `acquire` calls at
once, and the frame that `TakTcpTransport.send` writes when its call is done.  A
step is what a call does between two points where it may be suspended.  Every
reading of the clock is kept in `last`, so a clock is monotone if no reading is
below `last`.

A call that finds the bucket empty sleeps and then sets the bucket to zero,
whatever the other calls have done meanwhile: two calls that sleep at once spend
one token.  As long as no call starts while another one sleeps, a window gets no
more completions than the bucket holds and the window refills.
-/

namespace DroneComms.Transports

/-- The arguments of `Pacer`, as its constructor accepts them. -/
structure PacerSettings where
  rateHz : ℚ
  burst : ℕ := 1
  rateHz_pos : 0 < rateHz := by norm_num
  one_le_burst : 1 ≤ burst := by norm_num

namespace PacerSettings

/-- `_interval`. -/
def interval (s : PacerSettings) : ℚ := 1 / s.rateHz

/-- `_capacity`. -/
def capacity (s : PacerSettings) : ℚ := s.burst

end PacerSettings

/-- A `Pacer`, the calls that sleep and what has happened so far. -/
structure Pacer where
  tokens : ℚ
  last : ℚ
  /-- For each call that sleeps, the time before which its sleep does not return. -/
  asleep : List ℚ := []
  /-- When calls completed, the latest first. -/
  completed : List ℚ := []
  /-- When frames were written, the latest first. -/
  written : List ℚ := []

inductive PacerEvent where
  | /-- `acquire` is called; if it completes, the frame may be written. -/
    acquire (now : ℚ) (write : Bool)
  | /-- The sleep of a call returns. -/ wake (k : ℕ) (now : ℚ) (write : Bool)

namespace Pacer

/-- `Pacer.__init__`. -/
def start (s : PacerSettings) (now : ℚ) : Pacer := { tokens := s.capacity, last := now }

/-- A call completes. -/
def complete (w : Pacer) (now : ℚ) (write : Bool) : Pacer :=
  { w with
    completed := now :: w.completed
    written := if write then now :: w.written else w.written }

/-- The refill at the start of `acquire`. -/
def refill (s : PacerSettings) (w : Pacer) (now : ℚ) : Pacer :=
  { w with
    tokens := min s.capacity (w.tokens + max 0 (now - w.last) / s.interval)
    last := now }

def step (s : PacerSettings) (w : Pacer) : PacerEvent → Option Pacer
  | .acquire now write =>
      if now < w.last then none
      else
        let w := w.refill s now
        if w.tokens < 1 then
          some { w with asleep := (now + (1 - w.tokens) * s.interval) :: w.asleep }
        else some ({ w with tokens := w.tokens - 1 }.complete now write)
  | .wake k now write =>
      match w.asleep[k]? with
      | none => none
      | some earliest =>
          if now < w.last ∨ now < earliest then none
          else some ({ w with tokens := 0, last := now, asleep := w.asleep.eraseIdx k }.complete
            now write)

/-- How many of the times lie in the window of length `T` from `a`. -/
def inWindow (a T : ℚ) (times : List ℚ) : ℕ := times.countP fun t ↦ a ≤ t ∧ t ≤ a + T

/-- The rate is bounded in every window. -/
def Bounded (s : PacerSettings) (w : Pacer) : Prop :=
  ∀ a T, 0 ≤ T → inWindow a T w.completed ≤ s.burst + s.rateHz * T + 1 ∧
    inWindow a T w.written ≤ s.burst + s.rateHz * T + 1

/-- No call starts while another one sleeps. -/
def CallsApart (w : Pacer) : PacerEvent → Prop
  | .acquire _ _ => w.asleep = []
  | .wake _ _ _ => True

instance (w : Pacer) (e : PacerEvent) : Decidable (w.CallsApart e) := by
  cases e <;> unfold CallsApart <;> infer_instance

/-! ## The bucket -/

variable {s : PacerSettings} {w q : Pacer} {e : PacerEvent} {now : ℚ}

/-- The completions from `a` on. -/
def since (a : ℚ) (times : List ℚ) : ℕ := times.countP fun t ↦ a ≤ t

theorem inWindow_le_since (a T : ℚ) (times : List ℚ) : inWindow a T times ≤ since a times := by
  apply List.countP_mono_left
  intro t _ ht
  rw [decide_eq_true_eq] at ht ⊢
  exact ht.1

theorem since_eq_zero {a last : ℚ} {times : List ℚ} (hpast : ∀ t ∈ times, t ≤ last)
    (ha : last < a) : since a times = 0 := by
  apply List.countP_eq_zero.mpr
  intro t ht hat
  rw [decide_eq_true_eq] at hat
  linarith [hpast t ht]

/-- What the bucket keeps while no two calls sleep at once.  Since any time `a` the
calls have spent at most a full bucket and its refill, less what is left. -/
structure Paced (s : PacerSettings) (w : Pacer) : Prop where
  tokens_nonneg : 0 ≤ w.tokens
  asleep : w.asleep = [] ∨ w.asleep = [w.last + (1 - w.tokens) * s.interval]
  past : ∀ t ∈ w.completed, t ≤ w.last
  spent : ∀ a, since a w.completed + w.tokens ≤ s.capacity + s.rateHz * max 0 (w.last - a)
  window : ∀ a T, 0 ≤ T → inWindow a T w.completed ≤ s.capacity + s.rateHz * T
  written : w.written.Sublist w.completed

theorem one_le_capacity (s : PacerSettings) : 1 ≤ s.capacity := by
  unfold PacerSettings.capacity
  exact_mod_cast s.one_le_burst

theorem div_interval (s : PacerSettings) (x : ℚ) : x / s.interval = s.rateHz * x := by
  rw [PacerSettings.interval, div_div_eq_mul_div, div_one, mul_comm]

/-- Reading the clock keeps the account. -/
theorem spent_refill (hw : w.Paced s) (hnow : w.last ≤ now) (a : ℚ) :
    since a w.completed + (w.refill s now).tokens ≤ s.capacity + s.rateHz * max 0 (now - a) := by
  have htokens : (w.refill s now).tokens ≤ w.tokens + s.rateHz * (now - w.last) := by
    rw [refill, div_interval, max_eq_right (sub_nonneg.mpr hnow)]
    exact min_le_right _ _
  have hcapacity : (w.refill s now).tokens ≤ s.capacity := min_le_left _ _
  rcases le_or_gt a w.last with ha | ha
  · have hspent := hw.spent a
    rw [max_eq_right (sub_nonneg.mpr ha)] at hspent
    rw [max_eq_right (sub_nonneg.mpr (ha.trans hnow))]
    linarith
  · have hrefill := mul_nonneg s.rateHz_pos.le (le_max_left 0 (now - a))
    rw [since_eq_zero hw.past ha]
    push_cast
    linarith

theorem tokens_refill_nonneg (hw : w.Paced s) (now : ℚ) : 0 ≤ (w.refill s now).tokens := by
  have hcapacity := one_le_capacity s
  have hgain : 0 ≤ max 0 (now - w.last) / s.interval := by
    rw [div_interval]
    exact mul_nonneg s.rateHz_pos.le (le_max_left _ _)
  exact le_min (by linarith) (add_nonneg hw.tokens_nonneg hgain)

/-- A call that completes and has paid for it keeps every window. -/
theorem Paced.complete (hw : w.Paced s) (hnow : w.last ≤ now) {tokens : ℚ} {asleep : List ℚ}
    (write : Bool) (htokens : 0 ≤ tokens)
    (hasleep : asleep = [] ∨ asleep = [now + (1 - tokens) * s.interval])
    (hpaid : ∀ a ≤ now, since a w.completed + 1 + tokens ≤ s.capacity + s.rateHz * (now - a))
    (hidle : tokens ≤ s.capacity) :
    (Pacer.complete { w with tokens, last := now, asleep } now write).Paced s := by
  have hspent : ∀ a, since a (now :: w.completed) + tokens ≤
      s.capacity + s.rateHz * max 0 (now - a) := by
    intro a
    rw [since, List.countP_cons]
    rcases le_or_gt a now with ha | ha
    · rw [if_pos (decide_eq_true ha), max_eq_right (sub_nonneg.mpr ha)]
      have := hpaid a ha
      rw [since] at this
      push_cast
      exact this
    · have hzero := since_eq_zero hw.past (lt_of_le_of_lt hnow ha)
      have hrefill := mul_nonneg s.rateHz_pos.le (le_max_left 0 (now - a))
      rw [since] at hzero
      rw [hzero, if_neg (by rw [decide_eq_true_eq]; linarith)]
      push_cast
      linarith
  refine ⟨htokens, hasleep, ?_, hspent, ?_, ?_⟩
  · exact List.forall_mem_cons.mpr ⟨le_refl now, fun t ht ↦ (hw.past t ht).trans hnow⟩
  · intro a T hT
    by_cases hin : a ≤ now ∧ now ≤ a + T
    · have hle : (inWindow a T (now :: w.completed) : ℚ) ≤ since a (now :: w.completed) := by
        exact_mod_cast inWindow_le_since a T _
      have hsince := hspent a
      rw [max_eq_right (sub_nonneg.mpr hin.1)] at hsince
      have hrate := mul_le_mul_of_nonneg_left (sub_le_iff_le_add'.mpr hin.2) s.rateHz_pos.le
      show (inWindow a T (now :: w.completed) : ℚ) ≤ _
      linarith
    · have hsame : inWindow a T (now :: w.completed) = inWindow a T w.completed := by
        rw [inWindow, List.countP_cons, if_neg (by rw [decide_eq_true_eq]; exact hin)]
        rfl
      show (inWindow a T (now :: w.completed) : ℚ) ≤ _
      rw [hsame]
      exact hw.window a T hT
  · cases write with
    | false => exact hw.written.cons now
    | true => exact hw.written.cons_cons now

theorem paced_start (s : PacerSettings) (now : ℚ) : (start s now).Paced s where
  tokens_nonneg := le_trans zero_le_one (one_le_capacity s)
  asleep := .inl rfl
  past := List.forall_mem_nil _
  spent a := by
    have hrefill := mul_nonneg s.rateHz_pos.le (le_max_left 0 (now - a))
    show ((0 : ℕ) : ℚ) + s.capacity ≤ _
    push_cast
    exact (zero_add s.capacity).le.trans (le_add_of_nonneg_right hrefill)
  window a T hT := by
    have hcapacity := one_le_capacity s
    have hrefill := mul_nonneg s.rateHz_pos.le hT
    show ((0 : ℕ) : ℚ) ≤ _
    push_cast
    linarith
  written := List.Sublist.refl _

/-- A step keeps the account if no two calls sleep at once. -/
theorem Paced.step (hw : w.Paced s) (he : w.CallsApart e) (h : w.step s e = some q) :
    q.Paced s := by
  cases e with
  | acquire now write =>
      simp only [Pacer.step] at h
      obtain ⟨hnow, h⟩ := Option.ite_none_left_eq_some.mp h
      rw [not_lt] at hnow
      have htokens := tokens_refill_nonneg hw now
      have hspent := spent_refill hw hnow
      split_ifs at h with hempty
      · cases h
        have hnone : w.asleep = [] := he
        refine ⟨htokens, .inr ?_, fun t ht ↦ (hw.past t ht).trans hnow, hspent, hw.window,
          hw.written⟩
        show _ :: w.asleep = _
        rw [hnone]
        rfl
      · cases h
        rw [not_lt] at hempty
        apply hw.complete hnow write (by linarith) (.inl he)
        · intro a ha
          have := hspent a
          rw [max_eq_right (sub_nonneg.mpr ha)] at this
          linarith
        · have hcapacity : (w.refill s now).tokens ≤ s.capacity := min_le_left _ _
          linarith
  | wake k now write =>
      simp only [Pacer.step] at h
      split at h
      · cases h
      · rename_i earliest hk
        obtain ⟨hnow, h⟩ := Option.ite_none_left_eq_some.mp h
        cases h
        rw [not_or, not_lt, not_lt] at hnow
        have hcapacity := one_le_capacity s
        rcases hw.asleep with hnone | hone
        · rw [hnone] at hk
          cases hk
        · rw [hone] at hk
          obtain ⟨rfl, rfl⟩ : k = 0 ∧ earliest = w.last + (1 - w.tokens) * s.interval := by
            cases k with
            | zero => exact ⟨rfl, (Option.some.inj hk).symm⟩
            | succ k => cases hk
          -- the sleep was long enough to refill the token that is spent
          have hpaid : 1 ≤ w.tokens + s.rateHz * (now - w.last) := by
            have hslept : (1 - w.tokens) * s.interval ≤ now - w.last := by linarith [hnow.2]
            have := mul_le_mul_of_nonneg_left hslept s.rateHz_pos.le
            have hone : s.rateHz * s.interval = 1 := by
              rw [PacerSettings.interval, mul_one_div_cancel s.rateHz_pos.ne']
            have hcalc : s.rateHz * ((1 - w.tokens) * s.interval) = 1 - w.tokens := by
              rw [mul_left_comm, hone, mul_one]
            linarith
          apply hw.complete hnow.1 write le_rfl (.inl (by rw [hone]; rfl))
          · intro a ha
            rcases le_or_gt a w.last with hlast | hlast
            · have := hw.spent a
              rw [max_eq_right (sub_nonneg.mpr hlast)] at this
              linarith
            · have hrefill := mul_nonneg s.rateHz_pos.le (sub_nonneg.mpr ha)
              rw [since_eq_zero hw.past hlast]
              push_cast
              linarith
          · linarith

theorem Paced.bounded (hw : w.Paced s) : w.Bounded s := by
  intro a T hT
  have hwindow := hw.window a T hT
  have hwritten : (inWindow a T w.written : ℚ) ≤ inWindow a T w.completed := by
    exact_mod_cast hw.written.countP_le
  unfold PacerSettings.capacity at hwindow
  constructor <;> linarith

/-- **Pacing.**  If no call starts while another one sleeps, the rate is bounded in
every window. -/
theorem bounded_of_calls_apart (s : PacerSettings) (now : ℚ) (es : List PacerEvent)
    (h : Automaton.Along (step s) CallsApart (start s now) es) :
    Automaton.Always (step s) (Bounded s) (start s now) es :=
  (Automaton.always_of_along (fun _ _ _ hw he hq ↦ Paced.step hw he hq) (paced_start s now) h).mono
    fun _ hw ↦ hw.bounded

/-- Two calls one after the other. -/
theorem bounded_two_calls :
    Automaton.Always (step { rateHz := 10 }) (Bounded { rateHz := 10 }) (start { rateHz := 10 } 0)
      [.acquire 0 true, .acquire 0 true, .wake 0 (1 / 10) true] :=
  bounded_of_calls_apart _ _ _ (by decide +kernel)

/-- Three calls that sleep at once all complete at one time. -/
theorem sleeping_calls_exceed_rate :
    ¬ ∀ (s : PacerSettings) (now : ℚ) (es : List PacerEvent),
        Automaton.Always (step s) (Bounded s) (start s now) es := by
  intro h
  let s : PacerSettings := { rateHz := 1 }
  let es : List PacerEvent :=
    [.acquire 0 true, .acquire 0 true, .acquire 0 true, .acquire 0 true, .wake 2 1 true,
      .wake 1 1 true, .wake 0 1 true]
  obtain ⟨w, hw, hcompleted⟩ : ∃ w, Automaton.exec (step s) (start s 0) es = some w ∧
      inWindow 1 0 w.completed = 3 := by
    have hrun : (Automaton.exec (step s) (start s 0) es).any
        (fun w ↦ inWindow 1 0 w.completed = 3) = true := by decide +kernel
    rw [Option.any_eq_true] at hrun
    obtain ⟨w, hw, hcount⟩ := hrun
    exact ⟨w, hw, of_decide_eq_true hcount⟩
  have hbounded := Automaton.always_iff_prefix.mp (h s 0 es) _ w (List.prefix_refl _) hw
  have hcount := (hbounded 1 0 le_rfl).1
  rw [hcompleted] at hcount
  norm_num [s] at hcount

end Pacer

end DroneComms.Transports
