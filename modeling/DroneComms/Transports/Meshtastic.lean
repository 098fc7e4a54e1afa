import DroneComms.Lib.Automaton
import Mathlib.Data.List.Nodup
import Mathlib.Data.List.Perm.Subperm
import Mathlib.Data.List.Range
import Mathlib.Order.Basic

/-!
# The Meshtastic supervisor

`start`, `_supervise` and `_on_lost` of `meshsa/transports/meshtastic_radio.py`, up to
`stop`.  The radio thread queues its signals for the loop, which runs them while the
supervisor is suspended; all of them set one event.  The supervisor clears that event
before it closes the interface, waits and builds the next one.

Interfaces are numbered in the order in which they are built.  How long a backoff lasts
does not matter.
-/

namespace DroneComms.Transports

open Automaton

/-! ## The transport -/

structure MeshtasticSettings where
  reconnect : Bool := true
  /-- There are mesh settings to apply. -/
  mesh : Bool := false

/-- How a call of the interface factory ends, and the provisioning behind it. -/
inductive Connect where
  | raised
  | built (provisioned : Bool)
deriving DecidableEq, Repr

/-- Where `start` and then the supervisor are. -/
inductive SupervisorPhase where
  | /-- `start` has not been called. -/ new
  | /-- `start` has subscribed. -/ starting
  | /-- The task has been created. -/ created
  | /-- The factory is called next. -/ connect
  | /-- `await self._lost.wait()` -/ waiting
  | /-- `await self._backoff.sleep_and_advance()` -/ backoff
  | /-- The task has ended. -/ ended
  | /-- `start` or the task has raised. -/ failed
deriving DecidableEq, Repr

/-- The state of a `MeshtasticTransport`. -/
structure MeshtasticTransport where
  phase : SupervisorPhase := .new
  subscribed : Bool := false
  iface : Option ℕ := none
  /-- How many interfaces have been built. -/
  built : ℕ := 0
  /-- The mesh settings have been applied to the interface. -/
  provisioned : Bool := false
  /-- `_lost` is set. -/
  lost : Bool := false
  /-- How many signals wait in the loop. -/
  pending : ℕ := 0
  reconnects : ℕ := 0
  /-- The signals that were ever raised, each as the number of interfaces built by then. -/
  raised : List ℕ := []
  /-- The interfaces that the supervisor has closed. -/
  closed : List ℕ := []
deriving DecidableEq, Repr

/-- What can happen next. -/
inductive MeshtasticEvent where
  | start
  | connect (r : Connect)
  | /-- `_on_lost` on the radio thread. -/ onLost
  | /-- The loop runs a signal. -/ deliver
  | /-- The task begins, or a backoff ends. -/ resume
  | /-- The wait ends. -/ wake
deriving DecidableEq, Repr

namespace SupervisorPhase

/-- The loop is not held by `start` or by the supervisor. -/
def suspended : SupervisorPhase → Bool
  | created | waiting | backoff | ended | failed => true
  | new | starting | connect => false

/-- There is no interface: none has been built, or the last one is closed. -/
def disconnected : SupervisorPhase → Bool
  | new | starting | connect | backoff => true
  | created | waiting | ended | failed => false

end SupervisorPhase

namespace MeshtasticTransport

/-- `_apply_mesh` behind a factory that has built an interface, where `next` is the phase if
nothing is raised. -/
def applyMesh (s : MeshtasticSettings) (next : SupervisorPhase) (provisioned : Bool)
    (w : MeshtasticTransport) : MeshtasticTransport :=
  { w with
    iface := some (w.built + 1)
    built := w.built + 1
    provisioned := s.mesh && provisioned
    phase := if s.mesh && !provisioned then .failed else next }

/-- The first connection, in `start`. -/
def connectFirst (s : MeshtasticSettings) (w : MeshtasticTransport) :
    Connect → MeshtasticTransport
  | .raised =>
      { w with
        phase := if s.reconnect then .created else .failed
        subscribed := s.reconnect }
  | .built provisioned => w.applyMesh s .created provisioned

/-- A connection of the supervisor. -/
def reconnect (s : MeshtasticSettings) (w : MeshtasticTransport) :
    Connect → MeshtasticTransport
  | .raised => { w with phase := .backoff }
  | .built provisioned =>
      { w with reconnects := w.reconnects + 1 }.applyMesh s .waiting provisioned

/-- `_lost.clear()` and `_close_iface`. -/
def closeIface (s : MeshtasticSettings) (w : MeshtasticTransport) : MeshtasticTransport :=
  { w with
    lost := false
    iface := none
    closed := w.iface.toList ++ w.closed
    phase := if s.reconnect then .backoff else .ended }

/-- One step. -/
def step (s : MeshtasticSettings) (w : MeshtasticTransport) :
    MeshtasticEvent → Option MeshtasticTransport
  | .start =>
      match w.phase with
      | .new => some { w with phase := .starting, subscribed := true }
      | _ => none
  | .connect r =>
      match w.phase with
      | .starting => some (w.connectFirst s r)
      | .connect => some (w.reconnect s r)
      | _ => none
  | .onLost =>
      if w.subscribed then some { w with pending := w.pending + 1, raised := w.built :: w.raised }
      else none
  | .deliver =>
      if w.phase.suspended ∧ 0 < w.pending then
        some { w with pending := w.pending - 1, lost := true }
      else none
  | .resume =>
      match w.phase with
      | .created | .backoff =>
          some { w with phase := if w.iface.isNone then .connect else .waiting }
      | _ => none
  | .wake =>
      match w.phase with
      | .waiting => if w.lost then some (w.closeIface s) else none
      | _ => none

/-! ## Interfaces -/

/-- How a step goes. -/
inductive Stepped (s : MeshtasticSettings) (w : MeshtasticTransport) :
    MeshtasticEvent → MeshtasticTransport → Prop
  | start (hphase : w.phase = .new) :
      Stepped s w .start { w with phase := .starting, subscribed := true }
  | connectFirst (r : Connect) (hphase : w.phase = .starting) :
      Stepped s w (.connect r) (w.connectFirst s r)
  | reconnect (r : Connect) (hphase : w.phase = .connect) :
      Stepped s w (.connect r) (w.reconnect s r)
  | onLost (hsubscribed : w.subscribed = true) :
      Stepped s w .onLost { w with pending := w.pending + 1, raised := w.built :: w.raised }
  | deliver (hphase : w.phase.suspended = true) (hpending : 0 < w.pending) :
      Stepped s w .deliver { w with pending := w.pending - 1, lost := true }
  | connects (hphase : w.phase = .created ∨ w.phase = .backoff) (hiface : w.iface = none) :
      Stepped s w .resume { w with phase := .connect }
  | waits (hphase : w.phase = .created ∨ w.phase = .backoff) (hiface : w.iface ≠ none) :
      Stepped s w .resume { w with phase := .waiting }
  | wake (hphase : w.phase = .waiting) (hlost : w.lost = true) : Stepped s w .wake (w.closeIface s)

variable {s : MeshtasticSettings} {w w' : MeshtasticTransport} {e : MeshtasticEvent}

theorem stepped_resume (hphase : w.phase = .created ∨ w.phase = .backoff) :
    Stepped s w .resume { w with phase := if w.iface.isNone then .connect else .waiting } := by
  split_ifs with hiface
  · exact .connects hphase (Option.isNone_iff_eq_none.mp hiface)
  · exact .waits hphase fun hnone ↦ hiface (Option.isNone_iff_eq_none.mpr hnone)

theorem stepped_of_step (h : step s w e = some w') : Stepped s w e w' := by
  cases e with
  | start =>
      simp only [step] at h
      split at h
      · cases h
        exact .start ‹_›
      · cases h
  | connect r =>
      simp only [step] at h
      split at h
      · cases h
        exact .connectFirst r ‹_›
      · cases h
        exact .reconnect r ‹_›
      · cases h
  | onLost =>
      obtain ⟨hsubscribed, h⟩ := Option.ite_none_right_eq_some.mp h
      cases h
      exact .onLost hsubscribed
  | deliver =>
      obtain ⟨⟨hphase, hpending⟩, h⟩ := Option.ite_none_right_eq_some.mp h
      cases h
      exact .deliver hphase hpending
  | resume =>
      simp only [step] at h
      split at h
      · cases h
        exact stepped_resume (.inl ‹_›)
      · cases h
        exact stepped_resume (.inr ‹_›)
      · cases h
  | wake =>
      simp only [step] at h
      split at h
      · obtain ⟨hlost, h⟩ := Option.ite_none_right_eq_some.mp h
        cases h
        exact .wake ‹_› hlost
      · cases h

/-- The interface in use and the closed ones are those that were built, the latest first. -/
structure Numbered (w : MeshtasticTransport) : Prop where
  unbuilt : w.phase.disconnected = true → w.iface = none
  numbered : w.iface.toList ++ w.closed = (List.range' 1 w.built).reverse
  raised : ∀ g ∈ w.raised, g ≤ w.built

theorem numbered_init : Numbered {} := ⟨fun _ ↦ rfl, rfl, nofun⟩

theorem Numbered.closed_eq (h : w.Numbered) (hiface : w.iface = none) :
    w.closed = (List.range' 1 w.built).reverse := by
  rw [← h.numbered, hiface]
  rfl

/-- The interface in use is the latest. -/
theorem Numbered.iface_eq (h : w.Numbered) {g : ℕ} (hg : w.iface = some g) : g = w.built := by
  have hnumbered := h.numbered
  rw [hg] at hnumbered
  cases hbuilt : w.built with
  | zero =>
      rw [hbuilt] at hnumbered
      cases hnumbered
  | succ n =>
      rw [hbuilt, List.range'_1_concat, List.reverse_append] at hnumbered
      injection hnumbered with hhead
      rw [hhead, Nat.add_comm]

theorem Numbered.applyMesh (h : w.Numbered) (hiface : w.iface = none) {next : SupervisorPhase}
    (hnext : next.disconnected = false) (provisioned : Bool) :
    (w.applyMesh s next provisioned).Numbered where
  unbuilt hphase := by
    simp only [MeshtasticTransport.applyMesh] at hphase
    split_ifs at hphase
    · cases hphase
    · rw [hnext] at hphase
      cases hphase
  numbered := by
    show (w.built + 1) :: w.closed = _
    rw [h.closed_eq hiface]
    simp only [MeshtasticTransport.applyMesh, List.range'_1_concat, List.reverse_append]
    rw [Nat.add_comm 1 w.built]
    rfl
  raised g hg := (h.raised g hg).trans (Nat.le_succ _)

theorem Numbered.step (h : w.Numbered) (hstep : Stepped s w e w') : w'.Numbered := by
  cases hstep with
  | start hphase => exact ⟨fun _ ↦ h.unbuilt (by rw [hphase]; rfl), h.numbered, h.raised⟩
  | connectFirst r hphase =>
      have hiface : w.iface = none := h.unbuilt (by rw [hphase]; rfl)
      cases r with
      | raised => exact ⟨fun _ ↦ hiface, h.numbered, h.raised⟩
      | built provisioned => exact h.applyMesh hiface rfl provisioned
  | reconnect r hphase =>
      have hiface : w.iface = none := h.unbuilt (by rw [hphase]; rfl)
      cases r with
      | raised => exact ⟨fun _ ↦ hiface, h.numbered, h.raised⟩
      | built provisioned =>
          have hcounted : Numbered { w with reconnects := w.reconnects + 1 } :=
            ⟨h.unbuilt, h.numbered, h.raised⟩
          exact hcounted.applyMesh hiface rfl provisioned
  | onLost _ => exact ⟨h.unbuilt, h.numbered, List.forall_mem_cons.mpr ⟨le_rfl, h.raised⟩⟩
  | deliver _ _ => exact ⟨h.unbuilt, h.numbered, h.raised⟩
  | connects _ hiface => exact ⟨fun _ ↦ hiface, h.numbered, h.raised⟩
  | waits _ _ => exact ⟨nofun, h.numbered, h.raised⟩
  | wake _ _ => exact ⟨fun _ ↦ rfl, h.numbered, h.raised⟩

/-! ## Own losses -/

/-- Every interface that was closed had been signalled after it was built and before the next
one was, so that the signals are as many as the reconnections at least. -/
structure OwnLosses (w : MeshtasticTransport) : Prop where
  own : ∀ g ∈ w.closed, g ∈ w.raised
  reconnections : w.built ≤ w.raised.length + 1

/-- No interface is built while an earlier signal is still to take effect. -/
def Fresh (w : MeshtasticTransport) : MeshtasticEvent → Prop
  | .connect (.built _) => w.lost = false ∧ w.pending = 0
  | _ => True

instance (w : MeshtasticTransport) : ∀ e, Decidable (w.Fresh e)
  | .connect (.built _) => inferInstanceAs (Decidable (_ ∧ _))
  | .connect .raised | .start | .onLost | .deliver | .resume | .wake => .isTrue trivial

/-- A signal that is still to take effect belongs to the latest interface. -/
def Attributed (w : MeshtasticTransport) : Prop :=
  w.lost = true ∨ 0 < w.pending → w.built ∈ w.raised

/-- What holds in a run where no interface is built with a signal waiting. -/
structure Attended (w : MeshtasticTransport) : Prop where
  numbered : w.Numbered
  attributed : w.Attributed
  own : ∀ g ∈ w.closed, g ∈ w.raised

theorem Attended.ownLosses (h : w.Attended) : w.OwnLosses where
  own := h.own
  reconnections := by
    have hnodup : w.closed.Nodup := by
      have hall : (w.iface.toList ++ w.closed).Nodup := by
        rw [h.numbered.numbered, List.nodup_reverse]
        exact List.nodup_range'
      exact List.Nodup.of_append_right hall
    have hclosed : w.closed.length ≤ w.raised.length := (List.Nodup.subperm hnodup h.own).length_le
    have hbuilt := congrArg List.length h.numbered.numbered
    have hiface : w.iface.toList.length ≤ 1 := by cases w.iface <;> simp
    rw [List.length_append, List.length_reverse, List.length_range'] at hbuilt
    omega

theorem Attributed.applyMesh (hfresh : w.lost = false ∧ w.pending = 0)
    (next : SupervisorPhase) (provisioned : Bool) :
    (w.applyMesh s next provisioned).Attributed := by
  rintro (hlost | hpending)
  · cases hfresh.1.symm.trans hlost
  · exact absurd hpending (by simp [MeshtasticTransport.applyMesh, hfresh.2])

theorem Attended.step (h : w.Attended) (hfresh : w.Fresh e) (hstep : Stepped s w e w') :
    w'.Attended := by
  refine ⟨h.numbered.step hstep, ?_, ?_⟩
  · cases hstep with
    | connectFirst r _ =>
        cases r with
        | raised => exact h.attributed
        | built provisioned => exact Attributed.applyMesh hfresh .created provisioned
    | reconnect r _ =>
        cases r with
        | raised => exact h.attributed
        | built provisioned =>
            have hcounted : ({ w with reconnects := w.reconnects + 1 } : MeshtasticTransport).lost =
              false ∧ w.pending = 0 := hfresh
            exact Attributed.applyMesh hcounted .waiting provisioned
    | onLost _ => exact fun _ ↦ List.mem_cons_self
    | deliver _ hpending => exact fun _ ↦ h.attributed (.inr hpending)
    | wake _ hlost => exact fun _ ↦ h.attributed (.inl hlost)
    | _ => exact h.attributed
  · cases hstep with
    | connectFirst r _ | reconnect r _ => cases r <;> exact h.own
    | onLost _ => exact fun g hg ↦ List.mem_cons_of_mem _ (h.own g hg)
    | wake _ hlost =>
        intro g hg
        rcases List.mem_append.mp hg with hg | hg
        · rw [h.numbered.iface_eq (Option.mem_toList.mp hg)]
          exact h.attributed (.inl hlost)
        · exact h.own g hg
    | _ => exact h.own

theorem attended_init : Attended {} where
  numbered := numbered_init
  attributed := by rintro (hlost | hpending) <;> contradiction
  own := nofun

/-- **A Meshtastic interface is closed for its own loss** in every run that builds none while an
earlier signal waits. -/
theorem closed_for_own_loss (s : MeshtasticSettings) (es : List MeshtasticEvent)
    (hfresh : Along (step s) Fresh {} es) : Always (step s) OwnLosses {} es := by
  have hattended : Always (step s) Attended {} es :=
    always_of_along (fun _ _ _ h hfresh hstep ↦ h.step hfresh (stepped_of_step hstep))
      attended_init hfresh
  exact hattended.mono fun _ h ↦ h.ownLosses

/-- An interface is lost and replaced. -/
theorem closed_for_own_loss_once : Always (step {}) OwnLosses {}
    [.start, .connect (.built true), .resume, .onLost, .deliver, .wake, .resume, .connect .raised,
      .resume, .connect (.built true)] :=
  closed_for_own_loss {} _ (by decide)

/-- The interface that is closed signals its loss once more, and so the next one is closed. -/
theorem closed_for_other_loss :
    ¬∀ (s : MeshtasticSettings) (es : List MeshtasticEvent), Always (step s) OwnLosses {} es := by
  intro h
  have hreached := always_iff_prefix.mp (h {} [.start, .connect (.built true), .resume, .onLost,
    .deliver, .wake, .onLost, .deliver, .resume, .connect (.built true), .wake]) _ _
    (List.prefix_refl _) rfl
  exact absurd (hreached.own 2 (by decide)) (by decide)

/-! ## Signals that wait -/

/-- A signal that takes effect closes the interface. -/
theorem exists_wake (hphase : w.phase = .waiting) (hwaits : w.lost = true ∨ 0 < w.pending) :
    ∃ es t, exec (step s) w es = some t ∧ t.closed = w.iface.toList ++ w.closed ∧
      t.raised = w.raised := by
  rcases hwaits with hlost | hpending
  · exact ⟨[.wake], w.closeIface s, by simp [step, hphase, hlost], rfl, rfl⟩
  · refine ⟨[.deliver, .wake], { w with pending := w.pending - 1, lost := true }.closeIface s,
      ?_, rfl, rfl⟩
    simp [step, hphase, hpending, SupervisorPhase.suspended]

/-- Where an interface is built while an earlier signal waits, that signal can close it. -/
theorem stale_signal_closes (h : w.Numbered) (hstale : ¬w.Fresh (.connect (.built true)))
    (hstep : step s w (.connect (.built true)) = some w') :
    ∃ es t, exec (step s) w' es = some t ∧ ¬t.OwnLosses := by
  have hwaits : w.lost = true ∨ 0 < w.pending := by
    by_contra hnone
    rw [not_or, Bool.not_eq_true, Nat.not_lt, Nat.le_zero] at hnone
    exact hstale hnone
  have hnew : w.built + 1 ∉ w.raised := fun hmem ↦ absurd (h.raised _ hmem) (Nat.not_succ_le_self _)
  have hclosed : ∀ t : MeshtasticTransport, t.closed = (w.built + 1) :: w.closed →
      t.raised = w.raised → ¬t.OwnLosses := by
    intro t hclosed hraised howned
    rw [← hraised] at hnew
    exact hnew (howned.own _ (by rw [hclosed]; exact List.mem_cons_self))
  cases stepped_of_step hstep with
  | connectFirst r hphase =>
      obtain ⟨es, t, hexec, ht, hraised⟩ := exists_wake (s := s)
        (w := { w.applyMesh s .created true with phase := .waiting }) rfl hwaits
      refine ⟨.resume :: es, t, ?_, hclosed t ht hraised⟩
      rw [exec_cons, connectFirst]
      simpa [step, MeshtasticTransport.applyMesh] using hexec
  | reconnect r hphase =>
      obtain ⟨es, t, hexec, ht, hraised⟩ := exists_wake (s := s) (w := w.reconnect s (.built true))
        (by simp [MeshtasticTransport.reconnect, MeshtasticTransport.applyMesh]) hwaits
      exact ⟨es, t, hexec, hclosed t ht hraised⟩

end MeshtasticTransport

end DroneComms.Transports
