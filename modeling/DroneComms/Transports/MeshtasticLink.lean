import DroneComms.Transports.Meshtastic

/-!
# The Meshtastic link

Whether the supervisor of `meshsa/transports/meshtastic_radio.py` keeps its link up, from
`start` until `stop`.  What the interface factory and `close` raise is caught; what the
provisioning raises is not, neither in `start` nor in `_supervise`.
-/

namespace DroneComms.Transports.MeshtasticTransport

open Automaton

/-- An event, and whether a `close` in it raises. -/
structure LinkEvent where
  event : MeshtasticEvent
  closeRaises : Bool := false
deriving DecidableEq, Repr

/-- One step.  `_close_iface` gives the interface up before it closes it and catches what
`close` raises, so the step is the same. -/
def linkStep (s : MeshtasticSettings) (w : MeshtasticTransport) (e : LinkEvent) :
    Option MeshtasticTransport := step s w e.event

namespace LinkEvent

/-- The interface factory is called. -/
def attempts (e : LinkEvent) : Bool :=
  match e.event with
  | .connect _ => true
  | _ => false

/-- `start` or the supervisor goes on. -/
def supervises (e : LinkEvent) : Bool :=
  match e.event with
  | .connect _ | .resume | .wake => true
  | .start | .onLost | .deliver => false

end LinkEvent

/-- There is no interface, or its loss has been signalled. -/
def Down (w : MeshtasticTransport) : Prop := w.iface = none ∨ w.lost = true ∨ 0 < w.pending

/-- The link is looked after. -/
structure KeepsLink (s : MeshtasticSettings) (w : MeshtasticTransport) : Prop where
  /-- `start` has not raised and the task has not ended. -/
  alive : w.phase ≠ .failed ∧ w.phase ≠ .ended
  /-- While the link is down, the way to the next attempt is open. -/
  attempt : w.Down → ∀ r, ∃ es t, exec (linkStep s) w (es ++ [{ event := .connect r }]) = some t
  /-- One of the supervisor's next four steps is an attempt. -/
  soon : ∀ es t, exec (linkStep s) w es = some t → 4 ≤ es.countP LinkEvent.supervises →
    ∃ e ∈ es, e.attempts = true
  /-- The interface in use has the mesh settings. -/
  provisioned : s.mesh = true → w.iface ≠ none → w.provisioned = true

/-- The provisioning of an interface does not raise. -/
def Provisions (s : MeshtasticSettings) (_ : MeshtasticTransport) (e : LinkEvent) : Prop :=
  match e.event with
  | .connect (.built provisioned) => s.mesh = true → provisioned = true
  | _ => True

variable {s : MeshtasticSettings} {w w' t : MeshtasticTransport} {e : LinkEvent}
  {es : List LinkEvent}

instance (s : MeshtasticSettings) (w : MeshtasticTransport) : ∀ e, Decidable (w.Provisions s e)
  | ⟨.connect (.built _), _⟩ => inferInstanceAs (Decidable (_ → _))
  | ⟨.connect .raised, _⟩ | ⟨.start, _⟩ | ⟨.onLost, _⟩ | ⟨.deliver, _⟩ | ⟨.resume, _⟩
  | ⟨.wake, _⟩ => .isTrue trivial

/-! ## The next attempt -/

/-- How many steps the supervisor takes before its next attempt. -/
def distance (w : MeshtasticTransport) : ℕ :=
  match w.phase with
  | .new | .starting | .connect | .ended | .failed => 0
  | .created | .backoff => if w.iface = none then 1 else 3
  | .waiting => 2

theorem distance_le (w : MeshtasticTransport) : w.distance ≤ 3 := by
  have hresume : (if w.iface = none then 1 else 3) ≤ 3 := by split <;> simp
  unfold distance
  cases w.phase with
  | created | backoff => exact hresume
  | waiting => exact Nat.le_succ 2
  | _ => exact Nat.zero_le 3

/-- Every step of the supervisor brings the next attempt nearer. -/
theorem distance_step (hreconnect : s.reconnect = true) (hstep : Stepped s w e.event w')
    (he : e.attempts = false) :
    w'.distance + (if e.supervises then 1 else 0) ≤ w.distance := by
  obtain ⟨event, closeRaises⟩ := e
  dsimp only at hstep
  cases hstep with
  | start hphase => simp [distance, hphase, LinkEvent.supervises]
  | connectFirst r _ | reconnect r _ => cases he
  | onLost _ | deliver _ _ => exact Nat.le_refl _
  | connects hphase hiface =>
      rcases hphase with hphase | hphase <;> simp [distance, hphase, hiface, LinkEvent.supervises]
  | waits hphase hiface =>
      rcases hphase with hphase | hphase <;> simp [distance, hphase, hiface, LinkEvent.supervises]
  | wake hphase _ => simp [distance, closeIface, hphase, hreconnect, LinkEvent.supervises]

/-- A run without an attempt is shorter than the distance to it. -/
theorem countP_supervises_le (hreconnect : s.reconnect = true) (h : exec (linkStep s) w es = some t)
    (hes : ∀ e ∈ es, e.attempts = false) : es.countP LinkEvent.supervises ≤ w.distance := by
  induction es generalizing w with
  | nil => exact Nat.zero_le _
  | cons e es ih =>
      obtain ⟨he, hrest⟩ := List.forall_mem_cons.mp hes
      obtain ⟨w', hw', ht⟩ := exec_cons_eq_some.mp h
      have hstep := distance_step hreconnect (stepped_of_step hw') he
      have hcount := ih ht hrest
      rw [List.countP_cons]
      omega

/-- One of four steps of the supervisor is an attempt. -/
theorem exists_attempt (hreconnect : s.reconnect = true) (h : exec (linkStep s) w es = some t)
    (hes : 4 ≤ es.countP LinkEvent.supervises) : ∃ e ∈ es, e.attempts = true := by
  by_contra hnone
  have hle := countP_supervises_le hreconnect h fun e he ↦
    Bool.not_eq_true _ ▸ fun hattempts ↦ hnone ⟨e, he, hattempts⟩
  exact absurd (hes.trans (hle.trans w.distance_le)) (by simp)

/-- The factory can be called after some more steps. -/
def Reaches (s : MeshtasticSettings) (w : MeshtasticTransport) : Prop :=
  ∀ r, ∃ es t, exec (linkStep s) w (es ++ [{ event := .connect r }]) = some t

theorem Reaches.step (h : Reaches s w') (hstep : linkStep s w e = some w') : Reaches s w := by
  intro r
  obtain ⟨es, t, ht⟩ := h r
  exact ⟨e :: es, t, exec_cons_eq_some.mpr ⟨w', hstep, ht⟩⟩

theorem reaches_of_connect (hphase : w.phase = .starting ∨ w.phase = .connect) : Reaches s w := by
  intro r
  rcases hphase with hphase | hphase
  · exact ⟨[], w.connectFirst s r, by simp [linkStep, MeshtasticTransport.step, hphase]⟩
  · exact ⟨[], w.reconnect s r, by simp [linkStep, MeshtasticTransport.step, hphase]⟩

theorem reaches_of_resume (hphase : w.phase = .created ∨ w.phase = .backoff)
    (hiface : w.iface = none) : Reaches s w := by
  have hconnect : Reaches s { w with phase := .connect } := reaches_of_connect (.inr rfl)
  refine hconnect.step (e := { event := .resume }) ?_
  rcases hphase with hphase | hphase <;>
    simp [linkStep, MeshtasticTransport.step, hphase, hiface]

theorem reaches_of_lost (hreconnect : s.reconnect = true) (hphase : w.phase = .waiting)
    (hlost : w.lost = true) : Reaches s w := by
  have hclosed : Reaches s (w.closeIface s) :=
    reaches_of_resume (.inr (by rw [closeIface, hreconnect]; rfl)) rfl
  refine hclosed.step (e := { event := .wake }) ?_
  simp [linkStep, MeshtasticTransport.step, hphase, hlost]

/-- A signalled loss ends the wait. -/
theorem reaches_of_waiting (hreconnect : s.reconnect = true) (hphase : w.phase = .waiting)
    (hsignal : w.lost = true ∨ 0 < w.pending) : Reaches s w := by
  rcases hsignal with hlost | hpending
  · exact reaches_of_lost hreconnect hphase hlost
  · have hdelivered : Reaches s { w with pending := w.pending - 1, lost := true } :=
      reaches_of_lost hreconnect hphase rfl
    refine hdelivered.step (e := { event := .deliver }) ?_
    simp [linkStep, MeshtasticTransport.step, hphase, hpending, SupervisorPhase.suspended]

/-! ## Runs whose provisioning succeeds -/

/-- What such runs preserve. -/
structure Kept (s : MeshtasticSettings) (w : MeshtasticTransport) : Prop where
  alive : w.phase ≠ .failed ∧ w.phase ≠ .ended
  waiting : w.phase = .waiting → w.iface ≠ none
  provisioned : s.mesh = true → w.iface ≠ none → w.provisioned = true

theorem kept_init (s : MeshtasticSettings) : Kept s {} where
  alive := by simp
  waiting := by simp
  provisioned _ hiface := absurd rfl hiface

/-- Where the link is down, the next attempt is within reach. -/
theorem Kept.reaches (h : w.Kept s) (hreconnect : s.reconnect = true) (hdown : w.Down) :
    Reaches s w := by
  have hsignal (hiface : w.iface ≠ none) : w.lost = true ∨ 0 < w.pending :=
    hdown.resolve_left hiface
  have hresumed (hphase : w.phase = .created ∨ w.phase = .backoff) : Reaches s w := by
    by_cases hiface : w.iface = none
    · exact reaches_of_resume hphase hiface
    · have hwaiting : Reaches s { w with phase := .waiting } :=
        reaches_of_waiting hreconnect rfl (hsignal hiface)
      refine hwaiting.step (e := { event := .resume }) ?_
      rcases hphase with hphase | hphase <;>
        simp [linkStep, MeshtasticTransport.step, hphase, hiface]
  cases hphase : w.phase with
  | new =>
      have hstarting : Reaches s { w with phase := .starting, subscribed := true } :=
        reaches_of_connect (.inl rfl)
      refine hstarting.step (e := { event := .start }) ?_
      simp [linkStep, MeshtasticTransport.step, hphase]
  | starting => exact reaches_of_connect (.inl hphase)
  | connect => exact reaches_of_connect (.inr hphase)
  | created => exact hresumed (.inl hphase)
  | backoff => exact hresumed (.inr hphase)
  | waiting => exact reaches_of_waiting hreconnect hphase (hsignal (h.waiting hphase))
  | ended => exact absurd hphase h.alive.2
  | failed => exact absurd hphase h.alive.1

theorem Kept.keepsLink (h : w.Kept s) (hreconnect : s.reconnect = true) : w.KeepsLink s where
  alive := h.alive
  attempt := h.reaches hreconnect
  soon _ _ hexec hes := exists_attempt hreconnect hexec hes
  provisioned := h.provisioned

/-- An interface that is provisioned, or need not be, is in use. -/
theorem Kept.applyMesh (next : SupervisorPhase) (hnext : next ≠ .failed ∧ next ≠ .ended)
    {provisioned : Bool} (h : s.mesh = true → provisioned = true) :
    (w.applyMesh s next provisioned).Kept s := by
  have hphase : (w.applyMesh s next provisioned).phase = next := by
    simp only [MeshtasticTransport.applyMesh]
    cases hmesh : s.mesh with
    | false => rfl
    | true => simp [h hmesh]
  constructor
  · rw [hphase]
    exact hnext
  · intro _
    simp [MeshtasticTransport.applyMesh]
  · intro hmesh _
    simp [MeshtasticTransport.applyMesh, hmesh, h hmesh]

theorem Kept.step (h : w.Kept s) (hreconnect : s.reconnect = true) (he : w.Provisions s e)
    (hstep : Stepped s w e.event w') : w'.Kept s := by
  obtain ⟨event, closeRaises⟩ := e
  dsimp only at hstep
  cases hstep with
  | start hphase => exact ⟨by simp, by simp, h.provisioned⟩
  | connectFirst r hphase =>
      cases r with
      | raised =>
          refine ⟨?_, ?_, h.provisioned⟩ <;> simp [connectFirst, hreconnect]
      | built provisioned => exact Kept.applyMesh .created (by simp) he
  | reconnect r hphase =>
      cases r with
      | raised =>
          refine ⟨?_, ?_, h.provisioned⟩ <;> simp [MeshtasticTransport.reconnect]
      | built provisioned => exact Kept.applyMesh .waiting (by simp) he
  | onLost _ => exact ⟨h.alive, h.waiting, h.provisioned⟩
  | deliver _ _ => exact ⟨h.alive, h.waiting, h.provisioned⟩
  | connects _ _ => exact ⟨by simp, by simp, h.provisioned⟩
  | waits _ hiface => exact ⟨by simp, fun _ ↦ hiface, h.provisioned⟩
  | wake _ _ =>
      refine ⟨?_, ?_, fun _ hiface ↦ absurd rfl hiface⟩ <;> simp [closeIface, hreconnect]

/-- Nothing catches what the provisioning raises. -/
theorem provisions_of_alive (hstep : Stepped s w e.event w') (h : w'.phase ≠ .failed) :
    w.Provisions s e := by
  have happly (v : MeshtasticTransport) (next : SupervisorPhase) (provisioned : Bool)
      (hv : (v.applyMesh s next provisioned).phase ≠ .failed) : s.mesh = true →
        provisioned = true := by
    intro hmesh
    by_contra hraised
    exact hv (by simp [MeshtasticTransport.applyMesh, hmesh, hraised])
  obtain ⟨event, closeRaises⟩ := e
  dsimp only at hstep
  cases hstep with
  | connectFirst r _ =>
      cases r with
      | raised => trivial
      | built provisioned => exact happly w .created provisioned h
  | reconnect r _ =>
      cases r with
      | raised => trivial
      | built provisioned => exact happly _ .waiting provisioned h
  | _ => trivial

/-- **The supervisor keeps the link** exactly in the runs where no provisioning raises. -/
theorem keepsLink_iff_along (s : MeshtasticSettings) (hreconnect : s.reconnect = true)
    (es : List LinkEvent) :
    Always (linkStep s) (KeepsLink s) {} es ↔ Along (linkStep s) (Provisions s) {} es := by
  have hkept : ∀ (w : MeshtasticTransport) e w', w.Kept s → w.Provisions s e →
      linkStep s w e = some w' → w'.Kept s := fun w e w' hw he hstep ↦
    hw.step hreconnect he (stepped_of_step hstep)
  constructor
  · intro h
    refine along_of_always hkept (fun w e w' _ hstep hw' ↦ ?_) (kept_init s) h
    exact provisions_of_alive (stepped_of_step hstep) hw'.alive.1
  · intro h
    have halways : Always (linkStep s) (Kept s) {} es := always_of_along hkept (kept_init s) h
    exact halways.mono fun w hw ↦ hw.keepsLink hreconnect

/-- The first connection fails, the interface of the second is lost and closing it raises. -/
theorem keepsLink_over_failures :
    Always (linkStep { mesh := true }) (KeepsLink { mesh := true }) {}
      [{ event := .start }, { event := .connect .raised }, { event := .resume },
        { event := .connect (.built true) }, { event := .onLost }, { event := .deliver },
        { event := .wake, closeRaises := true }, { event := .resume },
        { event := .connect .raised }, { event := .resume }, { event := .connect (.built true) }] :=
  (keepsLink_iff_along { mesh := true } rfl _).mpr (by decide)

/-- The interface is built again after a loss, and provisioning it raises. -/
theorem provisioning_ends_supervisor :
    ¬∀ s : MeshtasticSettings, s.reconnect = true → ∀ es : List LinkEvent,
      Always (linkStep s) (KeepsLink s) {} es := by
  intro h
  have hreached := always_iff_prefix.mp (h { mesh := true } rfl
    [{ event := .start }, { event := .connect (.built true) }, { event := .resume },
      { event := .onLost }, { event := .deliver }, { event := .wake }, { event := .resume },
      { event := .connect (.built false) }]) _ _ (List.prefix_refl _) rfl
  exact hreached.alive.1 rfl

end DroneComms.Transports.MeshtasticTransport
