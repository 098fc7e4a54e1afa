import DroneComms.Fpv.ArmGuard

/-!
# The arm guard passes frames on

Which calls of `ArmGuard.send_rc` hand a frame to the wrapped link.  The frame
handed on should be the one given, with the arm channel clamped if the arming was
blocked, whatever the link and the event sink do (`HandsOn`).

On the blocked branch the event is emitted before the frame is sent.  A sink that
raises there takes the frame with it, and so does a subscript before the start of
the frame; every other call hands its frame on (`handsOn_iff`).
-/

namespace DroneComms.Fpv

namespace ArmGuard

/-- The frame that a call hands to the link, whether or not the link delivers it:
the call to the link is the last statement of every branch. -/
def handed (s : ArmGuardSettings) (w : Surroundings) (g : ArmGuard) (channels : List Int) :
    Option (List Int) :=
  (sendRc s { w with linkDelivers := true } g channels).delivered

/-- The call is an arming that the guard does not permit. -/
def Blocked (s : ArmGuardSettings) (g : ArmGuard) (now : ℚ) (channels : List Int) : Prop :=
  g.latched = false ∧ Armed s channels ∧ armAllowed s g now = false

instance (s : ArmGuardSettings) (g : ArmGuard) (now : ℚ) (channels : List Int) :
    Decidable (Blocked s g now channels) :=
  inferInstanceAs (Decidable (_ ∧ _ ∧ _))

/-- The call hands one frame to the link.  It has the length of the frame given
and agrees with it outside the arm channel, and on the arm channel unless the
arming was blocked. -/
def HandsOn (s : ArmGuardSettings) (w : Surroundings) (g : ArmGuard) (channels : List Int) :
    Prop :=
  ∃ frame, handed s w g channels = some frame ∧ frame.length = channels.length ∧
    (∀ k, Py.normIndex channels.length s.armChannelIndex ≠ some k → frame[k]? = channels[k]?) ∧
    Py.get frame s.armChannelIndex =
      if Blocked s g w.now channels then some s.armClampUs
      else Py.get channels s.armChannelIndex

variable {s : ArmGuardSettings} {w : Surroundings} {g : ArmGuard} {channels : List Int}

/-- What a call with an arm channel delivers: the frame as it is, unless it is a
blocked arming; then the clamped frame, if the sink returns. -/
theorem sendRc_delivered (h : s.armChannelIndex < channels.length) {k : ℕ}
    (hk : Py.normIndex channels.length s.armChannelIndex = some k) :
    (sendRc s w g channels).delivered =
      if Blocked s g w.now channels then
        if w.onEvent = some false ∨ w.linkDelivers = false then none
        else some (channels.set k s.armClampUs)
      else if w.linkDelivers then some channels else none := by
  have hlen : ¬ (channels.length : Int) ≤ s.armChannelIndex := not_le.mpr h
  have hlt : k < channels.length := Py.normIndex_lt hk
  have hget : Py.get channels s.armChannelIndex = some channels[k] := by
    simp [Py.get, hk, hlt]
  have hset : Py.set channels s.armChannelIndex s.armClampUs =
      some (channels.set k s.armClampUs) := by
    simp [Py.set, hk]
  have harmed : Armed s channels ↔ s.armThresholdUs ≤ channels[k] := by
    simp [Armed, hget]
  unfold sendRc Blocked
  simp only [hlen, if_false, hget, hset, harmed]
  by_cases hl : g.latched = true
  · simp only [hl, if_true]
    split_ifs <;> simp_all
  · by_cases ha : s.armThresholdUs ≤ channels[k]
    · have hnlt : ¬ channels[k] < s.armThresholdUs := not_lt.mpr ha
      by_cases hok : armAllowed s g w.now = true
      · simp [hl, ha, hnlt, hok]
      · rcases w.onEvent with _ | _ | _ <;> cases hd : w.linkDelivers <;>
          simp [hl, ha, hnlt, hok, hd]
    · simp [hl, ha, not_le.mp ha]

/-- A link that raises is handed the frame that one which delivers is. -/
theorem handed_eq (h : s.armChannelIndex < channels.length) {k : ℕ}
    (hk : Py.normIndex channels.length s.armChannelIndex = some k) :
    handed s w g channels =
      if Blocked s g w.now channels then
        if w.onEvent = some false then none else some (channels.set k s.armClampUs)
      else some channels := by
  rw [handed, sendRc_delivered h hk]
  simp

/-- A subscript before the start of the frame fails before anything is sent. -/
theorem handed_eq_none (h : s.armChannelIndex < channels.length)
    (hk : Py.normIndex channels.length s.armChannelIndex = none) :
    handed s w g channels = none := by
  have hget : Py.get channels s.armChannelIndex = none := by simp [Py.get, hk]
  simp [handed, sendRc, not_le.mpr h, hget]

/-- A call hands its frame on exactly if the arm channel is a subscript of it and
no sink raises while an arming is blocked. -/
theorem handsOn_iff (h : s.armChannelIndex < channels.length) :
    HandsOn s w g channels ↔ -(channels.length : Int) ≤ s.armChannelIndex ∧
      (Blocked s g w.now channels → w.onEvent ≠ some false) := by
  rw [← not_lt, ← Py.normIndex_eq_none h]
  cases hk : Py.normIndex channels.length s.armChannelIndex with
  | none =>
      refine iff_of_false ?_ fun hno ↦ hno.1 rfl
      rintro ⟨frame, hframe, -⟩
      rw [handed_eq_none h hk] at hframe
      cases hframe
  | some k =>
      have hlt := Py.normIndex_lt hk
      unfold HandsOn
      rw [handed_eq h hk, hk]
      by_cases hb : Blocked s g w.now channels
      · by_cases hsink : w.onEvent = some false
        · simp [hb, hsink]
        · refine iff_of_true ⟨channels.set k s.armClampUs, by simp [hb, hsink], by simp, ?_, ?_⟩
            ⟨by simp, fun _ ↦ hsink⟩
          · intro j hj
            exact List.getElem?_set_ne fun hkj ↦ hj (congrArg some hkj)
          · simp [Py.get, hk, hb, hlt]
      · exact iff_of_true ⟨channels, by simp [hb], rfl, fun _ _ ↦ rfl, by simp [hb]⟩
          ⟨by simp, fun hyes ↦ absurd hyes hb⟩

end ArmGuard

namespace Flight

variable {s : ArmGuardSettings}

/-- The step, if it sends a frame with an arm channel, hands it on. -/
def Passes (s : ArmGuardSettings) (f : Flight) : FlightEvent → Prop
  | .sendRc channels linkDelivers onEvent => s.armChannelIndex < channels.length →
      f.guard.HandsOn s ⟨f.now, linkDelivers, onEvent⟩ channels
  | _ => True

/-- The step, if it sends a frame with an arm channel, finds the channel in the
frame and is not a blocked arming whose event the sink refuses. -/
def SinkHolds (s : ArmGuardSettings) (f : Flight) : FlightEvent → Prop
  | .sendRc channels _ onEvent => s.armChannelIndex < channels.length →
      -(channels.length : Int) ≤ s.armChannelIndex ∧
        (f.guard.Blocked s f.now channels → onEvent ≠ some false)
  | _ => True

theorem passes_iff_sinkHolds (f : Flight) (e : FlightEvent) : f.Passes s e ↔ f.SinkHolds s e := by
  cases e with
  | sendRc channels linkDelivers onEvent =>
      exact forall_congr' fun h ↦ ArmGuard.handsOn_iff h
  | advance time => rfl
  | updateHealth report => rfl

/-- **Frames passed on.**  Every frame of a flight reaches the link if and only if
no blocked arming meets a sink that raises. -/
theorem passes_along_iff_sink_holds (s : ArmGuardSettings) (now : ℚ) (es : List FlightEvent) :
    Automaton.Along (step s) (Passes s) { now } es ↔
      Automaton.Along (step s) (SinkHolds s) { now } es :=
  ⟨.mono fun f e ↦ (passes_iff_sinkHolds f e).mp, .mono fun f e ↦ (passes_iff_sinkHolds f e).mpr⟩

/-- The event queue of the logger stays full while an arming is blocked: the
frame never reaches the link. -/
theorem withheld_when_sink_raises :
    ¬ Automaton.Along (step {}) (Passes {}) { now := 0 }
      [.sendRc [1500, 1500, 1000, 1500, 2000] true (some false)] := by
  intro h
  obtain ⟨frame, hframe, -⟩ := (h _ rfl).1 (by decide)
  rw [show ArmGuard.handed {} ⟨0, true, some false⟩ {} [1500, 1500, 1000, 1500, 2000] = none by
    decide +kernel] at hframe
  cases hframe

end Flight

end DroneComms.Fpv
