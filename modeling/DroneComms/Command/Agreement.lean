import DroneComms.Command.Supervision

/-!
# The gate and the audit

What the pending map of the gate and the audit say about each other, whatever
audit writes raise (`Session.Accounted`).

`cancel` is tolerant by design: it discards the token if it is pending and
records `command_cancelled` in any case.  What the record then promises is about
the time after it: the token is not pending, and no execution of it starts
unless the token is issued again.
-/

namespace DroneComms.Command

/-- The command the token was last issued for. -/
def lastIssued (token : String) : List Action → Option CommandSpec
  | [] => none
  | .issued t spec :: h => if t = token then some spec else lastIssued token h
  | _ :: h => lastIssued token h

/-- The stage that last issued the token returned. -/
def StageReturned (token : String) : List Action → Prop
  | [] => False
  | .staged t _ :: h => t = token ∨ StageReturned token h
  | .issued t _ :: h => t ≠ token ∧ StageReturned token h
  | _ :: h => StageReturned token h

/-- `command_cancelled` was recorded for the token since it was last issued. -/
def CancelRecorded (token : String) : List Action → Prop
  | [] => False
  | .recorded (.commandCancelled t) :: h => t = token ∨ CancelRecorded token h
  | .issued t _ :: h => t ≠ token ∧ CancelRecorded token h
  | _ :: h => CancelRecorded token h

/-- No token is released after a record of its cancellation. -/
def CancelsHonoured : List Action → Prop
  | [] => True
  | .released token _ _ :: h => ¬ CancelRecorded token h ∧ CancelsHonoured h
  | _ :: h => CancelsHonoured h

/-- The gate and the audit agree. -/
structure Session.Accounted (s : Session) : Prop where
  /-- A pending token whose stage returned has its record. -/
  staged_recorded : ∀ token spec, s.gate.pending token = some spec →
    StageReturned token s.history →
    .recorded (.commandStaged token spec.name spec.command) ∈ s.history
  /-- A token whose cancellation is recorded is not pending. -/
  cancelled_not_pending : ∀ token, CancelRecorded token s.history → s.gate.pending token = none
  /-- No execution of a token starts after its cancellation is recorded. -/
  cancels_honoured : CancelsHonoured s.history

/-! ## Actions that do not count -/

/-- The action is passive and records no cancellation. -/
def Action.Silent : Action → Prop
  | recorded (.commandCancelled _) => False
  | a => a.Passive

variable {svc : CommandService} {token : String} {spec : CommandSpec} {h l : List Action}

/-- What silent actions leave alone one by one, they leave alone together. -/
theorem silent_append {α : Type} {f : List Action → α}
    (hcons : ∀ a h, a.Silent → f (a :: h) = f h) (hl : ∀ a ∈ l, a.Silent) : f (l ++ h) = f h := by
  induction l with
  | nil => rfl
  | cons a l ih =>
      rw [List.forall_mem_cons] at hl
      rw [List.cons_append, hcons a _ hl.1, ih hl.2]

section

variable (hl : ∀ a ∈ l, a.Silent)
include hl

theorem lastIssued_append : lastIssued token (l ++ h) = lastIssued token h := by
  refine silent_append (fun a h ha ↦ ?_) hl
  cases a <;> first | rfl | cases ha

theorem stageReturned_append : StageReturned token (l ++ h) ↔ StageReturned token h := by
  refine (silent_append (fun a h ha ↦ ?_) hl).to_iff
  cases a <;> first | rfl | cases ha

theorem cancelRecorded_append : CancelRecorded token (l ++ h) ↔ CancelRecorded token h := by
  refine (silent_append (fun a h ha ↦ ?_) hl).to_iff
  cases a with
  | recorded e => cases e <;> first | rfl | cases ha
  | _ => first | rfl | cases ha

theorem cancelsHonoured_append : CancelsHonoured (l ++ h) ↔ CancelsHonoured h := by
  refine (silent_append (fun a h ha ↦ ?_) hl).to_iff
  cases a <;> first | rfl | cases ha

end

/-! ## One step -/

/-- What every step keeps of the gate and the history, whatever raises. -/
structure Books (gate : ConfirmationGate) (h : List Action) : Prop where
  last : ∀ token spec, gate.pending token = some spec → lastIssued token h = some spec
  recorded : ∀ token spec, StageReturned token h → lastIssued token h = some spec →
    .recorded (.commandStaged token spec.name spec.command) ∈ h
  cancelled : ∀ token, CancelRecorded token h → gate.pending token = none
  honoured : CancelsHonoured h

/-- What the call in progress knows of the gate. -/
def KnowsGate (gate : ConfirmationGate) : Option Frame → Prop
  | some (.staging token spec) => gate.pending token = some spec
  | some (.cancelling token) => gate.pending token = none
  | _ => True

variable {gate : ConfirmationGate}

theorem Books.silent (hb : Books gate h) (hl : ∀ a ∈ l, a.Silent) : Books gate (l ++ h) where
  last := fun token spec hp ↦ by
    rw [lastIssued_append hl]
    exact hb.last token spec hp
  recorded := fun token spec hret hlast ↦ by
    rw [stageReturned_append hl] at hret
    rw [lastIssued_append hl] at hlast
    exact List.mem_append_right _ (hb.recorded token spec hret hlast)
  cancelled := fun token hc ↦ hb.cancelled token ((cancelRecorded_append hl).mp hc)
  honoured := (cancelsHonoured_append hl).mpr hb.honoured

/-- A token comes out of the id factory, perhaps not for the first time. -/
theorem Books.issue (hb : Books gate h) (token : String) (spec : CommandSpec) :
    Books (gate.stage token spec) (.issued token spec :: h) where
  last := fun token' spec' hp ↦ by
    rw [ConfirmationGate.pending_stage] at hp
    rw [lastIssued]
    split_ifs at hp with htok
    · rw [if_pos htok.symm]
      exact hp
    · rw [if_neg (Ne.symm htok)]
      exact hb.last token' spec' hp
  recorded := fun token' spec' hret hlast ↦ by
    obtain ⟨hne, hret⟩ := hret
    rw [lastIssued, if_neg hne] at hlast
    exact List.mem_cons_of_mem _ (hb.recorded token' spec' hret hlast)
  cancelled := fun token' hc ↦ by
    obtain ⟨hne, hc⟩ := hc
    rw [ConfirmationGate.pending_stage, if_neg (Ne.symm hne)]
    exact hb.cancelled token' hc
  honoured := hb.honoured

/-- `stage` returns, right after its record was written. -/
theorem Books.stage (hb : Books gate h) (hp : gate.pending token = some spec) :
    Books gate (.staged token spec ::
      .recorded (.commandStaged token spec.name spec.command) :: h) where
  last := hb.last
  recorded := fun token' spec' hret hlast ↦ by
    have hlast' : lastIssued token' h = some spec' := hlast
    rcases hret with rfl | hret
    · rw [hb.last token spec hp] at hlast'
      cases hlast'
      exact List.mem_cons_of_mem _ List.mem_cons_self
    · exact List.mem_cons_of_mem _ (List.mem_cons_of_mem _ (hb.recorded token' spec' hret hlast'))
  cancelled := hb.cancelled
  honoured := hb.honoured

/-- A cancellation is recorded while the token is not pending. -/
theorem Books.cancel (hb : Books gate h) (hp : gate.pending token = none) :
    Books gate (.recorded (.commandCancelled token) :: h) where
  last := hb.last
  recorded := fun token' spec' hret hlast ↦
    List.mem_cons_of_mem _ (hb.recorded token' spec' hret hlast)
  cancelled := fun token' hc ↦ by
    rcases hc with rfl | hc
    · exact hp
    · exact hb.cancelled token' hc
  honoured := hb.honoured

/-- The gate discards a token. -/
theorem Books.discard {a : Action} (hb : Books gate h)
    (ha : a = .cancelled token ∨
      ∃ spec f, a = .released token spec f ∧ gate.pending token = some spec) :
    Books (gate.cancel token) (a :: h) where
  last := fun token' spec' hp ↦ by
    rw [ConfirmationGate.pending_cancel] at hp
    split_ifs at hp with htok
    have hold := hb.last token' spec' hp
    rcases ha with rfl | ⟨spec, f, rfl, -⟩ <;> exact hold
  recorded := fun token' spec' hret hlast ↦ by
    rcases ha with rfl | ⟨spec, f, rfl, -⟩ <;>
      exact List.mem_cons_of_mem _ (hb.recorded token' spec' hret hlast)
  cancelled := fun token' hc ↦ by
    have hold : CancelRecorded token' h := by
      rcases ha with rfl | ⟨spec, f, rfl, -⟩ <;> exact hc
    rw [ConfirmationGate.pending_cancel, hb.cancelled token' hold, ite_self]
  honoured := by
    rcases ha with rfl | ⟨spec, f, rfl, hp⟩
    · exact hb.honoured
    · refine ⟨fun hc ↦ ?_, hb.honoured⟩
      rw [hb.cancelled token hc] at hp
      cases hp

/-- Executions record no cancellation. -/
theorem Execution.call_silent (s : CommandSender) (spec : CommandSpec) (x : Execution)
    (token : String) (r : Reply) : ∀ a ∈ performed token (x.call s spec) r, a.Silent := by
  intro a ha
  rcases performed_cases ha with ⟨e, hcall, -, rfl⟩ | ⟨spec', -, rfl⟩
  · obtain ⟨pc, last⟩ := x
    cases pc <;> cases hcall <;> trivial
  · trivial

/-- A reply keeps the books, whatever it is. -/
theorem Books.moves {gate' : ConfirmationGate} {f : Frame} {r : Reply} {p : Progress}
    (hb : Books gate h) (hk : KnowsGate gate (some f)) (hmove : Moves svc gate f r gate' p) :
    Books gate' (f.observe svc r ++ h) ∧ KnowsGate gate' p.frame := by
  cases hmove with
  | parked spec token => exact ⟨hb.issue token spec, by simp [KnowsGate, Progress.frame]⟩
  | staged token spec => exact ⟨hb.stage hk, trivial⟩
  | cancelled token => exact ⟨hb.cancel hk, trivial⟩
  | reported token spec forceAck report => exact ⟨hb, trivial⟩
  | cleared token spec forceAck report now hok =>
      rw [observe_cleared hok]
      refine ⟨hb.silent fun a ha ↦ ?_, trivial⟩
      rw [List.mem_singleton.mp ha]
      trivial
  | refused token spec forceAck report now hok =>
      rw [observe_refused hok]
      exact ⟨hb, trivial⟩
  | blocked token message =>
      refine ⟨hb.silent (l := [.recorded (.armBlocked token)]) fun a ha ↦ ?_, trivial⟩
      rw [List.mem_singleton.mp ha]
      trivial
  | started token spec forceAck =>
      refine ⟨hb.silent (l := [.recorded (.commandConfirmed token spec.name forceAck)])
        fun a ha ↦ ?_, trivial⟩
      rw [List.mem_singleton.mp ha]
      trivial
  | lost _ e hcall hx =>
      rw [observe_raised hx]
      exact ⟨hb, trivial⟩
  | executed token spec x _ y hr =>
      refine ⟨hb.silent (Execution.call_silent svc.sender spec x token r), ?_⟩
      rcases Frame.settle_cases token spec y with heq | ⟨result, heq⟩ <;> rw [heq] <;> trivial

/-- A step keeps the books, whatever it is. -/
theorem Books.step {s t : Session} {e : ServiceEvent}
    (hs : Books s.gate s.history ∧ KnowsGate s.gate s.frame) (hstep : s.step svc e = some t) :
    Books t.gate t.history ∧ KnowsGate t.gate t.frame := by
  obtain ⟨hb, hk⟩ := hs
  have hsteps := Session.steps_of_step hstep
  cases hsteps with
  | refused name params e hidle => exact ⟨hb, hk⟩
  | built name params spec hidle => exact ⟨hb, trivial⟩
  | unconfirmed token forceAck e hidle => exact ⟨hb, hk⟩
  | confirmed token forceAck spec hidle hp hforce =>
      refine ⟨hb.discard (.inr ⟨spec, forceAck, rfl, hp⟩), ?_⟩
      show KnowsGate _ (some (svc.release token spec forceAck))
      unfold CommandService.release
      split_ifs <;> trivial
  | cancelled token hidle =>
      refine ⟨hb.discard (.inl rfl), ?_⟩
      show (s.gate.cancel token).pending token = none
      rw [ConfirmationGate.pending_cancel, if_pos rfl]
  | replied f r gate p hf hmove =>
      rw [hf] at hk
      exact hb.moves hk hmove

/-! ## Runs -/

/-- The gate and the audit agree after every run. -/
theorem Session.accounted_of_exec {s : Session} {es : List ServiceEvent}
    (h : Automaton.exec (step svc) {} es = some s) : s.Accounted := by
  have hinit : Books ({} : Session).gate ({} : Session).history ∧ KnowsGate ({} : Session).gate none :=
    ⟨⟨nofun, nofun, nofun, trivial⟩, trivial⟩
  obtain ⟨hb, -⟩ := Automaton.exec_invariant
    (I := fun s : Session ↦ Books s.gate s.history ∧ KnowsGate s.gate s.frame)
    (fun s e t hs hstep ↦ Books.step hs hstep) hinit h
  exact ⟨fun token spec hp hret ↦ hb.recorded token spec hret (hb.last token spec hp),
    hb.cancelled, hb.honoured⟩

/-- **Gate and audit.**  After every run, whatever audit writes raised, every
pending token whose stage returned has its `command_staged` record, and a token
whose cancellation is recorded is neither pending nor executed later.  A refused
stage leaves the pending map as it was.  A cancellation whose audit write
succeeds is recorded whatever its token is. -/
theorem Session.accounted (svc : CommandService) (es : List ServiceEvent) (s : Session)
    (h : Automaton.exec (step svc) {} es = some s) :
    s.Accounted ∧
    (∀ name params e, s.frame = none →
      buildCommand svc.text name svc.settings params = .error e →
      s.step svc (.stage name params) = some { s with result := some (.raised (.build e)) }) ∧
    (∀ token, s.frame = none →
      Automaton.exec (step svc) s [.cancel token, .reply .done] =
        some ⟨s.gate.cancel token, none, some .cancelled,
          .recorded (.commandCancelled token) :: .cancelled token :: s.history⟩) := by
  refine ⟨accounted_of_exec h, fun name params e hidle hb ↦ ?_, fun token hidle ↦ ?_⟩
  · simp [step, hidle, hb]
  · simp [Automaton.exec, step, hidle, Frame.resume, Frame.observe, performed, Frame.call,
      Progress.frame, Progress.result]

/-- A staged RTL is cancelled; afterwards a stage of an unknown command is
refused and another token is cancelled. -/
theorem Session.accounted_staged_and_cancelled :
    ∃ s, Automaton.exec (step { text := .plain }) {}
        [.stage "rtl" [], .reply (.token "a"), .reply .done, .cancel "a", .reply .done] = some s ∧
      s.Accounted ∧ CancelRecorded "a" s.history ∧
      s.step { text := .plain } (.stage "fly" []) =
        some { s with result := some (.raised (.build (.unknownCommand "fly"))) } ∧
      Automaton.exec (step { text := .plain }) s [.cancel "b", .reply .done] =
        some ⟨s.gate.cancel "b", none, some .cancelled,
          .recorded (.commandCancelled "b") :: .cancelled "b" :: s.history⟩ := by
  refine ⟨_, rfl, ?_⟩
  obtain ⟨hacc, hrefused, hcancel⟩ := accounted { text := .plain }
    [.stage "rtl" [], .reply (.token "a"), .reply .done, .cancel "a", .reply .done] _ rfl
  exact ⟨hacc, .inl rfl, hrefused "fly" [] _ rfl rfl, hcancel "b" rfl⟩

/-- The cancellation of a token that was never staged is recorded. -/
theorem Session.cancel_of_unknown_is_recorded :
    ∃ s, Automaton.exec (step { text := .plain }) {} [.cancel "x", .reply .done] = some s ∧
      .recorded (.commandCancelled "x") ∈ s.history ∧ ∀ spec, .staged "x" spec ∉ s.history := by
  have hend : (Automaton.exec (step { text := .plain }) {} [.cancel "x", .reply .done]).map
      Session.history = some [.recorded (.commandCancelled "x"), .cancelled "x"] := rfl
  obtain ⟨s, hs, hh⟩ := Option.map_eq_some_iff.mp hend
  refine ⟨s, hs, ?_, fun spec hmem ↦ ?_⟩
  · rw [hh]
    exact List.mem_cons_self
  · rw [hh] at hmem
    simp at hmem

end DroneComms.Command
