import DroneComms.Command.Service

/-!
# Sessions of the supervised service

A `Session` is a service that handles one call at a time, with the history of
what happened, newest action first.  The environment chooses the calls and the
replies of the surroundings; in particular any audit write may raise.

`Supervised` says of a history what supervision is for: every spec handed to the
link belongs to a command that was staged, not cancelled, and released by
exactly one confirmation, with the force acknowledgement and the arm interlock
where they are due.
-/

namespace DroneComms.Command

/-- One thing that happened in a session. -/
inductive Action where
  | /-- The gate parked a command under a new token. -/
    issued (token : String) (spec : CommandSpec)
  | /-- `stage` returned. -/ staged (token : String) (spec : CommandSpec)
  | /-- The gate was told to discard the token. -/ cancelled (token : String)
  | /-- A `confirm` consumed the token. -/
    released (token : String) (spec : CommandSpec) (forceAck : Bool)
  | /-- The interlock of the confirmed token saw `arm_allowed`. -/ cleared (token : String)
  | /-- A record was written. -/ recorded (event : AuditEvent)
  | /-- The spec of a confirmed token was handed to `link.send`. -/
    sent (token : String) (spec : CommandSpec)

/-- A service that handles one call at a time. -/
structure Session where
  gate : ConfirmationGate := {}
  /-- The call in progress. -/
  frame : Option Frame := none
  /-- How the last call ended. -/
  result : Option Result := none
  history : List Action := []

/-- What can happen next in a session. -/
inductive ServiceEvent where
  | stage (name : String) (params : List (String × Py.Value))
  | confirm (token : String) (forceAck : Bool)
  | cancel (token : String)
  | reply (r : Reply)

/-- The trace a call into the surroundings leaves in the history. -/
def performed (token : String) : Option Call → Reply → List Action
  | some (.record e), .done => [.recorded e]
  | some (.send spec), _ => [.sent token spec]
  | _, _ => []

/-- The trace a reply leaves in the history, newest action first. -/
def Frame.observe (svc : CommandService) (f : Frame) (r : Reply) : List Action :=
  match f, r with
  | .naming spec, .token token => [.issued token spec]
  | .staging token spec, .done =>
      [.staged token spec, .recorded (.commandStaged token spec.name spec.command)]
  | .timing token _ _ report, .time now =>
      if armAllowed report now svc.settings.armReportMaxAgeS then [.cleared token] else []
  | .cancelling token, r | .blocking token, r | .confirming token _ _, r
  | .executing token _ _, r => performed token (f.call svc) r
  | _, _ => []

section

variable {svc : CommandService} {token : String} {spec : CommandSpec} {forceAck : Bool}
  {report : Option Fpv.HealthReport} {now : ℚ}

theorem observe_cleared (h : armAllowed report now svc.settings.armReportMaxAgeS = true) :
    Frame.observe svc (.timing token spec forceAck report) (.time now) = [.cleared token] := if_pos h

theorem observe_refused (h : armAllowed report now svc.settings.armReportMaxAgeS = false) :
    Frame.observe svc (.timing token spec forceAck report) (.time now) = [] := if_neg (by simp [h])

/-- A call that raises leaves no trace, unless it executes a command. -/
theorem observe_raised {f : Frame} (h : ∀ token spec x, f ≠ .executing token spec x) :
    f.observe svc .raised = [] := by
  cases f with
  | executing token spec x => exact absurd rfl (h token spec x)
  | _ => rfl

end

/-- The frame a service call goes on with, if it does. -/
def Progress.frame : Progress → Option Frame
  | running f => some f
  | finished _ => none

/-- The result of a service call that ended. -/
def Progress.result : Progress → Option Result
  | running _ => none
  | finished result => some result

namespace Session

/-- One step of a session; calls do not overlap. -/
def step (svc : CommandService) (s : Session) : ServiceEvent → Option Session
  | .stage name params =>
      if s.frame.isSome then none
      else match buildCommand svc.text name svc.settings params with
        | .error e => some { s with result := some (.raised (.build e)) }
        | .ok spec => some { s with frame := some (.naming spec), result := none }
  | .confirm token forceAck =>
      if s.frame.isSome then none
      else match s.gate.confirm token forceAck with
        | .error e => some { s with result := some (.raised (.gate e)) }
        | .ok (spec, gate) => some {
            gate
            frame := some (svc.release token spec forceAck)
            result := none
            history := .released token spec forceAck :: s.history }
  | .cancel token =>
      if s.frame.isSome then none
      else some {
        gate := s.gate.cancel token
        frame := some (.cancelling token)
        result := none
        history := .cancelled token :: s.history }
  | .reply r => do
      let f ← s.frame
      let (gate, p) ← f.resume svc s.gate r
      return {
        gate
        frame := p.frame
        result := p.result
        history := f.observe svc r ++ s.history }

/-- `Steps svc s e t`: the event `e` takes a session from `s` to `t`. -/
inductive Steps (svc : CommandService) (s : Session) : ServiceEvent → Session → Prop
  | refused (name params e) (hidle : s.frame = none)
      (h : buildCommand svc.text name svc.settings params = .error e) :
      Steps svc s (.stage name params) { s with result := some (.raised (.build e)) }
  | built (name params spec) (hidle : s.frame = none)
      (h : buildCommand svc.text name svc.settings params = .ok spec) :
      Steps svc s (.stage name params) { s with frame := some (.naming spec), result := none }
  | unconfirmed (token forceAck e) (hidle : s.frame = none)
      (h : s.gate.confirm token forceAck = .error e) :
      Steps svc s (.confirm token forceAck) { s with result := some (.raised (.gate e)) }
  | confirmed (token forceAck spec) (hidle : s.frame = none)
      (h : s.gate.pending token = some spec)
      (hforce : spec.requiresForceConfirm = true → forceAck = true) :
      Steps svc s (.confirm token forceAck)
        ⟨s.gate.cancel token, some (svc.release token spec forceAck), none,
          .released token spec forceAck :: s.history⟩
  | cancelled (token) (hidle : s.frame = none) : Steps svc s (.cancel token)
      ⟨s.gate.cancel token, some (.cancelling token), none, .cancelled token :: s.history⟩
  | replied (f r gate p) (hf : s.frame = some f) (h : Moves svc s.gate f r gate p) :
      Steps svc s (.reply r) ⟨gate, p.frame, p.result, f.observe svc r ++ s.history⟩

/-- Everything an event can do to a session. -/
theorem steps_of_step {svc : CommandService} {s t : Session} {e : ServiceEvent}
    (h : s.step svc e = some t) : Steps svc s e t := by
  cases e with
  | reply r =>
      obtain ⟨f, hf, h⟩ := Option.bind_eq_some_iff.mp h
      obtain ⟨⟨gate, p⟩, hres, h⟩ := Option.bind_eq_some_iff.mp h
      cases h
      exact .replied f r gate p hf (moves_of_resume hres)
  | stage name params =>
      obtain ⟨hidle, h⟩ := Option.ite_none_left_eq_some.mp h
      have hidle : s.frame = none := by simpa using hidle
      split at h
      · rename_i e hb
        cases h
        exact .refused name params e hidle hb
      · rename_i spec hb
        cases h
        exact .built name params spec hidle hb
  | confirm token forceAck =>
      obtain ⟨hidle, h⟩ := Option.ite_none_left_eq_some.mp h
      have hidle : s.frame = none := by simpa using hidle
      split at h
      · rename_i e hc
        cases h
        exact .unconfirmed token forceAck e hidle hc
      · rename_i spec gate hc
        cases h
        obtain ⟨hp, hforce, rfl⟩ := ConfirmationGate.confirm_eq_ok hc
        exact .confirmed token forceAck spec hidle hp hforce
  | cancel token =>
      obtain ⟨hidle, h⟩ := Option.ite_none_left_eq_some.mp h
      cases h
      exact .cancelled token (by simpa using hidle)

end Session

/-- The spec came out of `build_command`. -/
def Built (svc : CommandService) (spec : CommandSpec) : Prop :=
  ∃ name params, buildCommand svc.text name svc.settings params = .ok spec

/-- The spec is an ARM_DISARM with the force magic. -/
def CommandSpec.ForceDisarms (spec : CommandSpec) : Prop :=
  spec.command = mavCmdComponentArmDisarm ∧ spec.params[1]? = some forceDisarmMagic

/-- The spec is an ARM_DISARM that arms. -/
def CommandSpec.Arms (spec : CommandSpec) : Prop :=
  spec.command = mavCmdComponentArmDisarm ∧ spec.params[0]? = some (.fin 1)

/-- The token was released once, by a confirmation with `forceAck`, after a
stage that returned it and without a cancellation in between; `cleared` says
that the interlock has passed since. -/
def Released (token : String) (spec : CommandSpec) (forceAck cleared : Bool)
    (h : List Action) : Prop :=
  ∃ post mid pre, h = post ++ .released token spec forceAck :: (mid ++ .staged token spec :: pre) ∧
    (∀ spec' f, .released token spec' f ∉ post ++ (mid ++ .staged token spec :: pre)) ∧
    .cancelled token ∉ mid ∧ (cleared = true → .cleared token ∈ post)

/-- What must have happened before `spec` is handed to the link for `token`. -/
structure Licensed (svc : CommandService) (token : String) (spec : CommandSpec)
    (h : List Action) : Prop where
  built : Built svc spec
  released : ∃ forceAck cleared, Released token spec forceAck cleared h ∧
    (spec.ForceDisarms → svc.settings.allowForceDisarm = true ∧
      "force_disarm" ∈ svc.settings.allowed ∧ forceAck = true) ∧
    (spec.Arms → spec.name = "arm" ∧ cleared = true)

/-- Every spec handed to the link was licensed at that time. -/
def Supervised (svc : CommandService) : List Action → Prop
  | [] => True
  | .sent token spec :: h => Licensed svc token spec h ∧ Supervised svc h
  | _ :: h => Supervised svc h

/-- The id factory does not repeat a token. -/
def Session.FreshToken (s : Session) : ServiceEvent → Prop
  | .reply (.token token) => ∀ spec, .issued token spec ∉ s.history
  | _ => True

/-- A confirmation does not name a token that a stage left pending when its
audit write raised. -/
def Session.ConfirmsStaged (s : Session) : ServiceEvent → Prop
  | .confirm token _ => ∀ spec, s.gate.pending token = some spec → .staged token spec ∈ s.history
  | _ => True

/-! ## Actions that leave the gate alone -/

/-- The action neither comes from the gate nor ends a `stage`. -/
def Action.Passive : Action → Prop
  | recorded _ | cleared _ | sent .. => True
  | issued .. | staged .. | cancelled _ | released .. => False

variable {svc : CommandService} {token : String} {spec : CommandSpec} {h l : List Action}

/-- A call into the surroundings leaves a record it wrote or a spec it sent. -/
theorem performed_cases {c : Option Call} {r : Reply} {a : Action} (ha : a ∈ performed token c r) :
    (∃ e, c = some (.record e) ∧ r = .done ∧ a = .recorded e) ∨
      ∃ spec, c = some (.send spec) ∧ a = .sent token spec := by
  unfold performed at ha
  split at ha
  · exact .inl ⟨_, rfl, rfl, List.mem_singleton.mp ha⟩
  · exact .inr ⟨_, rfl, List.mem_singleton.mp ha⟩
  · cases ha

theorem performed_passive (token : String) (c : Option Call) (r : Reply) :
    ∀ a ∈ performed token c r, a.Passive := by
  intro a ha
  rcases performed_cases ha with ⟨e, -, -, rfl⟩ | ⟨spec, -, rfl⟩ <;> trivial

/-- More actions in which the token is not released again. -/
theorem Released.append {forceAck cleared : Bool} (hr : Released token spec forceAck cleared h)
    (hnew : ∀ spec' f, .released token spec' f ∉ l) :
    Released token spec forceAck cleared (l ++ h) := by
  obtain ⟨post, mid, pre, rfl, honce, hcan, hclr⟩ := hr
  refine ⟨l ++ post, mid, pre, by simp, fun spec' f hmem ↦ ?_, hcan, fun hc ↦ ?_⟩
  · rw [List.append_assoc] at hmem
    rcases List.mem_append.mp hmem with hmem | hmem
    · exact hnew spec' f hmem
    · exact honce spec' f hmem
  · exact List.mem_append_right _ (hclr hc)

/-- The interlock passes. -/
theorem Released.clear {forceAck : Bool} (hr : Released token spec forceAck false h)
    (cleared : Bool) : Released token spec forceAck cleared (.cleared token :: h) := by
  obtain ⟨post, mid, pre, rfl, honce, hcan, -⟩ := hr
  refine ⟨.cleared token :: post, mid, pre, rfl, fun spec' f hmem ↦ ?_, hcan, fun _ ↦ ?_⟩
  · exact honce spec' f (by simpa using hmem)
  · exact List.mem_cons_self

theorem Licensed.append (hl : Licensed svc token spec h)
    (hnew : ∀ spec' f, .released token spec' f ∉ l) : Licensed svc token spec (l ++ h) := by
  obtain ⟨hb, forceAck, cleared, hr, hforce, harm⟩ := hl
  exact ⟨hb, forceAck, cleared, hr.append hnew, hforce, harm⟩

/-- Actions other than sends keep a supervised history supervised. -/
theorem Supervised.append (hs : Supervised svc h) (hnew : ∀ token spec, .sent token spec ∉ l) :
    Supervised svc (l ++ h) := by
  induction l with
  | nil => exact hs
  | cons a l ih =>
      have hrest := ih fun token spec hmem ↦ hnew token spec (List.mem_cons_of_mem _ hmem)
      cases a with
      | sent token spec => exact absurd List.mem_cons_self (hnew token spec)
      | _ => exact hrest

/-! ## The ledger -/

/-- The token is parked: its stage returned, and it was neither cancelled since
nor ever released. -/
def Parked (token : String) (spec : CommandSpec) (h : List Action) : Prop :=
  ∃ mid pre, h = mid ++ .staged token spec :: pre ∧ .cancelled token ∉ mid ∧
    ∀ spec' f, .released token spec' f ∉ h

theorem Parked.append (hp : Parked token spec h) (hcan : .cancelled token ∉ l)
    (hrel : ∀ spec' f, .released token spec' f ∉ l) : Parked token spec (l ++ h) := by
  obtain ⟨mid, pre, rfl, hmid, honce⟩ := hp
  refine ⟨l ++ mid, pre, by simp, fun hmem ↦ ?_, fun spec' f hmem ↦ ?_⟩
  · rcases List.mem_append.mp hmem with hmem | hmem
    · exact hcan hmem
    · exact hmid hmem
  · rcases List.mem_append.mp hmem with hmem | hmem
    · exact hrel spec' f hmem
    · exact honce spec' f hmem

/-- A confirmation of a parked token releases it. -/
theorem Parked.release (hp : Parked token spec h) (forceAck : Bool) :
    Released token spec forceAck false (.released token spec forceAck :: h) := by
  obtain ⟨mid, pre, rfl, hmid, honce⟩ := hp
  exact ⟨[], mid, pre, rfl, honce, hmid, nofun⟩

/-- What a session knows about a pending token. -/
structure Pending (svc : CommandService) (token : String) (spec : CommandSpec)
    (h : List Action) : Prop where
  built : Built svc spec
  issued : .issued token spec ∈ h
  unreleased : ∀ spec' f, .released token spec' f ∉ h
  parked : ∀ spec', .staged token spec' ∈ h → spec' = spec ∧ Parked token spec h

/-- More actions that do not concern the token's place in the gate. -/
theorem Pending.append (hp : Pending svc token spec h) (hcan : .cancelled token ∉ l)
    (hrel : ∀ spec' f, .released token spec' f ∉ l) (hst : ∀ spec', .staged token spec' ∉ l) :
    Pending svc token spec (l ++ h) where
  built := hp.built
  issued := List.mem_append_right _ hp.issued
  unreleased := fun spec' f hmem ↦ by
    rcases List.mem_append.mp hmem with hmem | hmem
    · exact hrel spec' f hmem
    · exact hp.unreleased spec' f hmem
  parked := fun spec' hmem ↦ by
    rcases List.mem_append.mp hmem with hmem | hmem
    · exact absurd hmem (hst spec')
    · obtain ⟨heq, hparked⟩ := hp.parked spec' hmem
      exact ⟨heq, hparked.append hcan hrel⟩

/-- What every step of a session keeps of its gate and its history. -/
structure Ledger (svc : CommandService) (gate : ConfirmationGate) (h : List Action) : Prop where
  supervised : Supervised svc h
  pending : ∀ token spec, gate.pending token = some spec → Pending svc token spec h
  staged_issued : ∀ token spec, .staged token spec ∈ h → .issued token spec ∈ h
  released_issued : ∀ token spec f, .released token spec f ∈ h → .issued token spec ∈ h

/-- What holds of a session wherever its call in progress stands. -/
def Standing (svc : CommandService) (gate : ConfirmationGate) (h : List Action) :
    Option Frame → Prop
  | some (.naming spec) => Built svc spec
  | some (.staging token spec) =>
      gate.pending token = some spec ∧ ∀ spec', .staged token spec' ∉ h
  | some (.checking token spec forceAck) | some (.timing token spec forceAck _) =>
      Built svc spec ∧ (spec.requiresForceConfirm = true → forceAck = true) ∧
        Released token spec forceAck false h
  | some (.confirming token spec forceAck) =>
      Built svc spec ∧ (spec.requiresForceConfirm = true → forceAck = true) ∧
        Released token spec forceAck (decide (spec.name = "arm")) h
  | some (.executing token spec _) => Licensed svc token spec h
  | some (.cancelling _) | some (.blocking _) | none => True

/-- A released command has its license when `command_confirmed` is recorded. -/
theorem licensed_of_released {forceAck : Bool} (hb : Built svc spec)
    (hforce : spec.requiresForceConfirm = true → forceAck = true)
    (hr : Released token spec forceAck (decide (spec.name = "arm")) h) :
    Licensed svc token spec h := by
  refine ⟨hb, forceAck, _, hr, ?_, ?_⟩
  · rintro ⟨hcmd, hmagic⟩
    obtain ⟨name, params, hbuild⟩ := hb
    obtain ⟨-, hallowed, hflag, hreq⟩ := force_of_buildCommand hbuild hcmd hmagic
    exact ⟨hflag, hallowed, hforce hreq⟩
  · rintro ⟨hcmd, harm⟩
    obtain ⟨name, params, hbuild⟩ := hb
    have hname := (arm_of_buildCommand hbuild hcmd harm).2
    exact ⟨hname, decide_eq_true hname⟩

/-- Passive actions other than unlicensed sends keep the ledger. -/
theorem Ledger.passive {gate : ConfirmationGate} (hl : Ledger svc gate h)
    (hnew : ∀ a ∈ l, a.Passive) (hs : Supervised svc (l ++ h)) : Ledger svc gate (l ++ h) where
  supervised := hs
  pending := fun token spec hp ↦ (hl.pending token spec hp).append (fun hm ↦ hnew _ hm)
    (fun _ _ hm ↦ hnew _ hm) (fun _ hm ↦ hnew _ hm)
  staged_issued := fun token spec hmem ↦ by
    rcases List.mem_append.mp hmem with hmem | hmem
    · exact absurd (hnew _ hmem) id
    · exact List.mem_append_right _ (hl.staged_issued token spec hmem)
  released_issued := fun token spec f hmem ↦ by
    rcases List.mem_append.mp hmem with hmem | hmem
    · exact absurd (hnew _ hmem) id
    · exact List.mem_append_right _ (hl.released_issued token spec f hmem)

/-! ## One step -/

/-- The ledger and the standing of a session. -/
structure Session.Sound (svc : CommandService) (s : Session) : Prop where
  ledger : Ledger svc s.gate s.history
  standing : Standing svc s.gate s.history s.frame

/-- The call a frame makes is the one its command is for. -/
theorem Execution.call_send {s : CommandSender} {x : Execution} {spec spec' : CommandSpec}
    (h : x.call s spec = some (.send spec')) : spec' = spec := by
  obtain ⟨pc, last⟩ := x
  cases pc <;> cases h
  rfl

/-- Only a licensed execution sends, so a reply keeps the history supervised. -/
theorem Ledger.performed {gate : ConfirmationGate} (hl : Ledger svc gate h) (token : String)
    {c : Option Call} (hc : ∀ spec, c = some (.send spec) → Licensed svc token spec h) (r : Reply) :
    Ledger svc gate (performed token c r ++ h) := by
  refine hl.passive (performed_passive token c r) ?_
  unfold Command.performed
  split
  · exact hl.supervised
  · exact ⟨hc _ rfl, hl.supervised⟩
  · exact hl.supervised

/-- A token comes out of the id factory. -/
theorem Ledger.issue {gate : ConfirmationGate} (hl : Ledger svc gate h) (hb : Built svc spec)
    (hfresh : ∀ spec', .issued token spec' ∉ h) :
    Ledger svc (gate.stage token spec) (.issued token spec :: h) where
  supervised := hl.supervised
  pending := fun token' spec' hp ↦ by
    rw [ConfirmationGate.pending_stage] at hp
    split_ifs at hp with htok
    · subst htok
      cases hp
      refine ⟨hb, List.mem_cons_self, fun s f hmem ↦ ?_, fun s hmem ↦ ?_⟩
      · have hmem' : .released token' s f ∈ h := by simpa using hmem
        exact hfresh s (hl.released_issued token' s f hmem')
      · have hmem' : .staged token' s ∈ h := by simpa using hmem
        exact absurd (hl.staged_issued token' s hmem') (hfresh s)
    · exact (hl.pending token' spec' hp).append (l := [.issued token spec]) (by simp) (by simp)
        (by simp)
  staged_issued := fun token' spec' hmem ↦ by
    have hmem' : .staged token' spec' ∈ h := by simpa using hmem
    exact List.mem_cons_of_mem _ (hl.staged_issued token' spec' hmem')
  released_issued := fun token' spec' f hmem ↦ by
    have hmem' : .released token' spec' f ∈ h := by simpa using hmem
    exact List.mem_cons_of_mem _ (hl.released_issued token' spec' f hmem')

/-- `stage` returns. -/
theorem Ledger.stage {gate : ConfirmationGate} {e : AuditEvent} (hl : Ledger svc gate h)
    (hp : gate.pending token = some spec) (hnew : ∀ spec', .staged token spec' ∉ h) :
    Ledger svc gate (.staged token spec :: .recorded e :: h) where
  supervised := hl.supervised
  pending := fun token' spec' hp' ↦ by
    by_cases htok : token' = token
    · subst htok
      rw [hp] at hp'
      cases hp'
      have hold := hl.pending token' spec hp
      have hnone : ∀ s f, .released token' s f ∉ .staged token' spec :: .recorded e :: h := by
        simpa using hold.unreleased
      refine ⟨hold.built, by simp [hold.issued], hnone, fun s hmem ↦ ?_⟩
      have hs : s = spec := by simpa [hnew s] using hmem
      exact ⟨hs, [], .recorded e :: h, rfl, List.not_mem_nil, hnone⟩
    · exact (hl.pending token' spec' hp').append (l := [.staged token spec, .recorded e])
        (by simp) (by simp) (by simp [htok])
  staged_issued := fun token' spec' hmem ↦ by
    simp only [List.mem_cons, Action.staged.injEq, reduceCtorEq, false_or] at hmem
    rcases hmem with ⟨rfl, rfl⟩ | hmem
    · simp [(hl.pending token' spec' hp).issued]
    · simp [hl.staged_issued token' spec' hmem]
  released_issued := fun token' spec' f hmem ↦ by
    have hmem' : .released token' spec' f ∈ h := by simpa using hmem
    simp [hl.released_issued token' spec' f hmem']

/-- The gate discards a token, on its way out or by a cancellation. -/
theorem Ledger.discard {gate : ConfirmationGate} {a : Action} (hl : Ledger svc gate h)
    (ha : a = .cancelled token ∨ ∃ spec f, a = .released token spec f ∧ .issued token spec ∈ h) :
    Ledger svc (gate.cancel token) (a :: h) where
  supervised := by rcases ha with rfl | ⟨spec, f, rfl, -⟩ <;> exact hl.supervised
  pending := fun token' spec' hp ↦ by
    rw [ConfirmationGate.pending_cancel] at hp
    split_ifs at hp with htok
    refine (hl.pending token' spec' hp).append (l := [a]) ?_ ?_ ?_ <;>
      rcases ha with rfl | ⟨spec, f, rfl, -⟩ <;> simp [htok]
  staged_issued := fun token' spec' hmem ↦ by
    have hmem' : .staged token' spec' ∈ h := by
      rcases ha with rfl | ⟨spec, f, rfl, -⟩ <;> simpa using hmem
    exact List.mem_cons_of_mem _ (hl.staged_issued token' spec' hmem')
  released_issued := fun token' spec' f' hmem ↦ by
    rcases List.mem_cons.mp hmem with heq | hmem
    · rcases ha with rfl | ⟨spec, f, rfl, hiss⟩
      · cases heq
      · cases heq
        exact List.mem_cons_of_mem _ hiss
    · exact List.mem_cons_of_mem _ (hl.released_issued token' spec' f' hmem)

/-- A reply keeps the ledger and the standing if the id factory repeats no
token. -/
theorem Ledger.moves {gate gate' : ConfirmationGate} {f : Frame} {r : Reply} {p : Progress}
    (hl : Ledger svc gate h) (hst : Standing svc gate h (some f))
    (hfresh : ∀ token, r = .token token → ∀ spec, .issued token spec ∉ h)
    (hmove : Moves svc gate f r gate' p) :
    Ledger svc gate' (f.observe svc r ++ h) ∧
      Standing svc gate' (f.observe svc r ++ h) p.frame := by
  cases hmove with
  | parked spec token =>
      show Ledger svc _ (.issued token spec :: h) ∧ Standing svc _ (.issued token spec :: h) _
      refine ⟨hl.issue hst (hfresh token rfl), by simp, fun spec' hmem ↦ ?_⟩
      have hmem' : .staged token spec' ∈ h := by simpa using hmem
      exact hfresh token rfl spec' (hl.staged_issued token spec' hmem')
  | staged token spec => exact ⟨hl.stage hst.1 hst.2, trivial⟩
  | cancelled token =>
      exact ⟨hl.performed token (c := (Frame.cancelling token).call svc) nofun .done, trivial⟩
  | reported token spec forceAck report => exact ⟨hl, hst⟩
  | cleared token spec forceAck report now hok =>
      obtain ⟨hb, hforce, hr⟩ := hst
      rw [observe_cleared hok]
      refine ⟨hl.passive (fun a ha ↦ ?_) hl.supervised, hb, hforce, hr.clear _⟩
      rw [List.mem_singleton.mp ha]
      trivial
  | refused token spec forceAck report now hok =>
      rw [observe_refused hok]
      exact ⟨hl, trivial⟩
  | blocked token message =>
      exact ⟨hl.performed token (c := (Frame.blocking token).call svc) nofun .done, trivial⟩
  | started token spec forceAck =>
      obtain ⟨hb, hforce, hr⟩ := hst
      refine ⟨hl.performed token (c := (Frame.confirming token spec forceAck).call svc) nofun
        .done, ?_⟩
      exact (licensed_of_released hb hforce hr).append (l := [.recorded _]) (by simp)
  | lost _ e hcall hx =>
      rw [observe_raised hx]
      exact ⟨hl, trivial⟩
  | executed token spec x _ y hr =>
      refine ⟨hl.performed token (c := x.call svc.sender spec) (fun spec' hc ↦ ?_) r, ?_⟩
      · rw [Execution.call_send hc]
        exact hst
      · rcases Frame.settle_cases token spec y with heq | ⟨result, heq⟩ <;> rw [heq]
        · exact hst.append fun spec' f hmem ↦ performed_passive token _ r _ hmem
        · trivial

/-- A step that takes only fresh tokens and confirms only staged ones keeps a
session sound. -/
theorem Session.sound_step {s t : Session} {e : ServiceEvent} (hs : s.Sound svc)
    (hP : s.FreshToken e ∧ s.ConfirmsStaged e) (hstep : s.step svc e = some t) :
    t.Sound svc := by
  obtain ⟨hl, hst⟩ := hs
  have hsteps := steps_of_step hstep
  cases hsteps with
  | refused name params e hidle => exact ⟨hl, hst⟩
  | built name params spec hidle hb => exact ⟨hl, ⟨name, params, hb⟩⟩
  | unconfirmed token forceAck e hidle => exact ⟨hl, hst⟩
  | confirmed token forceAck spec hidle hp hforce =>
      have hpend := hl.pending token spec hp
      obtain ⟨-, hparked⟩ := hpend.parked spec (hP.2 spec hp)
      refine ⟨hl.discard (.inr ⟨spec, forceAck, rfl, hpend.issued⟩), ?_⟩
      have hrel := hparked.release forceAck
      show Standing svc _ _ (some (svc.release token spec forceAck))
      unfold CommandService.release
      split_ifs with hname hhealth
      · exact ⟨hpend.built, hforce, hrel⟩
      · exact ⟨hpend.built, hforce, hrel⟩
      · refine ⟨hpend.built, hforce, ?_⟩
        rw [decide_eq_false hname]
        exact hrel
  | cancelled token hidle => exact ⟨hl.discard (.inl rfl), trivial⟩
  | replied f r gate p hf hmove =>
      rw [hf] at hst
      have hfresh : ∀ token, r = .token token → ∀ spec, .issued token spec ∉ s.history := by
        rintro token rfl
        exact hP.1
      obtain ⟨hl', hst'⟩ := hl.moves hst hfresh hmove
      exact ⟨hl', hst'⟩

/-- **Supervision.**  If the id factory repeats no token and no confirmation
names a token left over from a stage whose audit write raised, every spec handed
to the link is licensed: staged, not cancelled, released once, with the force
acknowledgement and the interlock where they are due. -/
theorem Session.supervised_of_confirms_staged (svc : CommandService) (es : List ServiceEvent)
    (hfresh : Automaton.Along (step svc) FreshToken {} es)
    (hstaged : Automaton.Along (step svc) ConfirmsStaged {} es) :
    Automaton.Always (step svc) (fun s ↦ Supervised svc s.history) {} es := by
  have hinit : Sound svc {} :=
    ⟨⟨trivial, nofun, nofun, nofun⟩, trivial⟩
  have h := Automaton.always_of_along (I := Sound svc) (fun s e t hs hP ↦ sound_step hs hP) hinit
    (hfresh.and hstaged)
  exact h.mono fun s hs ↦ hs.ledger.supervised

/-- An RTL is staged, confirmed and sent. -/
theorem Session.supervised_rtl :
    Automaton.Always (step { text := .plain })
      (fun s ↦ Supervised { text := .plain } s.history) {}
      [.stage "rtl" [], .reply (.token "a"), .reply .done, .confirm "a" false, .reply .done,
        .reply .done, .reply .done, .reply .done] := by
  apply supervised_of_confirms_staged
  · refine .cons rfl trivial (.cons rfl (fun _ ↦ List.not_mem_nil) ?_)
    exact .cons rfl trivial (.cons rfl trivial (.cons rfl trivial (.cons rfl trivial
      (.cons rfl trivial (.cons rfl trivial trivial)))))
  · refine .cons rfl trivial (.cons rfl trivial (.cons rfl trivial (.cons rfl ?_ ?_)))
    · rintro spec hspec
      cases hspec
      exact List.mem_cons_self
    · exact .cons rfl trivial (.cons rfl trivial (.cons rfl trivial (.cons rfl trivial trivial)))

/-- The audit write of a stage raises, so the stage fails, but its token stays
pending: a confirmation of it sends a command that was never staged. -/
theorem Session.orphan_is_sent :
    Automaton.Along (step { text := .plain }) FreshToken {}
        [.stage "rtl" [], .reply (.token "a"), .reply .raised, .confirm "a" false, .reply .done,
          .reply .done, .reply .done, .reply .done] ∧
      ¬ Automaton.Always (step { text := .plain })
        (fun s ↦ Supervised { text := .plain } s.history) {}
        [.stage "rtl" [], .reply (.token "a"), .reply .raised, .confirm "a" false, .reply .done,
          .reply .done, .reply .done, .reply .done] := by
  constructor
  · refine .cons rfl trivial (.cons rfl (fun _ ↦ List.not_mem_nil) ?_)
    exact .cons rfl trivial (.cons rfl trivial (.cons rfl trivial (.cons rfl trivial
      (.cons rfl trivial (.cons rfl trivial trivial)))))
  · intro h
    have hend := Automaton.always_iff_prefix.mp h _ _ (List.prefix_refl _) rfl
    -- nothing was ever staged
    have hlic : Licensed { text := .plain } "a" rtl
        [.recorded (.commandAttempt 20 "rtl" 1), .recorded (.commandConfirmed "a" "rtl" false),
          .released "a" rtl false, .issued "a" rtl] := hend.1
    obtain ⟨-, forceAck, cleared, ⟨post, mid, pre, hh, -⟩, -⟩ := hlic
    have hmem : Action.staged "a" rtl ∈ post ++ .released "a" rtl forceAck ::
        (mid ++ .staged "a" rtl :: pre) := by simp
    rw [← hh] at hmem
    simp at hmem

end DroneComms.Command
