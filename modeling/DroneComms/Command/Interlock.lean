import DroneComms.Command.Supervision

/-!
# The pre-arm interlock over time

The service with a `HeartbeatHealth` provider on the same clock.  Any number of
service calls are in progress at once, as they are in the endpoint's thread
pool, and the clock advances between any two of their steps: through audit
writes, ACK timeouts and the scheduling of threads.

`confirm` checks the health report once, and time passes behind the check.  The
check bounds the age of the report when it was made; `Interlock.slack` is what it
leaves of the age limits for the audit writes, the ACK waits of earlier attempts
and the scheduling.  The interlock holds at every transmission exactly if none of
them takes more than that, or a newer heartbeat makes up for it.
-/

namespace DroneComms.Command

open Fpv

/-- What the interlock of a confirmation saw. -/
structure Check where
  /-- The number of heartbeats before the report was made. -/
  beats : ℕ
  report : Option HealthReport
  /-- When the report was made. -/
  made : ℚ
deriving DecidableEq, Repr

/-- An arm command is handed to `link.send`. -/
structure Handed where
  time : ℚ
  /-- What the health provider says at that instant. -/
  report : Option HealthReport
deriving DecidableEq, Repr

/-- The service, its clock and its health provider. -/
structure Interlock where
  now : ℚ
  health : HeartbeatHealth := {}
  /-- The number of heartbeats so far. -/
  beats : ℕ := 0
  gate : ConfirmationGate := {}
  /-- The calls in progress. -/
  frames : ℕ → Option Frame := fun _ ↦ none
  /-- What the interlock of each call in progress saw. -/
  checks : ℕ → Option Check := fun _ ↦ none
  /-- The arm commands handed to the link, newest first. -/
  handed : List Handed := []

/-- What can happen next. -/
inductive InterlockEvent where
  | advance (time : ℚ)
  | beat (t : Option ℚ)
  | stage (i : ℕ) (name : String) (params : List (String × Py.Value))
  | confirm (i : ℕ) (token : String) (forceAck : Bool)
  | cancel (i : ℕ) (token : String)
  | reply (i : ℕ) (r : Reply)

instance (spec : CommandSpec) : Decidable spec.Arms := by
  unfold CommandSpec.Arms
  infer_instance

/-- The frame is about to hand an arm command to the link. -/
def Frame.HandsArm (svc : CommandService) : Frame → Prop
  | .executing _ spec x => (x.call svc.sender spec).any Call.isSend = true ∧ spec.Arms
  | _ => False

instance (svc : CommandService) (f : Frame) : Decidable (f.HandsArm svc) := by
  cases f <;> unfold Frame.HandsArm <;> infer_instance

namespace Interlock

/-- The clock and the health provider answer for themselves; the other calls
are answered by the environment. -/
def Answers (svc : CommandService) (s : Interlock) (f : Frame) (r : Reply) : Prop :=
  match f.call svc with
  | some .health => r = .report (s.health.report s.now)
  | some .now => r = .time s.now
  | _ => True

instance (svc : CommandService) (s : Interlock) (f : Frame) (r : Reply) :
    Decidable (s.Answers svc f r) := by
  unfold Answers
  split <;> infer_instance

/-- What the interlock of a call has seen after a reply. -/
def check (s : Interlock) (i : ℕ) (f : Frame) (r : Reply) : Option Check :=
  match f, r with
  | .checking .., .report report => some ⟨s.beats, report, s.now⟩
  | _, _ => s.checks i

/-- One step. -/
def step (svc : CommandService) (s : Interlock) : InterlockEvent → Option Interlock
  | .advance time => if s.now ≤ time then some { s with now := time } else none
  | .beat t => some { s with health := s.health.beat s.now t, beats := s.beats + 1 }
  | .stage i name params =>
      if (s.frames i).isSome then none
      else match buildCommand svc.text name svc.settings params with
        | .error _ => some s
        | .ok spec => some { s with frames := Function.update s.frames i (some (.naming spec)) }
  | .confirm i token forceAck =>
      if (s.frames i).isSome then none
      else match s.gate.confirm token forceAck with
        | .error _ => some s
        | .ok (spec, gate) => some { s with
            gate
            frames := Function.update s.frames i (some (svc.release token spec forceAck)) }
  | .cancel i token =>
      if (s.frames i).isSome then none
      else some { s with
        gate := s.gate.cancel token
        frames := Function.update s.frames i (some (.cancelling token)) }
  | .reply i r => do
      let f ← s.frames i
      if s.Answers svc f r then
        let (gate, p) ← f.resume svc s.gate r
        return { s with
          gate
          frames := Function.update s.frames i p.frame
          checks := Function.update s.checks i (s.check i f r)
          handed :=
            if f.HandsArm svc then ⟨s.now, s.health.report s.now⟩ :: s.handed else s.handed }
      else none

/-- At the instant an arm command was handed to the link there was a fresh
report that permits arming. -/
def Armed (svc : CommandService) (s : Interlock) : Prop :=
  ∀ h ∈ s.handed, ∃ r, h.report = some r ∧ r.armPermitted = true ∧
    h.time - r.tMono ≤ svc.settings.armReportMaxAgeS

/-- How old a report may be for both the provider and the service. -/
def limit (svc : CommandService) (s : Interlock) : ℚ :=
  min s.health.maxAgeS svc.settings.armReportMaxAgeS

/-- What a check leaves of the limit for the time behind it: the report `r` was made at `made`. -/
def slack (svc : CommandService) (s : Interlock) (made : ℚ) (r : HealthReport) : ℚ :=
  max 0 (s.limit svc - (made - r.tMono))

/-- The time since the report of the check was made is no more than the check leaves, or there was
a newer heartbeat that is within the limit. -/
def Prompt (svc : CommandService) (s : Interlock) (i : ℕ) : Prop :=
  ∃ c r, s.checks i = some c ∧ c.report = some r ∧
    if c.beats = s.beats then s.now - c.made ≤ s.slack svc c.made r
    else ∃ last, s.health.last = some last ∧ s.now - last ≤ s.limit svc

/-- An arm command is only handed to the link promptly. -/
def HandsPromptly (svc : CommandService) (s : Interlock) : InterlockEvent → Prop
  | .reply i _ => ∀ f, s.frames i = some f → f.HandsArm svc → s.Prompt svc i
  | _ => True

/-! ## What is known of a check -/

/-- The check is not from the future, if there was no heartbeat since then its
report still shows the last one, and a report that permits arming was within the
provider's limit when it was made. -/
structure Current (s : Interlock) (c : Check) : Prop where
  beats : c.beats ≤ s.beats
  made : c.made ≤ s.now
  last : c.beats = s.beats → ∀ r, c.report = some r → s.health.last = some r.tMono
  permitted : ∀ r, c.report = some r → r.armPermitted = true → c.made - r.tMono ≤ s.health.maxAgeS

/-- The interlock of call `i` saw the report `r`. -/
def Saw (s : Interlock) (i : ℕ) (r : HealthReport) : Prop :=
  ∃ c, s.checks i = some c ∧ c.report = some r ∧ s.Current c

/-- The interlock of call `i` let an arm command pass, on a report within both limits. -/
def Passed (svc : CommandService) (s : Interlock) (i : ℕ) : Prop :=
  ∃ c r, s.checks i = some c ∧ c.report = some r ∧ s.Current c ∧
    c.made - r.tMono ≤ s.limit svc

/-- What is known of call `i` from where it stands. -/
def Known (svc : CommandService) (s : Interlock) (i : ℕ) : Frame → Prop
  | .naming spec | .staging _ spec | .checking _ spec _ => Built svc spec
  | .timing _ spec _ report => Built svc spec ∧ ∀ r, report = some r → s.Saw i r
  | .confirming _ spec _ | .executing _ spec _ =>
      Built svc spec ∧ (spec.name = "arm" → s.Passed svc i)
  | .cancelling _ | .blocking _ => True

/-- What every step keeps. -/
structure Sound (svc : CommandService) (s : Interlock) : Prop where
  pending : ∀ token spec, s.gate.pending token = some spec → Built svc spec
  frames : ∀ i f, s.frames i = some f → s.Known svc i f

variable {svc : CommandService} {s t : Interlock} {i : ℕ}

/-- A heartbeat makes every check an earlier one. -/
theorem Current.beat {c : Check} (h : s.Current c) (time : Option ℚ) :
    Current { s with health := s.health.beat s.now time, beats := s.beats + 1 } c where
  beats := Nat.le_succ_of_le h.beats
  made := h.made
  last heq := absurd h.beats (by
    have heq' : c.beats = s.beats + 1 := heq
    omega)
  permitted := h.permitted

/-- Time only makes a check older. -/
theorem Current.advance {c : Check} (h : s.Current c) {time : ℚ} (htime : s.now ≤ time) :
    Current { s with now := time } c :=
  { h with made := h.made.trans htime }

/-- What is known of a call stays known while its check is kept and every check
stays current. -/
theorem Known.mono {f : Frame} (h : s.Known svc i f) (hcheck : t.checks i = s.checks i)
    (hage : t.health.maxAgeS = s.health.maxAgeS) (hcur : ∀ c, s.Current c → t.Current c) :
    t.Known svc i f := by
  have hsaw : ∀ r, s.Saw i r → t.Saw i r := by
    rintro r ⟨c, hc, hr, hcc⟩
    exact ⟨c, hcheck.trans hc, hr, hcur c hcc⟩
  have hpassed : s.Passed svc i → t.Passed svc i := by
    rintro ⟨c, r, hc, hr, hcc, hle⟩
    refine ⟨c, r, hcheck.trans hc, hr, hcur c hcc, ?_⟩
    rwa [limit, hage]
  cases f with
  | naming spec => exact h
  | staging token spec => exact h
  | checking token spec forceAck => exact h
  | cancelling token => trivial
  | blocking token => trivial
  | timing token spec forceAck report => exact ⟨h.1, fun r hr ↦ hsaw r (h.2 r hr)⟩
  | confirming token spec forceAck => exact ⟨h.1, fun hname ↦ hpassed (h.2 hname)⟩
  | executing token spec x => exact ⟨h.1, fun hname ↦ hpassed (h.2 hname)⟩

/-- The check of an arm command bounds the age of its report, so that the command is handed over
promptly exactly if the provider's report permits arming at this instant. -/
theorem prompt_iff {f : Frame} (h : s.Known svc i f) (harm : f.HandsArm svc) :
    s.Prompt svc i ↔
      armAllowed (s.health.report s.now) s.now svc.settings.armReportMaxAgeS = true := by
  rw [HeartbeatHealth.armAllowed_report]
  cases f with
  | executing token spec x =>
      obtain ⟨⟨name, params, hbuild⟩, hpassed⟩ := h
      have hname := (arm_of_buildCommand hbuild harm.2.1 harm.2.2).2
      obtain ⟨c, r, hc, hr, hcur, hle⟩ := hpassed hname
      have hslack : s.slack svc c.made r = s.limit svc - (c.made - r.tMono) :=
        max_eq_right (sub_nonneg.mpr hle)
      have hage : s.now - c.made ≤ s.slack svc c.made r ↔ s.now - r.tMono ≤ s.limit svc := by
        rw [hslack]
        constructor <;> intro h <;> linarith
      constructor
      · rintro ⟨c', r', hc', hr', hprompt⟩
        cases hc.symm.trans hc'
        cases hr.symm.trans hr'
        split_ifs at hprompt with hbeats
        · exact ⟨r.tMono, hcur.last hbeats r hr, hage.mp hprompt⟩
        · exact hprompt
      · rintro ⟨last, hlast, hfresh⟩
        refine ⟨c, r, hc, hr, ?_⟩
        split_ifs with hbeats
        · cases hlast.symm.trans (hcur.last hbeats r hr)
          exact hage.mpr hfresh
        · exact ⟨last, hlast, hfresh⟩
  | _ => exact absurd harm id

/-- An arm command handed over at the instant of its report is prompt: here the check is enough. -/
theorem Passed.prompt (h : s.Passed svc i)
    (hnow : ∀ c, s.checks i = some c → c.beats = s.beats ∧ c.made = s.now) :
    s.Prompt svc i := by
  obtain ⟨c, r, hc, hr, -, -⟩ := h
  obtain ⟨hbeats, hmade⟩ := hnow c hc
  refine ⟨c, r, hc, hr, ?_⟩
  rw [if_pos hbeats, hmade, sub_self]
  exact le_max_left 0 _

/-! ## One step -/

/-- A reply leads to a frame of which as much is known. -/
theorem Known.moves {f f' : Frame} {r : Reply} {gate gate' : ConfirmationGate} {p : Progress}
    (h : s.Known svc i f) (hans : s.Answers svc f r) (hmove : Moves svc gate f r gate' p)
    (hp : p.frame = some f') (hcheck : t.checks i = s.check i f r)
    (hage : t.health.maxAgeS = s.health.maxAgeS) (hcur : ∀ c, s.Current c → t.Current c) :
    t.Known svc i f' := by
  cases hmove with
  | parked spec token =>
      cases hp
      exact h
  | staged token spec => cases hp
  | cancelled token => cases hp
  | blocked token message => cases hp
  | lost _ e hcall hx => cases hp
  | refused token spec forceAck report now hok =>
      cases hp
      trivial
  | reported token spec forceAck report =>
      cases hp
      have hreport : report = s.health.report s.now := by
        have hans' : Reply.report report = .report (s.health.report s.now) := hans
        cases hans'
        rfl
      have hlast : ∀ r, report = some r → ∃ last, s.health.last = some last ∧
          r.tMono = last ∧ (r.armPermitted = true → s.now - last ≤ s.health.maxAgeS) := by
        intro r hr
        have hmade : s.health.report s.now = some r := hreport ▸ hr
        obtain ⟨last, hl, rfl⟩ := Option.map_eq_some_iff.mp hmade
        exact ⟨last, hl, rfl, of_decide_eq_true⟩
      refine ⟨h, fun r hr ↦ ⟨⟨s.beats, report, s.now⟩, hcheck, hr,
        hcur _ ⟨le_rfl, le_rfl, fun _ r' hr' ↦ ?_, fun r' hr' hpermitted ↦ ?_⟩⟩⟩
      · obtain ⟨last, hl, htime, -⟩ := hlast r' hr'
        rw [htime]
        exact hl
      · obtain ⟨last, -, htime, hfresh⟩ := hlast r' hr'
        rw [htime]
        exact hfresh hpermitted
  | cleared token spec forceAck report now hok =>
      cases hp
      obtain ⟨r, rfl, hfresh, hpermitted⟩ := armAllowed_eq_true.mp hok
      obtain ⟨c, hc, hr, hcc⟩ := h.2 r rfl
      have hnow : now = s.now := by
        have hans' : Reply.time now = .time s.now := hans
        cases hans'
        rfl
      refine ⟨h.1, fun _ ↦ ⟨c, r, hcheck.trans hc, hr, hcur _ hcc, ?_⟩⟩
      -- the clock read for the comparison is no earlier than the report
      have hmade := hcc.made
      rw [hnow] at hfresh
      rw [limit, hage]
      exact le_min (hcc.permitted r hr hpermitted) (by linarith)
  | started token spec forceAck =>
      cases hp
      exact Known.mono (f := .executing token spec (.start svc.sender)) h hcheck hage hcur
  | executed token spec x _ y hr =>
      rcases Frame.settle_cases token spec y with heq | ⟨result, heq⟩ <;> rw [heq] at hp <;>
        cases hp
      exact Known.mono (f := .executing token spec y) h hcheck hage hcur

/-- A reply resumes the call it is for. -/
theorem step_reply {r : Reply} (hstep : s.step svc (.reply i r) = some t) :
    ∃ f gate p, s.frames i = some f ∧ s.Answers svc f r ∧ Moves svc s.gate f r gate p ∧
      t = { s with
        gate
        frames := Function.update s.frames i p.frame
        checks := Function.update s.checks i (s.check i f r)
        handed :=
          if f.HandsArm svc then ⟨s.now, s.health.report s.now⟩ :: s.handed else s.handed } := by
  obtain ⟨f, hf, hstep⟩ := Option.bind_eq_some_iff.mp hstep
  obtain ⟨hans, hstep⟩ := Option.ite_none_right_eq_some.mp hstep
  obtain ⟨⟨gate, p⟩, hres, hstep⟩ := Option.bind_eq_some_iff.mp hstep
  cases hstep
  exact ⟨f, gate, p, hf, hans, moves_of_resume hres, rfl⟩

theorem Sound.reply {r : Reply} (hs : s.Sound svc) (hstep : s.step svc (.reply i r) = some t) :
    t.Sound svc := by
  obtain ⟨f, gate, p, hf, hans, hmove, rfl⟩ := step_reply hstep
  have hknown := hs.frames i f hf
  constructor
  · intro token spec hp
    cases hmove with
    | parked spec' token' =>
        have hp' : (s.gate.stage token' spec').pending token = some spec := hp
        rw [ConfirmationGate.pending_stage] at hp'
        split_ifs at hp' with htok
        · cases hp'
          exact hknown
        · exact hs.pending token spec hp'
    | _ => exact hs.pending token spec hp
  · intro j f' hf'
    by_cases hij : j = i
    · subst hij
      have hp : p.frame = some f' := by simpa using hf'
      refine hknown.moves hans hmove hp ?_ rfl fun c hc ↦ ⟨hc.beats, hc.made, hc.last, hc.permitted⟩
      exact Function.update_self ..
    · have hold : s.frames j = some f' := by simpa [hij] using hf'
      exact (hs.frames j f' hold).mono (Function.update_of_ne hij ..) rfl fun c hc ↦
        ⟨hc.beats, hc.made, hc.last, hc.permitted⟩

/-- A call enters with a frame of which nothing more than its spec is known. -/
theorem Sound.enter (hs : s.Sound svc) {gate : ConfirmationGate} {f : Frame}
    (hgate : ∀ token spec, gate.pending token = some spec → Built svc spec)
    (hf : ∀ t : Interlock, t.Known svc i f) :
    Sound svc { s with gate, frames := Function.update s.frames i (some f) } := by
  refine ⟨hgate, fun j f' hf' ↦ ?_⟩
  by_cases hij : j = i
  · subst hij
    have hsome : f = f' := by simpa using hf'
    exact hsome ▸ hf _
  · have hold : s.frames j = some f' := by simpa [hij] using hf'
    exact (hs.frames j f' hold).mono rfl rfl fun c hc ↦
      ⟨hc.beats, hc.made, hc.last, hc.permitted⟩

theorem Sound.pending_cancel (hs : s.Sound svc) (token : String) :
    ∀ token' spec, (s.gate.cancel token).pending token' = some spec → Built svc spec := by
  intro token' spec hp
  rw [ConfirmationGate.pending_cancel] at hp
  split_ifs at hp
  exact hs.pending token' spec hp

/-- A step keeps what is known. -/
theorem Sound.step {e : InterlockEvent} (hs : s.Sound svc) (hstep : s.step svc e = some t) :
    t.Sound svc := by
  cases e with
  | reply i r => exact hs.reply hstep
  | advance time =>
      obtain ⟨htime, hstep⟩ := Option.ite_none_right_eq_some.mp hstep
      cases hstep
      exact ⟨hs.pending, fun i f hf ↦ (hs.frames i f hf).mono rfl rfl fun c hc ↦ hc.advance htime⟩
  | beat time =>
      cases hstep
      exact ⟨hs.pending, fun i f hf ↦ (hs.frames i f hf).mono rfl rfl fun c hc ↦ hc.beat time⟩
  | stage i name params =>
      obtain ⟨-, hstep⟩ := Option.ite_none_left_eq_some.mp hstep
      split at hstep
      · cases hstep
        exact hs
      · rename_i spec hbuild
        cases hstep
        exact hs.enter hs.pending fun _ ↦ ⟨name, params, hbuild⟩
  | confirm i token forceAck =>
      obtain ⟨-, hstep⟩ := Option.ite_none_left_eq_some.mp hstep
      split at hstep
      · cases hstep
        exact hs
      · rename_i spec gate hconfirm
        cases hstep
        obtain ⟨hp, -, rfl⟩ := ConfirmationGate.confirm_eq_ok hconfirm
        have hbuilt := hs.pending token spec hp
        refine hs.enter (hs.pending_cancel token) fun t ↦ ?_
        unfold CommandService.release
        split_ifs with hname hhealth
        · exact hbuilt
        · exact ⟨hbuilt, nofun⟩
        · exact ⟨hbuilt, fun h ↦ absurd h hname⟩
  | cancel i token =>
      obtain ⟨-, hstep⟩ := Option.ite_none_left_eq_some.mp hstep
      cases hstep
      exact hs.enter (hs.pending_cancel token) fun _ ↦ trivial

/-- The provider's report backs an arm command exactly if `arm_allowed` would
pass it at this instant. -/
theorem armed_cons {h : Handed} {hs : List Handed} (heq : s.handed = h :: hs) :
    s.Armed svc ↔ armAllowed h.report h.time svc.settings.armReportMaxAgeS = true ∧
      Armed svc { s with handed := hs } := by
  rw [armAllowed_eq_true]
  unfold Armed
  rw [heq]
  simp only [List.forall_mem_cons, and_comm]

/-- A step keeps the interlock exactly if it does not hand an arm command to the
link late. -/
theorem armed_step_iff {e : InterlockEvent} (hs : s.Sound svc) (ha : s.Armed svc)
    (hstep : s.step svc e = some t) : t.Armed svc ↔ s.HandsPromptly svc e := by
  cases e with
  | reply i r =>
      obtain ⟨f, gate, p, hf, hans, hmove, rfl⟩ := step_reply hstep
      have hknown := hs.frames i f hf
      by_cases harm : f.HandsArm svc
      · rw [armed_cons (if_pos harm)]
        constructor
        · rintro ⟨hallowed, -⟩ f' hf' harm'
          rw [hf] at hf'
          cases hf'
          exact (prompt_iff hknown harm).mpr hallowed
        · exact fun hin ↦ ⟨(prompt_iff hknown harm).mp (hin f hf harm), ha⟩
      · have hsame : Armed svc s ↔ s.HandsPromptly svc (.reply i r) := by
          refine ⟨fun _ f' hf' harm' ↦ ?_, fun _ ↦ ha⟩
          rw [hf] at hf'
          cases hf'
          exact absurd harm' harm
        rw [← hsame]
        show (∀ h ∈ ite _ _ _, _) ↔ _
        rw [if_neg harm]
        exact Iff.rfl
  | advance time =>
      obtain ⟨-, hstep⟩ := Option.ite_none_right_eq_some.mp hstep
      cases hstep
      exact ⟨fun _ ↦ trivial, fun _ ↦ ha⟩
  | beat time =>
      cases hstep
      exact ⟨fun _ ↦ trivial, fun _ ↦ ha⟩
  | stage i name params =>
      obtain ⟨-, hstep⟩ := Option.ite_none_left_eq_some.mp hstep
      split at hstep <;> cases hstep <;> exact ⟨fun _ ↦ trivial, fun _ ↦ ha⟩
  | confirm i token forceAck =>
      obtain ⟨-, hstep⟩ := Option.ite_none_left_eq_some.mp hstep
      split at hstep <;> cases hstep <;> exact ⟨fun _ ↦ trivial, fun _ ↦ ha⟩
  | cancel i token =>
      obtain ⟨-, hstep⟩ := Option.ite_none_left_eq_some.mp hstep
      cases hstep
      exact ⟨fun _ ↦ trivial, fun _ ↦ ha⟩

/-- **The interlock at transmission.**  In every run, there is a fresh report
that permits arming at each instant an arm command is handed to the link if and
only if each of them is handed over promptly. -/
theorem armed_always_iff_prompt (svc : CommandService) (now : ℚ) (health : HeartbeatHealth)
    (es : List InterlockEvent) :
    Automaton.Always (step svc) (Armed svc) { now, health } es ↔
      Automaton.Along (step svc) (HandsPromptly svc) { now, health } es :=
  Automaton.always_iff_along (J := Sound svc) (fun _ _ _ hs hstep ↦ hs.step hstep)
    (fun _ _ _ hs ha hstep ↦ armed_step_iff hs ha hstep) ⟨by simp, by simp⟩ (by simp [Armed]) es

instance (svc : CommandService) (s : Interlock) : Decidable (s.Armed svc) :=
  decidable_of_iff
    (∀ h ∈ s.handed, armAllowed h.report h.time svc.settings.armReportMaxAgeS = true)
    (forall₂_congr fun _ _ ↦ armAllowed_eq_true.trans (exists_congr fun _ ↦ and_congr_right
      fun _ ↦ and_comm))

/-- The vehicle falls silent after a heartbeat at time 0.  An arm is confirmed
at once, its first attempt is not answered for two seconds, and a second later
the retry is sent on the same check. -/
theorem retry_outlives_report :
    ¬ Automaton.Always (step { settings := { allowed := ["arm"] }, text := .plain })
      (Armed { settings := { allowed := ["arm"] }, text := .plain }) { now := 0 }
      [.beat none, .stage 0 "arm" [], .reply 0 (.token "a"), .reply 0 .done,
        .confirm 0 "a" false, .reply 0 (.report (some ⟨.ok, true, [], 0⟩)), .reply 0 (.time 0),
        .reply 0 .done, .reply 0 .done, .reply 0 .done, .reply 0 .done, .reply 0 (.time 0),
        .reply 0 (.time 0), .advance 2, .reply 0 (.ack none), .reply 0 .done, .reply 0 .done,
        .advance 3, .reply 0 .done] := by
  intro h
  have hend : (Automaton.exec (step { settings := { allowed := ["arm"] }, text := .plain })
      { now := 0 }
      [.beat none, .stage 0 "arm" [], .reply 0 (.token "a"), .reply 0 .done,
        .confirm 0 "a" false, .reply 0 (.report (some ⟨.ok, true, [], 0⟩)), .reply 0 (.time 0),
        .reply 0 .done, .reply 0 .done, .reply 0 .done, .reply 0 .done, .reply 0 (.time 0),
        .reply 0 (.time 0), .advance 2, .reply 0 (.ack none), .reply 0 .done, .reply 0 .done,
        .advance 3, .reply 0 .done]).any
      (fun s ↦ !decide (s.Armed { settings := { allowed := ["arm"] }, text := .plain })) = true := by
    decide +kernel
  obtain ⟨s, hs, hbad⟩ := (Option.any_eq_true _ _).mp hend
  have hgood := Automaton.always_iff_prefix.mp h _ s (List.prefix_refl _) hs
  simp [hgood] at hbad

end Interlock

end DroneComms.Command
