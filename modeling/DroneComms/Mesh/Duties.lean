import DroneComms.Mesh.Budget

/-!
# What the tasks of a router owe

The sends that each task of a router still has to make, the calls and the pumps
alike (`Node.duties`).  A call owes every target, a frame that is accepted is owed to
every transport but its source, and each send takes one duty off.

Where every send succeeds, no task ever ends with an exception (`Node.Running`).
-/

namespace DroneComms.Mesh

variable {β : Type}

/-- What a call still has to send. -/
def Publish.duties : Publish → List (Envelope × ℕ)
  | .sending f => f.targets.map (f.envelope, ·)
  | .returned _ | .raised _ => []

/-- What a pump still has to send. -/
def Pump.duties (r : Router β) (source : ℕ) : Pump → List (Envelope × ℕ)
  | .handling e _ => (others r source).map (e, ·)
  | .forwarding f => f.targets.map (f.envelope, ·)
  | .reading | .raised _ => []

/-- What a frame asks to be sent. -/
def Verdict.duties (r : Router β) (source : ℕ) : Verdict → List (Envelope × ℕ)
  | .accepted e _ => (others r source).map (e, ·)
  | .schemaMismatch | .undecodable | .duplicate _ => []

namespace Node

variable {r : Router β} {w q : Node}

/-- What the tasks still have to send: the calls on the left, the pumps on the right. -/
def duties (r : Router β) (w : Node) : ℕ ⊕ ℕ → List (Envelope × ℕ)
  | .inl i => (w.publishes i).elim [] Publish.duties
  | .inr source => (w.pumps source).duties r source

theorem duties_publishing (f : FanOut) : (publishing f).duties = f.targets.map (f.envelope, ·) := by
  unfold publishing
  split_ifs with hnil
  · rw [hnil]
    rfl
  · rfl

/-- A call has gone on. -/
theorem duties_of_publishes {i : ℕ} {p : Publish} (hpumps : q.pumps = w.pumps)
    (hpublishes : q.publishes = Function.update w.publishes i (some p)) :
    q.duties r = Function.update (w.duties r) (.inl i) p.duties := by
  funext k
  cases k with
  | inl c =>
      by_cases hc : c = i
      · rw [hc, Function.update_self, duties, hpublishes, Function.update_self]
        rfl
      · rw [Function.update_of_ne (Sum.inl_injective.ne hc), duties, hpublishes,
          Function.update_of_ne hc]
        rfl
  | inr s =>
      rw [Function.update_of_ne Sum.inr_ne_inl, duties, hpumps]
      rfl

/-- A pump has gone on. -/
theorem duties_of_pumps (source : ℕ) (hpublishes : q.publishes = w.publishes)
    (hother : ∀ s, s ≠ source → q.pumps s = w.pumps s) :
    q.duties r = Function.update (w.duties r) (.inr source) ((q.pumps source).duties r source) := by
  funext k
  cases k with
  | inl c =>
      rw [Function.update_of_ne Sum.inl_ne_inr, duties, hpublishes]
      rfl
  | inr s =>
      by_cases hs : s = source
      · rw [hs, Function.update_self]
        rfl
      · rw [Function.update_of_ne (Sum.inr_injective.ne hs), duties, hother s hs]
        rfl

theorem publishes_forwarding (w : Node) (source : ℕ) (f : FanOut) :
    (w.forwarding source f).publishes = w.publishes := by
  unfold forwarding
  split_ifs <;> rfl

theorem publishes_handling (r : Router β) (w : Node) (source : ℕ) (env : Envelope)
    (handlers : ℕ) : (w.handling r source env handlers).publishes = w.publishes := by
  cases handlers with
  | zero => exact publishes_forwarding w source _
  | succ n => rfl

theorem duties_forwarding (r : Router β) (w : Node) (source : ℕ) (f : FanOut) :
    ((w.forwarding source f).pumps source).duties r source = f.targets.map (f.envelope, ·) := by
  unfold forwarding
  split_ifs with hnil
  · rw [hnil]
    show (Function.update w.pumps source _ source).duties r source = _
    rw [Function.update_self]
    rfl
  · show (Function.update w.pumps source _ source).duties r source = _
    rw [Function.update_self]
    rfl

theorem duties_handling (r : Router β) (w : Node) (source : ℕ) (env : Envelope) (handlers : ℕ) :
    ((w.handling r source env handlers).pumps source).duties r source =
      (others r source).map (env, ·) := by
  cases handlers with
  | zero => exact duties_forwarding r w source _
  | succ n =>
      show (Function.update w.pumps source _ source).duties r source = _
      rw [Function.update_self]
      rfl

/-! ## What a step does to the duties -/

variable {i source : ℕ} {env : Envelope} {ok : Bool}

/-- A `publish` call owes every transport. -/
theorem duties_publish (h : w.step r (.publish i env) = some q) :
    w.duties r (.inl i) = [] ∧
      q.duties r = Function.update (w.duties r) (.inl i) (r.targets.map (env, ·)) := by
  obtain ⟨hnone, h⟩ := Option.ite_none_left_eq_some.mp h
  rw [Option.not_isSome_iff_eq_none] at hnone
  obtain ⟨seen, hseen⟩ := markSeen_fst r w env.msgId
  rw [hseen] at h
  cases h
  refine ⟨?_, ?_⟩
  · rw [duties, hnone]
    rfl
  · refine Eq.trans (duties_of_publishes (w := w) rfl rfl) ?_
    rw [duties_publishing]

/-- A frame that is accepted is owed to the other transports. -/
theorem duties_frame {data : β} (h : w.step r (.frame source data) = some q) :
    w.duties r (.inr source) = [] ∧
      q.duties r = Function.update (w.duties r) (.inr source)
        ((w.verdict r source data).duties r source) := by
  obtain ⟨hpump, -, rfl⟩ := step_frame h
  have hnone : w.duties r (.inr source) = [] := by
    rw [duties, hpump]
    rfl
  have hdropped : w.duties r = Function.update (w.duties r) (.inr source) [] := by
    rw [← hnone, Function.update_eq_self]
  refine ⟨hnone, ?_⟩
  rw [receive_eq]
  cases w.verdict r source data with
  | schemaMismatch => exact hdropped
  | undecodable => exact hdropped
  | duplicate e => exact hdropped
  | accepted e subscribers =>
      refine Eq.trans (duties_of_pumps (w := w) source
        (publishes_handling r _ source e subscribers)
        fun s hs ↦ pumps_handling_of_ne r _ e subscribers hs) ?_
      rw [duties_handling]
      rfl

/-- The transports wait until the subscribers have been called. -/
theorem duties_handled (h : w.step r (.handled source ok) = some q) : q.duties r = w.duties r := by
  obtain ⟨e, n, hpump, rfl⟩ := step_handled h
  rw [duties_of_pumps (w := w) source (publishes_handling r w source e n)
    fun s hs ↦ pumps_handling_of_ne r w e n hs, duties_handling]
  apply Function.update_eq_self_iff.mpr
  rw [duties, hpump]
  rfl

/-- A send is the only thing a fan-out writes down. -/
theorem eq_of_mem_sending {f : FanOut} {notice : Envelope → ℕ → Notice} {n : Notice}
    (h : n ∈ sending r f ok notice) : ∃ target, n = notice f.envelope target := by
  unfold sending at h
  split at h
  · cases h
  · split_ifs at h
    · exact ⟨_, List.mem_singleton.mp h⟩
    · cases h

/-- Only a `publish` call writes down that it publishes. -/
theorem publish_of_observe {e : NodeEvent β} {new : Bool} (h : .published env new ∈ w.observe r e) :
    ∃ i, e = .publish i env := by
  cases e with
  | subscribe => cases h
  | publish i env' =>
      cases List.mem_singleton.mp h
      exact ⟨i, rfl⟩
  | frame source data => cases List.mem_singleton.mp h
  | handled source ok =>
      simp only [observe] at h
      split at h
      · cases List.mem_singleton.mp h
      · cases h
  | sendPublished i ok =>
      simp only [observe] at h
      split at h
      · obtain ⟨target, heq⟩ := eq_of_mem_sending h
        cases heq
      · cases h
  | sendForwarded source ok =>
      simp only [observe] at h
      split at h
      · obtain ⟨target, heq⟩ := eq_of_mem_sending h
        cases heq
      · cases h

end Node

/-! ## Tasks that do not raise -/

variable {K : Envelope → Prop}

/-- The fan-out is of the family, and its targets are transports. -/
def FanOut.Runs (K : Envelope → Prop) (r : Router β) (f : FanOut) : Prop :=
  K f.envelope ∧ ∀ t ∈ f.targets, t < r.transports.length

/-- The call has not raised, and where it goes on it has something to send. -/
def Publish.Running (K : Envelope → Prop) (r : Router β) : Publish → Prop
  | .sending f => f.Runs K r ∧ f.targets ≠ []
  | .returned _ => True
  | .raised _ => False

/-- The pump has not raised, and where it goes on it has something to do. -/
def Pump.Running (K : Envelope → Prop) (r : Router β) : Pump → Prop
  | .reading => True
  | .handling e handlers => K e ∧ 0 < handlers
  | .forwarding f => f.Runs K r ∧ f.targets ≠ []
  | .raised _ => False

/-- What is published, accepted, handed on or sent is of the family. -/
def Notice.Of (K : Envelope → Prop) : Notice → Prop
  | .published e _ | .sent e _ | .pulled _ (.accepted e _) | .handed _ e _ | .forwarded _ e _ => K e
  | .pulled _ _ => True

/-- Codec and transport take what is sent of the family. -/
def Router.Takes (K : Envelope → Prop) (r : Router β) : Prop :=
  ∀ env t, K env → t < r.transports.length → r.Encodes env t

/-- The transport does not raise in the step. -/
def NodeEvent.Goes : NodeEvent β → Prop
  | .sendPublished _ ok | .sendForwarded _ ok => ok = true
  | _ => True

namespace Node

variable {r : Router β} {w q : Node}

/-- No task has raised. -/
structure Running (K : Envelope → Prop) (r : Router β) (w : Node) : Prop where
  publishes : ∀ i p, w.publishes i = some p → p.Running K r
  pumps : ∀ s, (w.pumps s).Running K r

theorem running_publishing {f : FanOut} (hf : f.Runs K r) : (publishing f).Running K r := by
  unfold publishing
  split_ifs with hnil
  · trivial
  · exact ⟨hf, hnil⟩

theorem Running.forwarding {source : ℕ} {f : FanOut} (hw : w.Running K r) (hf : f.Runs K r) :
    (w.forwarding source f).Running K r := by
  unfold Node.forwarding
  split_ifs with hnil
  · exact ⟨hw.publishes, forall_update hw.pumps trivial⟩
  · exact ⟨hw.publishes, forall_update hw.pumps ⟨hf, hnil⟩⟩

theorem lt_of_mem_others {source t : ℕ} (h : t ∈ others r source) : t < r.transports.length :=
  List.mem_range.mp (List.mem_filter.mp h).1

theorem Running.handling {source : ℕ} {env : Envelope} (hw : w.Running K r) (henv : K env)
    (handlers : ℕ) : (w.handling r source env handlers).Running K r := by
  cases handlers with
  | zero => exact hw.forwarding ⟨henv, fun t ht ↦ lt_of_mem_others ht⟩
  | succ n => exact ⟨hw.publishes, forall_update hw.pumps ⟨henv, n.succ_pos⟩⟩

/-- A call sends to its next target. -/
theorem Running.sendPublished {i : ℕ} {ok : Bool} (hw : w.Running K r) (htakes : r.Takes K)
    (hok : ok = true) (h : w.step r (.sendPublished i ok) = some q) :
    ∃ env target rest, K env ∧ target < r.transports.length ∧
      w.duties r (.inl i) = (env, target) :: rest ∧
      q.duties r = Function.update (w.duties r) (.inl i) rest ∧
      w.observe r (.sendPublished i ok) = [.sent env target] ∧ q.Running K r := by
  obtain ⟨f, target, targets, hf, htargets, hcases⟩ := step_sendPublished h
  obtain ⟨⟨henv, hlt⟩, -⟩ : f.Runs K r ∧ f.targets ≠ [] := hw.publishes i _ hf
  rw [htargets, List.forall_mem_cons] at hlt
  have henc := htakes f.envelope target henv hlt.1
  rcases hcases with ⟨-, -, rfl⟩ | ⟨hfail, -⟩
  · refine ⟨f.envelope, target, targets.map (f.envelope, ·), henv, hlt.1, ?_, ?_, ?_, ?_⟩
    · rw [duties, hf]
      show f.targets.map (f.envelope, ·) = _
      rw [htargets]
      rfl
    · refine Eq.trans (duties_of_publishes (w := w) rfl rfl) ?_
      rw [duties_publishing]
    · simp only [observe, hf]
      rw [sending_eq ok _ htargets, if_pos ⟨henc, hok⟩]
    · exact ⟨forall_publishes_update hw.publishes (running_publishing ⟨henv, hlt.2⟩), hw.pumps⟩
  · exact absurd ⟨henc, hok⟩ hfail

/-- A pump sends to its next target. -/
theorem Running.sendForwarded {source : ℕ} {ok : Bool} (hw : w.Running K r) (htakes : r.Takes K)
    (hok : ok = true) (h : w.step r (.sendForwarded source ok) = some q) :
    ∃ env target rest, K env ∧ target < r.transports.length ∧
      w.duties r (.inr source) = (env, target) :: rest ∧
      q.duties r = Function.update (w.duties r) (.inr source) rest ∧
      w.observe r (.sendForwarded source ok) = [.forwarded source env target] ∧
      q.Running K r := by
  obtain ⟨f, target, targets, hf, htargets, hcases⟩ := step_sendForwarded h
  have hpump := hw.pumps source
  rw [hf] at hpump
  obtain ⟨⟨henv, hlt⟩, -⟩ := hpump
  rw [htargets, List.forall_mem_cons] at hlt
  have henc := htakes f.envelope target henv hlt.1
  rcases hcases with ⟨-, -, rfl⟩ | ⟨hfail, -⟩
  · refine ⟨f.envelope, target, targets.map (f.envelope, ·), henv, hlt.1, ?_, ?_, ?_, ?_⟩
    · rw [duties, hf]
      show f.targets.map (f.envelope, ·) = _
      rw [htargets]
      rfl
    · refine Eq.trans (duties_of_pumps (w := w) source
        (publishes_forwarding _ source _) fun s hs ↦ pumps_forwarding_of_ne _ _ hs) ?_
      rw [duties_forwarding]
    · simp only [observe, hf]
      rw [sending_eq ok _ htargets, if_pos ⟨henc, hok⟩]
    · exact Running.forwarding ⟨hw.publishes, hw.pumps⟩ ⟨henv, hlt.2⟩
  · exact absurd ⟨henc, hok⟩ hfail

/-- Where every send succeeds, no task raises. -/
theorem Running.step {e : NodeEvent β} (hw : w.Running K r) (htakes : r.Takes K)
    (hhears : Hears K r e) (hgoes : e.Goes) (h : w.step r e = some q) : q.Running K r := by
  cases e with
  | subscribe =>
      cases h
      exact ⟨hw.publishes, hw.pumps⟩
  | publish i env =>
      obtain ⟨-, h⟩ := Option.ite_none_left_eq_some.mp h
      obtain ⟨seen, hseen⟩ := markSeen_fst r w env.msgId
      rw [hseen] at h
      cases h
      refine ⟨forall_publishes_update hw.publishes (running_publishing ⟨hhears, ?_⟩), hw.pumps⟩
      exact fun t ht ↦ List.mem_range.mp ht
  | frame source data =>
      obtain ⟨-, -, rfl⟩ := step_frame h
      rw [receive_eq]
      cases hv : w.verdict r source data with
      | schemaMismatch => exact ⟨hw.publishes, hw.pumps⟩
      | undecodable => exact ⟨hw.publishes, hw.pumps⟩
      | duplicate env => exact ⟨hw.publishes, hw.pumps⟩
      | accepted env subscribers =>
          have henv : K env := hhears env (decode_of_accepted hv)
          apply Running.handling
          · exact ⟨hw.publishes, hw.pumps⟩
          · exact henv
  | handled source ok =>
      obtain ⟨env, n, hpump, rfl⟩ := step_handled h
      have henv := hw.pumps source
      rw [hpump] at henv
      exact hw.handling henv.1 n
  | sendPublished i ok =>
      obtain ⟨-, -, -, -, -, -, -, -, hq⟩ := hw.sendPublished htakes hgoes h
      exact hq
  | sendForwarded source ok =>
      obtain ⟨-, -, -, -, -, -, -, -, hq⟩ := hw.sendForwarded htakes hgoes h
      exact hq

/-- What a running node writes down is of the family. -/
theorem Running.observes {e : NodeEvent β} (hw : w.Running K r) (hhears : Hears K r e) {n : Notice}
    (hn : n ∈ w.observe r e) : n.Of K := by
  cases e with
  | subscribe => cases hn
  | publish i env =>
      rw [List.mem_singleton.mp hn]
      exact hhears
  | frame source data =>
      rw [List.mem_singleton.mp hn]
      cases hv : w.verdict r source data with
      | schemaMismatch => trivial
      | undecodable => trivial
      | duplicate env => trivial
      | accepted env subscribers => exact hhears env (decode_of_accepted hv)
  | handled source ok =>
      have hpump := hw.pumps source
      simp only [observe] at hn
      split at hn
      · rename_i env handlers heq
        rw [heq] at hpump
        rw [List.mem_singleton.mp hn]
        exact hpump.1
      · cases hn
  | sendPublished i ok =>
      simp only [observe] at hn
      split at hn
      · rename_i f heq
        have hcall : f.Runs K r ∧ f.targets ≠ [] := hw.publishes i _ heq
        obtain ⟨target, rfl⟩ := eq_of_mem_sending hn
        exact hcall.1.1
      · cases hn
  | sendForwarded source ok =>
      have hpump := hw.pumps source
      simp only [observe] at hn
      split at hn
      · rename_i f heq
        rw [heq] at hpump
        obtain ⟨target, rfl⟩ := eq_of_mem_sending hn
        exact hpump.1.1
      · cases hn

/-- Where no task can go on, the pumps are reading and the calls have returned. -/
theorem Running.idle (hw : w.Running K r) (hhandled : ∀ source, w.step r (.handled source true) = none)
    (hpublished : ∀ i, w.step r (.sendPublished i true) = none)
    (hforwarded : ∀ source, w.step r (.sendForwarded source true) = none) :
    (∀ source, w.pumps source = .reading) ∧ ∀ k, w.duties r k = [] := by
  have hpumps : ∀ source, w.pumps source = .reading := by
    intro source
    have hrunning := hw.pumps source
    cases hpump : w.pumps source with
    | reading => rfl
    | handling e handlers =>
        rw [hpump] at hrunning
        obtain ⟨n, rfl⟩ := Nat.exists_eq_succ_of_ne_zero hrunning.2.ne'
        have hnone := hhandled source
        simp only [Node.step, hpump] at hnone
        cases hnone
    | forwarding f =>
        rw [hpump] at hrunning
        obtain ⟨target, targets, htargets⟩ := List.exists_cons_of_ne_nil hrunning.2
        have hnone := hforwarded source
        simp only [Node.step, hpump, htargets] at hnone
        split_ifs at hnone
    | raised f =>
        rw [hpump] at hrunning
        exact hrunning.elim
  refine ⟨hpumps, ?_⟩
  rintro (i | source)
  · cases hcall : w.publishes i with
    | none =>
        rw [duties, hcall]
        rfl
    | some p =>
        have hrunning := hw.publishes i p hcall
        rw [duties, hcall]
        cases p with
        | sending f =>
            obtain ⟨target, targets, htargets⟩ := List.exists_cons_of_ne_nil hrunning.2
            have hnone := hpublished i
            simp only [Node.step, hcall, htargets] at hnone
            split_ifs at hnone
        | returned f => rfl
        | raised f => rfl
  · rw [duties, hpumps source]
    rfl

theorem running_start (K : Envelope → Prop) (r : Router β) : Running K r {} where
  publishes _ _ h := by cases h
  pumps _ := trivial

end Node

end DroneComms.Mesh
