import DroneComms.Lib.Window
import DroneComms.Mesh.FanOut

/-!
# The ledger of a router

What the tasks of a router do, written down in order: ids that are published,
frames that are pulled, envelopes that are handed to a subscriber or sent.  The
ledger is kept beside the run and no step reads it.

Ids are marked in the order of the run, whichever task marks them, and the cache
is the window of the last ones.  A pump owes the deliveries of the frame it has
taken (`Pump.owes`); what it has delivered and what it owes is what its frames
ask for.
-/

namespace DroneComms.Mesh

open Window (lastN Fresh)

variable {β : Type} {r : Router β}

/-! ## Notices -/

/-- What becomes of a frame. -/
inductive Verdict where
  | schemaMismatch
  | undecodable
  | /-- The id has been seen. -/ duplicate (e : Envelope)
  | /-- The id is new, and there are subscribers. -/ accepted (e : Envelope) (subscribers : ℕ)

/-- What a task does. -/
inductive Notice where
  | /-- `publish` marks an id. -/ published (e : Envelope) (new : Bool)
  | /-- A `publish` call has sent to a target. -/ sent (e : Envelope) (target : ℕ)
  | /-- A pump has taken a frame. -/ pulled (source : ℕ) (verdict : Verdict)
  | /-- A subscriber is done, with others to come. -/
    handed (source : ℕ) (e : Envelope) (others : ℕ)
  | /-- A pump has sent to a target. -/ forwarded (source : ℕ) (e : Envelope) (target : ℕ)

/-- The counters for a frame. -/
inductive Counter where
  | rx
  | droppedUndecodable
  | schemaMismatch
deriving DecidableEq

namespace Verdict

def counter : Verdict → Counter
  | schemaMismatch => .schemaMismatch
  | undecodable => .droppedUndecodable
  | duplicate _ | accepted _ _ => .rx

/-- The deliveries to subscribers, the last of them with no other to come. -/
def handings (source : ℕ) (e : Envelope) (subscribers : ℕ) : List Notice :=
  (List.range subscribers).reverse.map (.handed source e)

/-- The deliveries that a frame asks for: to every subscriber and to every transport but its
source, each once.  A frame that is not accepted asks for none. -/
def deliveries (r : Router β) (source : ℕ) : Verdict → List Notice
  | accepted e subscribers =>
      handings source e subscribers ++ (others r source).map (.forwarded source e)
  | schemaMismatch | undecodable | duplicate _ => []

end Verdict

namespace Notice

/-- The id that is marked as new. -/
def newId : Notice → Option String
  | published e true => some e.msgId
  | pulled _ (.accepted e _) => some e.msgId
  | _ => none

/-- The counter that goes up. -/
def counter : Notice → Option Counter
  | pulled _ v => some v.counter
  | _ => none

/-- The pump that does it. -/
def source? : Notice → Option ℕ
  | pulled source _ | handed source _ _ | forwarded source _ _ => some source
  | published _ _ | sent _ _ => none

/-- The frame of a pump. -/
def verdictOf (source : ℕ) : Notice → Option Verdict
  | pulled s v => if s = source then some v else none
  | _ => none

end Notice

/-- `RouterMetrics` by counter. -/
def RouterMetrics.count (m : RouterMetrics) : Counter → ℕ
  | .rx => m.rx
  | .droppedUndecodable => m.droppedUndecodable
  | .schemaMismatch => m.schemaMismatch

/-- The ids that were accepted as new, in order. -/
def newIds (log : List Notice) : List String := log.filterMap Notice.newId

/-- What a pump has done. -/
def doneBy (source : ℕ) (log : List Notice) : List Notice :=
  log.filter fun n ↦ n.source? = some source

/-- The frames a pump has taken. -/
def verdicts (source : ℕ) (log : List Notice) : List Verdict :=
  log.filterMap (Notice.verdictOf source)

/-- What the frames of a pump ask it to do. -/
def asked (r : Router β) (source : ℕ) (vs : List Verdict) : List Notice :=
  vs.flatMap fun v ↦ .pulled source v :: v.deliveries r source

namespace Node

variable {w q : Node} {e : NodeEvent β}

/-- What becomes of a frame that comes now. -/
def verdict (r : Router β) (w : Node) (source : ℕ) (data : β) : Verdict :=
  match (r.codecFor source).decode data with
  | .error .incompatibleSchema => .schemaMismatch
  | .error _ => .undecodable
  | .ok env => if env.msgId ∈ w.seen then .duplicate env else .accepted env w.subscribers

/-- The send of a task to its next target, if it succeeds. -/
def sending (r : Router β) (f : FanOut) (ok : Bool) (notice : Envelope → ℕ → Notice) :
    List Notice :=
  match f.targets with
  | [] => []
  | target :: targets =>
      if (attempt r f target targets ok).2 then [notice f.envelope target] else []

/-- What a step does. -/
def observe (r : Router β) (w : Node) : NodeEvent β → List Notice
  | .subscribe => []
  | .publish _ env => [.published env (decide (env.msgId ∉ w.seen))]
  | .frame source data => [.pulled source (w.verdict r source data)]
  | .handled source _ =>
      match w.pumps source with
      | .handling env (n + 1) => [.handed source env n]
      | _ => []
  | .sendPublished i ok =>
      match w.publishes i with
      | some (.sending f) => sending r f ok .sent
      | _ => []
  | .sendForwarded source ok =>
      match w.pumps source with
      | .forwarding f => sending r f ok (.forwarded source)
      | _ => []

/-- A run with its ledger. -/
def stepWithLedger (r : Router β) : Node × List Notice → NodeEvent β → Option (Node × List Notice) :=
  Automaton.traced (step r) (observe r)

end Node

/-- The deliveries that a pump owes; a pump that has ended does not deliver. -/
def Pump.owes (r : Router β) (source : ℕ) : Pump → Option (List Notice)
  | .reading => some []
  | .handling e handlers => some (Verdict.handings source e handlers ++
      (others r source).map (.forwarded source e))
  | .forwarding f => some (f.targets.map (.forwarded source f.envelope))
  | .raised _ => none

/-! ## Appending to the ledger -/

theorem newIds_append (log ns : List Notice) : newIds (log ++ ns) = newIds log ++ newIds ns :=
  List.filterMap_append

theorem doneBy_append (source : ℕ) (log ns : List Notice) :
    doneBy source (log ++ ns) = doneBy source log ++ doneBy source ns :=
  List.filter_append log ns

theorem verdicts_append (source : ℕ) (log ns : List Notice) :
    verdicts source (log ++ ns) = verdicts source log ++ verdicts source ns :=
  List.filterMap_append

theorem asked_append (r : Router β) (source : ℕ) (vs vs' : List Verdict) :
    asked r source (vs ++ vs') = asked r source vs ++ asked r source vs' :=
  List.flatMap_append

/-- Notices of other tasks. -/
def Foreign (source : ℕ) (ns : List Notice) : Prop := ∀ n ∈ ns, n.source? ≠ some source

theorem Foreign.doneBy {source : ℕ} {ns : List Notice} (h : Foreign source ns) :
    doneBy source ns = [] := by
  rw [Mesh.doneBy, List.filter_eq_nil_iff]
  intro n hn
  rw [decide_eq_true_iff]
  exact h n hn

theorem Foreign.verdicts {source : ℕ} {ns : List Notice} (h : Foreign source ns) :
    verdicts source ns = [] := by
  rw [Mesh.verdicts, List.filterMap_eq_nil_iff]
  intro n hn
  cases n with
  | pulled s v =>
      apply if_neg
      rintro rfl
      exact h _ hn rfl
  | published e new => rfl
  | sent e target => rfl
  | handed s e others => rfl
  | forwarded s e target => rfl

/-- A notice of one pump is foreign to the others. -/
theorem foreign_singleton {source s : ℕ} {n : Notice} (hn : n.source? = some source)
    (hs : s ≠ source) : Foreign s [n] := by
  intro n' hn'
  rw [List.mem_singleton] at hn'
  rw [hn', hn]
  rintro ⟨⟩
  exact hs rfl

/-- A notice of no pump is foreign to each. -/
theorem foreign_of_none {s : ℕ} {n : Notice} (hn : n.source? = none) : Foreign s [n] := by
  intro n' hn'
  rw [List.mem_singleton] at hn'
  rw [hn', hn]
  exact nofun

theorem foreign_nil (s : ℕ) : Foreign s [] := List.forall_mem_nil _

theorem doneBy_singleton {source : ℕ} {n : Notice} (hn : n.source? = some source) :
    doneBy source [n] = [n] := by
  rw [doneBy, List.filter_singleton, hn, decide_eq_true rfl]
  rfl

/-! ## The account of a run -/

namespace Node

variable {w q : Node} {e : NodeEvent β} {log : List Notice}

/-- The state agrees with the ledger. -/
structure Accounts (r : Router β) (w : Node) (log : List Notice) : Prop where
  fresh : Fresh r.dedupeCacheSize (newIds log)
  window : w.seen = lastN r.dedupeCacheSize (newIds log)
  counted : ∀ c, w.metrics.count c = (log.filterMap Notice.counter).count c
  pumps : ∀ source owed, (w.pumps source).owes r source = some owed →
    doneBy source log ++ owed = asked r source (verdicts source log)

/-- What a pump owes that goes on with its targets. -/
theorem owes_forwarding (r : Router β) (w : Node) (source : ℕ) (f : FanOut) :
    ((w.forwarding source f).pumps source).owes r source =
      some (f.targets.map (.forwarded source f.envelope)) := by
  unfold forwarding
  split_ifs with hnil
  · rw [hnil]
    show (Function.update w.pumps source _ source).owes r source = _
    rw [Function.update_self]
    rfl
  · show (Function.update w.pumps source _ source).owes r source = _
    rw [Function.update_self]
    rfl

theorem pumps_forwarding_of_ne (w : Node) {source s : ℕ} (f : FanOut) (hs : s ≠ source) :
    (w.forwarding source f).pumps s = w.pumps s := by
  unfold forwarding
  split_ifs
  · exact Function.update_of_ne hs _ _
  · exact Function.update_of_ne hs _ _

theorem seen_forwarding (w : Node) (source : ℕ) (f : FanOut) :
    (w.forwarding source f).seen = w.seen ∧ (w.forwarding source f).metrics = w.metrics := by
  unfold forwarding
  split_ifs
  · exact ⟨rfl, rfl⟩
  · exact ⟨rfl, rfl⟩

/-- What a pump owes that goes on with its subscribers. -/
theorem owes_handling (r : Router β) (w : Node) (source : ℕ) (env : Envelope) (handlers : ℕ) :
    ((w.handling r source env handlers).pumps source).owes r source =
      some (Verdict.handings source env handlers ++
        (others r source).map (.forwarded source env)) := by
  cases handlers with
  | zero => exact owes_forwarding r w source _
  | succ n =>
      show (Function.update w.pumps source _ source).owes r source = _
      rw [Function.update_self]
      rfl

theorem pumps_handling_of_ne (r : Router β) (w : Node) {source s : ℕ} (env : Envelope)
    (handlers : ℕ) (hs : s ≠ source) :
    (w.handling r source env handlers).pumps s = w.pumps s := by
  cases handlers with
  | zero => exact pumps_forwarding_of_ne w _ hs
  | succ n => exact Function.update_of_ne hs _ _

theorem seen_handling (r : Router β) (w : Node) (source : ℕ) (env : Envelope) (handlers : ℕ) :
    (w.handling r source env handlers).seen = w.seen ∧
      (w.handling r source env handlers).metrics = w.metrics := by
  cases handlers with
  | zero => exact seen_forwarding w source _
  | succ n => exact ⟨rfl, rfl⟩

/-- What a frame does to the state, by its verdict. -/
theorem receive_eq (r : Router β) (w : Node) (source : ℕ) (data : β) :
    w.receive r source data = match w.verdict r source data with
      | .schemaMismatch =>
          { w with metrics := { w.metrics with schemaMismatch := w.metrics.schemaMismatch + 1 } }
      | .undecodable =>
          { w with metrics := {
              w.metrics with droppedUndecodable := w.metrics.droppedUndecodable + 1 } }
      | .duplicate _ => { w with metrics := { w.metrics with rx := w.metrics.rx + 1 } }
      | .accepted env subscribers => handling r
          { w with
            metrics := { w.metrics with rx := w.metrics.rx + 1 }
            seen := evict r.dedupeCacheSize (w.seen ++ [env.msgId]) } source env subscribers := by
  unfold receive verdict
  cases (r.codecFor source).decode data with
  | error err => cases err <;> rfl
  | ok env =>
      by_cases hseen : env.msgId ∈ w.seen
      · simp only [markSeen, if_pos hseen]
        rfl
      · simp only [markSeen, if_neg hseen, if_true]

/-- The verdict on a frame says whether its id was in the window. -/
theorem verdict_accepted {source : ℕ} {data : β} {env : Envelope} {n : ℕ}
    (h : w.verdict r source data = .accepted env n) : env.msgId ∉ w.seen := by
  unfold verdict at h
  split at h
  · cases h
  · cases h
  · split_ifs at h with hseen
    cases h
    exact hseen

/-! ### One step -/

/-- The clause on the pumps, when one pump has gone on. -/
theorem pumps_of_source (source : ℕ) {ns : List Notice} (hw : w.Accounts r log)
    (hforeign : ∀ s, s ≠ source → q.pumps s = w.pumps s ∧ Foreign s ns)
    (hown : ∀ owed, (q.pumps source).owes r source = some owed →
      doneBy source log ++ (doneBy source ns ++ owed) =
        asked r source (verdicts source log) ++ asked r source (verdicts source ns)) :
    ∀ s owed, (q.pumps s).owes r s = some owed →
      doneBy s (log ++ ns) ++ owed = asked r s (verdicts s (log ++ ns)) := by
  intro s owed howed
  rw [doneBy_append, verdicts_append]
  by_cases hs : s = source
  · subst hs
    rw [List.append_assoc, asked_append]
    exact hown owed howed
  · obtain ⟨hpump, hns⟩ := hforeign s hs
    rw [hpump] at howed
    rw [hns.doneBy, hns.verdicts, List.append_nil, List.append_nil]
    exact hw.pumps s owed howed

/-- The clause on the pumps, when none of them has gone on. -/
theorem pumps_of_foreign {ns : List Notice} (hw : w.Accounts r log) (hpumps : q.pumps = w.pumps)
    (hforeign : ∀ s, Foreign s ns) :
    ∀ s owed, (q.pumps s).owes r s = some owed →
      doneBy s (log ++ ns) ++ owed = asked r s (verdicts s (log ++ ns)) := by
  intro s owed howed
  rw [hpumps] at howed
  rw [doneBy_append, verdicts_append, (hforeign s).doneBy, (hforeign s).verdicts, List.append_nil,
    List.append_nil]
  exact hw.pumps s owed howed

/-- The counters, when no frame was taken. -/
theorem counted_of_none {ns : List Notice} (hw : w.Accounts r log)
    (hmetrics : ∀ c, q.metrics.count c = w.metrics.count c) (hns : ∀ n ∈ ns, n.counter = none) :
    ∀ c, q.metrics.count c = ((log ++ ns).filterMap Notice.counter).count c := by
  intro c
  rw [List.filterMap_append, List.filterMap_eq_nil_iff.mpr hns, List.append_nil, hmetrics c]
  exact hw.counted c

/-- The window, when a new id is marked. -/
theorem window_of_new (ns : List Notice) {id : String} (hw : w.Accounts r log)
    (hns : newIds ns = [id]) (hid : id ∉ w.seen) :
    Fresh r.dedupeCacheSize (newIds (log ++ ns)) ∧
      evict r.dedupeCacheSize (w.seen ++ [id]) = lastN r.dedupeCacheSize (newIds (log ++ ns)) := by
  rw [hw.window] at hid ⊢
  rw [newIds_append, hns]
  exact ⟨hw.fresh.concat hid, Window.lastN_concat _ _ _⟩

/-- The window, when no id is marked. -/
theorem window_of_none (ns : List Notice) (hw : w.Accounts r log) (hns : newIds ns = []) :
    Fresh r.dedupeCacheSize (newIds (log ++ ns)) ∧
      w.seen = lastN r.dedupeCacheSize (newIds (log ++ ns)) := by
  rw [newIds_append, hns, List.append_nil]
  exact ⟨hw.fresh, hw.window⟩

/-- The counters, when a frame was taken. -/
theorem counted_of_pulled {source : ℕ} {v : Verdict} (hw : w.Accounts r log)
    (hmetrics : ∀ c, q.metrics.count c = w.metrics.count c + [v.counter].count c) :
    ∀ c, q.metrics.count c =
      ((log ++ [Notice.pulled source v]).filterMap Notice.counter).count c := by
  intro c
  rw [List.filterMap_append, List.count_append, hmetrics c, hw.counted c]
  rfl

/-- What a reading pump has delivered. -/
theorem Accounts.done_of_reading {source : ℕ} (hw : w.Accounts r log)
    (hpump : w.pumps source = .reading) : doneBy source log = asked r source (verdicts source log) := by
  have howed := hw.pumps source [] (by rw [hpump]; rfl)
  rwa [List.append_nil] at howed

theorem verdicts_pulled (source : ℕ) (v : Verdict) : verdicts source [.pulled source v] = [v] := by
  show (if source = source then some v else none).toList = [v]
  rw [if_pos rfl]
  rfl

/-- A pump drops a frame and reads on. -/
theorem Accounts.dropped {source : ℕ} {v : Verdict} (hw : w.Accounts r log)
    (hpump : w.pumps source = .reading) (hnone : v.deliveries r source = [])
    (hid : newIds [.pulled source v] = []) (hseen : q.seen = w.seen) (hpumps : q.pumps = w.pumps)
    (hmetrics : ∀ c, q.metrics.count c = w.metrics.count c + [v.counter].count c) :
    q.Accounts r (log ++ [.pulled source v]) := by
  obtain ⟨hfresh, hwindow⟩ := window_of_none [.pulled source v] hw hid
  refine ⟨hfresh, hseen.trans hwindow, counted_of_pulled hw hmetrics, ?_⟩
  refine pumps_of_source source hw (fun s hs ↦ ⟨by rw [hpumps], foreign_singleton rfl hs⟩) ?_
  intro owed howed
  rw [hpumps, hpump] at howed
  cases howed
  rw [doneBy_singleton rfl, verdicts_pulled, hw.done_of_reading hpump, asked, asked,
    List.flatMap_singleton, hnone]
  rfl

/-- A pump takes a frame. -/
theorem Accounts.frame {source : ℕ} (hw : w.Accounts r log) (hpump : w.pumps source = .reading)
    (data : β) : (w.receive r source data).Accounts r
      (log ++ [.pulled source (w.verdict r source data)]) := by
  rw [receive_eq]
  cases hv : w.verdict r source data with
  | schemaMismatch => exact hw.dropped hpump rfl rfl rfl rfl fun c ↦ by cases c <;> rfl
  | undecodable => exact hw.dropped hpump rfl rfl rfl rfl fun c ↦ by cases c <;> rfl
  | duplicate env => exact hw.dropped hpump rfl rfl rfl rfl fun c ↦ by cases c <;> rfl
  | accepted env subscribers =>
      obtain ⟨hfresh, hwindow⟩ := window_of_new [.pulled source (.accepted env subscribers)]
        hw rfl (verdict_accepted hv)
      let w' : Node := { w with
        metrics := { w.metrics with rx := w.metrics.rx + 1 }
        seen := evict r.dedupeCacheSize (w.seen ++ [env.msgId]) }
      obtain ⟨hseen, hmetrics⟩ := seen_handling r w' source env subscribers
      refine ⟨hfresh, hseen.trans hwindow, counted_of_pulled hw ?_, ?_⟩
      · intro c
        rw [hmetrics]
        cases c <;> rfl
      · refine pumps_of_source source hw ?_ ?_
        · exact fun s hs ↦
            ⟨pumps_handling_of_ne r w' env subscribers hs, foreign_singleton rfl hs⟩
        · intro owed howed
          rw [owes_handling] at howed
          cases howed
          rw [doneBy_singleton rfl, verdicts_pulled, hw.done_of_reading hpump, asked, asked,
            List.flatMap_singleton]
          rfl

/-- A pump delivers what it owes first. -/
theorem Accounts.deliver {source : ℕ} {n : Notice} {owed : List Notice} (hw : w.Accounts r log)
    (howes : (w.pumps source).owes r source = some (n :: owed))
    (hn : n.source? = some source) (hcounter : n.counter = none) (hid : n.newId = none)
    (hverdict : n.verdictOf source = none)
    (hseen : q.seen = w.seen) (hmetrics : ∀ c, q.metrics.count c = w.metrics.count c)
    (hpump : (q.pumps source).owes r source = some owed)
    (hother : ∀ s, s ≠ source → q.pumps s = w.pumps s) : q.Accounts r (log ++ [n]) := by
  have hnew : newIds [n] = [] := by
    show n.newId.toList = []
    rw [hid]
    rfl
  have hverdicts : verdicts source [n] = [] := by
    show (n.verdictOf source).toList = []
    rw [hverdict]
    rfl
  obtain ⟨hfresh, hwindow⟩ := window_of_none [n] hw hnew
  refine ⟨hfresh, hseen.trans hwindow, counted_of_none hw hmetrics ?_, ?_⟩
  · intro n' hn'
    rw [List.mem_singleton] at hn'
    rw [hn', hcounter]
  · refine pumps_of_source source hw (fun s hs ↦ ⟨hother s hs, foreign_singleton hn hs⟩) ?_
    intro owed' howed'
    rw [hpump] at howed'
    cases howed'
    rw [doneBy_singleton hn, hverdicts, asked, asked, List.flatMap_nil, List.append_nil]
    exact hw.pumps source _ howes

/-- A step that neither marks an id nor takes a frame nor delivers for a pump. -/
theorem Accounts.quiet {ns : List Notice} (hw : w.Accounts r log) (hseen : q.seen = w.seen)
    (hmetrics : ∀ c, q.metrics.count c = w.metrics.count c) (hpumps : q.pumps = w.pumps)
    (hids : newIds ns = []) (hcounter : ∀ n ∈ ns, n.counter = none) (hforeign : ∀ s, Foreign s ns) :
    q.Accounts r (log ++ ns) := by
  obtain ⟨hfresh, hwindow⟩ := window_of_none ns hw hids
  exact ⟨hfresh, hseen.trans hwindow, counted_of_none hw hmetrics hcounter,
    pumps_of_foreign hw hpumps hforeign⟩

/-- A publish marks an id that is new. -/
theorem Accounts.publish {i : ℕ} {env : Envelope} (hw : w.Accounts r log)
    (h : w.step r (.publish i env) = some q) :
    q.Accounts r (log ++ [.published env (decide (env.msgId ∉ w.seen))]) := by
  obtain ⟨-, h⟩ := Option.ite_none_left_eq_some.mp h
  have hforeign : ∀ s, Foreign s [.published env (decide (env.msgId ∉ w.seen))] :=
    fun s ↦ foreign_of_none rfl
  have hcounter : ∀ n ∈ [Notice.published env (decide (env.msgId ∉ w.seen))],
      n.counter = none := by
    rw [List.forall_mem_singleton]
    rfl
  by_cases hseen : env.msgId ∈ w.seen
  · rw [markSeen, if_pos hseen] at h
    cases h
    refine hw.quiet rfl (fun c ↦ rfl) rfl ?_ hcounter hforeign
    show newIds [.published env (decide (env.msgId ∉ w.seen))] = []
    rw [decide_eq_false (not_not.mpr hseen)]
    rfl
  · rw [markSeen, if_neg hseen] at h
    cases h
    have hids : newIds [.published env (decide (env.msgId ∉ w.seen))] = [env.msgId] := by
      rw [decide_eq_true hseen]
      rfl
    obtain ⟨hfresh, hwindow⟩ := window_of_new _ hw hids hseen
    exact ⟨hfresh, hwindow, counted_of_none hw (fun c ↦ rfl) hcounter,
      pumps_of_foreign hw rfl hforeign⟩

/-- A pump that stops owes nothing more. -/
theorem Accounts.stop {source : ℕ} {pump : Pump} (hw : w.Accounts r log)
    (howes : pump.owes r source = none) :
    ({ w with pumps := Function.update w.pumps source pump } : Node).Accounts r log := by
  refine ⟨hw.fresh, hw.window, hw.counted, fun s owed howed ↦ ?_⟩
  have howed' : (Function.update w.pumps source pump s).owes r s = some owed := howed
  by_cases hs : s = source
  · rw [hs, Function.update_self, howes] at howed'
    cases howed'
  · rw [Function.update_of_ne hs] at howed'
    exact hw.pumps s owed howed'

/-- A send shows in the ledger if it succeeds. -/
theorem sending_eq {f : FanOut} {target : ℕ} {targets : List ℕ} (ok : Bool)
    (notice : Envelope → ℕ → Notice) (htargets : f.targets = target :: targets) :
    sending r f ok notice =
      if r.Encodes f.envelope target ∧ ok = true then [notice f.envelope target] else [] := by
  unfold sending
  rw [htargets]
  rcases FanOut.attempt_cases r f target targets ok with ⟨henc, hok, heq⟩ | ⟨hfail, heq⟩
  · rw [if_pos ⟨henc, hok⟩]
    dsimp only
    rw [heq, if_pos rfl]
  · rw [if_neg hfail]
    dsimp only
    rw [heq, if_neg Bool.false_ne_true]

/-- Every step keeps the account. -/
theorem Accounts.step (hw : w.Accounts r log) (h : w.step r e = some q) :
    q.Accounts r (log ++ w.observe r e) := by
  cases e with
  | subscribe =>
      cases h
      exact hw.quiet rfl (fun c ↦ rfl) rfl rfl (List.forall_mem_nil _) foreign_nil
  | publish i env => exact hw.publish h
  | frame source data =>
      obtain ⟨hpump, -, rfl⟩ := step_frame h
      exact hw.frame hpump data
  | handled source ok =>
      obtain ⟨env, n, hpump, rfl⟩ := step_handled h
      have hnotice : w.observe r (.handled source ok) = [.handed source env n] := by
        simp only [observe, hpump]
      obtain ⟨hseen, hmetrics⟩ := seen_handling r w source env n
      rw [hnotice]
      refine hw.deliver ?_ rfl rfl rfl rfl hseen (fun c ↦ by rw [hmetrics])
        (owes_handling r w source env n) fun s hs ↦ pumps_handling_of_ne r w env n hs
      rw [hpump]
      show some (Verdict.handings source env (n + 1) ++ _) = _
      rw [Verdict.handings, List.range_succ, List.reverse_append]
      rfl
  | sendPublished i ok =>
      obtain ⟨f, target, targets, hf, htargets, hcases⟩ := step_sendPublished h
      have hnotice : w.observe r (.sendPublished i ok) = sending r f ok .sent := by
        simp only [observe, hf]
      rw [hnotice, sending_eq ok _ htargets]
      rcases hcases with ⟨henc, hok, rfl⟩ | ⟨hfail, rfl⟩
      · rw [if_pos ⟨henc, hok⟩]
        refine hw.quiet rfl (fun c ↦ by cases c <;> rfl) rfl rfl ?_ fun s ↦ foreign_of_none rfl
        rw [List.forall_mem_singleton]
        rfl
      · rw [if_neg hfail]
        exact hw.quiet rfl (fun c ↦ rfl) rfl rfl (List.forall_mem_nil _) foreign_nil
  | sendForwarded source ok =>
      obtain ⟨f, target, targets, hf, htargets, hcases⟩ := step_sendForwarded h
      have hnotice : w.observe r (.sendForwarded source ok) =
          sending r f ok (.forwarded source) := by
        simp only [observe, hf]
      rw [hnotice, sending_eq ok _ htargets]
      rcases hcases with ⟨henc, hok, rfl⟩ | ⟨hfail, rfl⟩
      · rw [if_pos ⟨henc, hok⟩]
        let w' : Node := { w with metrics := { w.metrics with forwarded := w.metrics.forwarded + 1 } }
        let f' : FanOut := { f with targets, handed := target :: f.handed }
        obtain ⟨hseen, hmetrics⟩ := seen_forwarding w' source f'
        refine hw.deliver ?_ rfl rfl rfl rfl hseen ?_ (owes_forwarding r w' source f')
          fun s hs ↦ pumps_forwarding_of_ne w' f' hs
        · rw [hf]
          show some (f.targets.map _) = _
          rw [htargets]
          rfl
        · intro c
          rw [hmetrics]
          cases c <;> rfl
      · rw [if_neg hfail, List.append_nil]
        exact hw.stop rfl

theorem accounts_start (r : Router β) : Accounts r {} [] where
  fresh := Fresh.nil
  window := List.drop_nil.symm
  counted c := by cases c <;> rfl
  pumps source owed h := by
    cases h
    rfl

/-- **Account.**  In every run the state agrees with the ledger. -/
theorem accounts_always (r : Router β) (es : List (NodeEvent β)) :
    Automaton.Always (stepWithLedger r) (fun p ↦ Accounts r p.1 p.2) ({}, []) es :=
  Automaton.always_traced (fun _ _ _ _ hw h ↦ hw.step h) (accounts_start r) es

/-- Within its window, the router takes every id once. -/
structure ExactlyOnce (r : Router β) (w : Node) (log : List Notice) : Prop where
  /-- The cache is the last ids that were accepted as new. -/
  window : w.seen = lastN r.dedupeCacheSize (newIds log)
  length : w.seen.length = min r.dedupeCacheSize (newIds log).length
  nodup : w.seen.Nodup
  /-- An id is accepted again only behind that many others. -/
  again : ∀ pre id mid post, newIds log = pre ++ id :: (mid ++ id :: post) →
    r.dedupeCacheSize ≤ (mid.toFinset.erase id).card
  /-- A pump that takes its next frame has made the deliveries of the frames before, and
  no others. -/
  delivered : ∀ source, w.pumps source = .reading →
    doneBy source log = asked r source (verdicts source log)
  /-- Every frame is counted by the one counter of its verdict. -/
  counted : ∀ c, w.metrics.count c = (log.filterMap Notice.counter).count c

theorem Accounts.exactlyOnce (h : w.Accounts r log) : w.ExactlyOnce r log where
  window := h.window
  length := by rw [h.window, Window.length_lastN]
  nodup := by
    rw [h.window]
    exact h.fresh.nodup
  again pre id mid post hsplit := by
    have hfresh := h.fresh
    rw [hsplit] at hfresh
    exact hfresh.others
  delivered source hpump := by
    have howed := h.pumps source [] (by rw [hpump]; rfl)
    rwa [List.append_nil] at howed
  counted := h.counted

/-- **Exactly once.**  In every state of every run, with any number of tasks. -/
theorem exactly_once_always (r : Router β) (es : List (NodeEvent β)) :
    Automaton.Always (stepWithLedger r) (fun p ↦ ExactlyOnce r p.1 p.2) ({}, []) es :=
  (accounts_always r es).mono fun _ h ↦ h.exactlyOnce

/-- With two subscribers and three transports, a frame that is heard twice. -/
example :
    let env : Envelope := ⟨1, "m1", .fin 0, "node", .pli, []⟩
    let r : Router Envelope := { transports := ["mesh", "tak", "lora"], codec := ⟨.ok, .ok⟩ }
    (Automaton.exec (stepWithLedger r) ({}, []) [.subscribe, .subscribe, .frame 1 env,
      .handled 1 true, .handled 1 false, .sendForwarded 1 true, .sendForwarded 1 true,
      .frame 1 env]).map Prod.snd =
    some [.pulled 1 (.accepted env 2), .handed 1 env 1, .handed 1 env 0, .forwarded 1 env 0,
      .forwarded 1 env 2, .pulled 1 (.duplicate env)] := rfl

end Node

end DroneComms.Mesh
