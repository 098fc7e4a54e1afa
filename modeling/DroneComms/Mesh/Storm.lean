import DroneComms.Mesh.Delivery
import Mathlib.Algebra.BigOperators.Group.Finset.Piecewise

/-!
# A storm dies down

A router spends on each message it publishes or accepts: one step for each subscriber
and for each transport it sends to.  What its tasks have done and still have to do is
paid for by what it has published and accepted (`Node.Affords`), and every frame that is
taken was put into an inbox by a send.  As long as no id is evicted, a message is
accepted once, so the steps of a run are bounded by what is asked of the routers.
-/

namespace DroneComms.Mesh

open Transports (Inbox)

variable {ι κ β : Type}

namespace Notice

def isPublished : Notice → Bool
  | published _ _ => true
  | _ => false

/-- A frame is accepted as new. -/
def isAccepted : Notice → Bool
  | pulled _ (.accepted _ _) => true
  | _ => false

def isPulled : Notice → Bool
  | pulled _ _ => true
  | _ => false

/-- A send, or a subscriber that is done. -/
def isDelivery : Notice → Bool
  | sent _ _ | handed _ _ _ | forwarded _ _ _ => true
  | _ => false

end Notice

/-- What is accepted is new. -/
theorem countP_isAccepted_le (log : List Notice) :
    log.countP Notice.isAccepted ≤ (newIds log).length := by
  rw [newIds, List.length_filterMap_eq_countP]
  refine List.countP_mono_left fun n _ hn ↦ ?_
  cases n with
  | pulled source v =>
      cases v with
      | accepted env subscribers => rfl
      | schemaMismatch => cases hn
      | undecodable => cases hn
      | duplicate env => cases hn
  | published env new => cases hn
  | sent env target => cases hn
  | handed source env others => cases hn
  | forwarded source env target => cases hn

/-! ## What a router spends -/

/-- The subscribers that a pump still has to call. -/
def Pump.handlers : Pump → ℕ
  | .handling _ n => n
  | .reading | .forwarding _ | .raised _ => 0

namespace Node

variable {r : Router β} {w q : Node} {log ns : List Notice}

/-- The subscribers that a task still has to call. -/
def handlers (w : Node) : ℕ ⊕ ℕ → ℕ
  | .inl _ => 0
  | .inr source => (w.pumps source).handlers

/-- What a task still has to do. -/
def work (r : Router β) (w : Node) (k : ℕ ⊕ ℕ) : ℕ := w.handlers k + (w.duties r k).length

/-- What a router has to spend. -/
def income (r : Router β) (w : Node) (log : List Notice) : ℕ :=
  r.transports.length * log.countP Notice.isPublished +
    log.countP Notice.isAccepted * (w.subscribers + (r.transports.length - 1))

/-- What the tasks have done and still have to do is paid for. -/
def Affords (r : Router β) (w : Node) (log : List Notice) : Prop :=
  ∃ tasks : Finset (ℕ ⊕ ℕ), (∀ k, k ∉ tasks → w.work r k = 0) ∧
    log.countP Notice.isDelivery + ∑ k ∈ tasks, w.work r k ≤ w.income r log

/-- A step in which one task goes on and pays for it. -/
theorem Affords.spend (hw : w.Affords r log) {k : ℕ ⊕ ℕ} {v : ℕ}
    (hwork : q.work r = Function.update (w.work r) k v)
    (hpaid : ns.countP Notice.isDelivery + v + w.income r log ≤
      w.work r k + q.income r (log ++ ns)) : q.Affords r (log ++ ns) := by
  obtain ⟨tasks, hnone, hspent⟩ := hw
  refine ⟨insert k tasks, fun k' hk' ↦ ?_, ?_⟩
  · rw [Finset.mem_insert, not_or] at hk'
    rw [hwork, Function.update_of_ne hk'.1]
    exact hnone k' hk'.2
  · have hmem := Finset.mem_insert_self k tasks
    rw [← Finset.sum_insert_of_eq_zero_if_notMem (hnone k),
      Finset.sum_eq_add_sum_sdiff_singleton_of_mem hmem] at hspent
    rw [hwork, Finset.sum_update_of_mem hmem, List.countP_append]
    omega

/-- A step in which no task goes on. -/
theorem Affords.keep (hw : w.Affords r log) (hwork : q.work r = w.work r)
    (hpaid : ns.countP Notice.isDelivery + w.income r log ≤ q.income r (log ++ ns)) :
    q.Affords r (log ++ ns) := by
  refine hw.spend (k := .inl 0) (v := w.work r (.inl 0)) ?_ (by omega)
  rw [hwork, Function.update_eq_self]

theorem income_append (hsubscribers : q.subscribers = w.subscribers) (log ns : List Notice) :
    q.income r (log ++ ns) = w.income r log + (r.transports.length * ns.countP Notice.isPublished +
      ns.countP Notice.isAccepted * (w.subscribers + (r.transports.length - 1))) := by
  rw [income, income, List.countP_append, List.countP_append, hsubscribers]
  ring

/-! ### The tasks -/

theorem work_of_update {k : ℕ ⊕ ℕ} {ds : List (Envelope × ℕ)}
    (hduties : q.duties r = Function.update (w.duties r) k ds)
    (hother : ∀ k', k' ≠ k → q.handlers k' = w.handlers k') :
    q.work r = Function.update (w.work r) k (q.handlers k + ds.length) := by
  funext k'
  by_cases hk : k' = k
  · subst hk
    rw [work, hduties, Function.update_self, Function.update_self]
  · rw [work, hduties, Function.update_of_ne hk, Function.update_of_ne hk, hother k' hk, work]

theorem handlers_of_pumps (h : q.pumps = w.pumps) : q.handlers = w.handlers := by
  funext k
  cases k with
  | inl i => rfl
  | inr source =>
      rw [handlers, h]
      rfl

theorem handlers_of_ne {source : ℕ} (h : ∀ s, s ≠ source → q.pumps s = w.pumps s) {k : ℕ ⊕ ℕ}
    (hk : k ≠ .inr source) : q.handlers k = w.handlers k := by
  cases k with
  | inl i => rfl
  | inr s =>
      rw [handlers, h s fun hs ↦ hk (congrArg Sum.inr hs)]
      rfl

theorem handlers_forwarding (w : Node) (source : ℕ) (f : FanOut) :
    (w.forwarding source f).handlers (.inr source) = 0 := by
  unfold forwarding
  split_ifs
  · show (Function.update w.pumps source _ source).handlers = _
    rw [Function.update_self]
    rfl
  · show (Function.update w.pumps source _ source).handlers = _
    rw [Function.update_self]
    rfl

theorem handlers_handling (r : Router β) (w : Node) (source : ℕ) (env : Envelope) (n : ℕ) :
    (w.handling r source env n).handlers (.inr source) = n := by
  cases n with
  | zero => exact handlers_forwarding w source _
  | succ n =>
      show (Function.update w.pumps source _ source).handlers = _
      rw [Function.update_self]
      rfl

/-- A send does not call subscribers. -/
theorem handlers_sendPublished {i : ℕ} {ok : Bool} (h : w.step r (.sendPublished i ok) = some q) :
    q.handlers = w.handlers ∧ q.subscribers = w.subscribers := by
  obtain ⟨f, target, targets, -, -, ⟨-, -, rfl⟩ | ⟨-, rfl⟩⟩ := step_sendPublished h
  · exact ⟨handlers_of_pumps rfl, rfl⟩
  · exact ⟨handlers_of_pumps rfl, rfl⟩

theorem subscribers_forwarding (w : Node) (source : ℕ) (f : FanOut) :
    (w.forwarding source f).subscribers = w.subscribers := by
  unfold forwarding
  split_ifs <;> rfl

theorem subscribers_handling (r : Router β) (w : Node) (source : ℕ) (env : Envelope) (n : ℕ) :
    (w.handling r source env n).subscribers = w.subscribers := by
  cases n with
  | zero => exact subscribers_forwarding w source _
  | succ n => rfl

theorem handlers_sendForwarded {source : ℕ} {ok : Bool}
    (h : w.step r (.sendForwarded source ok) = some q) :
    q.handlers = w.handlers ∧ q.subscribers = w.subscribers := by
  obtain ⟨f, target, targets, hf, -, hcases⟩ := step_sendForwarded h
  have hbefore : w.handlers (.inr source) = 0 := by
    rw [handlers, hf]
    rfl
  rcases hcases with ⟨-, -, rfl⟩ | ⟨-, rfl⟩
  · refine ⟨?_, subscribers_forwarding _ source _⟩
    funext k
    by_cases hk : k = .inr source
    · rw [hk, handlers_forwarding, hbefore]
    · exact handlers_of_ne (fun s hs ↦ pumps_forwarding_of_ne _ _ hs) hk
  · refine ⟨?_, rfl⟩
    funext k
    by_cases hk : k = .inr source
    · rw [hk, hbefore]
      show (Function.update w.pumps source _ source).handlers = 0
      rw [Function.update_self]
      rfl
    · exact handlers_of_ne (fun s hs ↦ Function.update_of_ne hs _ _) hk

/-- The subscribers of the moment are called. -/
theorem subscribers_of_accepted {source : ℕ} {data : β} {env : Envelope} {n : ℕ}
    (h : w.verdict r source data = .accepted env n) : n = w.subscribers := by
  unfold verdict at h
  split at h
  · cases h
  · cases h
  · split_ifs at h
    cases h
    rfl

theorem subscribers_frame {source : ℕ} {data : β} (h : w.step r (.frame source data) = some q) :
    q.subscribers = w.subscribers := by
  obtain ⟨-, -, rfl⟩ := step_frame h
  rw [receive_eq]
  cases w.verdict r source data with
  | schemaMismatch => rfl
  | undecodable => rfl
  | duplicate env => rfl
  | accepted env n => exact subscribers_handling r _ source env n

/-- A frame that is taken is paid for by its acceptance. -/
theorem Affords.frame (hw : w.Affords r log) {source : ℕ} {data : β}
    (h : w.step r (.frame source data) = some q) :
    q.Affords r (log ++ w.observe r (.frame source data)) := by
  obtain ⟨hnone, hduties⟩ := duties_frame h
  obtain ⟨hpump, hsource, rfl⟩ := step_frame h
  have hzero : w.work r (.inr source) = 0 := by
    rw [work, hnone, handlers, hpump]
    rfl
  have hobserve : w.observe r (.frame source data) = [.pulled source (w.verdict r source data)] :=
    rfl
  have hdropped : ∀ {q : Node} {v : Verdict}, q.pumps = w.pumps → q.publishes = w.publishes →
      q.subscribers = w.subscribers → q.Affords r (log ++ [.pulled source v]) := by
    intro q v hpumps hpublishes hsubscribers
    refine hw.keep ?_ ?_
    · funext k
      cases k with
      | inl i => rw [work, work, duties, duties, hpublishes, handlers, handlers]
      | inr s => rw [work, work, duties, duties, hpumps, handlers, handlers, hpumps]
    · rw [income_append hsubscribers]
      show 0 + w.income r log ≤ _
      omega
  rw [hobserve]
  rw [receive_eq] at hduties ⊢
  cases hv : w.verdict r source data with
  | schemaMismatch => exact hdropped rfl rfl rfl
  | undecodable => exact hdropped rfl rfl rfl
  | duplicate env => exact hdropped rfl rfl rfl
  | accepted env subscribers =>
      rw [hv] at hduties
      dsimp only at hduties ⊢
      let w' : Node := { w with
        metrics := { w.metrics with rx := w.metrics.rx + 1 }
        seen := evict r.dedupeCacheSize (w.seen ++ [env.msgId]) }
      have hincome := income_append (r := r) (w := w) (q := w'.handling r source env subscribers)
        (subscribers_handling r w' source env subscribers) log
        [.pulled source (.accepted env subscribers)]
      have hothers : ((others r source).map (env, ·)).length = r.transports.length - 1 := by
        rw [List.length_map, length_others hsource]
      refine hw.spend (k := .inr source) (work_of_update hduties ?_) ?_
      · exact fun k hk ↦ handlers_of_ne (fun s hs ↦ pumps_handling_of_ne r w' env subscribers hs) hk
      · rw [hzero, handlers_handling]
        show 0 + (subscribers + ((others r source).map (env, ·)).length) + w.income r log ≤
          0 + (w'.handling r source env subscribers).income r _
        rw [hincome, hothers, subscribers_of_accepted hv]
        show _ ≤ 0 + (w.income r log + (r.transports.length * 0 +
          1 * (w.subscribers + (r.transports.length - 1))))
        omega

/-- **Budget of steps.**  What a router does is paid for. -/
theorem Affords.step {K : Envelope → Prop} {e : NodeEvent β} (hw : w.Affords r log)
    (hrunning : w.Running K r) (htakes : r.Takes K) (hgoes : e.Goes) (h : w.step r e = some q) :
    q.Affords r (log ++ w.observe r e) := by
  have hsend : ∀ {k env target rest n}, w.duties r k = (env, target) :: rest →
      q.duties r = Function.update (w.duties r) k rest → w.observe r e = [n] →
      n.isDelivery = true → q.handlers = w.handlers ∧ q.subscribers = w.subscribers →
      q.Affords r (log ++ w.observe r e) := by
    rintro k env target rest n hduties hduties' hobserve hn ⟨hhandlers, hsubscribers⟩
    refine hw.spend (work_of_update hduties' fun k' _ ↦ congrFun hhandlers k') ?_
    rw [hobserve, income_append hsubscribers, work, hduties, hhandlers, List.length_cons,
      List.countP_singleton, if_pos hn]
    omega
  cases e with
  | subscribe =>
      cases h
      refine hw.keep rfl ?_
      have hmono : log.countP Notice.isAccepted * (w.subscribers + (r.transports.length - 1)) ≤
          log.countP Notice.isAccepted * (w.subscribers + 1 + (r.transports.length - 1)) :=
        Nat.mul_le_mul_left _ (by omega)
      show 0 + w.income r log ≤ Node.income r { w with subscribers := w.subscribers + 1 } (log ++ [])
      rw [List.append_nil, Nat.zero_add, income, income]
      exact Nat.add_le_add_left hmono _
  | publish i env =>
      obtain ⟨hnone, hduties⟩ := duties_publish h
      have hsame : q.pumps = w.pumps ∧ q.subscribers = w.subscribers := by
        obtain ⟨-, h⟩ := Option.ite_none_left_eq_some.mp h
        obtain ⟨seen, hseen⟩ := markSeen_fst r w env.msgId
        rw [hseen] at h
        cases h
        exact ⟨rfl, rfl⟩
      refine hw.spend (work_of_update hduties fun k' _ ↦
        congrFun (handlers_of_pumps hsame.1) k') ?_
      have htargets : (r.targets.map (env, ·)).length = r.transports.length := by
        rw [List.length_map, Router.targets, List.length_range]
      rw [income_append hsame.2, htargets]
      show 0 + (0 + r.transports.length) + w.income r log ≤ w.work r (.inl i) +
        (w.income r log + (r.transports.length * 1 + 0 * _))
      omega
  | frame source data => exact hw.frame h
  | handled source ok =>
      have hduties := duties_handled h
      obtain ⟨env, n, hpump, rfl⟩ := step_handled h
      have hnotice : w.observe r (.handled source ok) = [.handed source env n] := by
        simp only [observe, hpump]
      have hbefore : w.handlers (.inr source) = n + 1 := by
        rw [handlers, hpump]
        rfl
      refine hw.spend (k := .inr source) (v := n + (w.duties r (.inr source)).length) ?_ ?_
      · funext k
        by_cases hk : k = .inr source
        · rw [hk, Function.update_self, work, hduties, handlers_handling]
        · rw [Function.update_of_ne hk, work, hduties, work,
            handlers_of_ne (fun s hs ↦ pumps_handling_of_ne r w env n hs) hk]
      · rw [hnotice, income_append (subscribers_handling r w source env n), work, hbefore]
        show 1 + (n + (w.duties r (.inr source)).length) + w.income r log ≤ _
        omega
  | sendPublished i ok =>
      obtain ⟨env, target, rest, -, -, hduties, hduties', hnotice, -⟩ :=
        hrunning.sendPublished htakes hgoes h
      exact hsend hduties hduties' hnotice rfl (handlers_sendPublished h)
  | sendForwarded source ok =>
      obtain ⟨env, target, rest, -, -, hduties, hduties', hnotice, -⟩ :=
        hrunning.sendForwarded htakes hgoes h
      exact hsend hduties hduties' hnotice rfl (handlers_sendForwarded h)

theorem affords_start (r : Router β) : Affords r {} [] :=
  ⟨∅, fun k _ ↦ by cases k <;> rfl, Nat.zero_le _⟩

/-- What a router has done is paid for. -/
theorem Affords.deliveries_le (hw : w.Affords r log) {d : ℕ} (hids : (newIds log).length ≤ d) :
    log.countP Notice.isDelivery ≤ r.transports.length * log.countP Notice.isPublished +
      d * (w.subscribers + r.transports.length) := by
  obtain ⟨tasks, -, hspent⟩ := hw
  have haccepted : log.countP Notice.isAccepted * (w.subscribers + (r.transports.length - 1)) ≤
      d * (w.subscribers + r.transports.length) :=
    Nat.mul_le_mul ((countP_isAccepted_le log).trans hids) (by omega)
  rw [income] at hspent
  omega

end Node

/-! ## What the network spends -/

/-- A sum of which one term has changed. -/
theorem sum_update_add [DecidableEq ι] {α : Type} {js : Finset ι} {i : ι} (hi : i ∈ js)
    (f : ι → α → ℕ) (g : ι → α) (a : α) :
    ∑ j ∈ js, f j (Function.update g i a j) + f i (g i) = ∑ j ∈ js, f j (g j) + f i a := by
  have hrest : ∑ j ∈ js.erase i, f j (Function.update g i a j) = ∑ j ∈ js.erase i, f j (g j) :=
    Finset.sum_congr rfl fun j hj ↦ by rw [Function.update_of_ne (Finset.ne_of_mem_erase hj)]
  rw [← Finset.add_sum_erase _ _ hi, ← Finset.add_sum_erase _ _ hi, hrest, Function.update_self]
  omega

namespace BusEvent

/-- A subscriber is added. -/
def isSubscribe : BusEvent ι → Bool
  | .act _ .subscribe => true
  | _ => false

def isPull : BusEvent ι → Bool
  | .pull _ _ => true
  | .act _ _ => false

/-- A task goes on. -/
def isTask : BusEvent ι → Bool
  | .act _ (.handled _ _) | .act _ (.sendPublished _) | .act _ (.sendForwarded _) => true
  | _ => false

/-- Every event is counted once. -/
theorem length_events (es : List (BusEvent ι)) : es.length = es.countP isSubscribe +
    (publishedIds es).length + es.countP isPull + es.countP isTask := by
  rw [publishedIds, List.length_filterMap_eq_countP]
  induction es with
  | nil => rfl
  | cons e es ih =>
      have hone : 1 = (if e.isSubscribe then 1 else 0) + (if e.publishedId.isSome then 1 else 0) +
          (if e.isPull then 1 else 0) + if e.isTask then 1 else 0 := by
        cases e with
        | pull i source => rfl
        | act i a => cases a <;> rfl
      rw [List.length_cons, List.countP_cons, List.countP_cons, List.countP_cons, List.countP_cons,
        ih]
      omega

end BusEvent

namespace BusNet

section

variable [Fintype ι]

/-- The notices of a kind in all ledgers. -/
def count (p : Notice → Bool) (s : BusNet ι β) : ℕ := ∑ i, (s.nodes i).2.countP p

def subscribers (s : BusNet ι β) : ℕ := ∑ i, (s.nodes i).1.subscribers

/-- The frames in all inboxes. -/
def queued (w : BusWiring ι κ β) (s : BusNet ι β) : ℕ :=
  ∑ i, ∑ p ∈ Finset.range (w.router i).transports.length, (s.inbox i p).queue.length

/-- The transports of the network. -/
def ports (w : BusWiring ι κ β) : ℕ := ∑ i, (w.router i).transports.length

end

variable [Fintype ι] [DecidableEq ι] [DecidableEq κ] {w : BusWiring ι κ β} {K : Envelope → Prop}
  {s t : BusNet ι β} {es : List (BusEvent ι)}

/-- A send puts at most one frame into each inbox. -/
theorem queued_broadcast_le (nodes : ι → Node × List Notice) (i : ι) (p : ℕ) (data : β) :
    queued w ⟨nodes, w.broadcast s.inbox i p data⟩ ≤ queued w s + ports w := by
  rw [queued, queued, ports, ← Finset.sum_add_distrib]
  refine Finset.sum_le_sum fun j _ ↦ ?_
  have hone : ∀ q ∈ Finset.range (w.router j).transports.length,
      (w.broadcast s.inbox i p data j q).queue.length ≤ (s.inbox j q).queue.length + 1 := by
    intro q _
    unfold BusWiring.broadcast
    split_ifs
    · rcases (s.inbox j q).ingestNowait_cases data with ⟨-, hin⟩ | ⟨-, hin⟩
      · obtain ⟨getters, woken, hwake⟩ :=
          Inbox.wakeupNext_eq { s.inbox j q with queue := (s.inbox j q).queue ++ [data] }
        rw [hin, hwake]
        exact List.length_append.le
      · rw [hin]
        exact Nat.le_succ _
    · exact Nat.le_succ _
  refine (Finset.sum_le_sum hone).trans ?_
  rw [Finset.sum_add_distrib, Finset.sum_const, Finset.card_range, Nat.smul_one_eq_cast]
  exact le_rfl

omit [DecidableEq κ] in
/-- A frame that is taken leaves its inbox. -/
theorem queued_taken (nodes : ι → Node × List Notice) {i : ι} {source : ℕ} {data : β}
    {rest : List β} (hsource : source < (w.router i).transports.length)
    (hqueue : (s.inbox i source).queue = data :: rest) :
    queued w ⟨nodes, s.taken i source rest⟩ + 1 = queued w s := by
  have hinner := sum_update_add (Finset.mem_range.mpr hsource)
    (fun _ (b : Inbox β) ↦ b.queue.length) (s.inbox i) { s.inbox i source with queue := rest }
  have houter := sum_update_add (Finset.mem_univ i)
    (fun j (b : ℕ → Inbox β) ↦ ∑ p ∈ Finset.range (w.router j).transports.length,
      (b p).queue.length) s.inbox
    (Function.update (s.inbox i) source { s.inbox i source with queue := rest })
  dsimp only at hinner houter
  rw [hqueue, List.length_cons] at hinner
  rw [queued, queued]
  unfold taken
  dsimp only
  omega

omit [DecidableEq κ] in
theorem count_update (p : Notice → Bool) (inbox : ι → ℕ → Inbox β) (i : ι) (q : Node)
    (ns : List Notice) : count p ⟨Function.update s.nodes i (q, (s.nodes i).2 ++ ns), inbox⟩ =
      count p s + ns.countP p := by
  have hsum := sum_update_add (Finset.mem_univ i) (fun _ (n : Node × List Notice) ↦ n.2.countP p)
    s.nodes (q, (s.nodes i).2 ++ ns)
  dsimp only at hsum
  rw [List.countP_append] at hsum
  rw [count, count]
  dsimp only
  omega

omit [DecidableEq κ] in
theorem subscribers_update (inbox : ι → ℕ → Inbox β) (i : ι) (q : Node) (log : List Notice) :
    subscribers ⟨Function.update s.nodes i (q, log), inbox⟩ + (s.nodes i).1.subscribers =
      subscribers s + q.subscribers :=
  sum_update_add (Finset.mem_univ i) (fun _ (n : Node × List Notice) ↦ n.1.subscribers) s.nodes
    (q, log)

/-- What a step adds to the counts. -/
structure Counted (w : BusWiring ι κ β) (s t : BusNet ι β) (e : BusEvent ι) : Prop where
  published : count Notice.isPublished t =
    count Notice.isPublished s + if e.publishedId.isSome then 1 else 0
  pulled : count Notice.isPulled t = count Notice.isPulled s + if e.isPull then 1 else 0
  delivered : count Notice.isDelivery t = count Notice.isDelivery s + if e.isTask then 1 else 0
  subscribers : subscribers t = subscribers s + if e.isSubscribe then 1 else 0
  queued : queued w t + (if e.isPull then 1 else 0) ≤
    queued w s + ports w * if e.isTask then 1 else 0

omit [DecidableEq κ] in
/-- A router has written down one notice, or has got a subscriber. -/
theorem counted_of_update {e : BusEvent ι} {i : ι} {q : Node} {ns : List Notice}
    {inbox : ι → ℕ → Inbox β}
    (hpublished : ns.countP Notice.isPublished = if e.publishedId.isSome then 1 else 0)
    (hpulled : ns.countP Notice.isPulled = if e.isPull then 1 else 0)
    (hdelivered : ns.countP Notice.isDelivery = if e.isTask then 1 else 0)
    (hsubscribers : q.subscribers = (s.nodes i).1.subscribers + if e.isSubscribe then 1 else 0)
    (hqueued : queued w ⟨s.nodes, inbox⟩ + (if e.isPull then 1 else 0) ≤
      queued w s + ports w * if e.isTask then 1 else 0) :
    Counted w s ⟨Function.update s.nodes i (q, (s.nodes i).2 ++ ns), inbox⟩ e where
  published := by rw [count_update, hpublished]
  pulled := by rw [count_update, hpulled]
  delivered := by rw [count_update, hdelivered]
  subscribers := by
    have hsum := subscribers_update (s := s) inbox i q ((s.nodes i).2 ++ ns)
    omega
  queued := hqueued

theorem Inside.counted (hs : s.Inside w K) (hK : w.Relays K) {e : BusEvent ι}
    (h : s.step w e = some t) : Counted w s t e := by
  cases e with
  | pull i source =>
      obtain ⟨data, rest, q, hqueue, hq, rfl⟩ := step_pull h
      have hsource := (Node.step_frame hq).2.1
      have htaken := queued_taken (w := w) s.nodes hsource hqueue
      exact counted_of_update rfl rfl rfl (Node.subscribers_frame hq)
        (htaken.le.trans (Nat.le_add_right _ _))
  | act i a =>
      by_cases ha : a.Sends
      · obtain ⟨env, target, data, hsent⟩ := hs.sent hK ha h
        obtain ⟨q, hq, rfl⟩ := step_act h
        obtain ⟨n, hlog, hn⟩ := hsent.notice
        have hinbox := hsent.inbox
        dsimp only at hlog hinbox
        rw [Function.update_self] at hlog
        have hobserve : (s.nodes i).1.observe (w.router i) a.event = [n] :=
          List.append_cancel_left hlog
        have hqueued := queued_broadcast_le (w := w) (s := s) s.nodes i target data
        rw [hinbox, hobserve]
        cases a with
        | sendPublished c =>
            refine counted_of_update ?_ ?_ ?_ (Node.handlers_sendPublished hq).2 ?_
            · cases n <;> first | rfl | cases hn
            · cases n <;> first | rfl | cases hn
            · cases n <;> first | rfl | cases hn
            · simpa [BusEvent.isPull, BusEvent.isTask] using hqueued
        | sendForwarded source =>
            refine counted_of_update ?_ ?_ ?_ (Node.handlers_sendForwarded hq).2 ?_
            · cases n <;> first | rfl | cases hn
            · cases n <;> first | rfl | cases hn
            · cases n <;> first | rfl | cases hn
            · simpa [BusEvent.isPull, BusEvent.isTask] using hqueued
        | subscribe => exact ha.elim
        | publish c env => exact ha.elim
        | handled source ok => exact ha.elim
      · have hinbox := inbox_of_silent ha h
        obtain ⟨q, hq, rfl⟩ := step_act h
        dsimp only at hinbox
        rw [hinbox]
        cases a with
        | subscribe =>
            cases hq
            exact counted_of_update rfl rfl rfl rfl le_rfl
        | publish c env =>
            refine counted_of_update rfl rfl rfl ?_ le_rfl
            obtain ⟨-, hq⟩ := Option.ite_none_left_eq_some.mp hq
            obtain ⟨seen, hseen⟩ := Node.markSeen_fst (w.router i) (s.nodes i).1 env.msgId
            rw [hseen] at hq
            cases hq
            rfl
        | handled source ok =>
            obtain ⟨env, n, hpump, rfl⟩ := Node.step_handled hq
            have hnotice : (s.nodes i).1.observe (w.router i) (Act.handled source ok).event =
                [.handed source env n] := by
              simp only [Act.event, Node.observe, hpump]
            rw [hnotice]
            exact counted_of_update rfl rfl rfl
              (Node.subscribers_handling (w.router i) _ source env n) (Nat.le_add_right _ _)
        | sendPublished c => exact (ha trivial).elim
        | sendForwarded source => exact (ha trivial).elim

/-! ## Runs -/

/-- A run, counted from both sides. -/
theorem counted_exec (hK : w.Relays K) (hes : ∀ e ∈ es, e.Publishes K) (hs : s.Inside w K)
    (h : Automaton.exec (step w) s es = some t) :
    count Notice.isPublished t = count Notice.isPublished s + (publishedIds es).length ∧
      count Notice.isPulled t = count Notice.isPulled s + es.countP BusEvent.isPull ∧
      count Notice.isDelivery t = count Notice.isDelivery s + es.countP BusEvent.isTask ∧
      subscribers t = subscribers s + es.countP BusEvent.isSubscribe ∧
      queued w t + es.countP BusEvent.isPull ≤
        queued w s + ports w * es.countP BusEvent.isTask := by
  induction es generalizing s with
  | nil =>
      cases h
      exact ⟨rfl, rfl, rfl, rfl, le_rfl⟩
  | cons e es ih =>
      obtain ⟨r, hr, ht⟩ := Automaton.exec_cons_eq_some.mp h
      obtain ⟨he, hes⟩ := List.forall_mem_cons.mp hes
      obtain ⟨hpublished, hpulled, hdelivered, hsubscribers, hqueued⟩ := hs.counted hK hr
      obtain ⟨ih1, ih2, ih3, ih4, ih5⟩ := ih hes (hs.step hK he hr) ht
      have hids : (publishedIds (e :: es)).length =
          (publishedIds es).length + if e.publishedId.isSome then 1 else 0 := by
        rw [publishedIds, publishedIds, List.length_filterMap_eq_countP,
          List.length_filterMap_eq_countP, List.countP_cons]
      rw [hids, List.countP_cons, List.countP_cons, List.countP_cons, Nat.mul_add]
      refine ⟨?_, ?_, ?_, ?_, ?_⟩ <;> omega

omit [Fintype ι] in
/-- What the routers do is paid for. -/
theorem affords_of_exec (hK : w.Relays K) (hes : ∀ e ∈ es, e.Publishes K)
    (h : Automaton.exec (step w) (start w) es = some s) (i : ι) :
    (s.nodes i).1.Affords (w.router i) (s.nodes i).2 := by
  refine (Automaton.exec_invariant_along
    (I := fun s ↦ s.Inside w K ∧ ∀ i, (s.nodes i).1.Affords (w.router i) (s.nodes i).2) ?_
    ⟨inside_start w K, fun i ↦ Node.affords_start (w.router i)⟩ (Automaton.Along.of_forall hes) h).2 i
  rintro s e t ⟨hs, haffords⟩ he hstep
  refine ⟨hs.step hK he hstep, ?_⟩
  cases e with
  | pull i source =>
      obtain ⟨data, rest, q, -, hq, rfl⟩ := step_pull hstep
      exact Node.forall_update (P := fun i (n : Node × List Notice) ↦ n.1.Affords (w.router i) n.2)
        haffords ((haffords i).frame hq)
  | act i a =>
      obtain ⟨q, hq, rfl⟩ := step_act hstep
      exact Node.forall_update (P := fun i (n : Node × List Notice) ↦ n.1.Affords (w.router i) n.2)
        haffords ((haffords i).step (hs.running i) (hK.takes i) (goes_event a) hq)

/-- **Storms die down.**  As long as no more ids are published than each router remembers, a run
has a bounded number of steps for what is asked of the routers: with `n` transports, `s`
subscribers and `p` publish calls of `d` ids, at most `s + p + (n + 1) * (n * p + d * (s + n))`. -/
theorem run_length_le (hK : w.Relays K) (hes : ∀ e ∈ es, e.Publishes K)
    (h : Automaton.exec (step w) (start w) es = some s)
    (hcache : ∀ i, (publishedIds es).toFinset.card ≤ (w.router i).dedupeCacheSize) :
    es.length ≤ es.countP BusEvent.isSubscribe + (publishedIds es).length + (ports w + 1) *
      (ports w * (publishedIds es).length +
        (publishedIds es).toFinset.card * (es.countP BusEvent.isSubscribe + ports w)) := by
  have hzero : ∀ p, count p (start w) = 0 := fun p ↦ Finset.sum_const_zero
  have hsubscribers₀ : subscribers (start w) = 0 := Finset.sum_const_zero
  have hqueued₀ : queued w (start w) = 0 := Finset.sum_eq_zero fun i _ ↦ Finset.sum_const_zero
  obtain ⟨hpublished, -, hdelivered, hsubscribers, hqueued⟩ :=
    counted_exec hK hes (inside_start w K) h
  rw [hzero, Nat.zero_add] at hpublished hdelivered
  rw [hsubscribers₀, Nat.zero_add] at hsubscribers
  rw [hqueued₀, Nat.zero_add] at hqueued
  have hdeliveries : count Notice.isDelivery s ≤ ports w * count Notice.isPublished s +
      (publishedIds es).toFinset.card * (subscribers s + ports w) := by
    have hnode : ∀ i ∈ Finset.univ, (s.nodes i).2.countP Notice.isDelivery ≤
        ports w * (s.nodes i).2.countP Notice.isPublished + (publishedIds es).toFinset.card *
          ((s.nodes i).1.subscribers + (w.router i).transports.length) := by
      intro i hi
      obtain ⟨hnodup, hsubset⟩ := nodup_newIds hK hes h i (hcache i)
      have hids : (newIds (s.nodes i).2).length ≤ (publishedIds es).toFinset.card := by
        rw [← List.toFinset_card_of_nodup hnodup]
        refine Finset.card_le_card fun id hid ↦ ?_
        exact List.mem_toFinset.mpr (hsubset (List.mem_toFinset.mp hid))
      have hports : (w.router i).transports.length ≤ ports w :=
        Finset.single_le_sum (f := fun i ↦ (w.router i).transports.length)
          (fun _ _ ↦ Nat.zero_le _) hi
      exact ((affords_of_exec hK hes h i).deliveries_le hids).trans
        (Nat.add_le_add_right (Nat.mul_le_mul_right _ hports) _)
    refine (Finset.sum_le_sum hnode).trans_eq ?_
    rw [Finset.sum_add_distrib, ← Finset.mul_sum, ← Finset.mul_sum, Finset.sum_add_distrib]
    rfl
  rw [hpublished, hdelivered, hsubscribers] at hdeliveries
  have hpulls : es.countP BusEvent.isPull ≤ ports w * es.countP BusEvent.isTask := by omega
  calc es.length = es.countP BusEvent.isSubscribe + (publishedIds es).length +
        es.countP BusEvent.isPull + es.countP BusEvent.isTask := BusEvent.length_events es
    _ ≤ es.countP BusEvent.isSubscribe + (publishedIds es).length +
        (ports w + 1) * es.countP BusEvent.isTask := by
          rw [Nat.succ_mul]
          omega
    _ ≤ _ := Nat.add_le_add_left (Nat.mul_le_mul_left _ hdeliveries) _

/-- A row of routers has four transports, and one message takes at most forty-one steps. -/
theorem run_length_le_row : across.length ≤ 0 + 1 + (4 + 1) * (4 * 1 + 1 * (0 + 4)) := by
  refine run_length_le relays_row ?_ rfl ?_
  · intro e he
    fin_cases he <;> trivial
  · intro i
    exact (by decide +kernel : 1 ≤ 2048)

end BusNet

end DroneComms.Mesh
