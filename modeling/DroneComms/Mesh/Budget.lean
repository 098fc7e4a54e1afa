import DroneComms.Mesh.Ledger
import Mathlib.Algebra.BigOperators.Group.Finset.Basic

/-!
# What a node may forward

As long as no id is evicted, the cache of a node is the list of the ids it has
accepted, and it accepts each once.  A frame that is accepted is forwarded to every
transport but its own, so the cache pays for what the pumps have forwarded and
still have to forward (`Budget`).

What a node sends it has published or heard: if all of that is of one family, so is
what it sends, and the ids in its cache are ids of the family (`Speaks`).
-/

namespace DroneComms.Mesh

variable {β : Type} {r : Router β}

namespace Notice

/-- A delivery to a transport. -/
def isForwarded : Notice → Bool
  | forwarded _ _ _ => true
  | _ => false

/-- The envelope that is sent. -/
def sentEnvelope : Notice → Option Envelope
  | sent e _ | forwarded _ e _ => some e
  | _ => none

end Notice

/-- The sends that a pump owes. -/
def Pump.toForward (r : Router β) (source : ℕ) (p : Pump) : ℕ :=
  ((p.owes r source).getD []).countP Notice.isForwarded

theorem Pump.toForward_of_owes {source : ℕ} {p : Pump} {owed : List Notice}
    (h : p.owes r source = some owed) :
    p.toForward r source = owed.countP Notice.isForwarded := by
  rw [toForward, h]
  rfl

/-- Deliveries to transports are counted one by one. -/
theorem countP_forwarded (source : ℕ) (e : Envelope) (targets : List ℕ) :
    (targets.map (.forwarded source e)).countP Notice.isForwarded = targets.length := by
  rw [List.countP_map, List.countP_eq_length]
  intro t _
  rfl

/-- Deliveries to subscribers are not counted. -/
theorem countP_handings (source : ℕ) (e : Envelope) (n : ℕ) :
    (Verdict.handings source e n).countP Notice.isForwarded = 0 := by
  rw [Verdict.handings, List.countP_map, List.countP_eq_zero]
  intro t _
  exact Bool.false_ne_true

theorem length_others {source : ℕ} (h : source < r.transports.length) :
    (others r source).length = r.transports.length - 1 := by
  have herase : others r source = r.targets.erase source := by
    rw [(nodup_targets r).erase_eq_filter, others]
    congr 1
    funext t
    rw [Bool.eq_iff_iff, decide_eq_true_iff, bne_iff_ne]
  have hmem : source ∈ r.targets := List.mem_range.mpr h
  rw [herase, List.length_erase_of_mem hmem, Router.targets, List.length_range]

namespace Node

variable {w q : Node} {e : NodeEvent β}

/-- The pump of a transport, with what it owes. -/
def toForward (r : Router β) (w : Node) : ℕ :=
  ∑ s ∈ Finset.range r.transports.length, (w.pumps s).toForward r s

/-- The step evicts no id. -/
def RoomFor (r : Router β) (w : Node) : NodeEvent β → Prop
  | .publish _ env => env.msgId ∉ w.seen → w.seen.length < r.dedupeCacheSize
  | .frame source data => ∀ env n, w.verdict r source data = .accepted env n →
      w.seen.length < r.dedupeCacheSize
  | _ => True

/-- The ids in the cache pay for what is forwarded. -/
structure Budget (r : Router β) (w : Node) : Prop where
  idle : ∀ s, r.transports.length ≤ s → w.pumps s = .reading
  spent : w.metrics.forwarded + w.toForward r ≤ (r.transports.length - 1) * w.seen.length

/-! ## Spending -/

theorem evict_of_room {n : ℕ} {seen : List String} (h : seen.length < n) (id : String) :
    evict n (seen ++ [id]) = seen ++ [id] := by
  have hlength : (seen ++ [id]).length = seen.length + 1 := List.length_append
  rw [evict, Nat.sub_eq_zero_of_le (by omega), List.drop_zero]

theorem toForward_forwarding (r : Router β) (w : Node) (source : ℕ) (f : FanOut) :
    ((w.forwarding source f).pumps source).toForward r source = f.targets.length := by
  rw [Pump.toForward_of_owes (owes_forwarding r w source f), countP_forwarded]

theorem toForward_handling (r : Router β) (w : Node) (source : ℕ) (env : Envelope)
    (handlers : ℕ) : ((w.handling r source env handlers).pumps source).toForward r source =
      (others r source).length := by
  rw [Pump.toForward_of_owes (owes_handling r w source env handlers), List.countP_append,
    countP_handings, countP_forwarded, Nat.zero_add]

/-- When one pump goes on, the sum changes by what it owes. -/
theorem toForward_of_source {source : ℕ} (hsource : source < r.transports.length)
    (hother : ∀ s, s ≠ source → q.pumps s = w.pumps s) :
    q.toForward r + (w.pumps source).toForward r source =
      w.toForward r + (q.pumps source).toForward r source := by
  have hmem := Finset.mem_range.mpr hsource
  have hrest : ∑ s ∈ (Finset.range r.transports.length).erase source, (q.pumps s).toForward r s =
      ∑ s ∈ (Finset.range r.transports.length).erase source, (w.pumps s).toForward r s := by
    refine Finset.sum_congr rfl fun s hs ↦ ?_
    rw [hother s (Finset.ne_of_mem_erase hs)]
  unfold toForward
  rw [← Finset.add_sum_erase _ _ hmem, ← Finset.add_sum_erase _ _ hmem, hrest]
  omega

/-- Only a pump that is reading is behind the transports. -/
theorem Budget.source_lt {source : ℕ} (hw : w.Budget r) (h : w.pumps source ≠ .reading) :
    source < r.transports.length := by
  by_contra hge
  exact h (hw.idle source (not_lt.mp hge))

/-- A step in which at most one pump goes on and the cache pays for it. -/
theorem Budget.spend {source : ℕ} (hw : w.Budget r) (hsource : source < r.transports.length)
    (hother : ∀ s, s ≠ source → q.pumps s = w.pumps s)
    (hspent : q.metrics.forwarded + (q.pumps source).toForward r source +
      (r.transports.length - 1) * w.seen.length ≤
        w.metrics.forwarded + (w.pumps source).toForward r source +
          (r.transports.length - 1) * q.seen.length) : q.Budget r where
  idle s hs := by
    rw [hother s (by omega)]
    exact hw.idle s hs
  spent := by
    have hsum := toForward_of_source (r := r) hsource hother
    have hbefore := hw.spent
    omega

/-- A step in which no pump goes on. -/
theorem Budget.quiet (hw : w.Budget r) (hpumps : q.pumps = w.pumps)
    (hforwarded : q.metrics.forwarded = w.metrics.forwarded)
    (hseen : w.seen.length ≤ q.seen.length) : q.Budget r where
  idle s hs := by
    rw [hpumps]
    exact hw.idle s hs
  spent := by
    have hbefore := hw.spent
    have hpays := Nat.mul_le_mul_left (r.transports.length - 1) hseen
    rw [toForward] at hbefore ⊢
    rw [hpumps, hforwarded]
    omega

/-- A frame is paid for by its id. -/
theorem Budget.frame {source : ℕ} (hw : w.Budget r) (hsource : source < r.transports.length)
    {data : β} (hroom : w.RoomFor r (.frame source data)) :
    (w.receive r source data).Budget r := by
  rw [receive_eq]
  cases hv : w.verdict r source data with
  | schemaMismatch => exact hw.quiet rfl rfl le_rfl
  | undecodable => exact hw.quiet rfl rfl le_rfl
  | duplicate env => exact hw.quiet rfl rfl le_rfl
  | accepted env subscribers =>
      let w' : Node := { w with
        metrics := { w.metrics with rx := w.metrics.rx + 1 }
        seen := evict r.dedupeCacheSize (w.seen ++ [env.msgId]) }
      obtain ⟨hseen, hmetrics⟩ := seen_handling r w' source env subscribers
      refine hw.spend hsource (fun s hs ↦ pumps_handling_of_ne r w' env subscribers hs) ?_
      have hseen' : (w'.handling r source env subscribers).seen = w.seen ++ [env.msgId] :=
        hseen.trans (evict_of_room (hroom env subscribers hv) env.msgId)
      have hmetrics' : (w'.handling r source env subscribers).metrics.forwarded =
        w'.metrics.forwarded := congrArg RouterMetrics.forwarded hmetrics
      show (w'.handling r source env subscribers).metrics.forwarded +
        ((w'.handling r source env subscribers).pumps source).toForward r source + _ ≤
          w'.metrics.forwarded + (w.pumps source).toForward r source +
            _ * (w'.handling r source env subscribers).seen.length
      rw [hmetrics', hseen', toForward_handling, length_others hsource, List.length_append,
        List.length_singleton, Nat.mul_succ]
      omega

/-- **Budget.**  A step without eviction keeps to the budget. -/
theorem Budget.step (hw : w.Budget r) (hroom : w.RoomFor r e) (h : w.step r e = some q) :
    q.Budget r := by
  cases e with
  | subscribe =>
      cases h
      exact hw.quiet rfl rfl le_rfl
  | publish i env =>
      obtain ⟨-, h⟩ := Option.ite_none_left_eq_some.mp h
      by_cases hseen : env.msgId ∈ w.seen
      · rw [markSeen, if_pos hseen] at h
        cases h
        exact hw.quiet rfl rfl le_rfl
      · rw [markSeen, if_neg hseen] at h
        cases h
        refine hw.quiet rfl rfl ?_
        show w.seen.length ≤ (evict r.dedupeCacheSize (w.seen ++ [env.msgId])).length
        rw [evict_of_room (hroom hseen), List.length_append]
        exact Nat.le_add_right _ _
  | frame source data =>
      obtain ⟨-, hsource, rfl⟩ := step_frame h
      exact hw.frame hsource hroom
  | handled source ok =>
      obtain ⟨env, n, hpump, rfl⟩ := step_handled h
      obtain ⟨hseen, hmetrics⟩ := seen_handling r w source env n
      have hsource : source < r.transports.length := by
        apply hw.source_lt
        rw [hpump]
        rintro ⟨⟩
      refine hw.spend hsource (fun s hs ↦ pumps_handling_of_ne r w env n hs) ?_
      have howed : (w.pumps source).toForward r source = (others r source).length := by
        rw [hpump, Pump.toForward_of_owes rfl, List.countP_append, countP_handings,
          countP_forwarded, Nat.zero_add]
      rw [hmetrics, hseen, toForward_handling, howed]
  | sendPublished i ok =>
      obtain ⟨f, target, targets, -, -, ⟨-, -, rfl⟩ | ⟨-, rfl⟩⟩ := step_sendPublished h
      · exact hw.quiet rfl rfl le_rfl
      · exact hw.quiet rfl rfl le_rfl
  | sendForwarded source ok =>
      obtain ⟨f, target, targets, hf, htargets, hcases⟩ := step_sendForwarded h
      have hsource : source < r.transports.length := by
        apply hw.source_lt
        rw [hf]
        rintro ⟨⟩
      have howed : (w.pumps source).toForward r source = targets.length + 1 := by
        rw [hf, Pump.toForward_of_owes rfl, countP_forwarded, htargets, List.length_cons]
      rcases hcases with ⟨-, -, rfl⟩ | ⟨-, rfl⟩
      · let w' : Node := { w with metrics := { w.metrics with forwarded := w.metrics.forwarded + 1 } }
        let f' : FanOut := { f with targets, handed := target :: f.handed }
        obtain ⟨hseen, hmetrics⟩ := seen_forwarding w' source f'
        refine hw.spend hsource (fun s hs ↦ pumps_forwarding_of_ne w' f' hs) ?_
        have hmetrics' : (w'.forwarding source f').metrics.forwarded = w.metrics.forwarded + 1 :=
          congrArg RouterMetrics.forwarded hmetrics
        have hseen' : (w'.forwarding source f').seen = w.seen := hseen
        have htoForward : ((w'.forwarding source f').pumps source).toForward r source =
          targets.length := toForward_forwarding r w' source f'
        rw [hmetrics', hseen', htoForward, howed]
        omega
      · refine hw.spend hsource (fun s hs ↦ Function.update_of_ne hs _ _) ?_
        have hraised : (Function.update w.pumps source (.raised
            { f with targets, failed := target :: f.failed }) source).toForward r source = 0 := by
          rw [Function.update_self]
          rfl
        dsimp only
        rw [hraised]
        omega

theorem budget_start (r : Router β) : Budget r {} where
  idle _ _ := rfl
  spent := by
    have hnone : toForward r {} = 0 := Finset.sum_eq_zero fun s _ ↦ rfl
    rw [hnone]
    exact Nat.zero_le _

end Node

/-! ## One family -/

variable {K : Envelope → Prop} {ids : Finset String}

/-- The envelope that a task has at hand is of the family. -/
def Publish.Of (K : Envelope → Prop) : Publish → Prop
  | .sending f => K f.envelope
  | .returned _ | .raised _ => True

def Pump.Of (K : Envelope → Prop) : Pump → Prop
  | .handling e _ => K e
  | .forwarding f => K f.envelope
  | .reading | .raised _ => True

namespace Node

variable {w q : Node} {e : NodeEvent β}

/-- What a node does with envelopes of a family whose ids are known. -/
structure Speaks (K : Envelope → Prop) (ids : Finset String) (w : Node) : Prop where
  nodup : w.seen.Nodup
  known : ∀ id ∈ w.seen, id ∈ ids
  publishes : ∀ i p, w.publishes i = some p → p.Of K
  pumps : ∀ s, (w.pumps s).Of K

/-- What the step brings to the node is of the family. -/
def Hears (K : Envelope → Prop) (r : Router β) : NodeEvent β → Prop
  | .publish _ env => K env
  | .frame source data => ∀ env, (r.codecFor source).decode data = .ok env → K env
  | _ => True

theorem nodup_evict {n : ℕ} {seen : List String} {id : String} (hnodup : seen.Nodup)
    (hid : id ∉ seen) : (evict n (seen ++ [id])).Nodup := by
  have happend : (seen ++ [id]).Nodup := by
    rw [List.nodup_append_comm, List.singleton_append, List.nodup_cons]
    exact ⟨hid, hnodup⟩
  exact happend.sublist (List.drop_sublist _ _)

/-- A frame that is accepted was decoded. -/
theorem decode_of_accepted {source : ℕ} {data : β} {env : Envelope} {n : ℕ}
    (h : w.verdict r source data = .accepted env n) :
    (r.codecFor source).decode data = .ok env := by
  unfold verdict at h
  split at h
  · cases h
  · cases h
  · rename_i env' hdec
    split_ifs at h
    cases h
    exact hdec

theorem Speaks.forwarding {source : ℕ} {f : FanOut} (hw : w.Speaks K ids) (hf : K f.envelope) :
    (w.forwarding source f).Speaks K ids := by
  unfold Node.forwarding
  split_ifs
  · exact ⟨hw.nodup, hw.known, hw.publishes, forall_update hw.pumps trivial⟩
  · exact ⟨hw.nodup, hw.known, hw.publishes, forall_update hw.pumps hf⟩

theorem Speaks.handling {source : ℕ} {env : Envelope} (hw : w.Speaks K ids) (henv : K env)
    (handlers : ℕ) : (w.handling r source env handlers).Speaks K ids := by
  cases handlers with
  | zero => exact hw.forwarding henv
  | succ n => exact ⟨hw.nodup, hw.known, hw.publishes, forall_update hw.pumps henv⟩

theorem Speaks.mark {id : String} (metrics : RouterMetrics) (n : ℕ) (hw : w.Speaks K ids)
    (hid : id ∈ ids) (hseen : id ∉ w.seen) :
    Speaks K ids { w with metrics, seen := evict n (w.seen ++ [id]) } where
  nodup := nodup_evict hw.nodup hseen
  known id' hid' := by
    rcases mem_evict hid' with hold | rfl
    · exact hw.known id' hold
    · exact hid
  publishes := hw.publishes
  pumps := hw.pumps

theorem of_publishing {f : FanOut} (hf : K f.envelope) : (publishing f).Of K := by
  unfold publishing
  split_ifs
  · trivial
  · exact hf

/-- **One family.**  A node that hears a family speaks it. -/
theorem Speaks.step (hids : ∀ env, K env → env.msgId ∈ ids) (hw : w.Speaks K ids)
    (hhears : Hears K r e) (h : w.step r e = some q) : q.Speaks K ids := by
  cases e with
  | subscribe =>
      cases h
      exact ⟨hw.nodup, hw.known, hw.publishes, hw.pumps⟩
  | publish i env =>
      obtain ⟨-, h⟩ := Option.ite_none_left_eq_some.mp h
      have hstarted := forall_publishes_update (i := i) hw.publishes
        (of_publishing (f := ⟨env, r.targets, [], []⟩) hhears)
      by_cases hseen : env.msgId ∈ w.seen
      · rw [markSeen, if_pos hseen] at h
        cases h
        exact ⟨hw.nodup, hw.known, hstarted, hw.pumps⟩
      · rw [markSeen, if_neg hseen] at h
        cases h
        have hmark := hw.mark w.metrics r.dedupeCacheSize (hids env hhears) hseen
        exact ⟨hmark.nodup, hmark.known, hstarted, hw.pumps⟩
  | frame source data =>
      obtain ⟨-, -, rfl⟩ := step_frame h
      rw [receive_eq]
      cases hv : w.verdict r source data with
      | schemaMismatch => exact ⟨hw.nodup, hw.known, hw.publishes, hw.pumps⟩
      | undecodable => exact ⟨hw.nodup, hw.known, hw.publishes, hw.pumps⟩
      | duplicate env => exact ⟨hw.nodup, hw.known, hw.publishes, hw.pumps⟩
      | accepted env subscribers =>
          have henv : K env := hhears env (decode_of_accepted hv)
          exact (hw.mark _ _ (hids env henv) (verdict_accepted hv)).handling henv subscribers
  | handled source ok =>
      obtain ⟨env, n, hpump, rfl⟩ := step_handled h
      have henv := hw.pumps source
      rw [hpump] at henv
      exact hw.handling henv n
  | sendPublished i ok =>
      obtain ⟨f, target, targets, hf, -, ⟨-, -, rfl⟩ | ⟨-, rfl⟩⟩ := step_sendPublished h
      · have henv : K f.envelope := hw.publishes i _ hf
        exact ⟨hw.nodup, hw.known,
          forall_publishes_update hw.publishes (of_publishing henv), hw.pumps⟩
      · exact ⟨hw.nodup, hw.known, forall_publishes_update hw.publishes trivial, hw.pumps⟩
  | sendForwarded source ok =>
      obtain ⟨f, target, targets, hf, -, ⟨-, -, rfl⟩ | ⟨-, rfl⟩⟩ := step_sendForwarded h
      · have henv := hw.pumps source
        rw [hf] at henv
        exact Speaks.forwarding ⟨hw.nodup, hw.known, hw.publishes, hw.pumps⟩ henv
      · exact ⟨hw.nodup, hw.known, hw.publishes, forall_update hw.pumps trivial⟩

/-- Everything that a node sends is of the family. -/
theorem Speaks.sends (hw : w.Speaks K ids) {n : Notice} (hn : n ∈ w.observe r e)
    {env : Envelope} (hsent : n.sentEnvelope = some env) : K env := by
  have hsending : ∀ {f : FanOut} {ok : Bool} {notice : Envelope → ℕ → Notice},
      (∀ target, (notice f.envelope target).sentEnvelope = some f.envelope) →
        n ∈ sending r f ok notice → env = f.envelope := by
    intro f ok notice hnotice hmem
    unfold sending at hmem
    split at hmem
    · cases hmem
    · split_ifs at hmem
      · rw [List.mem_singleton] at hmem
        rw [hmem, hnotice] at hsent
        exact (Option.some.inj hsent).symm
      · cases hmem
  cases e with
  | subscribe => cases hn
  | publish i env' =>
      rw [List.mem_singleton.mp hn] at hsent
      cases hsent
  | frame source data =>
      rw [List.mem_singleton.mp hn] at hsent
      cases hsent
  | handled source ok =>
      simp only [observe] at hn
      split at hn
      · rw [List.mem_singleton.mp hn] at hsent
        cases hsent
      · cases hn
  | sendPublished i ok =>
      simp only [observe] at hn
      split at hn
      · rename_i f hf
        have henv : K f.envelope := hw.publishes i _ hf
        rwa [← hsending (fun _ ↦ rfl) hn] at henv
      · cases hn
  | sendForwarded source ok =>
      simp only [observe] at hn
      split at hn
      · rename_i f hf
        have henv := hw.pumps source
        rw [hf] at henv
        have henv' : K f.envelope := henv
        rwa [← hsending (fun _ ↦ rfl) hn] at henv'
      · cases hn

theorem speaks_start (K : Envelope → Prop) (ids : Finset String) : Speaks K ids {} where
  nodup := List.nodup_nil
  known _ h := absurd h List.not_mem_nil
  publishes _ _ h := by cases h
  pumps _ := trivial

/-- A node that speaks a family forwards each of its ids to each other transport at most
once. -/
theorem Speaks.forwarded_le (hw : w.Speaks K ids) (hbudget : w.Budget r) :
    w.metrics.forwarded ≤ (r.transports.length - 1) * ids.card := by
  have hsubset : w.seen.toFinset ⊆ ids := fun id hid ↦ hw.known id (List.mem_toFinset.mp hid)
  have hcard : w.seen.length ≤ ids.card := by
    rw [← List.toFinset_card_of_nodup hw.nodup]
    exact Finset.card_le_card hsubset
  calc w.metrics.forwarded
      ≤ (r.transports.length - 1) * w.seen.length := le_trans (Nat.le_add_right _ _) hbudget.spent
    _ ≤ (r.transports.length - 1) * ids.card := Nat.mul_le_mul_left _ hcard

end Node

end DroneComms.Mesh
