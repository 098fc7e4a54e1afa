import DroneComms.Mesh.LoopbackBus

/-!
# A message floods the buses

Where no inbox overflows, a message that one router publishes comes to all those it is
linked to by buses, however the tasks of the routers interleave, and to no others.  It
is known to a router once its id has been accepted as new.
-/

namespace DroneComms.Mesh

open Transports (Inbox)

variable {ι κ β : Type}

/-! ## Where a message is -/

/-- A transport of the network. -/
def BusWiring.Port (w : BusWiring ι κ β) : Type :=
  { p : ι × ℕ // p.2 < (w.router p.1).transports.length }

def BusWiring.wiring (w : BusWiring ι κ β) : Flooding.Wiring ι w.Port κ where
  owner p := p.1.1
  medium p := w.bus p.1.1 p.1.2

/-- A task still has to send the message to the target. -/
def Node.Owes (r : Router β) (n : Node) (id : String) (target : ℕ) : Prop :=
  ∃ k env, (env, target) ∈ n.duties r k ∧ env.msgId = id

/-- The message has been published. -/
def Originated (id : String) (log : List Notice) : Prop :=
  ∃ env new, .published env new ∈ log ∧ env.msgId = id

namespace BusNet

/-- A frame of the message is in the inbox. -/
def Pends (w : BusWiring ι κ β) (s : BusNet ι β) (id : String) (i : ι) (p : ℕ) : Prop :=
  ∃ data ∈ (s.inbox i p).queue, ∃ env,
    ((w.router i).codecFor p).decode data = .ok env ∧ env.msgId = id

/-- Where the message is. -/
def flood (w : BusWiring ι κ β) (id : String) (s : BusNet ι β) : Flooding.State ι w.Port where
  origins := {i | Originated id (s.nodes i).2}
  knows := {i | id ∈ newIds (s.nodes i).2}
  owes := {p | (s.nodes p.1.1).1.Owes (w.router p.1.1) id p.1.2}
  pending := {p | s.Pends w id p.1.1 p.1.2}

end BusNet

/-! ## One router -/

section

variable {r : Router β} {n q : Node} {log : List Notice} {id : String}

theorem newIds_sent {e : Notice} {env : Envelope} (h : e.sentEnvelope = some env) :
    newIds (log ++ [e]) = newIds log := by
  rw [newIds_append]
  cases e with
  | sent => exact List.append_nil _
  | forwarded => exact List.append_nil _
  | published => cases h
  | pulled => cases h
  | handed => cases h

theorem originated_append {ns : List Notice} :
    Originated id (log ++ ns) ↔ Originated id log ∨ Originated id ns := by
  simp only [Originated, List.mem_append, or_and_right, exists_or]

theorem not_originated_singleton {e : Notice} (h : ∀ env new, e ≠ .published env new) :
    ¬ Originated id [e] := by
  rintro ⟨env, new, hmem, -⟩
  exact h env new (List.mem_singleton.mp hmem).symm

/-- A task that has sent owes one target less. -/
theorem owes_of_taken {k : ℕ ⊕ ℕ} {env : Envelope} {target t : ℕ} {rest : List (Envelope × ℕ)}
    (hduties : n.duties r k = (env, target) :: rest)
    (hduties' : q.duties r = Function.update (n.duties r) k rest) (h : q.Owes r id t) :
    n.Owes r id t := by
  obtain ⟨k', env', hmem, hid⟩ := h
  rw [hduties'] at hmem
  by_cases hk : k' = k
  · rw [hk, Function.update_self] at hmem
    exact ⟨k, env', hduties ▸ List.mem_cons_of_mem _ hmem, hid⟩
  · rw [Function.update_of_ne hk] at hmem
    exact ⟨k', env', hmem, hid⟩

/-- All the others it still owes. -/
theorem owes_of_not_taken {k : ℕ ⊕ ℕ} {env : Envelope} {target t : ℕ}
    {rest : List (Envelope × ℕ)} (hduties : n.duties r k = (env, target) :: rest)
    (hduties' : q.duties r = Function.update (n.duties r) k rest) (h : n.Owes r id t)
    (hne : env.msgId = id → t ≠ target) : q.Owes r id t := by
  obtain ⟨k', env', hmem, rfl⟩ := h
  refine ⟨k', env', ?_, rfl⟩
  rw [hduties']
  by_cases hk : k' = k
  · rw [hk, hduties] at hmem
    rw [hk, Function.update_self]
    rcases List.mem_cons.mp hmem with heq | hmem
    · obtain ⟨rfl, rfl⟩ := Prod.mk.inj heq
      exact absurd rfl (hne rfl)
    · exact hmem
  · rw [Function.update_of_ne hk]
    exact hmem

/-- A task that takes something on owes it besides. -/
theorem owes_of_added {k : ℕ ⊕ ℕ} {t : ℕ} {ds : List (Envelope × ℕ)} (hnone : n.duties r k = [])
    (hduties : q.duties r = Function.update (n.duties r) k ds) :
    q.Owes r id t ↔ n.Owes r id t ∨ ∃ env, (env, t) ∈ ds ∧ env.msgId = id := by
  constructor
  · rintro ⟨k', env, hmem, hid⟩
    rw [hduties] at hmem
    by_cases hk : k' = k
    · rw [hk, Function.update_self] at hmem
      exact .inr ⟨env, hmem, hid⟩
    · rw [Function.update_of_ne hk] at hmem
      exact .inl ⟨k', env, hmem, hid⟩
  · rintro (⟨k', env, hmem, hid⟩ | ⟨env, hmem, hid⟩)
    · refine ⟨k', env, ?_, hid⟩
      have hk : k' ≠ k := by
        rintro rfl
        rw [hnone] at hmem
        cases hmem
      rw [hduties, Function.update_of_ne hk]
      exact hmem
    · refine ⟨k, env, ?_, hid⟩
      rw [hduties, Function.update_self]
      exact hmem

/-- What is in the cache has been accepted as new. -/
theorem mem_newIds_of_seen (h : n.Accounts r log) (hid : id ∈ n.seen) : id ∈ newIds log := by
  rw [h.window] at hid
  exact (Window.lastN_suffix _ _).subset hid

/-- After a call the id is known. -/
theorem mem_newIds_published (h : n.Accounts r log) (env : Envelope) (id' : String) :
    id' ∈ newIds (log ++ [.published env (decide (env.msgId ∉ n.seen))]) ↔
      id' = env.msgId ∨ id' ∈ newIds log := by
  rw [newIds_append, List.mem_append]
  by_cases hseen : env.msgId ∈ n.seen
  · have hnone : newIds [.published env (decide (env.msgId ∉ n.seen))] = [] := by
      rw [decide_eq_false (not_not.mpr hseen)]
      rfl
    rw [hnone, or_iff_left List.not_mem_nil]
    refine (or_iff_right_of_imp ?_).symm
    rintro rfl
    exact mem_newIds_of_seen h hseen
  · have hnew : newIds [.published env (decide (env.msgId ∉ n.seen))] = [env.msgId] := by
      rw [decide_eq_true hseen]
      rfl
    rw [hnew, List.mem_singleton]
    exact or_comm

/-- After a frame its id is known. -/
theorem mem_newIds_pulled (h : n.Accounts r log) {source : ℕ} {data : β} {env : Envelope}
    (hdec : (r.codecFor source).decode data = .ok env) {id' : String} :
    id' ∈ newIds (log ++ [.pulled source (n.verdict r source data)]) ↔
      id' = env.msgId ∨ id' ∈ newIds log := by
  rw [newIds_append, List.mem_append, Node.verdict, hdec]
  dsimp only
  split_ifs with hseen
  · rw [or_iff_left (show id' ∉ newIds [.pulled source (.duplicate env)] from List.not_mem_nil)]
    refine (or_iff_right_of_imp ?_).symm
    rintro rfl
    exact mem_newIds_of_seen h hseen
  · have hnew : newIds [.pulled source (.accepted env n.subscribers)] = [env.msgId] := rfl
    rw [hnew, List.mem_singleton]
    exact or_comm

/-- What a frame is owed to, if it is owed at all. -/
theorem mem_duties_verdict {source t : ℕ} {data : β} {env e : Envelope}
    (hdec : (r.codecFor source).decode data = .ok env)
    (h : (e, t) ∈ (n.verdict r source data).duties r source) : e = env := by
  rw [Node.verdict, hdec] at h
  dsimp only at h
  split_ifs at h
  · cases h
  · obtain ⟨t', -, heq⟩ := List.mem_map.mp h
    cases heq
    rfl

end

namespace BusNet

variable [DecidableEq ι] [DecidableEq κ] {w : BusWiring ι κ β} {K : Envelope → Prop}
  {s t : BusNet ι β} {i : ι} {id : String}

/-! ## One step -/

/-- What was not dropped later was not dropped before. -/
theorem noDrops_of_step (hs : s.Inside w K) (hK : w.Relays K) {e : BusEvent ι}
    (h : s.step w e = some t) (ht : t.NoDrops) : s.NoDrops := by
  intro j p
  have hdropped := ht j p
  cases e with
  | pull i source =>
      obtain ⟨data, rest, q, -, -, rfl⟩ := step_pull h
      dsimp only at hdropped
      by_cases hport : (j, p) = (i, source)
      · obtain ⟨rfl, rfl⟩ := Prod.mk.inj hport
        rwa [taken_self] at hdropped
      · rwa [taken_of_ne hport] at hdropped
  | act i a =>
      by_cases ha : a.Sends
      · obtain ⟨env, target, data, hsent⟩ := hs.sent hK ha h
        rw [hsent.inbox] at hdropped
        exact dropped_broadcast hdropped
      · rwa [inbox_of_silent ha h] at hdropped

/-- The inboxes after a send. -/
theorem pends_sent {env : Envelope} {target : ℕ} {data : β}
    (hsent : Sent w K s t i env target data) (ht : t.NoDrops) {j : ι} {p : ℕ} :
    t.Pends w id j p ↔ s.Pends w id j p ∨ w.Hears i target j p ∧ env.msgId = id := by
  have hqueue := queue_broadcast (hsent.inbox ▸ ht j p)
  rw [← hsent.inbox] at hqueue
  unfold Pends
  rw [hqueue]
  by_cases hhears : w.Hears i target j p
  · obtain ⟨env₁, hread, -, hid₁⟩ := hsent.read j p hhears.2.1 hhears.2.2
    rw [if_pos hhears]
    constructor
    · rintro ⟨d, hd, env', hdec, hid⟩
      rcases List.mem_append.mp hd with hold | hnew
      · exact .inl ⟨d, hold, env', hdec, hid⟩
      · rw [List.mem_singleton.mp hnew, hread] at hdec
        cases hdec
        exact .inr ⟨hhears, hid₁.symm.trans hid⟩
    · rintro (⟨d, hd, hdec⟩ | ⟨-, hid⟩)
      · exact ⟨d, List.mem_append_left _ hd, hdec⟩
      · exact ⟨data, List.mem_append_right _ (List.mem_singleton_self _), env₁, hread,
          hid₁.trans hid⟩
  · rw [if_neg hhears]
    exact (or_iff_left fun h ↦ hhears h.1).symm

/-- A send of the message is a send of the flood, and any other one leaves it as it is. -/
theorem flood_sent {env : Envelope} {target : ℕ} {data : β}
    (hsent : Sent w K s t i env target data) (ht : t.NoDrops) :
    flood w id t = flood w id s ∨ Flooding.Step w.wiring (flood w id s) (flood w id t) := by
  obtain ⟨k, rest, hduties, hduties'⟩ := hsent.duties
  obtain ⟨n, hlog, hn⟩ := hsent.notice
  have horigins : (flood w id t).origins = (flood w id s).origins := by
    ext j
    show Originated id _ ↔ Originated id _
    by_cases hj : j = i
    · rw [hj, hlog, originated_append]
      refine or_iff_left (not_originated_singleton ?_)
      rintro env' new rfl
      cases hn
    · rw [hsent.others j hj]
  have hknows : (flood w id t).knows = (flood w id s).knows := by
    ext j
    show id ∈ newIds _ ↔ id ∈ newIds _
    by_cases hj : j = i
    · rw [hj, hlog, newIds_sent hn]
    · rw [hsent.others j hj]
  have howes : (flood w id t).owes ⊆ (flood w id s).owes := by
    rintro ⟨⟨j, p⟩, hp⟩ howed
    by_cases hj : j = i
    · subst hj
      exact owes_of_taken hduties hduties' howed
    · have hsame := hsent.others j hj
      show (s.nodes j).1.Owes _ _ _
      rw [← hsame]
      exact howed
  have hkept : ∀ p ∈ (flood w id s).owes, (env.msgId = id → p.1 ≠ (i, target)) →
      p ∈ (flood w id t).owes := by
    rintro ⟨⟨j, p⟩, hp⟩ howed hne
    by_cases hj : j = i
    · subst hj
      refine owes_of_not_taken hduties hduties' howed fun hid ↦ ?_
      rintro rfl
      exact hne hid rfl
    · have hsame := hsent.others j hj
      show (t.nodes j).1.Owes _ _ _
      rw [hsame]
      exact howed
  by_cases hid : env.msgId = id
  · right
    refine .send ⟨(i, target), hsent.port⟩ ?_ horigins hknows ?_ howes ?_
    · exact ⟨k, env, hduties ▸ List.mem_cons_self, hid⟩
    · exact fun p hp hne ↦ hkept p hp fun _ heq ↦ hne (Subtype.ext heq)
    · ext ⟨⟨j, p⟩, hp⟩
      refine (pends_sent hsent ht).trans (or_congr_right ?_)
      constructor
      · rintro ⟨⟨hne, -, hbus⟩, -⟩
        exact ⟨fun heq ↦ hne (congrArg Subtype.val heq), hbus⟩
      · rintro ⟨hne, hbus⟩
        exact ⟨⟨fun heq ↦ hne (Subtype.ext heq), hp, hbus⟩, hid⟩
  · left
    refine Flooding.State.ext horigins hknows (Set.Subset.antisymm howes ?_) ?_
    · exact fun p hp ↦ hkept p hp fun hid' ↦ absurd hid' hid
    · ext ⟨⟨j, p⟩, hp⟩
      exact (pends_sent hsent ht).trans (or_iff_left fun h ↦ hid h.2)

omit [DecidableEq κ] in
/-- What holds of the other routers as before, and of this one as before. -/
theorem setOf_update_eq {α : Type} {P : α → Prop} {f : ι → α} {a : α} (h : P a ↔ P (f i)) :
    {j | P (Function.update f i a j)} = {j | P (f j)} := by
  ext j
  by_cases hj : j = i
  · rw [hj, Set.mem_ofPred_eq, Function.update_self]
    exact h
  · rw [Set.mem_ofPred_eq, Function.update_of_ne hj]
    rfl

omit [DecidableEq κ] in
/-- What holds of the other routers as before, and of this one now. -/
theorem setOf_update_insert {α : Type} {P : α → Prop} {f : ι → α} {a : α} (h : P a) :
    {j | P (Function.update f i a j)} = insert i {j | P (f j)} := by
  ext j
  by_cases hj : j = i
  · rw [hj, Set.mem_ofPred_eq, Function.update_self]
    exact iff_of_true h (Set.mem_insert i _)
  · rw [Set.mem_ofPred_eq, Function.update_of_ne hj, Set.mem_insert_iff, or_iff_right hj]
    rfl

omit [DecidableEq κ] in
/-- What the routers owe, when a task of one of them has taken something on. -/
theorem owes_update (id : String) {q : Node} (log : List Notice) (inbox : ι → ℕ → Inbox β)
    {k : ℕ ⊕ ℕ} {ds : List (Envelope × ℕ)} (hnone : (s.nodes i).1.duties (w.router i) k = [])
    (hduties : q.duties (w.router i) =
      Function.update ((s.nodes i).1.duties (w.router i)) k ds) (p : w.Port) :
    p ∈ (flood w id ⟨Function.update s.nodes i (q, log), inbox⟩).owes ↔
      p ∈ (flood w id s).owes ∨ p.1.1 = i ∧ ∃ env, (env, p.1.2) ∈ ds ∧ env.msgId = id := by
  obtain ⟨⟨j, p⟩, hp⟩ := p
  show Node.Owes _ (Function.update s.nodes i (q, log) j).1 id p ↔ Node.Owes _ _ id p ∨ _
  by_cases hj : j = i
  · subst hj
    rw [Function.update_self, owes_of_added hnone hduties, and_iff_right rfl]
  · rw [Function.update_of_ne hj]
    exact (or_iff_left fun h ↦ hj h.1).symm

/-- A router that publishes the message is an origin of the flood. -/
theorem flood_publish (hs : s.Inside w K) {c : ℕ} {env : Envelope}
    (h : s.step w (.act i (.publish c env)) = some t) :
    flood w id t = flood w id s ∨ Flooding.Step w.wiring (flood w id s) (flood w id t) := by
  have hinbox := inbox_of_silent (a := .publish c env) not_false h
  obtain ⟨q, hq, rfl⟩ := step_act h
  obtain ⟨hnone, hduties⟩ := Node.duties_publish hq
  have hpublished : (s.nodes i).1.observe (w.router i) (Act.publish c env).event =
    [.published env (decide (env.msgId ∉ (s.nodes i).1.seen))] := rfl
  rw [hpublished] at hinbox ⊢
  dsimp only at hinbox
  rw [hinbox]
  have hknown := mem_newIds_published (hs.accounts i) env id
  have howes := owes_update (w := w) id
    ((s.nodes i).2 ++ [.published env (decide (env.msgId ∉ (s.nodes i).1.seen))]) s.inbox
    hnone hduties
  by_cases hid : env.msgId = id
  · right
    refine .originate i ?_ ?_ ?_ rfl
    · exact setOf_update_insert (P := fun n : Node × List Notice ↦ Originated id n.2)
        ⟨env, _, List.mem_append_right _ (List.mem_singleton_self _), hid⟩
    · exact setOf_update_insert (P := fun n : Node × List Notice ↦ id ∈ newIds n.2)
        (hknown.mpr (.inl hid.symm))
    · ext p
      refine (howes p).trans (or_congr_right (and_iff_left_of_imp ?_))
      rintro rfl
      exact ⟨env, List.mem_map.mpr ⟨p.1.2, List.mem_range.mpr p.2, rfl⟩, hid⟩
  · left
    refine Flooding.State.ext ?_ ?_ ?_ rfl
    · refine setOf_update_eq (P := fun n : Node × List Notice ↦ Originated id n.2) ?_
      refine originated_append.trans (or_iff_left ?_)
      rintro ⟨env', new, hmem, hid'⟩
      cases List.mem_singleton.mp hmem
      exact hid hid'
    · exact setOf_update_eq (P := fun n : Node × List Notice ↦ id ∈ newIds n.2)
        (hknown.trans (or_iff_right fun h ↦ hid h.symm))
    · ext p
      refine (howes p).trans (or_iff_left ?_)
      rintro ⟨-, env', hmem, hid'⟩
      obtain ⟨t, -, heq⟩ := List.mem_map.mp hmem
      cases heq
      exact hid hid'

/-- The other acts are none of the flood. -/
theorem flood_silent {a : Act} (ha : ¬ a.Sends) (hpublish : ∀ c env, a ≠ .publish c env)
    (h : s.step w (.act i a) = some t) : flood w id t = flood w id s := by
  have hinbox := inbox_of_silent ha h
  obtain ⟨q, hq, rfl⟩ := step_act h
  dsimp only at hinbox
  rw [hinbox]
  have hsame : ∀ {ns}, (s.nodes i).1.observe (w.router i) a.event = ns → newIds ns = [] →
      ¬ Originated id ns → q.duties (w.router i) = (s.nodes i).1.duties (w.router i) →
      flood w id ⟨Function.update s.nodes i
        (q, (s.nodes i).2 ++ (s.nodes i).1.observe (w.router i) a.event), s.inbox⟩ =
          flood w id s := by
    rintro ns rfl hnew horigin hduties
    refine Flooding.State.ext ?_ ?_ ?_ rfl
    · exact setOf_update_eq (P := fun n : Node × List Notice ↦ Originated id n.2)
        (originated_append.trans (or_iff_left horigin))
    · refine setOf_update_eq (P := fun n : Node × List Notice ↦ id ∈ newIds n.2) ?_
      rw [newIds_append, hnew, List.append_nil]
    · ext ⟨⟨j, p⟩, hp⟩
      show Node.Owes _ (Function.update s.nodes i _ j).1 id p ↔ Node.Owes _ _ id p
      by_cases hj : j = i
      · subst hj
        rw [Function.update_self, Node.Owes, hduties]
        rfl
      · rw [Function.update_of_ne hj]
  cases a with
  | subscribe =>
      cases hq
      exact hsame rfl rfl (fun ⟨_, _, hmem, _⟩ ↦ List.not_mem_nil hmem) rfl
  | publish c env => exact absurd rfl (hpublish c env)
  | handled source ok =>
      have hduties := Node.duties_handled hq
      obtain ⟨env, n, hpump, -⟩ := Node.step_handled hq
      have hnotice : (s.nodes i).1.observe (w.router i) (.handled source ok) =
          [.handed source env n] := by
        simp only [Node.observe, hpump]
      exact hsame hnotice rfl (not_originated_singleton fun _ _ ↦ by rintro ⟨⟩) hduties
  | sendPublished c => exact (ha trivial).elim
  | sendForwarded source => exact (ha trivial).elim

omit [DecidableEq κ] in
/-- The inboxes after a frame has been taken. -/
theorem pends_pulled {source : ℕ} {data : β} {rest : List β} {env : Envelope}
    (hqueue : (s.inbox i source).queue = data :: rest)
    (hdec : ((w.router i).codecFor source).decode data = .ok env)
    (nodes : ι → Node × List Notice) (id : String) (j : ι) (p : ℕ) :
    (s.Pends w id j p → (env.msgId = id → (j, p) ≠ (i, source)) →
      Pends w ⟨nodes, s.taken i source rest⟩ id j p) ∧
    (Pends w ⟨nodes, s.taken i source rest⟩ id j p → s.Pends w id j p) := by
  by_cases hport : (j, p) = (i, source)
  · obtain ⟨rfl, rfl⟩ := Prod.mk.inj hport
    unfold Pends
    simp only [taken_self, hqueue]
    constructor
    · rintro ⟨d, hd, env', hdec', hid⟩ hne
      rcases List.mem_cons.mp hd with rfl | hd
      · rw [hdec] at hdec'
        cases hdec'
        exact absurd rfl (hne hid)
      · exact ⟨d, hd, env', hdec', hid⟩
    · rintro ⟨d, hd, hpends⟩
      exact ⟨d, List.mem_cons_of_mem _ hd, hpends⟩
  · unfold Pends
    dsimp only
    rw [taken_of_ne hport]
    exact ⟨fun h _ ↦ h, fun h ↦ h⟩

/-- A router that takes a frame of the message receives it from the flood. -/
theorem flood_pull (hs : s.Inside w K) {source : ℕ}
    (h : s.step w (.pull i source) = some t) :
    flood w id t = flood w id s ∨ Flooding.Step w.wiring (flood w id s) (flood w id t) := by
  obtain ⟨data, rest, q, hqueue, hq, rfl⟩ := step_pull h
  have hsource := (Node.step_frame hq).2.1
  obtain ⟨hnone, hduties⟩ := Node.duties_frame hq
  obtain ⟨_, env, hdec, -⟩ := hs.queued i source hsource data (hqueue ▸ List.mem_cons_self)
  have hknown : ∀ id', id' ∈ newIds ((s.nodes i).2 ++
      [.pulled source ((s.nodes i).1.verdict (w.router i) source data)]) ↔
        id' = env.msgId ∨ id' ∈ newIds (s.nodes i).2 :=
    fun _ ↦ mem_newIds_pulled (hs.accounts i) hdec
  have horigin : Originated id ((s.nodes i).2 ++
      [.pulled source ((s.nodes i).1.verdict (w.router i) source data)]) ↔
        Originated id (s.nodes i).2 := by
    refine originated_append.trans (or_iff_left (not_originated_singleton ?_))
    rintro _ _ ⟨⟩
  generalize (s.nodes i).2 ++
    [.pulled source ((s.nodes i).1.verdict (w.router i) source data)] = log at hknown horigin ⊢
  have howes := owes_update (w := w) id log (s.taken i source rest) hnone hduties
  have horigins : (flood w id ⟨Function.update s.nodes i (q, log), s.taken i source rest⟩).origins =
      (flood w id s).origins :=
    setOf_update_eq (P := fun n : Node × List Notice ↦ Originated id n.2) horigin
  have hpends := pends_pulled (w := w) hqueue hdec (Function.update s.nodes i (q, log)) id
  by_cases hid : env.msgId = id
  · right
    refine .receive ⟨(i, source), hsource⟩ ?_ horigins ?_ ?_ ?_ ?_ ?_ ?_
    · exact ⟨data, hqueue ▸ List.mem_cons_self, env, hdec, hid⟩
    · exact setOf_update_insert (P := fun n : Node × List Notice ↦ id ∈ newIds n.2)
        ((hknown id).mpr (.inl hid.symm))
    · exact fun p hp ↦ (howes p).mpr (.inl hp)
    · rintro p hp
      exact ((howes p).mp hp).imp_right And.left
    · rintro hnew ⟨⟨j, p⟩, hp⟩ hj hne
      have hj' : j = i := hj
      subst hj'
      have hseen : env.msgId ∉ (s.nodes j).1.seen := fun hseen ↦
        hnew (hid ▸ mem_newIds_of_seen (hs.accounts j) hseen)
      refine (howes _).mpr (.inr ⟨rfl, env, ?_, hid⟩)
      rw [Node.verdict, hdec]
      dsimp only
      rw [if_neg hseen]
      refine List.mem_map.mpr ⟨p, List.mem_filter.mpr ⟨List.mem_range.mpr hp, ?_⟩, rfl⟩
      rw [decide_eq_true_iff]
      rintro rfl
      exact hne rfl
    · rintro ⟨⟨j, p⟩, hp⟩ hheard hne
      exact (hpends j p).1 hheard fun _ heq ↦ hne (Subtype.ext heq)
    · exact fun p hp ↦ (hpends p.1.1 p.1.2).2 hp
  · left
    refine Flooding.State.ext horigins ?_ ?_ ?_
    · exact setOf_update_eq (P := fun n : Node × List Notice ↦ id ∈ newIds n.2)
        ((hknown id).trans (or_iff_right fun h ↦ hid h.symm))
    · ext p
      refine (howes p).trans (or_iff_left ?_)
      rintro ⟨-, env', hmem, hid'⟩
      rw [mem_duties_verdict hdec hmem] at hid'
      exact hid hid'
    · ext p
      exact ⟨fun hp ↦ (hpends p.1.1 p.1.2).2 hp,
        fun hp ↦ (hpends p.1.1 p.1.2).1 hp fun hid' ↦ absurd hid' hid⟩

/-- **Simulation.**  Where no inbox overflows, a step of the network is a step of the flood of
each message, or leaves it as it is. -/
theorem flood_step (id : String) (hs : s.Inside w K) (hK : w.Relays K) {e : BusEvent ι}
    (h : s.step w e = some t) (ht : t.NoDrops) :
    flood w id t = flood w id s ∨ Flooding.Step w.wiring (flood w id s) (flood w id t) := by
  cases e with
  | pull i source => exact flood_pull hs h
  | act i a =>
      by_cases ha : a.Sends
      · obtain ⟨env, target, data, hsent⟩ := hs.sent hK ha h
        exact flood_sent hsent ht
      · cases a with
        | publish c env => exact flood_publish hs h
        | subscribe => exact .inl (flood_silent ha (fun _ _ ↦ by rintro ⟨⟩) h)
        | handled source ok => exact .inl (flood_silent ha (fun _ _ ↦ by rintro ⟨⟩) h)
        | sendPublished c => exact (ha trivial).elim
        | sendForwarded source => exact (ha trivial).elim

end BusNet

end DroneComms.Mesh
