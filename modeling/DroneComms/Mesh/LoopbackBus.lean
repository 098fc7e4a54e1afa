import DroneComms.Lib.Flooding
import DroneComms.Mesh.Duties
import DroneComms.Transports.Inbox

/-!
# Nodes on loopback buses

Any number of routers whose transports are `LoopbackTransport`s of
`meshsa/transports/loopback.py`.  What a transport sends is put into the inbox of every
other transport of its bus; a pump takes the frames of its inbox one by one.  A router
may have two transports on one bus.

A message floods the network: the tasks of a router owe it to transports
(`Node.duties`), and it is pending in the inboxes.  `BusNet.flood` reads off what
`Flooding.State` speaks of, and every step of the network is a step of the flood or
leaves it as it is.
-/

namespace DroneComms.Mesh

open Transports (Inbox)

variable {ι κ β : Type}

/-! ## The network -/

/-- The routers, and the buses their transports are attached to. -/
structure BusWiring (ι κ β : Type) where
  router : ι → Router β
  bus : ι → ℕ → κ
  queueMaxsize : ι → ℕ → Int

/-- Routers with their ledgers, and the inboxes of their transports. -/
structure BusNet (ι β : Type) where
  nodes : ι → Node × List Notice
  inbox : ι → ℕ → Inbox β

/-- What is asked of a router, and what its tasks do.  The `send` of a loopback transport
does not raise. -/
inductive Act where
  | subscribe
  | publish (i : ℕ) (e : Envelope)
  | handled (source : ℕ) (ok : Bool)
  | sendPublished (i : ℕ)
  | sendForwarded (source : ℕ)

def Act.event : Act → NodeEvent β
  | subscribe => .subscribe
  | publish i e => .publish i e
  | handled source ok => .handled source ok
  | sendPublished i => .sendPublished i true
  | sendForwarded source => .sendForwarded source true

/-- The acts that send. -/
def Act.Sends : Act → Prop
  | .sendPublished _ | .sendForwarded _ => True
  | _ => False

inductive BusEvent (ι : Type) where
  | /-- A pump takes the oldest frame of its inbox. -/ pull (i : ι) (source : ℕ)
  | act (i : ι) (a : Act)

namespace BusWiring

variable [DecidableEq ι] [DecidableEq κ]

/-- The transport is a member of the bus, and not the sender. -/
def Hears (w : BusWiring ι κ β) (i : ι) (p : ℕ) (j : ι) (q : ℕ) : Prop :=
  (j, q) ≠ (i, p) ∧ q < (w.router j).transports.length ∧ w.bus j q = w.bus i p

instance (w : BusWiring ι κ β) (i : ι) (p : ℕ) (j : ι) (q : ℕ) : Decidable (w.Hears i p j q) :=
  inferInstanceAs (Decidable (_ ∧ _))

/-- `LoopbackBus.broadcast`. -/
def broadcast (w : BusWiring ι κ β) (inbox : ι → ℕ → Inbox β) (i : ι) (p : ℕ) (data : β) :
    ι → ℕ → Inbox β :=
  fun j q ↦ if w.Hears i p j q then (inbox j q).ingestNowait data else inbox j q

/-- What a task does to the inboxes. -/
def transmit (w : BusWiring ι κ β) (i : ι) (inbox : ι → ℕ → Inbox β) :
    Notice → ι → ℕ → Inbox β
  | .sent env target | .forwarded _ env target =>
      match ((w.router i).codecFor target).encode env with
      | .ok data => w.broadcast inbox i target data
      | .error _ => inbox
  | _ => inbox

end BusWiring

namespace BusNet

/-- All transports have just been started. -/
def start (w : BusWiring ι κ β) : BusNet ι β where
  nodes _ := ({}, [])
  inbox i p := { queueMaxsize := w.queueMaxsize i p }

variable [DecidableEq ι] [DecidableEq κ]

/-- One step.  A pump that is suspended in `get` is one that has not called it yet. -/
def step (w : BusWiring ι κ β) (s : BusNet ι β) : BusEvent ι → Option (BusNet ι β)
  | .pull i source =>
      match (s.inbox i source).get source with
      | (_, none) => none
      | (inbox, some data) =>
          (Node.stepWithLedger (w.router i) (s.nodes i) (.frame source data)).map fun q ↦
            { nodes := Function.update s.nodes i q
              inbox := Function.update s.inbox i (Function.update (s.inbox i) source inbox) }
  | .act i a =>
      (Node.stepWithLedger (w.router i) (s.nodes i) a.event).map fun q ↦
        { nodes := Function.update s.nodes i q
          inbox := ((s.nodes i).1.observe (w.router i) a.event).foldl (w.transmit i) s.inbox }

/-- The inboxes after the oldest frame of one of them has been taken. -/
def taken (s : BusNet ι β) (i : ι) (source : ℕ) (rest : List β) : ι → ℕ → Inbox β :=
  Function.update s.inbox i (Function.update (s.inbox i) source
    { s.inbox i source with queue := rest })

/-- No frame has been dropped. -/
def NoDrops (s : BusNet ι β) : Prop := ∀ i p, (s.inbox i p).droppedInboxFull = 0

/-- Nothing can happen but what is asked of the routers. -/
def Quiet (w : BusWiring ι κ β) (s : BusNet ι β) : Prop :=
  (∀ i source, s.step w (.pull i source) = none) ∧
    ∀ i k, (∀ ok, s.step w (.act i (.handled k ok)) = none) ∧
      s.step w (.act i (.sendPublished k)) = none ∧ s.step w (.act i (.sendForwarded k)) = none

end BusNet

/-! ## One step of the network -/

namespace BusNet

variable [DecidableEq ι] [DecidableEq κ] {w : BusWiring ι κ β} {s t : BusNet ι β} {i : ι}

omit [DecidableEq κ] in
theorem taken_self (s : BusNet ι β) (i : ι) (source : ℕ) (rest : List β) :
    s.taken i source rest i source = { s.inbox i source with queue := rest } := by
  rw [taken, Function.update_self, Function.update_self]

omit [DecidableEq κ] in
theorem taken_of_ne {source : ℕ} {rest : List β} {j : ι} {p : ℕ} (h : (j, p) ≠ (i, source)) :
    s.taken i source rest j p = s.inbox j p := by
  unfold taken
  by_cases hj : j = i
  · subst hj
    rw [Function.update_self, Function.update_of_ne]
    rintro rfl
    exact h rfl
  · rw [Function.update_of_ne hj]

/-- A pump takes the oldest frame. -/
theorem step_pull {source : ℕ} (h : s.step w (.pull i source) = some t) :
    ∃ data rest q, (s.inbox i source).queue = data :: rest ∧
      (s.nodes i).1.step (w.router i) (.frame source data) = some q ∧
      t = { nodes := Function.update s.nodes i
              (q, (s.nodes i).2 ++ [.pulled source ((s.nodes i).1.verdict (w.router i) source data)])
            inbox := s.taken i source rest } := by
  simp only [step, Inbox.get] at h
  cases hqueue : (s.inbox i source).queue with
  | nil =>
      rw [hqueue] at h
      cases h
  | cons data rest =>
      rw [hqueue] at h
      obtain ⟨⟨q, log⟩, hq, rfl⟩ := Option.map_eq_some_iff.mp h
      obtain ⟨hstep, hlog⟩ := Automaton.traced_eq_some.mp hq
      dsimp only at hstep hlog
      exact ⟨data, rest, q, rfl, hstep, by rw [hlog]; rfl⟩

/-- A router acts, and what it sends goes over its buses. -/
theorem step_act {a : Act} (h : s.step w (.act i a) = some t) :
    ∃ q, (s.nodes i).1.step (w.router i) a.event = some q ∧
      t = { nodes := Function.update s.nodes i
              (q, (s.nodes i).2 ++ (s.nodes i).1.observe (w.router i) a.event)
            inbox := ((s.nodes i).1.observe (w.router i) a.event).foldl (w.transmit i) s.inbox } := by
  obtain ⟨⟨q, log⟩, hq, rfl⟩ := Option.map_eq_some_iff.mp h
  obtain ⟨hstep, hlog⟩ := Automaton.traced_eq_some.mp hq
  dsimp only at hstep hlog
  exact ⟨q, hstep, by rw [hlog]⟩

end BusNet

/-! ## Envelopes that the buses carry -/

/-- A transport reads the frame as the message. -/
def BusWiring.Reads (w : BusWiring ι κ β) (K : Envelope → Prop) (id : String) (j : ι) (q : ℕ)
    (data : β) : Prop :=
  ∃ env, ((w.router j).codecFor q).decode data = .ok env ∧ K env ∧ env.msgId = id

/-- What a transport sends of the family, every transport on its bus reads as the same message
of the family. -/
def BusWiring.Relays (w : BusWiring ι κ β) (K : Envelope → Prop) : Prop :=
  ∀ i p env, K env → p < (w.router i).transports.length →
    ∃ data, ((w.router i).codecFor p).encode env = .ok data ∧
      ∀ j q, q < (w.router j).transports.length → w.bus j q = w.bus i p →
        w.Reads K env.msgId j q data

/-- What a transport sends of the family, every transport on its bus reads as it was. -/
def BusWiring.Carries (w : BusWiring ι κ β) (K : Envelope → Prop) : Prop :=
  ∀ i p env, K env → p < (w.router i).transports.length →
    ∃ data, ((w.router i).codecFor p).encode env = .ok data ∧
      ∀ j q, q < (w.router j).transports.length → w.bus j q = w.bus i p →
        ((w.router j).codecFor q).decode data = .ok env

variable {K : Envelope → Prop}

/-- Where envelopes are read as they were, so is every part of the family. -/
theorem BusWiring.Carries.relays {w : BusWiring ι κ β} (hK : w.Carries K)
    (P : Envelope → Prop) : w.Relays fun env ↦ K env ∧ P env := by
  rintro i p env ⟨henv, hP⟩ hp
  obtain ⟨data, henc, hdec⟩ := hK i p env henv hp
  exact ⟨data, henc, fun j q hq hbus ↦ ⟨env, hdec j q hq hbus, ⟨henv, hP⟩, rfl⟩⟩

/-- The messages of some ids are relayed as well. -/
theorem BusWiring.Relays.restrict {w : BusWiring ι κ β} (hK : w.Relays K) (P : String → Prop) :
    w.Relays fun env ↦ K env ∧ P env.msgId := by
  rintro i p env ⟨henv, hP⟩ hp
  obtain ⟨data, henc, hread⟩ := hK i p env henv hp
  refine ⟨data, henc, fun j q hq hbus ↦ ?_⟩
  obtain ⟨env', hdec, henv', hid⟩ := hread j q hq hbus
  exact ⟨env', hdec, ⟨henv', hid ▸ hP⟩, hid⟩

theorem BusWiring.Relays.takes {w : BusWiring ι κ β} (hK : w.Relays K) (i : ι) :
    (w.router i).Takes K := by
  intro env p henv hp
  obtain ⟨data, hdata, -⟩ := hK i p env henv hp
  rw [Router.Encodes, hdata]
  rfl

/-- What is published is of the family. -/
def BusEvent.Publishes (K : Envelope → Prop) : BusEvent ι → Prop
  | .act _ (.publish _ env) => K env
  | _ => True

/-- The id that is published. -/
def BusEvent.publishedId : BusEvent ι → Option String
  | .act _ (.publish _ env) => some env.msgId
  | _ => none

/-- The ids that are published in a run. -/
def publishedIds (es : List (BusEvent ι)) : List String := es.filterMap BusEvent.publishedId

theorem mem_publishedIds {es : List (BusEvent ι)} {c : ℕ} {env : Envelope}
    (h : .act i (.publish c env) ∈ es) : env.msgId ∈ publishedIds es :=
  List.mem_filterMap.mpr ⟨_, h, rfl⟩

theorem hears_event {r : Router β} {a : Act} (h : (BusEvent.act i a).Publishes K) :
    Node.Hears K r a.event := by
  cases a with
  | publish c env => exact h
  | subscribe => trivial
  | handled source ok => trivial
  | sendPublished c => trivial
  | sendForwarded source => trivial

theorem goes_event (a : Act) : (a.event : NodeEvent β).Goes := by
  cases a <;> trivial

namespace BusNet

/-- Only the family is on the buses and in the routers, and no task has raised. -/
structure Inside (w : BusWiring ι κ β) (K : Envelope → Prop) (s : BusNet ι β) : Prop where
  accounts : ∀ i, (s.nodes i).1.Accounts (w.router i) (s.nodes i).2
  running : ∀ i, (s.nodes i).1.Running K (w.router i)
  queued : ∀ i p, p < (w.router i).transports.length → ∀ data ∈ (s.inbox i p).queue,
    ∃ id, w.Reads K id i p data

variable [DecidableEq ι] [DecidableEq κ] {w : BusWiring ι κ β} {s t : BusNet ι β} {i : ι}

/-! ### What a send does to the inboxes -/

/-- What is in an inbox was there, or has been sent on its bus. -/
theorem mem_queue_broadcast {inbox : ι → ℕ → Inbox β} {p : ℕ} {data d : β} {j : ι} {q : ℕ}
    (h : d ∈ (w.broadcast inbox i p data j q).queue) :
    d ∈ (inbox j q).queue ∨ w.Hears i p j q ∧ d = data := by
  unfold BusWiring.broadcast at h
  split_ifs at h with hhears
  · rcases (inbox j q).ingestNowait_cases data with ⟨-, hin⟩ | ⟨-, hin⟩
    · obtain ⟨getters, woken, hwake⟩ :=
        Inbox.wakeupNext_eq { inbox j q with queue := (inbox j q).queue ++ [data] }
      rw [hin, hwake] at h
      rcases List.mem_append.mp h with hold | hnew
      · exact .inl hold
      · exact .inr ⟨hhears, List.mem_singleton.mp hnew⟩
    · rw [hin] at h
      exact .inl h
  · exact .inl h

/-- Where nothing is dropped, every inbox of the bus gets the frame. -/
theorem queue_broadcast {inbox : ι → ℕ → Inbox β} {p : ℕ} {data : β} {j : ι} {q : ℕ}
    (h : (w.broadcast inbox i p data j q).droppedInboxFull = 0) :
    (w.broadcast inbox i p data j q).queue =
      if w.Hears i p j q then (inbox j q).queue ++ [data] else (inbox j q).queue := by
  unfold BusWiring.broadcast at h ⊢
  split_ifs at h ⊢ with hhears
  · rcases (inbox j q).ingestNowait_cases data with ⟨-, hin⟩ | ⟨-, hin⟩
    · obtain ⟨getters, woken, hwake⟩ :=
        Inbox.wakeupNext_eq { inbox j q with queue := (inbox j q).queue ++ [data] }
      rw [hin, hwake]
    · rw [hin] at h
      cases h
  · rfl

/-- A send drops no frame that was not dropped before. -/
theorem dropped_broadcast {inbox : ι → ℕ → Inbox β} {p : ℕ} {data : β} {j : ι} {q : ℕ}
    (h : (w.broadcast inbox i p data j q).droppedInboxFull = 0) :
    (inbox j q).droppedInboxFull = 0 := by
  unfold BusWiring.broadcast at h
  split_ifs at h
  · rcases (inbox j q).ingestNowait_cases data with ⟨-, hin⟩ | ⟨-, hin⟩
    · obtain ⟨getters, woken, hwake⟩ :=
        Inbox.wakeupNext_eq { inbox j q with queue := (inbox j q).queue ++ [data] }
      rw [hin, hwake] at h
      exact h
    · rw [hin] at h
      cases h
  · exact h

/-! ### What an act does -/

/-- A task of the router has sent to its next target. -/
structure Sent (w : BusWiring ι κ β) (K : Envelope → Prop) (s t : BusNet ι β) (i : ι)
    (env : Envelope) (target : ℕ) (data : β) : Prop where
  family : K env
  port : target < (w.router i).transports.length
  read : ∀ j q, q < (w.router j).transports.length → w.bus j q = w.bus i target →
    w.Reads K env.msgId j q data
  duties : ∃ k rest, (s.nodes i).1.duties (w.router i) k = (env, target) :: rest ∧
    (t.nodes i).1.duties (w.router i) = Function.update ((s.nodes i).1.duties (w.router i)) k rest
  notice : ∃ n, (t.nodes i).2 = (s.nodes i).2 ++ [n] ∧ n.sentEnvelope = some env
  others : ∀ j, j ≠ i → t.nodes j = s.nodes j
  inbox : t.inbox = w.broadcast s.inbox i target data

theorem Inside.sent (hs : s.Inside w K) (hK : w.Relays K) {a : Act} (ha : a.Sends)
    (h : s.step w (.act i a) = some t) : ∃ env target data, Sent w K s t i env target data := by
  obtain ⟨q, hq, rfl⟩ := step_act h
  have htakes := hK.takes i
  have hsent : ∀ {env target k rest n}, K env → target < (w.router i).transports.length →
      (s.nodes i).1.duties (w.router i) k = (env, target) :: rest →
      q.duties (w.router i) = Function.update ((s.nodes i).1.duties (w.router i)) k rest →
      (s.nodes i).1.observe (w.router i) a.event = [n] →
      n = .sent env target ∨ (∃ source, n = .forwarded source env target) →
      ∃ env target data, Sent w K s
        { nodes := Function.update s.nodes i
            (q, (s.nodes i).2 ++ (s.nodes i).1.observe (w.router i) a.event)
          inbox := ((s.nodes i).1.observe (w.router i) a.event).foldl (w.transmit i) s.inbox }
        i env target data := by
    intro env target k rest n henv htarget hduties hduties' hnotice hn
    obtain ⟨data, henc, hread⟩ := hK i target env henv htarget
    refine ⟨env, target, data, henv, htarget, hread, ⟨k, rest, hduties, ?_⟩, ⟨n, ?_, ?_⟩, ?_, ?_⟩
    · simp only [Function.update_self, hduties']
    · simp only [Function.update_self, hnotice]
    · rcases hn with rfl | ⟨source, rfl⟩ <;> rfl
    · exact fun j hj ↦ Function.update_of_ne hj _ _
    · dsimp only
      rw [hnotice, List.foldl_cons, List.foldl_nil]
      rcases hn with rfl | ⟨source, rfl⟩
      · simp only [BusWiring.transmit, henc]
      · simp only [BusWiring.transmit, henc]
  cases a with
  | subscribe => exact ha.elim
  | publish c env => exact ha.elim
  | handled source ok => exact ha.elim
  | sendPublished c =>
      obtain ⟨env, target, rest, henv, htarget, hduties, hduties', hnotice, -⟩ :=
        (hs.running i).sendPublished htakes rfl hq
      exact hsent henv htarget hduties hduties' hnotice (.inl rfl)
  | sendForwarded source =>
      obtain ⟨env, target, rest, henv, htarget, hduties, hduties', hnotice, -⟩ :=
        (hs.running i).sendForwarded htakes rfl hq
      exact hsent henv htarget hduties hduties' hnotice (.inr ⟨source, rfl⟩)

/-- The other acts leave the inboxes alone. -/
theorem inbox_of_silent {a : Act} (ha : ¬ a.Sends) (h : s.step w (.act i a) = some t) :
    t.inbox = s.inbox := by
  obtain ⟨q, hq, rfl⟩ := step_act h
  cases a with
  | subscribe => rfl
  | publish c env => rfl
  | handled source ok =>
      obtain ⟨env, n, hpump, -⟩ := Node.step_handled hq
      have hnotice : (s.nodes i).1.observe (w.router i) (.handled source ok) =
          [.handed source env n] := by
        simp only [Node.observe, hpump]
      show (List.foldl _ _ ((s.nodes i).1.observe (w.router i) (.handled source ok))) = _
      rw [hnotice]
      rfl
  | sendPublished c => exact (ha trivial).elim
  | sendForwarded source => exact (ha trivial).elim

/-! ### What a step keeps -/

omit [DecidableEq ι] [DecidableEq κ] in
/-- A frame that is taken is of the family. -/
theorem Inside.hears (hs : s.Inside w K) {source : ℕ} {data : β} {rest : List β}
    (hsource : source < (w.router i).transports.length)
    (hqueue : (s.inbox i source).queue = data :: rest) :
    Node.Hears K (w.router i) (.frame source data) := by
  obtain ⟨id, env, hdec, henv, -⟩ :=
    hs.queued i source hsource data (hqueue ▸ List.mem_cons_self)
  intro env' hdec'
  rw [hdec] at hdec'
  cases hdec'
  exact henv

theorem Inside.step (hs : s.Inside w K) (hK : w.Relays K) {e : BusEvent ι}
    (he : e.Publishes K) (h : s.step w e = some t) : t.Inside w K := by
  cases e with
  | pull i source =>
      obtain ⟨data, rest, q, hqueue, hq, rfl⟩ := step_pull h
      have hsource := (Node.step_frame hq).2.1
      have hhears := hs.hears hsource hqueue
      refine ⟨Node.forall_update (P := fun j (n : Node × List Notice) ↦
          n.1.Accounts (w.router j) n.2) hs.accounts ((hs.accounts i).step hq),
        Node.forall_update (P := fun j (n : Node × List Notice) ↦ n.1.Running K (w.router j))
          hs.running ((hs.running i).step (hK.takes i) hhears trivial hq), ?_⟩
      refine Node.forall_update (P := fun j (f : ℕ → Inbox β) ↦ ∀ p,
        p < (w.router j).transports.length → ∀ d ∈ (f p).queue, ∃ id, w.Reads K id j p d)
          hs.queued ?_
      refine Node.forall_update (P := fun p (b : Inbox β) ↦
        p < (w.router i).transports.length → ∀ d ∈ b.queue, ∃ id, w.Reads K id i p d)
          (hs.queued i) ?_
      exact fun _ d hd ↦ hs.queued i source hsource d (hqueue ▸ List.mem_cons_of_mem _ hd)
  | act i a =>
      have hqueued : ∀ j p, p < (w.router j).transports.length → ∀ d ∈ (t.inbox j p).queue,
          ∃ id, w.Reads K id j p d := by
        intro j p hp d hd
        by_cases ha : a.Sends
        · obtain ⟨env, target, data, hsent⟩ := hs.sent hK ha h
          rw [hsent.inbox] at hd
          rcases mem_queue_broadcast hd with hold | ⟨⟨-, -, hbus⟩, rfl⟩
          · exact hs.queued j p hp d hold
          · exact ⟨env.msgId, hsent.read j p hp hbus⟩
        · rw [inbox_of_silent ha h] at hd
          exact hs.queued j p hp d hd
      obtain ⟨q, hq, rfl⟩ := step_act h
      exact ⟨Node.forall_update (P := fun j (n : Node × List Notice) ↦
          n.1.Accounts (w.router j) n.2) hs.accounts ((hs.accounts i).step hq),
        Node.forall_update (P := fun j (n : Node × List Notice) ↦ n.1.Running K (w.router j))
          hs.running ((hs.running i).step (hK.takes i) (hears_event he) (goes_event a) hq),
        hqueued⟩

omit [DecidableEq ι] [DecidableEq κ] in
theorem inside_start (w : BusWiring ι κ β) (K : Envelope → Prop) : (start w).Inside w K where
  accounts i := Node.accounts_start (w.router i)
  running i := Node.running_start K (w.router i)
  queued _ _ _ _ h := by cases h

end BusNet

end DroneComms.Mesh
