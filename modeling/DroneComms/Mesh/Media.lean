import DroneComms.Mesh.Budget
import DroneComms.Mesh.CotIdentity
import DroneComms.Mesh.JsonCodec

/-!
# Two nodes on two media

Two routers that both bridge a medium with `JsonCodec` and a medium with `CotCodec`.
What one of them sends on a medium is in the air until it comes to the other one, in
any order.

If a family of envelopes is closed under what the two links make of an envelope, and
its ids are known, then in every run without eviction a message of it is forwarded at
most twice for each id (`Closed.forwards_le`).
-/

namespace DroneComms.Mesh

open Py (Interpreter ElementTree Bytes)

/-- The two media. -/
inductive Medium where
  | json
  | cot
deriving DecidableEq

/-- The two nodes. -/
inductive Side where
  | a
  | b
deriving DecidableEq

def Side.other : Side → Side
  | a => b
  | b => a

section

variable (py : Interpreter) (et : ElementTree) (ej : EnvelopeJson)

/-- The codec of a medium, with the schema versions that a node supports. -/
def Medium.codec (supported : List ℤ) : Medium → Codec Bytes
  | json => jsonCodec ej supported
  | cot => cotCodec py et

/-- What a medium makes of an envelope. -/
def Medium.Link : Medium → Envelope → Envelope → Prop
  | json, env, e' => ∃ b, ej.dump env = some b ∧ ej.validate b = some e'
  | cot, env, e' => Cot.Trip py et {} env e'

/-- A router that bridges the two media, with one transport for each. -/
structure Bridge where
  router : Router Bytes
  supported : List ℤ
  port : Medium → ℕ
  transports : router.transports.length = 2
  port_lt : ∀ m, port m < 2
  port_ne : port .json ≠ port .cot
  codecFor : ∀ m, router.codecFor (port m) = m.codec py et ej supported

end

variable {py : Interpreter} {et : ElementTree} {ej : EnvelopeJson}

/-- What one node encodes the other one decodes. -/
theorem Medium.link_of_decode {m : Medium} {s s' : List ℤ} {env e' : Envelope} {b : Bytes}
    (henc : (m.codec py et ej s).encode env = .ok b)
    (hdec : (m.codec py et ej s').decode b = .ok e') : m.Link py et ej env e' := by
  cases m with
  | json => exact ⟨b, jsonCodec_encode_eq_ok.mp henc, (jsonCodec_decode_eq_ok.mp hdec).1⟩
  | cot => exact ⟨b, henc, hdec⟩

namespace Bridge

/-- The medium of a transport. -/
def medium (g : Bridge py et ej) (target : ℕ) : Option Medium :=
  if target = g.port .json then some .json
  else if target = g.port .cot then some .cot
  else none

theorem port_medium {g : Bridge py et ej} {target : ℕ} {m : Medium}
    (h : g.medium target = some m) : g.port m = target := by
  unfold medium at h
  split_ifs at h with hjson hcot
  · cases h
    exact hjson.symm
  · cases h
    exact hcot.symm

theorem medium_port (g : Bridge py et ej) (m : Medium) : g.medium (g.port m) = some m := by
  cases m with
  | json => exact if_pos rfl
  | cot => exact (if_neg g.port_ne.symm).trans (if_pos rfl)

end Bridge

/-- A frame in the air, on its way to a node. -/
structure Frame where
  receiver : Side
  medium : Medium
  data : Bytes

/-- What a send puts into the air. -/
def Bridge.frame (g : Bridge py et ej) (side : Side) : Notice → Option Frame
  | .sent env target | .forwarded _ env target =>
      (g.medium target).bind fun medium ↦
        ((g.router.codecFor target).encode env).toOption.map fun data ↦
          { receiver := side.other, medium, data }
  | _ => none

/-- Two nodes and the frames in the air. -/
structure Net where
  nodes : Side → Node
  air : List Frame

/-- What a node can do by itself. -/
inductive Task where
  | subscribe
  | handled (source : ℕ) (ok : Bool)
  | sendPublished (i : ℕ) (ok : Bool)
  | sendForwarded (source : ℕ) (ok : Bool)

def Task.event : Task → NodeEvent Bytes
  | subscribe => .subscribe
  | handled source ok => .handled source ok
  | sendPublished i ok => .sendPublished i ok
  | sendForwarded source ok => .sendForwarded source ok

inductive NetEvent where
  | /-- A frame comes to its node. -/ deliver (i : ℕ)
  | task (side : Side) (t : Task)

/-- How a message comes to be. -/
inductive Start where
  | /-- It is put on a medium. -/ put (m : Medium)
  | /-- A node publishes it. -/ published (side : Side)

namespace Net

/-- The forwards of both nodes. -/
def forwards (s : Net) : ℕ := (s.nodes .a).metrics.forwarded + (s.nodes .b).metrics.forwarded

section

variable (bridges : Side → Bridge py et ej)

/-- A frame as its pump gets it. -/
def arrival (f : Frame) : NodeEvent Bytes := .frame ((bridges f.receiver).port f.medium) f.data

def step (s : Net) : NetEvent → Option Net
  | .deliver i =>
      match s.air[i]? with
      | none => none
      | some f =>
          ((s.nodes f.receiver).step (bridges f.receiver).router (arrival bridges f)).map fun w ↦
            { nodes := Function.update s.nodes f.receiver w, air := s.air.eraseIdx i }
  | .task side t =>
      ((s.nodes side).step (bridges side).router t.event).map fun w ↦
        { nodes := Function.update s.nodes side w
          air := ((s.nodes side).observe (bridges side).router t.event).filterMap
            ((bridges side).frame side) ++ s.air }

/-- The first state; a message that cannot be encoded is not put on a medium. -/
def start (env : Envelope) : Start → Option Net
  | .put m =>
      ((m.codec py et ej []).encode env).toOption.map fun data ↦
        { nodes := fun _ ↦ {}
          air := [{ receiver := .a, medium := m, data }, { receiver := .b, medium := m, data }] }
  | .published side =>
      (({} : Node).step (bridges side).router (.publish 0 env)).map fun w ↦
        { nodes := Function.update (fun _ ↦ {}) side w, air := [] }

/-- The step evicts no id. -/
def RoomFor (s : Net) : NetEvent → Prop
  | .deliver i => ∀ f, s.air[i]? = some f →
      (s.nodes f.receiver).RoomFor (bridges f.receiver).router (arrival bridges f)
  | .task _ _ => True

/-- The first id is not evicted. -/
def StartRoom : Start → Prop
  | .put _ => True
  | .published side => 0 < (bridges side).router.dedupeCacheSize

end

/-- One of the frames in the air reaches its pump. -/
theorem step_deliver {bridges : Side → Bridge py et ej} {s t : Net} {i : ℕ}
    (h : s.step bridges (.deliver i) = some t) :
    ∃ f w, s.air[i]? = some f ∧
      (s.nodes f.receiver).step (bridges f.receiver).router (arrival bridges f) = some w ∧
      t = { nodes := Function.update s.nodes f.receiver w, air := s.air.eraseIdx i } := by
  simp only [step] at h
  split at h
  · cases h
  · rename_i f hf
    obtain ⟨w, hw, rfl⟩ := Option.map_eq_some_iff.mp h
    exact ⟨f, w, hf, hw, rfl⟩

end Net

/-! ## Closed families -/

/-- A family of envelopes that the links do not leave, with its ids. -/
structure Closed (py : Interpreter) (et : ElementTree) (ej : EnvelopeJson) (K : Envelope → Prop)
    (ids : Finset String) : Prop where
  msgId : ∀ env, K env → env.msgId ∈ ids
  link : ∀ (m : Medium) env e', K env → m.Link py et ej env e' → K e'

namespace Closed

variable {K : Envelope → Prop} {ids : Finset String} {bridges : Side → Bridge py et ej}

/-- A frame carries an envelope of the family. -/
def Carries (py : Interpreter) (et : ElementTree) (ej : EnvelopeJson) (K : Envelope → Prop)
    (f : Frame) : Prop :=
  ∃ env s, K env ∧ (f.medium.codec py et ej s).encode env = .ok f.data

/-- Nothing but the family is in the air and in the nodes. -/
structure Inside (K : Envelope → Prop) (ids : Finset String) (bridges : Side → Bridge py et ej)
    (s : Net) : Prop where
  air : ∀ f ∈ s.air, Carries py et ej K f
  speaks : ∀ side, (s.nodes side).Speaks K ids
  budget : ∀ side, (s.nodes side).Budget (bridges side).router

/-- A frame that carries the family brings it. -/
theorem hears_arrival (hK : Closed py et ej K ids) {f : Frame} (hf : Carries py et ej K f) :
    Node.Hears K (bridges f.receiver).router (Net.arrival bridges f) := by
  obtain ⟨env, s, henv, henc⟩ := hf
  intro e' hdec
  rw [(bridges f.receiver).codecFor] at hdec
  exact hK.link f.medium env e' henv (Medium.link_of_decode henc hdec)

/-- What a node sends carries the family. -/
theorem carries_frame {g : Bridge py et ej} {side : Side} {n : Notice} {f : Frame}
    (hn : ∀ env, n.sentEnvelope = some env → K env) (hf : g.frame side n = some f) :
    Carries py et ej K f := by
  have hsend : ∀ env target, n.sentEnvelope = some env →
      (g.medium target).bind (fun medium ↦ ((g.router.codecFor target).encode env).toOption.map
        fun data ↦ { receiver := side.other, medium, data : Frame }) = some f →
          Carries py et ej K f := by
    intro env target hsent hframe
    obtain ⟨m, hm, hframe⟩ := Option.bind_eq_some_iff.mp hframe
    obtain ⟨data, hdata, rfl⟩ := Option.map_eq_some_iff.mp hframe
    rw [← Bridge.port_medium hm, g.codecFor] at hdata
    exact ⟨env, g.supported, hn env hsent, Py.toOption_eq_some.mp hdata⟩
  cases n with
  | sent env target => exact hsend env target rfl hf
  | forwarded source env target => exact hsend env target rfl hf
  | published env new => cases hf
  | pulled source v => cases hf
  | handed source env others => cases hf

/-- A step without eviction stays inside. -/
theorem Inside.step (hK : Closed py et ej K ids) {s t : Net} {e : NetEvent}
    (hs : Inside K ids bridges s) (hroom : s.RoomFor bridges e)
    (h : s.step bridges e = some t) : Inside K ids bridges t := by
  cases e with
  | deliver i =>
      obtain ⟨f, w, hf, hw, rfl⟩ := Net.step_deliver h
      have hmem : f ∈ s.air := List.mem_of_getElem? hf
      have hhears : Node.Hears K (bridges f.receiver).router (Net.arrival bridges f) :=
        hears_arrival hK (hs.air f hmem)
      exact {
        air := fun f' hf' ↦ hs.air f' (List.mem_of_mem_eraseIdx hf')
        speaks := Node.forall_update hs.speaks
          ((hs.speaks f.receiver).step hK.msgId hhears hw)
        budget := Node.forall_update (P := fun side (w : Node) ↦ w.Budget (bridges side).router)
          hs.budget ((hs.budget f.receiver).step (hroom f hf) hw) }
  | task side t =>
      obtain ⟨w, hw, rfl⟩ := Option.map_eq_some_iff.mp h
      have hhears : Node.Hears K (bridges side).router t.event := by
        cases t <;> trivial
      have hroom' : (s.nodes side).RoomFor (bridges side).router t.event := by
        cases t <;> trivial
      refine ⟨?_, Node.forall_update hs.speaks ?_,
        Node.forall_update (P := fun side (w : Node) ↦ w.Budget (bridges side).router) hs.budget ?_⟩
      · intro f hf
        rcases List.mem_append.mp hf with hsent | hair
        · obtain ⟨n, hn, hframe⟩ := List.mem_filterMap.mp hsent
          exact carries_frame (fun env henv ↦ (hs.speaks side).sends hn henv) hframe
        · exact hs.air f hair
      · exact (hs.speaks side).step hK.msgId hhears hw
      · exact (hs.budget side).step hroom' hw

theorem inside_start (hK : Closed py et ej K ids) {env : Envelope} (henv : K env) {start : Start}
    (hroom : Net.StartRoom bridges start) {s : Net} (h : Net.start bridges env start = some s) :
    Inside K ids bridges s := by
  cases start with
  | put m =>
      obtain ⟨data, hdata, rfl⟩ := Option.map_eq_some_iff.mp h
      have henc := Py.toOption_eq_some.mp hdata
      refine ⟨?_, fun _ ↦ Node.speaks_start K ids, fun side ↦ Node.budget_start _⟩
      rw [List.forall_mem_cons, List.forall_mem_singleton]
      exact ⟨⟨env, [], henv, henc⟩, ⟨env, [], henv, henc⟩⟩
  | published side =>
      simp only [Net.start] at h
      obtain ⟨w, hw, rfl⟩ := Option.map_eq_some_iff.mp h
      refine ⟨List.forall_mem_nil _,
        Node.forall_update (fun _ ↦ Node.speaks_start K ids) ?_,
        Node.forall_update (P := fun side (w : Node) ↦ w.Budget (bridges side).router)
          (fun _ ↦ Node.budget_start _) ?_⟩
      · have hhears : Node.Hears K (bridges side).router (.publish 0 env) := henv
        exact (Node.speaks_start K ids).step hK.msgId hhears hw
      · have hroom' : Node.RoomFor (bridges side).router {} (.publish 0 env) := fun _ ↦ hroom
        exact (Node.budget_start _).step hroom' hw

/-- A message of a closed family is forwarded at most twice for each id. -/
theorem forwards_le (hK : Closed py et ej K ids) {env : Envelope} (henv : K env) {start : Start}
    (hstart : Net.StartRoom bridges start) {s : Net} (h : Net.start bridges env start = some s)
    {es : List NetEvent} (hroom : Automaton.Along (Net.step bridges) (Net.RoomFor bridges) s es) :
    Automaton.Always (Net.step bridges) (fun t ↦ t.forwards ≤ 2 * ids.card) s es := by
  have hinside : Automaton.Always (Net.step bridges) (Inside K ids bridges) s es :=
    Automaton.always_of_along (fun _ _ _ hs hr ht ↦ hs.step hK hr ht)
      (inside_start hK henv hstart h) hroom
  refine hinside.mono fun t ht ↦ ?_
  have hside : ∀ side, (t.nodes side).metrics.forwarded ≤ ids.card := by
    intro side
    have hle := (ht.speaks side).forwarded_le (ht.budget side)
    rwa [(bridges side).transports, Nat.add_one_sub_one, Nat.one_mul] at hle
  have ha := hside .a
  have hb := hside .b
  rw [Net.forwards]
  omega

end Closed

end DroneComms.Mesh
