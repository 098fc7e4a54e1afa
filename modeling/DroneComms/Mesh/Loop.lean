import DroneComms.Mesh.Families

/-!
# Bridge loops

Two nodes that bridge the same two media.  A message that the CoT link settles or loses
is forwarded a bounded number of times.  A chat is not: its msg_id becomes the
uid of its event and grows with every trip, so it is new to both nodes each time.
-/

namespace DroneComms.Mesh

open Py (Interpreter ElementTree Bytes)
open Py.Json (WellKeyed)

/-! ## Room -/

namespace Node

variable {β : Type} {r : Router β} {w q : Node}

theorem length_evict_le (n : ℕ) (seen : List String) (id : String) :
    (evict n (seen ++ [id])).length ≤ seen.length + 1 := by
  rw [evict, List.length_drop, List.length_append]
  exact Nat.sub_le _ _

/-- A step marks at most one id. -/
theorem length_seen_le {e : NodeEvent β} (h : w.step r e = some q) :
    q.seen.length ≤ w.seen.length + 1 := by
  cases e with
  | subscribe =>
      cases h
      exact Nat.le_succ _
  | publish i env =>
      obtain ⟨-, h⟩ := Option.ite_none_left_eq_some.mp h
      cases h
      show (w.markSeen r env.msgId).1.seen.length ≤ _
      unfold markSeen
      split_ifs
      · exact Nat.le_succ _
      · exact length_evict_le _ _ _
  | frame source data =>
      obtain ⟨-, -, rfl⟩ := step_frame h
      rw [receive_eq]
      cases w.verdict r source data with
      | schemaMismatch => exact Nat.le_succ _
      | undecodable => exact Nat.le_succ _
      | duplicate env => exact Nat.le_succ _
      | accepted env subscribers =>
          dsimp only
          rw [(seen_handling r _ source env subscribers).1]
          exact length_evict_le _ _ _
  | handled source ok =>
      obtain ⟨env, n, -, rfl⟩ := step_handled h
      rw [(seen_handling r w source env n).1]
      exact Nat.le_succ _
  | sendPublished i ok =>
      obtain ⟨f, target, targets, -, -, ⟨-, -, rfl⟩ | ⟨-, rfl⟩⟩ := step_sendPublished h
      · exact Nat.le_succ _
      · exact Nat.le_succ _
  | sendForwarded source ok =>
      obtain ⟨f, target, targets, -, -, ⟨-, -, rfl⟩ | ⟨-, rfl⟩⟩ := step_sendForwarded h
      · rw [(seen_forwarding _ source _).1]
        exact Nat.le_succ _
      · exact Nat.le_succ _

end Node

namespace Net

variable {py : Interpreter} {et : ElementTree} {ej : EnvelopeJson}
  {bridges : Side → Bridge py et ej} {s t : Net}

theorem length_seen_le {e : NetEvent} (h : s.step bridges e = some t) (side : Side) :
    (t.nodes side).seen.length ≤ (s.nodes side).seen.length + 1 := by
  have hupdate : ∀ {side' : Side} {w : Node},
      w.seen.length ≤ (s.nodes side').seen.length + 1 →
        (Function.update s.nodes side' w side).seen.length ≤ (s.nodes side).seen.length + 1 := by
    intro side' w hw
    by_cases hside : side = side'
    · subst hside
      rwa [Function.update_self]
    · rw [Function.update_of_ne hside]
      exact Nat.le_succ _
  cases e with
  | deliver i =>
      obtain ⟨f, w, -, hw, rfl⟩ := step_deliver h
      exact hupdate (Node.length_seen_le hw)
  | task side' t =>
      obtain ⟨w, hw, rfl⟩ := Option.map_eq_some_iff.mp h
      exact hupdate (Node.length_seen_le hw)

/-- A run that is no longer than the caches have room evicts nothing. -/
theorem along_roomFor {es : List NetEvent} (h : ∀ side,
    (s.nodes side).seen.length + es.length ≤ (bridges side).router.dedupeCacheSize) :
    Automaton.Along (step bridges) (RoomFor bridges) s es := by
  induction es generalizing s with
  | nil => trivial
  | cons e es ih =>
      have hroom : ∀ side, (s.nodes side).seen.length + (es.length + 1) ≤
        (bridges side).router.dedupeCacheSize := h
      intro t ht
      constructor
      · cases e with
        | deliver i =>
            intro f _ env n _
            have hside := hroom f.receiver
            omega
        | task side t => trivial
      · refine ih fun side ↦ ?_
        have hside := hroom side
        have hseen := length_seen_le ht side
        omega

end Net

/-! ## Tame messages -/

section

variable {py : Interpreter} {et : ElementTree} {ej : EnvelopeJson}

/-- **Bridge loops.**  In every run without eviction, a tame message is forwarded a bounded
number of times, whatever it is and however it comes about. -/
theorem tame_forwards_le (bridges : Side → Bridge py et ej) {env : Envelope}
    (hkeys : WellKeyed (.dict env.payload)) (htame : Tame py et env) {start : Start}
    (hstart : Net.StartRoom bridges start) {s : Net} (h : Net.start bridges env start = some s)
    {es : List NetEvent} (hroom : Automaton.Along (Net.step bridges) (Net.RoomFor bridges) s es) :
    Automaton.Always (Net.step bridges) (fun t ↦ t.forwards ≤ 502) s es := by
  have hcard := card_ids_le py env
  exact ((htame.closed ej hkeys).forwards_le (.inl rfl) hstart h hroom).mono fun t ht ↦ by omega

end

/-- Two media with everything plain. -/
abbrev PlainBridge := Bridge Interpreter.plain ElementTree.plain EnvelopeJson.plain

/-- A node with a mesh and a TAK link, and a cache of a given size. -/
def meshAndTak (n : ℕ) : PlainBridge where
  router := {
    transports := ["mesh", "tak"]
    codec := jsonCodec EnvelopeJson.plain [1]
    codecs := [("tak", cotCodec Interpreter.plain ElementTree.plain)]
    dedupeCacheSize := n }
  supported := [1]
  port
    | .json => 0
    | .cot => 1
  transports := rfl
  port_lt m := by cases m <;> decide
  port_ne := by decide
  codecFor m := by cases m <;> rfl

/-- A PLI that one node publishes and the other one forwards. -/
theorem tame_forwards_le_flying :
    ∃ s, Net.start (fun _ ↦ meshAndTak 2048) Cot.flying (.published .a) = some s ∧
      Tame Interpreter.plain ElementTree.plain Cot.flying ∧
        Automaton.Always (Net.step fun _ ↦ meshAndTak 2048) (fun t ↦ t.forwards ≤ 502) s
          [.task .a (.sendPublished 0 true), .task .a (.sendPublished 0 true), .deliver 0,
            .task .b (.sendForwarded 1 true), .deliver 1, .deliver 0] := by
  have htame : Tame Interpreter.plain ElementTree.plain Cot.flying := Settling.tame (.inl rfl)
  have hroom : Net.StartRoom (fun _ ↦ meshAndTak 2048) (.published .a) := (by decide : 0 < 2048)
  refine ⟨_, rfl, htame, tame_forwards_le _ (by decide +kernel) htame hroom rfl ?_⟩
  refine Net.along_roomFor fun side ↦ ?_
  cases side <;> decide +kernel

/-! ## One leg of a loop -/

namespace Node

variable {β : Type} {r : Router β} {w : Node}

/-- A node without subscribers passes a new frame on to its one other transport. -/
theorem relay {source target : ℕ} {data data' : β} {env : Envelope}
    (hsource : source < r.transports.length) (hothers : others r source = [target])
    (hpumps : ∀ s, w.pumps s = .reading) (hsubscribers : w.subscribers = 0)
    (hdec : (r.codecFor source).decode data = .ok env) (hnew : env.msgId ∉ w.seen)
    (henc : (r.codecFor target).encode env = .ok data') :
    ∃ q w', w.step r (.frame source data) = some q ∧
      q.step r (.sendForwarded source true) = some w' ∧
      q.observe r (.sendForwarded source true) = [.forwarded source env target] ∧
      w'.seen = evict r.dedupeCacheSize (w.seen ++ [env.msgId]) ∧
      w'.metrics.forwarded = w.metrics.forwarded + 1 ∧ w'.subscribers = 0 ∧
      ∀ s, w'.pumps s = .reading := by
  let f : FanOut := ⟨env, [target], [], []⟩
  let q : Node := { w with
    metrics := { w.metrics with rx := w.metrics.rx + 1 }
    seen := evict r.dedupeCacheSize (w.seen ++ [env.msgId])
    pumps := Function.update w.pumps source (.forwarding f) }
  have hverdict : w.verdict r source data = .accepted env 0 := by
    rw [verdict, hdec]
    dsimp only
    rw [if_neg hnew, hsubscribers]
  have hframe : w.step r (.frame source data) = some q := by
    simp only [step, hpumps source, if_pos hsource]
    rw [receive_eq, hverdict]
    show some (forwarding _ source ⟨env, others r source, [], []⟩) = some q
    rw [hothers]
    rfl
  have hpump : q.pumps source = .forwarding f := Function.update_self _ _ _
  have hsends : r.Encodes env target := by
    rw [Router.Encodes, henc]
    rfl
  have hattempt : attempt r f target [] true = (⟨env, [], [target], []⟩, true) := by
    rcases FanOut.attempt_cases r f target [] true with ⟨-, -, heq⟩ | ⟨hfail, -⟩
    · exact heq
    · exact absurd ⟨hsends, rfl⟩ hfail
  have hsend : q.step r (.sendForwarded source true) = some (forwarding
      { q with metrics := { q.metrics with forwarded := q.metrics.forwarded + 1 } } source
        ⟨env, [], [target], []⟩) := by
    simp only [step, hpump, f]
    rw [hattempt]
    rfl
  refine ⟨q, _, hframe, hsend, ?_, rfl, rfl, hsubscribers, ?_⟩
  · simp only [observe, hpump]
    rw [sending_eq true _ rfl, if_pos ⟨hsends, rfl⟩]
  · intro s
    show Function.update (Function.update w.pumps source (.forwarding f)) source .reading s = _
    rw [Function.update_idem]
    exact forall_update (P := fun _ (p : Pump) ↦ p = .reading) hpumps rfl s

end Node

/-! ## A chat on its way -/

/-- The codec of a medium in a closed run. -/
abbrev Medium.plain (m : Medium) : Codec Bytes :=
  m.codec Interpreter.plain ElementTree.plain EnvelopeJson.plain [1]

/-- A chat that says hi at the epoch. -/
structure Hi (env : Envelope) : Prop where
  chat : Cot.IsChat env "hi" none
  version : env.schemaVersion = 1
  epoch : env.ts = .fin 0
  payload : env.payload = [("text", .str "hi")] ∨
    env.payload = [("text", .str "hi"), ("to", .none)]

namespace Hi

variable {env : Envelope}

theorem keys (h : Hi env) : WellKeyed (.dict env.payload) := by
  rcases h.payload with hpayload | hpayload <;> rw [hpayload] <;> decide +kernel

/-- On the mesh the chat arrives as it is. -/
theorem json (h : Hi env) : ∃ b, Medium.json.plain.encode env = .ok b ∧
    Medium.json.plain.decode b = .ok env := by
  have hdump : EnvelopeJson.plainDump env =
      some (Py.dumpsCompact Interpreter.plain (EnvelopeJson.fields env)) := by
    apply if_pos
    rw [h.epoch]
    exact ⟨rfl, h.keys⟩
  have hnulled : nulledMembers env.payload = env.payload := by
    rcases h.payload with hpayload | hpayload <;> rw [hpayload] <;> rfl
  have hvalidate := EnvelopeJson.plainValidate_dump hdump
  rw [hnulled] at hvalidate
  have hcodec : Medium.json.plain = jsonCodec EnvelopeJson.plain [1] := rfl
  have hplain : EnvelopeJson.plain.validate = EnvelopeJson.plainValidate := rfl
  rw [hcodec]
  refine ⟨_, jsonCodec_encode_eq_ok.mpr hdump, jsonCodec_decode_eq_ok.mpr ⟨?_, ?_⟩⟩
  · rw [hplain]
    exact hvalidate
  · rw [h.version]
    exact List.mem_singleton_self _

/-- On the TAK link its msg_id becomes longer. -/
theorem cot (h : Hi env) : ∃ b env', Medium.cot.plain.encode env = .ok b ∧
    Medium.cot.plain.decode b = .ok env' ∧ Hi env' ∧
      env.msgId.length < env'.msgId.length := by
  have hu : Py.fromtimestamp env.ts = .ok 0 := by
    rw [h.epoch]
    decide +kernel
  have hv : Py.fromtimestamp (env.ts.add ({} : CotNaming).staleS) = .ok 120000000 := by
    rw [h.epoch]
    decide +kernel
  obtain ⟨env', htrip, hkind, hsource, hpayload⟩ := Cot.chat_trip ElementTree.plain
    (CotNaming.standard_default true).wellNamed (CotNaming.legal_default true)
    (by decide +kernel) h.chat hu (by decide) hv
  obtain ⟨time, htime, -, hid, hts, -⟩ :=
    htrip.identity (CotNaming.standard_default true).wellNamed
  have huid : Cot.eventUid Interpreter.plain env = env.msgId := by
    rw [Cot.eventUid, h.chat.kind]
  obtain ⟨b, henc, hdec⟩ := htrip
  have hcolon : Py.Xml.isLegal ":" = true := by decide +kernel
  have hpayload' : env'.payload = [("text", .str "hi"), ("to", .none)] := by
    rw [hpayload, (by decide +kernel : Py.Xml.normalizeNewlines "hi".toList = "hi".toList)]
    rfl
  rw [huid] at hid
  refine ⟨b, env', henc, hdec, ?_, ?_⟩
  · exact {
      chat := {
        kind := hkind
        source_legal := hsource ▸ h.chat.id_legal
        id_legal := by
          rw [hid, Cot.isLegal_append, Cot.isLegal_append, h.chat.id_legal, hcolon,
            Cot.isLegal_iso htime]
          rfl
        text_legal := h.chat.text_legal
        addressee_legal := nofun
        text := by
          rw [hpayload']
          rfl
        addressee := by
          rw [hpayload']
          rfl }
      version := Cot.schemaVersion_of_decodeEvent hdec
      epoch := by
        obtain ⟨u, hu', rfl⟩ := Py.iso_eq_ok.mp htime
        rw [hu] at hu'
        cases hu'
        rw [Py.Interpreter.parseTs_isoText _ (by decide) (by decide)] at hts
        exact (Option.some.inj hts).symm.trans (by decide +kernel)
      payload := .inr hpayload' }
  · have hlength : ":".length = 1 := by decide +kernel
    rw [hid, String.length_append, String.length_append]
    omega

end Hi

/-! ## A chat that goes round -/

/-- The other medium. -/
def Medium.other : Medium → Medium
  | json => cot
  | cot => json

namespace Net

variable {n : ℕ} {s : Net}

/-- Both nodes at rest. -/
structure Idle (s : Net) : Prop where
  pumps : ∀ side source, (s.nodes side).pumps source = .reading
  subscribers : ∀ side, (s.nodes side).subscribers = 0

/-- What a frame makes a node do. -/
def leg (side : Side) (m : Medium) : List NetEvent :=
  [.deliver 0, .task side (.sendForwarded ((meshAndTak 0).port m) true)]

/-- A node at rest passes a new frame on to the other medium. -/
theorem exec_leg (hidle : s.Idle) {side : Side} {m : Medium} {data data' : Bytes} {env : Envelope}
    {rest : List Frame} (hair : s.air = ⟨side, m, data⟩ :: rest)
    (hdec : m.plain.decode data = .ok env) (hnew : env.msgId ∉ (s.nodes side).seen)
    (henc : m.other.plain.encode env = .ok data') :
    ∃ w, Automaton.exec (step fun _ ↦ meshAndTak n) s (leg side m) =
        some { nodes := Function.update s.nodes side w
               air := ⟨side.other, m.other, data'⟩ :: rest } ∧
      w.seen = Node.evict n ((s.nodes side).seen ++ [env.msgId]) ∧
      w.metrics.forwarded = (s.nodes side).metrics.forwarded + 1 ∧ w.subscribers = 0 ∧
      ∀ source, w.pumps source = .reading := by
  have hothers : others (meshAndTak n).router ((meshAndTak n).port m) =
      [(meshAndTak n).port m.other] := by
    cases m <;> rfl
  have hdec' : ((meshAndTak n).router.codecFor ((meshAndTak n).port m)).decode data = .ok env := by
    rw [(meshAndTak n).codecFor]
    exact hdec
  have henc' : ((meshAndTak n).router.codecFor ((meshAndTak n).port m.other)).encode env =
      .ok data' := by
    rw [(meshAndTak n).codecFor]
    exact henc
  obtain ⟨q, w, hframe, hsend, hnotice, hseen, hforwarded, hsubscribers, hpumps⟩ :=
    Node.relay ((meshAndTak n).port_lt m) hothers (hidle.pumps side) (hidle.subscribers side)
      hdec' hnew henc'
  refine ⟨w, ?_, hseen, hforwarded, hsubscribers, hpumps⟩
  have hdeliver : step (fun _ ↦ meshAndTak n) s (.deliver 0) =
      some { nodes := Function.update s.nodes side q, air := rest } := by
    simp only [step, hair, List.getElem?_cons_zero, arrival]
    rw [hframe]
    rfl
  have hsent : step (fun _ ↦ meshAndTak n) { nodes := Function.update s.nodes side q, air := rest }
      (.task side (.sendForwarded ((meshAndTak 0).port m) true)) =
        some { nodes := Function.update s.nodes side w
               air := ⟨side.other, m.other, data'⟩ :: rest } := by
    have hport : (meshAndTak 0).port m = (meshAndTak n).port m := rfl
    have hinAir : (meshAndTak n).frame side (.forwarded ((meshAndTak n).port m) env
        ((meshAndTak n).port m.other)) = some ⟨side.other, m.other, data'⟩ := by
      rw [Bridge.frame, Bridge.medium_port, Option.bind_some, henc']
      rfl
    rw [hport]
    simp only [step, Task.event, Function.update_self, hsend, hnotice, Option.map_some,
      Function.update_idem, List.filterMap_cons, hinAir, List.filterMap_nil]
    rfl
  exact Automaton.exec_cons_eq_some.mpr ⟨_, hdeliver,
    Automaton.exec_cons_eq_some.mpr ⟨_, hsent, rfl⟩⟩

/-- The chat is on the mesh, on its way to the first node and new to it. -/
structure Turn (s : Net) (env : Envelope) : Prop where
  idle : s.Idle
  hi : Hi env
  air : ∃ data rest, s.air = ⟨.a, .json, data⟩ :: rest ∧ Medium.json.plain.decode data = .ok env
  new : ∀ id ∈ (s.nodes .a).seen, id.length < env.msgId.length
  heard : ∀ id ∈ (s.nodes .b).seen, id.length ≤ env.msgId.length

/-- The events of a round: over the TAK link to the second node and back. -/
def roundEvents : List NetEvent := leg .a .json ++ leg .b .cot

theorem Idle.update {side : Side} {w : Node} {air : List Frame} (h : s.Idle)
    (hpumps : ∀ source, w.pumps source = .reading) (hsubscribers : w.subscribers = 0) :
    Idle { nodes := Function.update s.nodes side w, air } where
  pumps := Node.forall_update (P := fun _ (w : Node) ↦ ∀ source, w.pumps source = .reading) h.pumps
    hpumps
  subscribers := Node.forall_update (P := fun _ (w : Node) ↦ w.subscribers = 0) h.subscribers
    hsubscribers

/-- **A round.**  The chat comes back with a longer id. -/
theorem Turn.round (n : ℕ) {env : Envelope} (h : s.Turn env) : ∃ t env',
    Automaton.exec (step fun _ ↦ meshAndTak n) s roundEvents = some t ∧ t.Turn env' ∧
      t.forwards = s.forwards + 2 := by
  obtain ⟨data, rest, hair, hdec⟩ := h.air
  obtain ⟨b, env', henc, hdec', hhi', hlonger⟩ := h.hi.cot
  obtain ⟨data', hencJson, hdecJson⟩ := hhi'.json
  -- the first node hears the chat on the mesh
  have hnewA : env.msgId ∉ (s.nodes .a).seen := fun hmem ↦ lt_irrefl _ (h.new _ hmem)
  obtain ⟨wa, hrunA, hseenA, hforwardedA, hsubscribersA, hpumpsA⟩ :=
    exec_leg (n := n) h.idle hair hdec hnewA henc
  let sa : Net := { nodes := Function.update s.nodes .a wa, air := ⟨.b, .cot, b⟩ :: rest }
  have hidleA : sa.Idle := h.idle.update hpumpsA hsubscribersA
  have hsides : Side.b ≠ Side.a := by decide
  have hnodeB : sa.nodes .b = s.nodes .b := by
    show Function.update s.nodes .a wa .b = s.nodes .b
    rw [Function.update_of_ne hsides]
  -- the second node hears it on the TAK link
  have hnewB : env'.msgId ∉ (sa.nodes .b).seen := by
    rw [hnodeB]
    intro hmem
    have hle := h.heard _ hmem
    omega
  obtain ⟨wb, hrunB, hseenB, hforwardedB, hsubscribersB, hpumpsB⟩ :=
    exec_leg (n := n) hidleA rfl hdec' hnewB hencJson
  rw [hnodeB] at hseenB hforwardedB
  have hnodeA : Function.update sa.nodes .b wb .a = wa := by
    rw [Function.update_of_ne hsides.symm]
    show Function.update s.nodes .a wa .a = wa
    rw [Function.update_self]
  have hnodeB' : Function.update sa.nodes .b wb .b = wb := Function.update_self _ _ _
  refine ⟨_, env', Automaton.exec_trans hrunA hrunB, ?_, ?_⟩
  · exact {
      idle := hidleA.update hpumpsB hsubscribersB
      hi := hhi'
      air := ⟨data', rest, rfl, hdecJson⟩
      new := by
        show ∀ id ∈ (Function.update sa.nodes .b wb .a).seen, _
        rw [hnodeA, hseenA]
        intro id hid
        rcases Node.mem_evict hid with hold | rfl
        · exact lt_trans (h.new id hold) hlonger
        · exact hlonger
      heard := by
        show ∀ id ∈ (Function.update sa.nodes .b wb .b).seen, _
        rw [hnodeB', hseenB]
        intro id hid
        rcases Node.mem_evict hid with hold | rfl
        · exact le_trans (h.heard id hold) hlonger.le
        · exact le_rfl }
  · show (Function.update sa.nodes .b wb .a).metrics.forwarded +
      (Function.update sa.nodes .b wb .b).metrics.forwarded = _
    rw [hnodeA, hnodeB', hforwardedA, hforwardedB, forwards]
    omega

/-- Any number of rounds. -/
theorem Turn.rounds (n k : ℕ) {env : Envelope} (h : s.Turn env) : ∃ es t env',
    Automaton.exec (step fun _ ↦ meshAndTak n) s es = some t ∧ es.length = 4 * k ∧ t.Turn env' ∧
      t.forwards = s.forwards + 2 * k := by
  induction k generalizing s env with
  | zero => exact ⟨[], s, env, rfl, rfl, h, rfl⟩
  | succ k ih =>
      obtain ⟨t, env', hround, hturn, hforwards⟩ := h.round n
      obtain ⟨es, u, env'', hrun, hlength, hturn', hforwards'⟩ := ih hturn
      refine ⟨roundEvents ++ es, u, env'', Automaton.exec_trans hround hrun, ?_, hturn', ?_⟩
      · have hfour : roundEvents.length = 4 := rfl
        rw [List.length_append, hlength, hfour]
        omega
      · omega

end Net

theorem hi_shout : Hi Cot.shout := ⟨Cot.isChat_shout, rfl, rfl, .inl rfl⟩

/-- The chat has been put on the mesh. -/
theorem exists_turn_shout (n : ℕ) : ∃ s, Net.start (fun _ ↦ meshAndTak n) Cot.shout (.put .json) =
    some s ∧ s.Turn Cot.shout ∧ (∀ side, s.nodes side = {}) := by
  obtain ⟨b, henc, hdec⟩ := hi_shout.json
  -- the codec encodes alike whatever versions are supported
  have henc' : (Medium.json.codec Interpreter.plain ElementTree.plain EnvelopeJson.plain []).encode
    Cot.shout = .ok b := henc
  have hstart : Net.start (fun _ ↦ meshAndTak n) Cot.shout (.put .json) =
      some { nodes := fun _ ↦ {}, air := [⟨.a, .json, b⟩, ⟨.b, .json, b⟩] } := by
    rw [Net.start, henc']
    rfl
  refine ⟨_, hstart, ?_, fun _ ↦ rfl⟩
  exact {
    idle := ⟨fun _ _ ↦ rfl, fun _ ↦ rfl⟩
    hi := hi_shout
    air := ⟨b, _, rfl, hdec⟩
    new := fun id hid ↦ absurd hid List.not_mem_nil
    heard := fun id hid ↦ absurd hid List.not_mem_nil }

/-- A chat is forwarded more often than any bound says. -/
theorem chat_goes_round : ¬∃ bound, ∀ (bridges : Side → PlainBridge) (env : Envelope),
    env.kind = .pli ∨ env.kind = .chat ∨ env.kind = .marker → WellKeyed (.dict env.payload) →
      ∀ start, Net.StartRoom bridges start → ∀ s, Net.start bridges env start = some s →
        ∀ es, Automaton.Along (Net.step bridges) (Net.RoomFor bridges) s es →
          Automaton.Always (Net.step bridges) (fun t ↦ t.forwards ≤ bound) s es := by
  rintro ⟨bound, h⟩
  let n := 4 * (bound + 1)
  obtain ⟨s, hstart, hturn, hnodes⟩ := exists_turn_shout n
  obtain ⟨es, t, env', hrun, hlength, -, hforwards⟩ := hturn.rounds n (bound + 1)
  have hroom : Automaton.Along (Net.step fun _ ↦ meshAndTak n) (Net.RoomFor fun _ ↦ meshAndTak n)
      s es := by
    refine Net.along_roomFor fun side ↦ ?_
    rw [hnodes side, hlength]
    exact (Nat.zero_add _).le
  have halways := h (fun _ ↦ meshAndTak n) Cot.shout (.inr (.inl rfl)) hi_shout.keys (.put .json)
    trivial s hstart es hroom
  have hle := Automaton.always_iff_prefix.mp halways es t (List.prefix_refl es) hrun
  omega

end DroneComms.Mesh
