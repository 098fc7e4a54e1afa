import DroneComms.Mesh.BusFlood
import DroneComms.Mesh.JsonCodec

/-!
# Delivery on loopback buses

What the flood says about a run: when nothing can happen any more and no inbox has
overflowed, a message is known to exactly the routers that are linked to one that has
published it.  As long as no id is evicted, a router takes each message once, hands it to
each of its subscribers once and sends it once to each of its other transports.
-/

namespace DroneComms.Mesh

open Py (Bytes)
open Transports (Inbox)
open Py.Json (WellKeyed)

variable {ι κ β : Type}

/-! ## Networks with one codec -/

/-- The envelope can be written, and is read as it was. -/
def EnvelopeJson.Reads (ej : EnvelopeJson) (supported : List ℤ) (env : Envelope) : Prop :=
  WellKeyed (.dict env.payload) ∧ nulledMembers env.payload = env.payload ∧
    env.schemaVersion ∈ supported ∧ ∃ data, ej.dump env = some data ∧ (ej.validate data).isSome

/-- Routers that all use `JsonCodec` read each other's envelopes as they were. -/
theorem carries_json {w : BusWiring ι κ Bytes} {ej : EnvelopeJson} {supported : List ℤ}
    (hcodec : ∀ i p, (w.router i).codecFor p = jsonCodec ej supported) :
    w.Carries (ej.Reads supported) := by
  rintro i p env ⟨hkeys, hpayload, hversion, data, hdump, hvalidate⟩ hp
  obtain ⟨env', hvalidate⟩ := Option.isSome_iff_exists.mp hvalidate
  have hsame : env' = env := by
    obtain ⟨h1, h2, h3, h4, h5⟩ := ej.header hdump hvalidate
    have h6 := ej.payload hkeys hdump hvalidate
    rw [hpayload] at h6
    cases env
    cases env'
    simp only at h1 h2 h3 h4 h5 h6
    rw [h1, h2, h3, h4, h5, h6]
  rw [hsame] at hvalidate
  refine ⟨data, ?_, fun j q hq hbus ↦ ?_⟩
  · rw [hcodec]
    exact jsonCodec_encode_eq_ok.mpr hdump
  · rw [hcodec]
    exact jsonCodec_decode_eq_ok.mpr ⟨hvalidate, hversion⟩

/-! ## Three routers in a row -/

/-- The router in the middle is on both buses. -/
def row (codec : Codec β) : BusWiring (Fin 3) (Fin 2) β where
  router i := { transports := if i = 1 then ["west", "east"] else ["mesh"], codec }
  bus i p := if i = 2 ∨ p = 1 then 1 else 0
  queueMaxsize _ _ := 1000

theorem codecFor_row (codec : Codec β) (i : Fin 3) (p : ℕ) :
    ((row codec).router i).codecFor p = codec := by
  unfold Router.codecFor
  cases ((row codec).router i).transports[p]? <;> rfl

theorem relays_row : (row (⟨.ok, .ok⟩ : Codec Envelope)).Relays fun _ ↦ True := by
  intro i p env _ _
  rw [codecFor_row]
  refine ⟨env, rfl, fun j q _ _ ↦ ⟨env, ?_, trivial, rfl⟩⟩
  rw [codecFor_row]

def hello : Envelope := ⟨1, "m1", .fin 0, "node", .chat, [("text", .str "hi")]⟩

/-- The first router publishes, and the message comes to the last one. -/
def across : List (BusEvent (Fin 3)) :=
  [.act 0 (.publish 0 hello), .act 0 (.sendPublished 0), .pull 1 0, .act 1 (.sendForwarded 0),
    .pull 2 0]

namespace BusNet

section

variable [DecidableEq ι] [DecidableEq κ] {w : BusWiring ι κ β} {K : Envelope → Prop}
  {s t : BusNet ι β} {es : List (BusEvent ι)}

/-! ## Runs -/

/-- What the network does stays in the family. -/
theorem inside_of_exec (hK : w.Relays K) (hes : ∀ e ∈ es, e.Publishes K)
    (h : Automaton.exec (step w) (start w) es = some s) : s.Inside w K :=
  Automaton.exec_invariant_along (fun _ _ _ hs he h ↦ hs.step hK he h) (inside_start w K)
    (Automaton.Along.of_forall hes) h

/-- Where no inbox has overflowed, every message is on its way. -/
theorem covering_of_exec (hK : w.Relays K) (hes : ∀ e ∈ es, e.Publishes K)
    (h : Automaton.exec (step w) (start w) es = some s) (hdrops : s.NoDrops) (id : String) :
    Flooding.Covering w.wiring (flood w id s) := by
  have hstart : Flooding.Covering w.wiring (flood w id (start w)) := by
    have hnone : flood w id (start w) = ⟨∅, ∅, ∅, ∅⟩ := by
      refine Flooding.State.ext ?_ ?_ ?_ ?_
      · refine Set.eq_empty_of_forall_notMem ?_
        rintro j ⟨env, new, hmem, -⟩
        cases hmem
      · exact Set.eq_empty_of_forall_notMem fun j hj ↦ List.not_mem_nil hj
      · refine Set.eq_empty_of_forall_notMem ?_
        rintro p ⟨k, env, hmem, -⟩
        cases k <;> cases hmem
      · refine Set.eq_empty_of_forall_notMem ?_
        rintro p ⟨data, hmem, -⟩
        cases hmem
    rw [hnone]
    exact Flooding.Covering.start w.wiring
  refine (Automaton.exec_invariant_along
    (I := fun s ↦ s.Inside w K ∧ (s.NoDrops → Flooding.Covering w.wiring (flood w id s))) ?_
    ⟨inside_start w K, fun _ ↦ hstart⟩ (Automaton.Along.of_forall hes) h).2 hdrops
  rintro s e t ⟨hs, hcovering⟩ he hstep
  refine ⟨hs.step hK he hstep, fun ht ↦ ?_⟩
  have hbefore := hcovering (noDrops_of_step hs hK hstep ht)
  rcases flood_step id hs hK hstep ht with hsame | hflood
  · rw [hsame]
    exact hbefore
  · exact hbefore.step hflood

/-- A router writes down what it publishes. -/
theorem published_step {e : BusEvent ι} (h : s.step w e = some t) {i : ι} {env : Envelope} :
    (∃ new, .published env new ∈ (t.nodes i).2) ↔
      (∃ new, .published env new ∈ (s.nodes i).2) ∨ ∃ c, e = .act i (.publish c env) := by
  have hupdate : ∀ {i' : ι} {q : Node} {ns : List Notice},
      (∃ new, .published env new ∈ (Function.update s.nodes i' (q, (s.nodes i').2 ++ ns) i).2) ↔
        (∃ new, .published env new ∈ (s.nodes i).2) ∨
          i = i' ∧ ∃ new, .published env new ∈ ns := by
    intro i' q ns
    by_cases hi : i = i'
    · subst hi
      simp only [Function.update_self, List.mem_append, exists_or, true_and]
    · simp only [Function.update_of_ne hi, hi, false_and, or_false]
  cases e with
  | pull i' source =>
      obtain ⟨data, rest, q, -, -, rfl⟩ := step_pull h
      refine hupdate.trans (or_congr_right (iff_of_false ?_ ?_))
      · rintro ⟨-, new, hmem⟩
        cases List.mem_singleton.mp hmem
      · rintro ⟨c, heq⟩
        cases heq
  | act i' a =>
      obtain ⟨q, hq, rfl⟩ := step_act h
      refine hupdate.trans (or_congr_right ?_)
      constructor
      · rintro ⟨rfl, new, hmem⟩
        obtain ⟨c, hc⟩ := Node.publish_of_observe hmem
        cases a with
        | publish c' env' =>
            cases hc
            exact ⟨c, rfl⟩
        | subscribe => cases hc
        | handled source ok => cases hc
        | sendPublished c' => cases hc
        | sendForwarded source => cases hc
      · rintro ⟨c, heq⟩
        cases heq
        exact ⟨rfl, _, List.mem_singleton_self _⟩

theorem published_exec (h : Automaton.exec (step w) s es = some t) {i : ι} {env : Envelope} :
    (∃ new, .published env new ∈ (t.nodes i).2) ↔
      (∃ new, .published env new ∈ (s.nodes i).2) ∨ ∃ c, .act i (.publish c env) ∈ es := by
  induction es generalizing s with
  | nil =>
      cases h
      exact (or_iff_left fun ⟨_, hmem⟩ ↦ List.not_mem_nil hmem).symm
  | cons e es ih =>
      obtain ⟨r, hr, ht⟩ := Automaton.exec_cons_eq_some.mp h
      rw [ih ht, published_step hr, or_assoc, ← exists_or]
      refine or_congr_right (exists_congr fun c ↦ ?_)
      rw [List.mem_cons, eq_comm]

/-! ## The end of a run -/

/-- Where nothing can happen, no task owes anything and the inboxes are empty. -/
theorem Inside.quiet (hs : s.Inside w K) (hquiet : s.Quiet w) :
    (∀ i source, (s.nodes i).1.pumps source = .reading) ∧
      (∀ i k, (s.nodes i).1.duties (w.router i) k = []) ∧
        ∀ i p, p < (w.router i).transports.length → (s.inbox i p).queue = [] := by
  have hact : ∀ {i a}, s.step w (.act i a) = none → (s.nodes i).1.step (w.router i) a.event = none := by
    intro i a hnone
    rw [BusNet.step, Node.stepWithLedger, Automaton.traced, Option.map_eq_none_iff,
      Option.map_eq_none_iff] at hnone
    exact hnone
  have hidle : ∀ i, (∀ source, (s.nodes i).1.pumps source = .reading) ∧
      ∀ k, (s.nodes i).1.duties (w.router i) k = [] := fun i ↦
    (hs.running i).idle (fun source ↦ hact ((hquiet.2 i source).1 true))
      (fun c ↦ hact (hquiet.2 i c).2.1) fun source ↦ hact (hquiet.2 i source).2.2
  refine ⟨fun i ↦ (hidle i).1, fun i ↦ (hidle i).2, fun i p hp ↦ ?_⟩
  cases hqueue : (s.inbox i p).queue with
  | nil => rfl
  | cons data rest =>
      have hnone := hquiet.1 i p
      simp only [BusNet.step, Inbox.get, hqueue, Node.stepWithLedger, Automaton.traced,
        Option.map_eq_none_iff] at hnone
      simp only [Node.step, (hidle i).1 p, if_pos hp] at hnone
      cases hnone

/-- Where every pump is reading, every call has ended and the inboxes are empty, nothing can
happen. -/
theorem quiet_of_idle (hpumps : ∀ i source, (s.nodes i).1.pumps source = .reading)
    (hcalls : ∀ i c f, (s.nodes i).1.publishes c ≠ some (.sending f))
    (hqueues : ∀ i p, p < (w.router i).transports.length → (s.inbox i p).queue = []) :
    s.Quiet w := by
  refine ⟨fun i source ↦ ?_, fun i k ↦ ⟨fun ok ↦ ?_, ?_, ?_⟩⟩
  · by_cases hp : source < (w.router i).transports.length
    · simp only [BusNet.step, Inbox.get, hqueues i source hp]
    · simp only [BusNet.step]
      split
      · rfl
      · simp only [Node.stepWithLedger, Automaton.traced, Node.step, hpumps, if_neg hp]
        rfl
  · simp only [BusNet.step, Act.event, Node.stepWithLedger, Automaton.traced, Node.step, hpumps]
    rfl
  · simp only [BusNet.step, Act.event, Node.stepWithLedger, Automaton.traced, Node.step]
    split
    · exact absurd ‹_› (hcalls i k _)
    · rfl
  · simp only [BusNet.step, Act.event, Node.stepWithLedger, Automaton.traced, Node.step, hpumps]
    rfl

/-- **Delivery.**  When nothing can happen any more and no inbox has overflowed, a message is
known to exactly the routers that are linked to one that has published it. -/
theorem known_iff_linked (hK : w.Relays K) (hes : ∀ e ∈ es, e.Publishes K)
    (h : Automaton.exec (step w) (start w) es = some s) (hdrops : s.NoDrops)
    (hquiet : s.Quiet w) (id : String) (j : ι) :
    id ∈ newIds (s.nodes j).2 ↔ ∃ i c env, .act i (.publish c env) ∈ es ∧ env.msgId = id ∧
      Relation.ReflTransGen w.wiring.Linked i j := by
  obtain ⟨-, hduties, hqueues⟩ := (inside_of_exec hK hes h).quiet hquiet
  have hcovering := covering_of_exec hK hes h hdrops id
  have howes : (flood w id s).owes = ∅ := by
    refine Set.eq_empty_of_forall_notMem ?_
    rintro p ⟨k, env, hmem, -⟩
    rw [hduties] at hmem
    cases hmem
  have hpending : (flood w id s).pending = ∅ := by
    refine Set.eq_empty_of_forall_notMem ?_
    rintro p ⟨data, hmem, -⟩
    rw [hqueues _ _ p.2] at hmem
    cases hmem
  refine (hcovering.knows_iff howes hpending).trans (exists_congr fun i ↦ ?_)
  have hpublished : ∀ env, (∃ new, .published env new ∈ (s.nodes i).2) ↔
      ∃ c, .act i (.publish c env) ∈ es := fun env ↦
    (published_exec h).trans (or_iff_right fun ⟨_, hmem⟩ ↦ List.not_mem_nil hmem)
  constructor
  · rintro ⟨⟨env, new, hmem, hid⟩, hlinked⟩
    obtain ⟨c, hc⟩ := (hpublished env).mp ⟨new, hmem⟩
    exact ⟨c, env, hc, hid, hlinked⟩
  · rintro ⟨c, env, hc, hid, hlinked⟩
    obtain ⟨new, hmem⟩ := (hpublished env).mpr ⟨c, hc⟩
    exact ⟨⟨env, new, hmem, hid⟩, hlinked⟩

/-- What the first router of a row publishes comes to the last one. -/
theorem known_iff_linked_row : ∃ s, Automaton.exec (step (row ⟨.ok, .ok⟩)) (start (row ⟨.ok, .ok⟩))
      across = some s ∧
    ("m1" ∈ newIds (s.nodes 2).2 ↔ ∃ i c env, .act i (.publish c env) ∈ across ∧
      env.msgId = "m1" ∧ Relation.ReflTransGen (row (⟨.ok, .ok⟩ : Codec Envelope)).wiring.Linked i 2) := by
  refine ⟨_, rfl, ?_⟩
  refine known_iff_linked relays_row ?_ rfl ?_ ?_ "m1" 2
  · intro e he
    fin_cases he <;> trivial
  · intro i p
    fin_cases i
    · rcases p with _ | _ | p <;> rfl
    · rcases p with _ | _ | p <;> rfl
    · rcases p with _ | _ | p <;> rfl
  · apply quiet_of_idle
    · intro i source
      fin_cases i
      · rfl
      · cases source <;> rfl
      · cases source <;> rfl
    · intro i c f
      fin_cases i
      · cases c <;> rintro ⟨⟩
      · rintro ⟨⟩
      · rintro ⟨⟩
    · intro i p hp
      fin_cases i
      · rcases p with _ | _ | p <;> rfl
      · rcases p with _ | _ | p <;> rfl
      · rcases p with _ | _ | p <;> rfl

/-! ## Once -/

/-- What the routers have written down is of the family. -/
theorem of_exec (hK : w.Relays K) (hes : ∀ e ∈ es, e.Publishes K)
    (h : Automaton.exec (step w) (start w) es = some s) (j : ι) : ∀ n ∈ (s.nodes j).2, n.Of K := by
  refine (Automaton.exec_invariant_along
    (I := fun s ↦ s.Inside w K ∧ ∀ j, ∀ n ∈ (s.nodes j).2, n.Of K) ?_
    ⟨inside_start w K, fun _ _ hn ↦ absurd hn List.not_mem_nil⟩
    (Automaton.Along.of_forall hes) h).2 j
  rintro s e t ⟨hs, hlog⟩ he hstep
  refine ⟨hs.step hK he hstep, ?_⟩
  have happend : ∀ {i : ι} {q : Node} {ns : List Notice}, (∀ n ∈ ns, n.Of K) → ∀ j,
      ∀ n ∈ (Function.update s.nodes i (q, (s.nodes i).2 ++ ns) j).2, n.Of K := by
    intro i q ns hns
    refine Node.forall_update (P := fun _ (n : Node × List Notice) ↦ ∀ m ∈ n.2, m.Of K) hlog ?_
    exact fun n hn ↦ (List.mem_append.mp hn).elim (hlog i n) (hns n)
  cases e with
  | pull i source =>
      obtain ⟨data, rest, q, hqueue, hq, rfl⟩ := step_pull hstep
      have hhears := hs.hears (Node.step_frame hq).2.1 hqueue
      exact happend fun n hn ↦ (hs.running i).observes hhears hn
  | act i a =>
      obtain ⟨q, hq, rfl⟩ := step_act hstep
      exact happend fun n hn ↦ (hs.running i).observes (hears_event he) hn

/-- What has been accepted as new is of the family. -/
theorem newIds_of {log : List Notice} (hlog : ∀ n ∈ log, n.Of K) {id : String}
    (h : id ∈ newIds log) : ∃ env, K env ∧ env.msgId = id := by
  obtain ⟨n, hn, hid⟩ := List.mem_filterMap.mp h
  have hof := hlog n hn
  cases n with
  | published env new =>
      cases new with
      | true => exact ⟨env, hof, Option.some.inj hid⟩
      | false => cases hid
  | pulled source v =>
      cases v with
      | accepted env subscribers => exact ⟨env, hof, Option.some.inj hid⟩
      | schemaMismatch => cases hid
      | undecodable => cases hid
      | duplicate env => cases hid
  | sent env target => cases hid
  | handed source env others => cases hid
  | forwarded source env target => cases hid

omit [DecidableEq ι] in
/-- The events of a run publish what they publish. -/
theorem publishes_and {P : Envelope → Prop} (hes : ∀ e ∈ es, e.Publishes K)
    (hP : ∀ i c env, .act i (.publish c env) ∈ es → P env) :
    ∀ e ∈ es, e.Publishes fun env ↦ K env ∧ P env := by
  intro e he
  have hK := hes e he
  cases e with
  | pull i source => trivial
  | act i a =>
      cases a with
      | publish c env => exact ⟨hK, hP i c env he⟩
      | subscribe => trivial
      | handled source ok => trivial
      | sendPublished c => trivial
      | sendForwarded source => trivial

/-- Where no more ids are published than a router remembers, it takes each once. -/
theorem nodup_newIds (hK : w.Relays K) (hes : ∀ e ∈ es, e.Publishes K)
    (h : Automaton.exec (step w) (start w) es = some s) (j : ι)
    (hcache : (publishedIds es).toFinset.card ≤ (w.router j).dedupeCacheSize) :
    (newIds (s.nodes j).2).Nodup ∧ newIds (s.nodes j).2 ⊆ publishedIds es := by
  have hrelays := hK.restrict fun id ↦ id ∈ publishedIds es
  have hpublishes := publishes_and hes fun i c env hmem ↦ mem_publishedIds hmem
  have hsubset : newIds (s.nodes j).2 ⊆ publishedIds es := by
    intro id hid
    obtain ⟨env, ⟨-, hmem⟩, rfl⟩ := newIds_of (of_exec hrelays hpublishes h j) hid
    exact hmem
  refine ⟨((inside_of_exec hrelays hpublishes h).accounts j).fresh.nodup_of_card_le
    (le_trans (Finset.card_le_card ?_) hcache), hsubset⟩
  exact fun id hid ↦ List.mem_toFinset.mpr (hsubset (List.mem_toFinset.mp hid))

/-- **Once.**  In every run in which no more ids are published than a router remembers, the router
takes each message at most once, takes only what was published, and a pump that takes its next
frame has handed the ones before to every subscriber and to every other transport once. -/
theorem taken_once (hK : w.Carries K) (hes : ∀ e ∈ es, e.Publishes K)
    (h : Automaton.exec (step w) (start w) es = some s) (j : ι)
    (hcache : (publishedIds es).toFinset.card ≤ (w.router j).dedupeCacheSize) :
    (newIds (s.nodes j).2).Nodup ∧
      (∀ source env n, .pulled source (.accepted env n) ∈ (s.nodes j).2 →
        ∃ i c, .act i (.publish c env) ∈ es) ∧
      ∀ source, (s.nodes j).1.pumps source = .reading →
        doneBy source (s.nodes j).2 =
          asked (w.router j) source (verdicts source (s.nodes j).2) := by
  have hrelays := hK.relays fun env ↦ ∃ i c, .act i (.publish c env) ∈ es
  have hpublishes := publishes_and hes fun i c env hmem ↦ (⟨i, c, hmem⟩ :
    ∃ i c, BusEvent.act i (.publish c env) ∈ es)
  refine ⟨(nodup_newIds hrelays hpublishes h j hcache).1, fun source env n hn ↦ ?_,
    ((inside_of_exec hrelays hpublishes h).accounts j).exactlyOnce.delivered⟩
  exact (of_exec hrelays hpublishes h j _ hn).2

/-- In a row of routers with `JsonCodec`. -/
theorem taken_once_row : ∃ s, Automaton.exec (step (row (jsonCodec EnvelopeJson.plain [1])))
      (start (row (jsonCodec EnvelopeJson.plain [1]))) across = some s ∧
    (newIds (s.nodes 2).2).Nodup := by
  have hrun : (Automaton.exec (step (row (jsonCodec EnvelopeJson.plain [1])))
      (start (row (jsonCodec EnvelopeJson.plain [1]))) across).isSome = true := by
    decide +kernel
  obtain ⟨s, hs⟩ := Option.isSome_iff_exists.mp hrun
  have hwrites : (EnvelopeJson.plainDump hello).isSome = true := by decide +kernel
  obtain ⟨data, hdump⟩ := Option.isSome_iff_exists.mp hwrites
  have hvalidate : (EnvelopeJson.plain.validate data).isSome = true := by
    show (EnvelopeJson.plainValidate data).isSome = true
    rw [EnvelopeJson.plainValidate_dump hdump]
    rfl
  have hreads : EnvelopeJson.plain.Reads [1] hello :=
    ⟨by decide +kernel, rfl, List.mem_singleton_self 1, data, hdump, hvalidate⟩
  refine ⟨s, hs, (taken_once (carries_json (codecFor_row _)) ?_ hs 2 (by decide +kernel)).1⟩
  intro e he
  fin_cases he
  · exact hreads
  · trivial
  · trivial
  · trivial
  · trivial

end

end BusNet

end DroneComms.Mesh
