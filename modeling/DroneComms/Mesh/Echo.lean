import DroneComms.Mesh.CompactTrip
import DroneComms.Mesh.CotLink
import DroneComms.Mesh.JsonCodec
import DroneComms.Mesh.Ledger

/-!
# Echoes

A node may hear its own frame on the transport it sent it on.  It stays silent if
the id it decodes has been seen.  `JsonCodec` and `CompactCodec` carry the msg_id,
so that is the id the node has marked.  `CotCodec` does not: the id of an event is
made of its uid and its time, and the node has marked that one only by chance.
-/

namespace DroneComms.Mesh

open Py (PyFloat Interpreter ElementTree JsonReader Bytes)
open Wire (bigEndian toUnsigned utf8 getStr)
open Window (lastN)

/-! ## Nodes with the codecs of the repository -/

/-- A codec with its settings. -/
inductive CodecSpec where
  | json (supported : List ℤ)
  | compact (supported : List ℤ)
  | cot (naming : { naming : CotNaming // naming.WellNamed })

/-- The settings of a router. -/
structure Station where
  transports : List String
  codec : CodecSpec
  codecs : List (String × CodecSpec) := []
  dedupeCacheSize : ℕ := 2048

/-- The settings for a transport. -/
def Station.specFor (s : Station) (transport : ℕ) : CodecSpec :=
  ((s.transports[transport]?).bind fun name ↦ s.codecs.lookup name).getD s.codec

section

variable (py : Interpreter) (et : ElementTree) (json : JsonReader py) (ej : EnvelopeJson)

def CodecSpec.build : CodecSpec → Codec Bytes
  | .json supported => jsonCodec ej supported
  | .compact supported => compactCodec py json supported
  | .cot naming => cotCodec py et naming

def Station.router (s : Station) : Router Bytes where
  transports := s.transports
  codec := s.codec.build py et json ej
  codecs := s.codecs.map fun p ↦ (p.1, p.2.build py et json ej)
  dedupeCacheSize := s.dedupeCacheSize

theorem lookup_map_snd {α γ : Type} (f : α → γ) (l : List (String × α)) (key : String) :
    (l.map fun p ↦ (p.1, f p.2)).lookup key = (l.lookup key).map f := by
  induction l with
  | nil => rfl
  | cons p l ih =>
      rw [List.map_cons, List.lookup_cons, List.lookup_cons, ih]
      cases key == p.1 <;> rfl

theorem codecFor_router (s : Station) (transport : ℕ) :
    (s.router py et json ej).codecFor transport = (s.specFor transport).build py et json ej := by
  rw [Router.codecFor, Station.specFor]
  show (Option.bind s.transports[transport]? fun name ↦
    (s.codecs.map fun p ↦ (p.1, p.2.build py et json ej)).lookup name).getD _ = _
  cases s.transports[transport]? with
  | none => rfl
  | some name =>
      rw [Option.bind_some, Option.bind_some, lookup_map_snd]
      cases s.codecs.lookup name <;> rfl

/-! ## The id that is read back -/

/-- The id that a codec reads back from what it wrote. -/
def CodecSpec.echoId (env : Envelope) : CodecSpec → String
  | .json _ | .compact _ => env.msgId
  | .cot _ => Cot.eventUid py env ++ ":" ++ (Py.iso env.ts).toOption.getD ""

end

section

variable {py : Interpreter} {et : ElementTree} {json : JsonReader py} {ej : EnvelopeJson}

/-- A compact frame has the msg_id in its header, whatever its body is. -/
theorem compact_id {supported : List ℤ} {env e' : Envelope} {b : Bytes}
    (henc : Compact.encode py env = .ok b) (hdec : Compact.decode json supported b = .ok e') :
    e'.msgId = env.msgId := by
  obtain ⟨ts, bytes, -, hsource, hmsgId, rfl⟩ := Compact.encode_eq_ok henc
  rcases Compact.decode_cases hdec with h | h | ⟨schema, bs, f, hcons, -, hf, h⟩
  · cases h
  · cases h
  · obtain ⟨-, rfl⟩ := List.cons.inj hcons
    obtain ⟨⟨kind, ts', sourceUid, id, rest⟩, hread, hf⟩ := Option.bind_eq_some_iff.mp hf
    rw [Compact.readHeader_bytes (Wire.toUnsigned_lt 32 ts) hsource hmsgId] at hread
    cases hread
    obtain ⟨payload, -, hf⟩ := Option.bind_eq_some_iff.mp hf
    cases hf
    unfold Compact.Fields.envelope at h
    split at h
    · cases h
      rfl
    · cases h

/-- What a codec reads back has its echo id. -/
theorem echoId_of_decode {spec : CodecSpec} {env e' : Envelope} {b : Bytes}
    (henc : (spec.build py et json ej).encode env = .ok b)
    (hdec : (spec.build py et json ej).decode b = .ok e') : e'.msgId = spec.echoId py env := by
  cases spec with
  | json supported =>
      have hdump := jsonCodec_encode_eq_ok.mp henc
      exact (ej.header hdump (jsonCodec_decode_eq_ok.mp hdec).1).2.1
  | compact supported => exact compact_id henc hdec
  | cot naming =>
      obtain ⟨time, htime, -, hid, -⟩ := Cot.Trip.identity naming.2 ⟨b, henc, hdec⟩
      rw [hid, CodecSpec.echoId, htime]
      rfl

end

/-! ## Hearing an echo -/

namespace Node

variable {r : Router Bytes} {w : Node} {log : List Notice}

/-- A frame that comes now is neither handed to a subscriber nor forwarded. -/
def Silent (r : Router Bytes) (w : Node) (source : ℕ) (data : Bytes) : Prop :=
  (w.verdict r source data).deliveries r source = []

/-- There is no subscriber and no other transport. -/
def Alone (r : Router Bytes) (w : Node) (source : ℕ) : Prop :=
  w.subscribers = 0 ∧ others r source = []

theorem deliveries_accepted {source : ℕ} {e : Envelope} {n : ℕ} :
    (Verdict.accepted e n).deliveries r source = [] ↔ n = 0 ∧ others r source = [] := by
  show Verdict.handings source e n ++ (others r source).map (.forwarded source e) = [] ↔ _
  rw [List.append_eq_nil_iff, Verdict.handings, List.map_eq_nil_iff, List.reverse_eq_nil_iff,
    List.range_eq_nil, List.map_eq_nil_iff]

/-- A frame that is decoded with an id. -/
theorem silent_iff {source : ℕ} {data : Bytes} {id : String}
    (hid : ∀ e, (r.codecFor source).decode data = .ok e → e.msgId = id) :
    w.Silent r source data ↔ (∀ e, (r.codecFor source).decode data ≠ .ok e) ∨ id ∈ w.seen ∨
      w.Alone r source := by
  unfold Silent verdict Alone
  cases hdec : (r.codecFor source).decode data with
  | error err =>
      refine iff_of_true ?_ (.inl nofun)
      cases err <;> rfl
  | ok e =>
      have hmsgId := hid e hdec
      have hdecoded : ¬∀ e', (Except.ok e : Except CodecError Envelope) ≠ .ok e' :=
        fun h ↦ h e rfl
      rw [or_iff_right hdecoded]
      dsimp only
      split_ifs with hseen
      · rw [hmsgId] at hseen
        exact iff_of_true rfl (.inl hseen)
      · rw [hmsgId] at hseen
        rw [or_iff_right hseen]
        exact deliveries_accepted

/-- An id was accepted as new, and less than `n` others since. -/
def Recent (n : ℕ) (id : String) (ids : List String) : Prop :=
  ∃ pre mid, ids = pre ++ id :: mid ∧ mid.length < n

theorem mem_seen_of_recent {id : String} (h : w.Accounts r log)
    (hrecent : Recent r.dedupeCacheSize id (newIds log)) : id ∈ w.seen := by
  obtain ⟨pre, mid, hsplit, hlength⟩ := hrecent
  rw [h.window, hsplit]
  exact Window.mem_lastN hlength

end Node

section

variable (py : Interpreter) (et : ElementTree) (json : JsonReader py) (ej : EnvelopeJson)

/-- The settings are those of `CotCodec`. -/
def CodecSpec.IsCot : CodecSpec → Prop
  | .cot _ => True
  | .json _ | .compact _ => False

/-- What keeps a node silent that hears its own frame. -/
def Suppressed (s : Station) (w : Node) (transport : ℕ) (env : Envelope) (b : Bytes) : Prop :=
  (∀ e, ((s.specFor transport).build py et json ej).decode b ≠ .ok e) ∨
    (s.specFor transport).echoId py env ∈ w.seen ∨ w.Alone (s.router py et json ej) transport

/-- For the bytes of any envelope on any transport: the node is silent if it is suppressed, and
with `JsonCodec` and `CompactCodec` it is as long as the id is in the window. -/
def EchoesKnown (s : Station) (w : Node) (log : List Notice) : Prop :=
  ∀ transport env b, ((s.specFor transport).build py et json ej).encode env = .ok b →
    (w.Silent (s.router py et json ej) transport b ↔
      Suppressed py et json ej s w transport env b) ∧
    (¬(s.specFor transport).IsCot → Node.Recent s.dedupeCacheSize env.msgId (newIds log) →
      w.Silent (s.router py et json ej) transport b)

theorem echoesKnown_of_accounts {s : Station} {w : Node} {log : List Notice}
    (h : w.Accounts (s.router py et json ej) log) : EchoesKnown py et json ej s w log := by
  intro transport env b henc
  have hcodec := codecFor_router py et json ej s transport
  have hsilent : w.Silent (s.router py et json ej) transport b ↔
      Suppressed py et json ej s w transport env b := by
    rw [Suppressed, ← hcodec]
    apply Node.silent_iff
    intro e hdec
    rw [hcodec] at hdec
    exact echoId_of_decode henc hdec
  refine ⟨hsilent, fun hcot hrecent ↦ hsilent.mpr (.inr (.inl ?_))⟩
  have hid : (s.specFor transport).echoId py env = env.msgId := by
    cases hspec : s.specFor transport with
    | json supported => rfl
    | compact supported => rfl
    | cot naming =>
        rw [hspec] at hcot
        exact absurd trivial hcot
  rw [hid]
  exact Node.mem_seen_of_recent h hrecent

/-- **Echoes.**  When a node hears its own frame, in every state of every run. -/
theorem echo_silent_iff (s : Station) (es : List (NodeEvent Bytes)) :
    Automaton.Always (Node.stepWithLedger (s.router py et json ej))
      (fun p ↦ EchoesKnown py et json ej s p.1 p.2) ({}, []) es :=
  (Node.accounts_always _ es).mono fun _ h ↦ echoesKnown_of_accounts py et json ej h

end

/-! ## A closed run -/

/-- A TAK link on its own. -/
def takLink : Station where
  transports := ["tak"]
  codec := .cot ⟨{}, (CotNaming.standard_default true).wellNamed⟩

/-- Everything in a closed run is the plain one. -/
def Station.plain (s : Station) : Router Bytes :=
  s.router Interpreter.plain ElementTree.plain JsonReader.plain EnvelopeJson.plain

/-- What a node publishes it does not hear. -/
def Unheard (s : Station) (w : Node) (log : List Notice) : Prop :=
  ∀ transport env b, Notice.sent env transport ∈ log →
    (s.plain.codecFor transport).encode env = .ok b →
      Node.Recent s.dedupeCacheSize env.msgId (newIds log) → w.Silent s.plain transport b

/-- The bytes of a chat on a TAK link. -/
theorem exists_trip_shout :
    ∃ e', Cot.Trip Interpreter.plain ElementTree.plain {} Cot.shout e' := by
  obtain ⟨u, hu, hu0⟩ := Py.exists_fromtimestamp le_rfl Py.binary64_zero (by norm_num [Py.epochEnd])
  obtain ⟨v, hv⟩ := (Py.exists_fromtimestamp_add_iff le_rfl Py.binary64_zero
    (by norm_num [Py.epochEnd])).mpr (by norm_num [Py.epochEnd])
  obtain ⟨e', htrip, -⟩ := Cot.chat_trip ElementTree.plain
    (CotNaming.standard_default true).wellNamed (CotNaming.legal_default true)
    (by decide +kernel) Cot.isChat_shout hu
      (Py.fourDigitMillis_le hu0) hv
  exact ⟨e', htrip⟩

/-- With a subscriber, the chat is published and sent. -/
theorem exec_shout (hsends : takLink.plain.Encodes Cot.shout 0) :
    ∃ w, Automaton.exec (Node.stepWithLedger takLink.plain) ({}, [])
        [.subscribe, .publish 0 Cot.shout, .sendPublished 0 true] =
          some (w, [.published Cot.shout true, .sent Cot.shout 0]) ∧
      w.seen = ["alice"] ∧ w.subscribers = 1 := by
  let f : FanOut := ⟨Cot.shout, [0], [], []⟩
  let w : Node := {
    seen := ["alice"]
    subscribers := 1
    publishes := Function.update (fun _ ↦ none) 0 (some (.sending f)) }
  have hstart : Automaton.exec (Node.stepWithLedger takLink.plain) ({}, [])
      [.subscribe, .publish 0 Cot.shout] = some (w, [.published Cot.shout true]) := rfl
  have hattempt : Node.attempt takLink.plain f 0 [] true =
      (⟨Cot.shout, [], [0], []⟩, true) := by
    rcases FanOut.attempt_cases takLink.plain f 0 [] true with ⟨-, -, heq⟩ | ⟨hfail, -⟩
    · exact heq
    · exact absurd ⟨hsends, rfl⟩ hfail
  have hobserve : w.observe takLink.plain (.sendPublished 0 true) = [.sent Cot.shout 0] := by
    show Node.sending takLink.plain f true .sent = _
    rw [Node.sending_eq true .sent rfl, if_pos ⟨hsends, rfl⟩]
  obtain ⟨q, hq, hseen, hsubscribers⟩ : ∃ q, w.step takLink.plain (.sendPublished 0 true) = some q ∧
      q.seen = ["alice"] ∧ q.subscribers = 1 := by
    simp only [Node.step, w, f, Function.update_self]
    rw [hattempt]
    exact ⟨_, rfl, rfl, rfl⟩
  refine ⟨q, ?_, hseen, hsubscribers⟩
  refine Automaton.exec_trans hstart (Automaton.exec_cons_eq_some.mpr ⟨_, ?_, rfl⟩)
  refine Automaton.traced_eq_some.mpr ⟨hq, ?_⟩
  rw [hobserve]
  rfl

/-- A chat that a node publishes on a TAK link and hears again is new to it. -/
theorem published_chat_heard : ¬∀ (s : Station) (es : List (NodeEvent Bytes)),
    Automaton.Always (Node.stepWithLedger s.plain) (fun p ↦ Unheard s p.1 p.2) ({}, []) es := by
  intro h
  obtain ⟨e', b, henc, hdec⟩ := exists_trip_shout
  have hcodec : takLink.plain.codecFor 0 = takLink.codec.build Interpreter.plain
    ElementTree.plain JsonReader.plain EnvelopeJson.plain := rfl
  have hencode : (takLink.plain.codecFor 0).encode Cot.shout = .ok b := henc
  have hsends : takLink.plain.Encodes Cot.shout 0 := by
    rw [Router.Encodes, hencode]
    rfl
  obtain ⟨w, hrun, hseen, hsubscribers⟩ := exec_shout hsends
  have hunheard := Automaton.always_iff_prefix.mp (h takLink _) _ _ (List.prefix_refl _) hrun
  have hsilent := hunheard 0 Cot.shout b (by simp) hencode ⟨[], [], rfl, by decide⟩
  have hid : ∀ e, (takLink.plain.codecFor 0).decode b = .ok e →
      e.msgId = takLink.codec.echoId Interpreter.plain Cot.shout := by
    rw [hcodec] at hencode ⊢
    exact fun e he ↦ echoId_of_decode hencode he
  rcases (Node.silent_iff hid).mp hsilent with hnot | hmem | halone
  · exact hnot e' hdec
  · rw [hseen] at hmem
    exact absurd hmem (by decide +kernel)
  · rw [Node.Alone, hsubscribers] at halone
    exact absurd halone.1 (by decide)

end DroneComms.Mesh
