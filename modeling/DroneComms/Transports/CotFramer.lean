import DroneComms.Py.XmlTags
import DroneComms.Mesh.CotRelay

/-!
# Splitting a CoT stream

`CotFramer` of `transports/tak.py` cuts the stream from a TAK server behind each
`</event>` and drops what stands in front of the first `<event` of a piece.
Cutting is a scanner, so the events do not depend on the chunks; and a document
of `CotCodec` has its only end tag at its end, whatever its texts are, so it comes
out of the stream as it went in.
-/

namespace DroneComms.Transports

open Py (Bytes Element Interpreter ElementTree)
open Mesh (cotCodec CotNaming Envelope)
open Search (find?)
open Resync (Drains)

/-! ## The framer -/

/-- `_EVENT_END`. -/
def eventEnd : Bytes := Py.Xml.ascii ['<', '/', 'e', 'v', 'e', 'n', 't', '>']

/-- `_EVENT_START`. -/
def eventStart : Bytes := Py.Xml.ascii ['<', 'e', 'v', 'e', 'n', 't']

/-- `CotFramer`. -/
structure CotFramer where
  buf : Bytes := []

namespace CotFramer

/-- The document in `raw`, if one begins there. -/
def document (raw : Bytes) : Option Bytes := (find? eventStart raw).map raw.drop

/-- At most `fuel` iterations of the loop of `feed`. -/
def loop : ℕ → CotFramer → List Bytes → CotFramer × List Bytes
  | 0, framer, events => (framer, events)
  | fuel + 1, framer, events =>
      match find? eventEnd framer.buf with
      | none => (framer, events)
      | some idx =>
          let stop := idx + eventEnd.length
          let raw := framer.buf.take stop
          loop fuel { buf := framer.buf.drop stop } (events ++ (document raw).toList)

/-- `feed`.  An iteration takes at least one byte. -/
def feed (framer : CotFramer) (chunk : Bytes) : CotFramer × List Bytes :=
  loop (framer.buf ++ chunk).length { buf := framer.buf ++ chunk } []

/-- Feed the chunks one after another and collect the events. -/
def feedAll (framer : CotFramer) (chunks : List Bytes) : CotFramer × List Bytes :=
  chunks.foldl (fun x chunk ↦ ((x.1.feed chunk).1, x.2 ++ (x.1.feed chunk).2)) (framer, [])

/-- What `_read_loop` ingests from a new connection: it ends with an empty read. -/
def readLoop (reads : List Bytes) : List Bytes := (feedAll {} (reads.takeWhile (· ≠ []))).2

/-! ## Chunks -/

/-- What the framer takes from the front of its buffer. -/
def scanner : Resync.Scanner UInt8 (Option Bytes) := Search.cutter eventEnd (by decide) document

/-- The framer after these pieces were taken. -/
def drained (ps : List (Bytes × Option Bytes)) (rest : Bytes) : CotFramer × List Bytes :=
  ({ buf := rest }, ps.filterMap Prod.snd)

/-- The loop drains the buffer. -/
theorem loop_eq {fuel : ℕ} {bs rest : Bytes} {ps : List (Bytes × Option Bytes)}
    (h : Drains scanner bs ps rest) (hfuel : ps.length ≤ fuel) (events : List Bytes) :
    loop fuel { buf := bs } events = ({ buf := rest }, events ++ ps.filterMap Prod.snd) := by
  induction h generalizing fuel events with
  | @wait bs hhead =>
      have hfind : find? eventEnd bs = none := Option.map_eq_none_iff.mp hhead
      cases fuel with
      | zero => simp [loop]
      | succ fuel => simp [loop, hfind]
  | @take piece doc bs ps rest hhead _ ih =>
      obtain ⟨idx, hfind, heq⟩ := Option.map_eq_some_iff.mp hhead
      obtain ⟨hlength, hdoc⟩ := Prod.mk.inj heq
      rw [hlength, List.take_left] at hdoc
      cases fuel with
      | zero => simp at hfuel
      | succ fuel =>
          rw [loop, hfind]
          dsimp only
          rw [hlength, List.take_left, List.drop_left, hdoc, ih (by simpa using hfuel)]
          cases doc <;> simp

/-- Feeding a chunk drains what was left with the chunk behind it. -/
theorem feed_eq {framer : CotFramer} {chunk rest : Bytes} {ps : List (Bytes × Option Bytes)}
    (h : Drains scanner (framer.buf ++ chunk) ps rest) : framer.feed chunk = drained ps rest :=
  loop_eq h (le_trans (Nat.le_add_right _ _) h.length_le) []

theorem feedAll_append (framer : CotFramer) (chunks : List Bytes) (chunk : Bytes) :
    framer.feedAll (chunks ++ [chunk]) = (((framer.feedAll chunks).1.feed chunk).1,
      (framer.feedAll chunks).2 ++ ((framer.feedAll chunks).1.feed chunk).2) := by
  rw [feedAll, feedAll, List.foldl_append]
  rfl

/-- Feeding chunks drains all of them at once. -/
theorem exists_drains (chunks : List Bytes) : ∃ ps rest,
    Drains scanner chunks.flatten ps rest ∧ feedAll {} chunks = drained ps rest := by
  induction chunks using List.reverseRecOn with
  | nil => exact ⟨[], [], .wait scanner.head_nil, rfl⟩
  | append_singleton chunks chunk ih =>
      obtain ⟨ps, rest, hps, hfeed⟩ := ih
      obtain ⟨qs, rest', hqs⟩ := Drains.exists_drains scanner (rest ++ chunk)
      refine ⟨ps ++ qs, rest', ?_, ?_⟩
      · rw [List.flatten_append, List.flatten_singleton]
        exact hps.append hqs
      · have hchunk : CotFramer.feed { buf := rest } chunk = drained qs rest' := feed_eq hqs
        rw [feedAll_append, hfeed]
        dsimp only [drained]
        rw [hchunk, drained, List.filterMap_append]

theorem feedAll_eq {chunks : List Bytes} {rest : Bytes} {ps : List (Bytes × Option Bytes)}
    (h : Drains scanner chunks.flatten ps rest) : feedAll {} chunks = drained ps rest := by
  obtain ⟨qs, rest', hqs, hfeed⟩ := exists_drains chunks
  obtain ⟨rfl, rfl⟩ := h.unique hqs
  exact hfeed

/-- The events of a stream do not depend on its chunks. -/
theorem feedAll_flatten (chunks : List Bytes) : feedAll {} chunks = feed {} chunks.flatten := by
  obtain ⟨ps, rest, hps, hfeed⟩ := exists_drains chunks
  rw [hfeed, feed_eq hps]

/-- What a connection brings does not depend on the sizes of its reads. -/
theorem readLoop_eq (reads : List Bytes) :
    readLoop reads = (feed {} (reads.takeWhile (· ≠ [])).flatten).2 := by
  rw [readLoop, feedAll_flatten]

/-- No end tag is left in the buffer. -/
theorem eventEnd_not_infix (chunks : List Bytes) : ¬eventEnd <:+: (feedAll {} chunks).1.buf := by
  obtain ⟨ps, rest, hps, hfeed⟩ := exists_drains chunks
  rw [hfeed]
  exact Search.cutter_head_eq_none.mp hps.head_rest

/-! ## Documents -/

/-- A document that begins with its start tag and has its only end tag at its end. -/
def IsDocument (doc : Bytes) : Prop :=
  ∃ front, doc = front ++ eventEnd ∧ eventStart <+: front ∧ ¬eventEnd <:+: front

/-- Bytes that neither begin nor end an event. -/
def IsDelimiter (delimiter : Bytes) : Prop :=
  ¬eventStart <:+: delimiter ∧ ¬eventEnd <:+: delimiter

theorem find?_eventEnd {xs ys : Bytes} (hxs : ¬eventEnd <:+: xs) (hys : ys.head?.all (· = 60)) :
    find? eventEnd (xs ++ ys) = (find? eventEnd ys).map (xs.length + ·) :=
  Search.find?_append (by decide) hxs hys

theorem find?_eventStart {xs ys : Bytes} (hxs : ¬eventStart <:+: xs)
    (hys : ys.head?.all (· = 60)) :
    find? eventStart (xs ++ ys) = (find? eventStart ys).map (xs.length + ·) :=
  Search.find?_append (by decide) hxs hys

/-- A document behind a delimiter is taken with it, and comes out alone. -/
theorem head_delimiter {delimiter doc : Bytes} (hdelimiter : IsDelimiter delimiter)
    (hdoc : IsDocument doc) (cs : Bytes) : scanner.head (delimiter ++ doc ++ cs) =
      some ((delimiter ++ doc).length, some doc) := by
  obtain ⟨front, rfl, hfront, hend⟩ := hdoc
  obtain ⟨tail, rfl⟩ := hfront
  have hstop : find? eventEnd (delimiter ++ (eventStart ++ tail ++ eventEnd)) =
      some (delimiter ++ (eventStart ++ tail)).length := by
    rw [find?_eventEnd hdelimiter.2 rfl, find?_eventEnd hend rfl,
      Search.find?_front (List.prefix_refl eventEnd), Option.map_some, Option.map_some,
      Nat.add_zero, ← List.length_append]
  have hstart : find? eventStart (delimiter ++ (eventStart ++ tail ++ eventEnd)) =
      some delimiter.length := by
    rw [find?_eventStart hdelimiter.1 rfl, List.append_assoc,
      Search.find?_front (List.prefix_append _ _), Option.map_some, Nat.add_zero]
  rw [← List.append_assoc delimiter] at hstop ⊢
  rw [scanner, Search.cutter_head_append hstop, document, List.append_assoc delimiter, hstart,
    Option.map_some, List.drop_left]

/-- Documents between delimiters come out one by one, and the last delimiter is left. -/
theorem feedAll_documents {stream : List (Bytes × Bytes)} {chunks : List Bytes}
    (h : ∀ p ∈ stream, IsDelimiter p.1 ∧ IsDocument p.2)
    (hchunks : chunks.flatten = stream.flatMap fun p ↦ p.1 ++ p.2) :
    feedAll {} chunks = ({ buf := [] }, stream.map Prod.snd) := by
  have hwhole : ∀ p ∈ stream.map fun p ↦ (p.1 ++ p.2, some p.2), ∀ cs,
      scanner.head (p.1 ++ cs) = some (p.1.length, p.2) := by
    intro p hp cs
    obtain ⟨q, hq, rfl⟩ := List.mem_map.mp hp
    exact head_delimiter (h q hq).1 (h q hq).2 cs
  have hdrains := Drains.of_pieces _ hwhole (.wait scanner.head_nil)
  have hpieces : (stream.map fun p ↦ (p.1 ++ p.2, some p.2)).map Prod.fst =
      stream.map fun p ↦ p.1 ++ p.2 := by
    rw [List.map_map]
    rfl
  rw [hpieces, List.append_nil, List.append_nil, ← List.flatMap_def, ← hchunks] at hdrains
  rw [feedAll_eq hdrains, drained, List.filterMap_map]
  congr 1
  exact congrFun List.filterMap_eq_map stream

/-! ## Documents of the codec -/

variable {py : Interpreter} {et : ElementTree} {naming : CotNaming} {env : Envelope}
  {el : Element}

theorem allLack_nodeOfAttrs {tag name : String} (hname : name ≠ tag)
    (attrib : List (String × String)) :
    Py.Xml.allLack tag (Mesh.Cot.nodeOfAttrs name attrib) = true := by
  rw [Mesh.Cot.nodeOfAttrs]
  split_ifs
  · rfl
  · simp [Mesh.Cot.node, Py.Xml.lacks, Py.Xml.allLack, hname]

/-- No richer detail is an event. -/
theorem allLack_richerDetail (hnaming : naming.Standard) {payload pos : Py.Dict}
    {els : List Element} (h : Mesh.Cot.richerDetail py naming payload pos = .ok els) :
    Py.Xml.allLack "event" els = true := by
  rw [Mesh.Cot.richerDetail] at h
  split_ifs at h
  · obtain ⟨d, -, h⟩ := Py.bind_eq_ok.mp h
    obtain ⟨a, -, h⟩ := Py.bind_eq_ok.mp h
    cases h
    have htrack : Py.Xml.allLack "event" (Mesh.Cot.trackOf py naming pos) = true := by
      rw [Mesh.Cot.trackOf, hnaming.track]
      split
      · simp [Mesh.Cot.node, Py.Xml.lacks, Py.Xml.allLack]
      · rfl
    rw [hnaming.status, hnaming.vendor, hnaming.attitude]
    simp [Py.Xml.allLack_append, htrack, allLack_nodeOfAttrs]
  · cases h
    rfl

/-- The element of an envelope is an event with content and without an event inside. -/
theorem encodeEnvelope_event (hnaming : naming.Standard)
    (h : Mesh.Cot.encodeEnvelope py naming env = .ok el) : ∃ attrib child children,
      el = .mk "event" attrib "" (child :: children) ∧
        Py.Xml.allLack "event" (child :: children) = true := by
  have hpli : Mesh.Cot.encodePli py naming env = .ok el → ∃ attrib child children,
      el = .mk "event" attrib "" (child :: children) ∧
        Py.Xml.allLack "event" (child :: children) = true := by
    intro h
    obtain ⟨attrib, pos, info, richer, -, -, -, hricher, rfl⟩ := Mesh.Cot.encodePli_eq_ok.mp h
    refine ⟨attrib, _, _, rfl, ?_⟩
    have hrich := allLack_richerDetail hnaming hricher
    simp [Mesh.Cot.point, Mesh.Cot.node, Py.Xml.lacks, Py.Xml.allLack, hrich]
  unfold Mesh.Cot.encodeEnvelope at h
  cases hkind : env.kind with
  | chat =>
      rw [hkind] at h
      obtain ⟨attrib, text, -, -, rfl⟩ := Mesh.Cot.encodeChat_eq_ok.mp h
      refine ⟨attrib, _, _, rfl, ?_⟩
      simp [Mesh.Cot.node, Py.Xml.lacks, Py.Xml.allLack]
  | marker =>
      rw [hkind] at h
      obtain ⟨attrib, pos, det, info, remarks, -, -, -, -, -, rfl⟩ :=
        Mesh.Cot.encodeMarker_eq_ok.mp h
      refine ⟨attrib, _, _, rfl, ?_⟩
      rw [hnaming.detection]
      simp [Mesh.Cot.point, Mesh.Cot.node, Py.Xml.lacks, Py.Xml.allLack, Py.Xml.allLack_append,
        allLack_nodeOfAttrs]
  | pli =>
      rw [hkind] at h
      exact hpli h
  | status =>
      rw [hkind] at h
      exact hpli h

/-- Whatever an envelope holds, its encoding is a document. -/
theorem isDocument_encode (hnaming : naming.Standard) {doc : Bytes}
    (h : (cotCodec py et naming).encode env = .ok doc) : IsDocument doc := by
  obtain ⟨el, hel, rfl⟩ := Mesh.Cot.encode_eq_ok.mp h
  obtain ⟨-, -, hnamed⟩ := Mesh.Cot.encodeEnvelope_eq_ok hel
  obtain ⟨attrib, child, children, rfl, hlacks⟩ := encodeEnvelope_event hnaming hel
  obtain ⟨front, hdoc, hstart, hend⟩ :=
    Py.Xml.tostring_ends_once (hnamed hnaming.wellNamed) hlacks (by simp)
  exact ⟨front, hdoc, hstart, hend⟩

/-- **The framer.**  However a stream is cut into chunks, they give the events and the buffer of
the whole stream, and no end tag is left in the buffer; and the documents of a codec
with the default names come out as they were sent, in order, whatever stands between them. -/
theorem framer_exact (py : Interpreter) (et : ElementTree) :
    (∀ chunks : List Bytes, feedAll {} chunks = feed {} chunks.flatten ∧
      ¬eventEnd <:+: (feedAll {} chunks).1.buf) ∧
    ∀ stream : List (Bytes × Bytes),
      (∀ p ∈ stream, IsDelimiter p.1 ∧ ∃ env, (cotCodec py et).encode env = .ok p.2) →
      ∀ chunks : List Bytes, chunks.flatten = (stream.flatMap fun p ↦ p.1 ++ p.2) →
        feedAll {} chunks = ({ buf := [] }, stream.map Prod.snd) := by
  refine ⟨fun chunks ↦ ⟨feedAll_flatten chunks, eventEnd_not_infix chunks⟩, ?_⟩
  intro stream hstream chunks hchunks
  apply feedAll_documents _ hchunks
  intro p hp
  obtain ⟨hdelimiter, env, henv⟩ := hstream p hp
  exact ⟨hdelimiter, isDocument_encode (CotNaming.standard_default true) henv⟩

/-- A chat with an end tag for its text. -/
def forged : Envelope where
  msgId := "alice"
  ts := .fin 0
  sourceUid := "alice"
  kind := .chat
  payload := [("text", .str "</event><event>")]

/-- The text does not end the document, nor does a tag that was cut off in front of it. -/
theorem framer_exact_forged : ∃ doc, (cotCodec .plain .plain).encode forged = .ok doc ∧
    feedAll {} [[60, 47, 101, 118], doc.take 9, doc.drop 9] = ({ buf := [] }, [doc]) := by
  have hfits : (0 : ℚ) + 120 < Py.epochEnd := by norm_num [Py.epochEnd]
  have hend : (0 : ℚ) < Py.epochEnd := lt_trans (by norm_num) hfits
  obtain ⟨u, hu, -⟩ := Py.exists_fromtimestamp le_rfl Py.binary64_zero hend
  obtain ⟨v, hv⟩ := (Py.exists_fromtimestamp_add_iff le_rfl Py.binary64_zero hend).mpr hfits
  obtain ⟨attrib, hattrib⟩ : ∃ attrib, CotNaming.event {} "alice" "b-t-f" (.fin 0) = .ok attrib :=
    Mesh.Cot.exists_event hu hv
  obtain ⟨el, hel⟩ : ∃ el, Mesh.Cot.encodeEnvelope .plain {} forged = .ok el :=
    ⟨_, Mesh.Cot.encodeChat_eq_ok.mpr ⟨attrib, "</event><event>", hattrib, rfl, rfl⟩⟩
  obtain ⟨doc, hdoc⟩ : ∃ doc, (cotCodec .plain .plain).encode forged = .ok doc :=
    ⟨_, Mesh.Cot.encode_eq_ok.mpr ⟨el, hel, rfl⟩⟩
  refine ⟨doc, hdoc, ?_⟩
  apply (framer_exact .plain .plain).2 [([60, 47, 101, 118], doc)]
  · intro p hp
    rw [List.mem_singleton.mp hp]
    have hcut : IsDelimiter [60, 47, 101, 118] := by
      unfold IsDelimiter
      decide
    exact ⟨hcut, _, hdoc⟩
  · simp

end CotFramer

end DroneComms.Transports
