import DroneComms.Fpv.Framing
import DroneComms.Fpv.Rc
import DroneComms.Lib.Window

/-!
# The half-duplex link

`CrsfLink` of `meshsa/fpv/crsf/link.py` with its port open.  What a `read`
returns is part of the call, and what a `write` is given is part of the result.
Logging is left out.
-/

namespace DroneComms.Fpv

open Py (PyError PyFloat Number)

/-- `CrsfLinkSettings`, as far as a link with an open port reads them. -/
structure CrsfLinkSettings extends TickMap where
  crsfAddress : ℤ := 0xEA
  echoDedupeLen : ℤ := 16
  crsfMaxFrameLen : ℤ := 64
  rcChannelCount : ℤ := 16

/-- The fields of a `CrsfLink` that its calls use. -/
structure CrsfLink where
  buffer : List UInt8 := []
  recentTx : List (List UInt8) := []
  centerTick : ℤ
  echoesSuppressed : ℕ := 0
  crcErrors : ℕ := 0
  framesReceived : ℕ := 0
deriving DecidableEq, Repr

namespace CrsfLink

variable (s : CrsfLinkSettings)

/-- `(rc_us_min + rc_us_max) / 2` as a tick. -/
def center : Except PyError ℤ := do
  let middle ← Number.divInt (.int (s.usMin + s.usMax)) 2
  usToTicks s.toTickMap (.float middle)

/-- `CrsfLink(...)`; a `deque` has no negative length. -/
def init : Except PyError CrsfLink :=
  if s.echoDedupeLen < 0 then .error .valueError
  else do
    let centerTick ← center s
    .ok { centerTick }

/-- The bytes of an RC frame. -/
def rcWire (centerTick : ℤ) (channels : List ℤ) : Except PyError (List UInt8) := do
  let ticks ← channels.mapM fun us ↦ usToTicks s.toTickMap (.int us)
  let payload := packChannels ticks s.rcChannelCount centerTick
  CrsfFrame.toBytes { addr := s.crsfAddress, type := rcChannelsPackedType, payload }

/-- `send_rc`, with the bytes that are written. -/
def sendRc (link : CrsfLink) (channels : List ℤ) : Except PyError (CrsfLink × List UInt8) := do
  let wire ← rcWire s link.centerTick channels
  .ok ({ link with recentTx := Window.lastN s.echoDedupeLen.toNat (link.recentTx ++ [wire]) }, wire)

/-- `_is_echo`. -/
def isEcho (link : CrsfLink) (frame : CrsfFrame) : Except PyError Bool :=
  if frame.type = rcChannelsPackedType ∧ frame.addr = s.crsfAddress then .ok true
  else frame.toBytes.map fun data ↦ decide (data ∈ link.recentTx)

/-- The loop of `poll_inbound` over the extracted frames: the counter and the result. -/
def sift (link : CrsfLink) : List CrsfFrame → Except PyError (ℕ × List CrsfFrame)
  | [] => .ok (0, [])
  | frame :: frames => do
      let echo ← isEcho s link frame
      let (echoes, result) ← sift link frames
      .ok (if echo then (echoes + 1, result) else (echoes, frame :: result))

/-- `poll_inbound`, when the port returns `chunk`. -/
def pollInbound (link : CrsfLink) (chunk : List UInt8) :
    Except PyError (CrsfLink × List CrsfFrame) := do
  let x := extractFrames s.crsfMaxFrameLen syncAddresses (link.buffer ++ chunk)
  let (echoes, result) ← sift s link x.frames
  .ok ({ link with
    buffer := x.buffer
    crcErrors := link.crcErrors + x.crcErrors
    echoesSuppressed := link.echoesSuppressed + echoes
    framesReceived := link.framesReceived + result.length }, result)

end CrsfLink

/-! ## Sessions -/

/-- A call of the link's owner. -/
inductive LinkCall where
  | sendRc (channels : List ℤ)
  | pollInbound (chunk : List UInt8)

/-- A link with what it has written and returned so far. -/
structure Session where
  link : CrsfLink
  /-- The frames on the wire, the oldest first. -/
  transmitted : List (List UInt8) := []
  /-- The results of `poll_inbound`, one behind the other. -/
  received : List CrsfFrame := []
deriving DecidableEq, Repr

/-- One call.  A `send_rc` that raises has written nothing; a `poll_inbound` that raises
would have lost frames, and ends the session. -/
def Session.call (s : CrsfLinkSettings) (x : Session) : LinkCall → Option Session
  | .sendRc channels =>
      match x.link.sendRc s channels with
      | .ok (link, wire) => some { x with link, transmitted := x.transmitted ++ [wire] }
      | .error _ => some x
  | .pollInbound chunk =>
      match x.link.pollInbound s chunk with
      | .ok (link, result) => some { x with link, received := x.received ++ result }
      | .error _ => none

/-! ## Which frames are echoes -/

section

variable {s : CrsfLinkSettings}

/-- An RC frame with our own address, the frames of rule A. -/
def OwnRc (s : CrsfLinkSettings) (f : CrsfFrame) : Prop :=
  f.type = rcChannelsPackedType ∧ f.addr = s.crsfAddress

instance (s : CrsfLinkSettings) (f : CrsfFrame) : Decidable (OwnRc s f) :=
  inferInstanceAs (Decidable (_ ∧ _))

/-- The bytes of a frame of rule A. -/
def OwnWire (s : CrsfLinkSettings) (wire : List UInt8) : Prop :=
  ∃ f, CrsfFrame.fromBytes wire = .ok f ∧ OwnRc s f

namespace CrsfLink

theorem ownWire_of_rcWire {centerTick : ℤ} {channels : List ℤ} {wire : List UInt8}
    (h : rcWire s centerTick channels = .ok wire) : OwnWire s wire := by
  obtain ⟨ticks, -, h⟩ := Py.bind_eq_ok.mp h
  exact ⟨_, CrsfFrame.toBytes_iff_fromBytes.mp h, rfl, rfl⟩

/-- Rule B adds nothing to rule A while the settings stay as they are. -/
theorem isEcho_eq_ok {link : CrsfLink} (hrecent : ∀ w ∈ link.recentTx, OwnWire s w)
    {frame : CrsfFrame} {data : List UInt8} (hdata : CrsfFrame.fromBytes data = .ok frame) :
    isEcho s link frame = .ok (decide (OwnRc s frame)) := by
  show (if OwnRc s frame then _ else _) = _
  by_cases hown : OwnRc s frame
  · rw [if_pos hown, decide_eq_true hown]
  · have hnot : data ∉ link.recentTx := by
      intro hmem
      obtain ⟨f, hf, hrc⟩ := hrecent data hmem
      rw [hdata] at hf
      cases hf
      exact hown hrc
    rw [if_neg hown, CrsfFrame.toBytes_iff_fromBytes.mpr hdata, decide_eq_false hown]
    exact congrArg Except.ok (decide_eq_false hnot)

theorem sift_eq_ok {link : CrsfLink} (hrecent : ∀ w ∈ link.recentTx, OwnWire s w)
    {frames : List CrsfFrame} (h : ∀ f ∈ frames, ∃ data, CrsfFrame.fromBytes data = .ok f) :
    sift s link frames =
      .ok (frames.countP (OwnRc s ·), frames.filter fun f ↦ ¬ OwnRc s f) := by
  induction frames with
  | nil => rfl
  | cons f frames ih =>
      obtain ⟨⟨data, hdata⟩, hrest⟩ := List.forall_mem_cons.mp h
      refine Py.bind_eq_ok.mpr ⟨_, isEcho_eq_ok hrecent hdata, ?_⟩
      refine Py.bind_eq_ok.mpr ⟨_, ih hrest, ?_⟩
      by_cases hown : OwnRc s f
      · simp [hown]
      · simp [hown]

end CrsfLink

/-! ## What a session has read -/

open Resync (Drains)

/-- A session that has read `bytes`: the frames in them have been sifted by rule A. -/
structure Session.HasRead (s : CrsfLinkSettings) (x : Session) (bytes : List UInt8) : Prop where
  recent : ∀ w ∈ x.link.recentTx, OwnWire s w
  buffer : x.link.buffer = (extractFrames s.crsfMaxFrameLen syncAddresses bytes).buffer
  crcErrors : x.link.crcErrors = (extractFrames s.crsfMaxFrameLen syncAddresses bytes).crcErrors
  suppressed : x.link.echoesSuppressed =
    (extractFrames s.crsfMaxFrameLen syncAddresses bytes).frames.countP (OwnRc s ·)
  received : x.received =
    (extractFrames s.crsfMaxFrameLen syncAddresses bytes).frames.filter fun f ↦ ¬ OwnRc s f
  count : x.link.framesReceived = x.received.length

theorem Session.hasRead_nil {link : CrsfLink} (hinit : CrsfLink.init s = .ok link) :
    Session.HasRead s { link } [] := by
  unfold CrsfLink.init at hinit
  split_ifs at hinit
  obtain ⟨tick, -, hlink⟩ := Py.bind_eq_ok.mp hinit
  cases hlink
  exact ⟨List.forall_mem_nil _, rfl, rfl, rfl, rfl, rfl⟩

/-- A `send_rc` reads nothing. -/
theorem Session.HasRead.sendRc {x : Session} {bytes : List UInt8} (hx : x.HasRead s bytes)
    (channels : List ℤ) : ∃ q, x.call s (.sendRc channels) = some q ∧ q.HasRead s bytes ∧
      q.link.centerTick = x.link.centerTick ∧ q.transmitted = x.transmitted ++
        (CrsfLink.rcWire s x.link.centerTick channels).toOption.toList := by
  rw [Session.call, CrsfLink.sendRc]
  cases hwire : CrsfLink.rcWire s x.link.centerTick channels with
  | error e => exact ⟨x, rfl, hx, rfl, (List.append_nil _).symm⟩
  | ok wire =>
      refine ⟨_, rfl, ⟨?_, hx.buffer, hx.crcErrors, hx.suppressed, hx.received, hx.count⟩, rfl, rfl⟩
      intro w hw
      have hmem := (Window.lastN_suffix _ _).subset hw
      rcases List.mem_append.mp hmem with hold | hnew
      · exact hx.recent w hold
      · rw [List.mem_singleton.mp hnew]
        exact CrsfLink.ownWire_of_rcWire hwire

/-- A `poll_inbound` sifts what comes out with the chunk. -/
theorem Session.HasRead.pollInbound {x : Session} {bytes : List UInt8} (hx : x.HasRead s bytes)
    (chunk : List UInt8) : ∃ q, x.call s (.pollInbound chunk) = some q ∧
      q.HasRead s (bytes ++ chunk) ∧ q.link.centerTick = x.link.centerTick ∧
        q.transmitted = x.transmitted := by
  have hsift := CrsfLink.sift_eq_ok hx.recent
    (exists_fromBytes s.crsfMaxFrameLen syncAddresses (x.link.buffer ++ chunk))
  have hcall : x.link.pollInbound s chunk = .ok _ := Py.bind_eq_ok.mpr ⟨_, hsift, rfl⟩
  have hfeed := feed_extractFrames s.crsfMaxFrameLen syncAddresses bytes chunk
  rw [Extraction.feed, ← hx.buffer] at hfeed
  rw [Session.call, hcall]
  refine ⟨_, rfl, ⟨hx.recent, ?_, ?_, ?_, ?_, ?_⟩, rfl, rfl⟩
  · rw [← hfeed]
  · rw [← hfeed, hx.crcErrors]
  · rw [← hfeed, List.countP_append, hx.suppressed]
  · rw [← hfeed, List.filter_append, hx.received]
  · rw [List.length_append, hx.count]

end

/-! ## Whole sessions -/

/-- What is on the wire: one of our frames again, or a frame of the module. -/
inductive WireItem where
  | echo (data : List UInt8)
  | module (frame : CrsfFrame) (data : List UInt8)

namespace WireItem

def data : WireItem → List UInt8
  | echo data | module _ data => data

def echo? : WireItem → Option (List UInt8)
  | echo data => some data
  | module _ _ => none

def module? : WireItem → Option CrsfFrame
  | echo _ => none
  | module frame _ => some frame

end WireItem

namespace LinkCall

/-- The bytes that a call reads. -/
def chunk : LinkCall → List UInt8
  | sendRc _ => []
  | pollInbound chunk => chunk

/-- The frame that a call writes, if it does not raise. -/
def wire (s : CrsfLinkSettings) (centerTick : ℤ) : LinkCall → Option (List UInt8)
  | sendRc channels => (CrsfLink.rcWire s centerTick channels).toOption
  | pollInbound _ => none

end LinkCall

section

variable {s : CrsfLinkSettings}

/-- A session reads the chunks of its calls and writes their frames. -/
theorem Session.HasRead.exec {x : Session} {bytes : List UInt8} (hx : x.HasRead s bytes)
    (calls : List LinkCall) : ∃ q, Automaton.exec (Session.call s) x calls = some q ∧
      q.HasRead s (bytes ++ calls.flatMap LinkCall.chunk) ∧
        q.transmitted = x.transmitted ++ calls.filterMap (LinkCall.wire s x.link.centerTick) := by
  induction calls generalizing x bytes with
  | nil =>
      refine ⟨x, rfl, ?_, (List.append_nil _).symm⟩
      rw [List.flatMap_nil, List.append_nil]
      exact hx
  | cons c calls ih =>
      obtain ⟨y, hy, hread, htick, htransmitted⟩ : ∃ y, x.call s c = some y ∧
          y.HasRead s (bytes ++ c.chunk) ∧ y.link.centerTick = x.link.centerTick ∧
            y.transmitted = x.transmitted ++ (c.wire s x.link.centerTick).toList := by
        cases c with
        | sendRc channels =>
            rw [LinkCall.chunk, List.append_nil]
            exact hx.sendRc channels
        | pollInbound chunk =>
            rw [LinkCall.wire, Option.toList_none, List.append_nil]
            exact hx.pollInbound chunk
      obtain ⟨q, hq, hread', htransmitted'⟩ := ih hread
      refine ⟨q, Automaton.exec_cons_eq_some.mpr ⟨y, hy, hq⟩, ?_, ?_⟩
      · rwa [List.flatMap_cons, ← List.append_assoc]
      · rw [htransmitted', htransmitted, htick, List.append_assoc]
        cases hwire : c.wire s x.link.centerTick with
        | none => rw [List.filterMap_cons_none hwire]; rfl
        | some w => rw [List.filterMap_cons_some hwire]; rfl

/-- What a module sends: whole valid frames that are no RC frames with our address. -/
structure FromModule (s : CrsfLinkSettings) (frame : CrsfFrame) (data : List UInt8) : Prop where
  bytes : frame.toBytes = .ok data
  sync : frame.addr ∈ syncAddresses
  fits : (data.length : ℤ) ≤ s.crsfMaxFrameLen
  foreign : ¬ OwnRc s frame

/-- Every item of the wire is the bytes of a frame, an echo of one of ours. -/
theorem exists_frames {wire : List WireItem} (haddr : s.crsfAddress ∈ syncAddresses)
    (hecho : ∀ data, .echo data ∈ wire →
      OwnWire s data ∧ (data.length : ℤ) ≤ s.crsfMaxFrameLen)
    (hmodule : ∀ frame data, .module frame data ∈ wire → FromModule s frame data) :
    ∃ ws : List (List UInt8 × CrsfFrame), ws.map Prod.fst = wire.map WireItem.data ∧
      (∀ w ∈ ws, CrsfFrame.fromBytes w.1 = .ok w.2 ∧ w.2.addr ∈ syncAddresses ∧
        (w.1.length : ℤ) ≤ s.crsfMaxFrameLen) ∧
      (ws.map Prod.snd).countP (OwnRc s ·) = (wire.filterMap WireItem.echo?).length ∧
        (ws.map Prod.snd).filter (fun f ↦ ¬ OwnRc s f) = wire.filterMap WireItem.module? := by
  induction wire with
  | nil => exact ⟨[], rfl, List.forall_mem_nil _, rfl, rfl⟩
  | cons item wire ih =>
      obtain ⟨ws, hdata, hws, hcount, hfilter⟩ :=
        ih (fun data h ↦ hecho data (List.mem_cons_of_mem _ h))
          fun frame data h ↦ hmodule frame data (List.mem_cons_of_mem _ h)
      cases item with
      | echo data =>
          obtain ⟨⟨f, hf, hown⟩, hfits⟩ := hecho data List.mem_cons_self
          refine ⟨(data, f) :: ws, congrArg (data :: ·) hdata,
            List.forall_mem_cons.mpr ⟨⟨hf, hown.2 ▸ haddr, hfits⟩, hws⟩, ?_, ?_⟩
          · rw [List.map_cons, List.countP_cons_of_pos (by simpa using hown), hcount]
            rfl
          · rw [List.map_cons, List.filter_cons_of_neg (by simpa using hown), hfilter]
            rfl
      | module frame data =>
          have hframe := hmodule frame data List.mem_cons_self
          have hf := CrsfFrame.toBytes_iff_fromBytes.mp hframe.bytes
          refine ⟨(data, frame) :: ws, congrArg (data :: ·) hdata,
            List.forall_mem_cons.mpr ⟨⟨hf, hframe.sync, hframe.fits⟩, hws⟩, ?_, ?_⟩
          · rw [List.map_cons, List.countP_cons_of_neg (by simpa using hframe.foreign), hcount]
            rfl
          · rw [List.map_cons, List.filter_cons_of_pos (by simpa using hframe.foreign), hfilter]
            rfl

/-- **Echoes.**  However sends and reads alternate, and wherever the reads cut the wire, a
drained wire has given the frames of the module, and each echo has been suppressed. -/
theorem echoes_suppressed_exactly (s : CrsfLinkSettings) (link : CrsfLink)
    (hinit : CrsfLink.init s = .ok link) (haddr : s.crsfAddress ∈ syncAddresses)
    (calls : List LinkCall) (wire : List WireItem)
    (hfits : ∀ w ∈ calls.filterMap (LinkCall.wire s link.centerTick),
      (w.length : ℤ) ≤ s.crsfMaxFrameLen)
    (hechoes : (wire.filterMap WireItem.echo?).Perm
      (calls.filterMap (LinkCall.wire s link.centerTick)))
    (hmodule : ∀ frame data, .module frame data ∈ wire → FromModule s frame data)
    (hread : calls.flatMap LinkCall.chunk = wire.flatMap WireItem.data) :
    ∃ x, Automaton.exec (Session.call s) { link } calls = some x ∧
      x.transmitted = calls.filterMap (LinkCall.wire s link.centerTick) ∧
      x.received = wire.filterMap WireItem.module? ∧
      x.link.echoesSuppressed = (wire.filterMap WireItem.echo?).length ∧
      x.link.framesReceived = (wire.filterMap WireItem.module?).length ∧
      x.link.crcErrors = 0 ∧ x.link.buffer = [] := by
  have hecho : ∀ data, WireItem.echo data ∈ wire →
      OwnWire s data ∧ (data.length : ℤ) ≤ s.crsfMaxFrameLen := by
    intro data hmem
    have hsent := hechoes.mem_iff.mp (List.mem_filterMap.mpr ⟨_, hmem, rfl⟩)
    refine ⟨?_, hfits data hsent⟩
    obtain ⟨c, -, hc⟩ := List.mem_filterMap.mp hsent
    cases c with
    | sendRc channels => exact CrsfLink.ownWire_of_rcWire (Py.toOption_eq_some.mp hc)
    | pollInbound chunk => cases hc
  obtain ⟨ws, hdata, hws, hcount, hfilter⟩ := exists_frames haddr hecho hmodule
  obtain ⟨x, hexec, hx, htransmitted⟩ := (Session.hasRead_nil hinit).exec calls
  have hstream : [] ++ calls.flatMap LinkCall.chunk = (ws.map Prod.fst).flatten := by
    rw [List.nil_append, hread, hdata, List.flatMap_def]
  obtain ⟨hframes, hcrc⟩ := drained_frames ws
  have hall := extractFrames_eq (drains_frames hws)
  rw [hstream] at hx
  have hreceived : x.received = wire.filterMap WireItem.module? := by
    rw [hx.received, hall, hframes, hfilter]
  refine ⟨x, hexec, htransmitted, hreceived, ?_, ?_, ?_, ?_⟩
  · rw [hx.suppressed, hall, hframes, hcount]
  · rw [hx.count, hreceived]
  · rw [hx.crcErrors, hall, hcrc]
  · rw [hx.buffer, hall]
    rfl

/-- One channel and no memory of what was sent: a frame of the module arrives in two reads,
and an echo behind it. -/
theorem echoes_suppressed_one_channel :
    ∃ x, Automaton.exec (Session.call { rcChannelCount := 1, echoDedupeLen := 0 })
        { link := { centerTick := 992 } }
        [.pollInbound [0xC8, 0x03, 0x14], .sendRc [1500],
          .pollInbound [0x07, 0xC8, 0xEA, 0x04, 0x16], .pollInbound [0xE0, 0x03, 0xB2]] = some x ∧
      x.transmitted = [[0xEA, 0x04, 0x16, 0xE0, 0x03, 0xB2]] ∧
      x.received = [⟨0xC8, 0x14, [0x07]⟩] ∧ x.link.echoesSuppressed = 1 ∧
      x.link.framesReceived = 1 ∧ x.link.crcErrors = 0 ∧ x.link.buffer = [] := by
  have hsent : [LinkCall.pollInbound [0xC8, 0x03, 0x14], .sendRc [1500],
      .pollInbound [0x07, 0xC8, 0xEA, 0x04, 0x16], .pollInbound [0xE0, 0x03, 0xB2]].filterMap
        (LinkCall.wire { rcChannelCount := 1, echoDedupeLen := 0 } 992) =
          [[0xEA, 0x04, 0x16, 0xE0, 0x03, 0xB2]] := by
    decide +kernel
  have hwhole := echoes_suppressed_exactly { rcChannelCount := 1, echoDedupeLen := 0 }
    { centerTick := 992 } (by decide +kernel) (by decide)
    [.pollInbound [0xC8, 0x03, 0x14], .sendRc [1500],
      .pollInbound [0x07, 0xC8, 0xEA, 0x04, 0x16], .pollInbound [0xE0, 0x03, 0xB2]]
    [.module ⟨0xC8, 0x14, [0x07]⟩ [0xC8, 0x03, 0x14, 0x07, 0xC8],
      .echo [0xEA, 0x04, 0x16, 0xE0, 0x03, 0xB2]]
    (by rw [hsent]; decide) (by rw [hsent]; decide) ?_ rfl
  · rw [hsent] at hwhole
    exact hwhole
  · intro frame data hmem
    rcases List.mem_cons.mp hmem with hfirst | hmem
    · cases hfirst
      exact ⟨by decide +kernel, by decide, by decide, by decide⟩
    · rcases List.mem_cons.mp hmem with hsecond | hmem
      · cases hsecond
      · cases hmem

end

end DroneComms.Fpv
