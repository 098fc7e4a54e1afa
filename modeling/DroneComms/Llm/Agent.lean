import DroneComms.Llm.Sources
import DroneComms.Py.Format

/-!
# The assistant

`SAAgent.ask` of `meshsa/llm/agent.py` with the tools of `meshsa/llm/tools.py`.  The model and
the sources are calls on a state of the world, which may raise; what is in a history is left
open.

The model asks for tools in a turn, and the next turn answers them.  A conversation is what was
said before, the prompt and such rounds, and at most one more turn of the model.
-/

namespace DroneComms.Llm

open Py (PyFloat Value fixedChars)

/-! ## The tools -/

/-- `GET_DRONE_STATE`. -/
def getDroneState : String := "get_drone_state"

/-- `LIST_TRACKS`. -/
def listTracks : String := "list_tracks"

/-- `ToolDispatcher.names`. -/
def toolNames : List String := [getDroneState, listTracks]

/-- `ToolResult`. -/
structure ToolResult where
  content : String
  isError : Bool := false
deriving DecidableEq

/-- `f"{x:.df}"` -/
def fixed (d : ℕ) (x : PyFloat) : String := String.ofList (fixedChars d x)

/-- The parts of `format_drone_state`. -/
def droneParts (state : DroneState) : List String :=
  (match state.lat, state.lon with
    | some lat, some lon => ["position " ++ fixed 6 lat ++ ", " ++ fixed 6 lon]
    | _, _ => []) ++
  (match state.relativeAltM, state.altM with
    | some alt, _ => ["relative alt " ++ fixed 1 alt ++ " m"]
    | none, some alt => ["alt " ++ fixed 1 alt ++ " m AMSL"]
    | none, none => []) ++
  (state.groundSpeedMs.map fun x ↦ "ground speed " ++ fixed 1 x ++ " m/s").toList ++
  (state.headingDeg.map fun x ↦ "heading " ++ fixed 0 x ++ " deg").toList ++
  (state.batteryPct.map fun x ↦ "battery " ++ fixed 0 x ++ "%").toList ++
  (state.armed.map fun armed ↦ if armed then "ARMED" else "disarmed").toList ++
  (state.mode.map fun mode ↦ "mode " ++ mode).toList

/-- `format_drone_state`. -/
def formatDroneState (state : DroneState) : String :=
  if state.linkOk then
    let parts := droneParts state
    " | ".intercalate (("drone " ++ state.uid ++ ":") ::
      if parts = [] then ["no telemetry fields populated yet"] else parts)
  else "drone " ++ state.uid ++ ": telemetry link DOWN (no data available)"

/-- A text that is not empty. -/
def nonempty (s : Option String) : Option String := s.filter (· ≠ "")

/-- A line of `format_tracks`. -/
def trackLine (track : Track) : String :=
  "  - " ++ ", ".intercalate ([(nonempty track.callsign).getD track.uid] ++
    ((nonempty track.cotType).map fun cotType ↦ "type " ++ cotType).toList ++
    (match track.lat, track.lon with
      | some lat, some lon => ["at " ++ fixed 5 lat ++ ", " ++ fixed 5 lon]
      | _, _ => []) ++
    (track.staleS.map fun x ↦ "stale " ++ fixed 0 x ++ "s").toList)

/-- `format_tracks`. -/
def formatTracks (tracks : List Track) : String :=
  if tracks = [] then "no active tracks on the TAK network"
  else "\n".intercalate
    ((toString tracks.length ++ " active track(s):") :: tracks.map trackLine)

/-! ## The messages -/

/-- A content block of the model. -/
inductive Block where
  | text (text : String)
  | toolUse (id name : String) (input : Value)
  | /-- Any other type. -/ other (type : String)

/-- A `tool_result` block. -/
structure Answer where
  toolUseId : String
  content : String
  isError : Bool

inductive Message where
  | /-- An entry of the history. -/ prior (turn : Value)
  | prompt (text : String)
  | assistant (blocks : List Block)
  | results (answers : List Answer)

/-- What `create` returns. -/
structure ModelResponse where
  stopReason : Option String
  content : List Block

/-- `AgentReply`. -/
structure AgentReply where
  text : String
  stopReason : String
  toolCalls : List String

/-- An agent, with the calls on the world that may raise. -/
structure SAAgent (β ε : Type) where
  /-- `self._messages.create`, as far as it depends on the messages. -/
  create : β → List Message → Except ε ModelResponse × β
  /-- `self._telemetry.drone_state` -/
  droneState : β → Except ε DroneState × β
  /-- `self._tracks.tracks` -/
  tracks : β → Except ε (List Track) × β
  maxIterations : ℕ := 6

/-- A conversation so far. -/
structure Conversation (β : Type) where
  world : β
  messages : List Message
  toolCalls : List String := []
  /-- The messages with which the model was called, each time. -/
  requests : List (List Message) := []

/-- `_extract_text`. -/
def extractText (blocks : List Block) : String :=
  String.ofList (Py.strip (blocks.flatMap fun
    | .text text => text.toList
    | _ => []))

namespace SAAgent

variable {β ε : Type} (agent : SAAgent β ε)

/-- `ToolDispatcher.dispatch`. -/
def dispatch (world : β) (name : String) : Except ε ToolResult × β :=
  if name = getDroneState then
    let (state, world) := agent.droneState world
    (state.map fun state ↦ { content := formatDroneState state }, world)
  else if name = listTracks then
    let (tracks, world) := agent.tracks world
    (tracks.map fun tracks ↦ { content := formatTracks tracks }, world)
  else (.ok { content := "unknown tool: " ++ name, isError := true }, world)

/-- The loop over the blocks of a turn: the answers, the names of the tools that were called,
and the world behind. -/
def runTools : β → List Block → Except ε (List Answer) × List String × β
  | world, [] => (.ok [], [], world)
  | world, .toolUse id name _ :: blocks =>
      match agent.dispatch world name with
      | (.error e, world) => (.error e, [name], world)
      | (.ok result, world) =>
          let (answers, names, world) := runTools world blocks
          (answers.map fun answers ↦
            { toolUseId := id, content := result.content, isError := result.isError } :: answers,
            name :: names, world)
  | world, _ :: blocks => runTools world blocks

/-- The loop of `ask` with the rounds that are left. -/
def loop : ℕ → Conversation β → Except ε AgentReply × Conversation β
  | 0, c => (.ok {
      text := "Reached the tool-call limit before finishing; please narrow the question."
      stopReason := "max_iterations"
      toolCalls := c.toolCalls }, c)
  | n + 1, c =>
      let requests := c.requests ++ [c.messages]
      match agent.create c.world c.messages with
      | (.error e, world) => (.error e, { c with world, requests })
      | (.ok response, world) =>
          let messages := c.messages ++ [.assistant response.content]
          if response.stopReason = some "tool_use" then
            match agent.runTools world response.content with
            | (.error e, names, world) => (.error e,
                { world, messages, toolCalls := c.toolCalls ++ names, requests })
            | (.ok answers, names, world) => loop n {
                world
                messages := messages ++ [.results answers]
                toolCalls := c.toolCalls ++ names
                requests }
          else (.ok {
            text := extractText response.content
            stopReason := (nonempty response.stopReason).getD "end_turn"
            toolCalls := c.toolCalls }, { c with world, messages, requests })

/-- `ask`. -/
def ask (world : β) (prompt : String) (history : List Value) :
    Except ε AgentReply × Conversation β :=
  agent.loop agent.maxIterations {
    world
    messages := history.map .prior ++ [.prompt prompt] }

end SAAgent

/-! ## Conversations -/

/-- The tools that a turn asks for, each with the id of its block. -/
def toolUses (blocks : List Block) : List (String × String) :=
  blocks.filterMap fun
    | .toolUse id name _ => some (id, name)
    | _ => none

/-- The answers to a turn: one for each tool that it asks for, under the id of its block, and an
error if there is no such tool. -/
def Answers (blocks : List Block) (answers : List Answer) : Prop :=
  List.Forall₂ (fun use answer ↦ answer.toolUseId = use.1 ∧
    (answer.isError = true ↔ use.2 ∉ toolNames)) (toolUses blocks) answers

/-- A turn of the model and the turn that answers it. -/
abbrev Round := List Block × List Answer

def Round.messages (p : Round) : List Message := [.assistant p.1, .results p.2]

/-- The tools that were called in some rounds. -/
def calledIn (rounds : List Round) : List String :=
  rounds.flatMap fun p ↦ (toolUses p.1).map Prod.snd

/-- What is said up to the end of some rounds. -/
def said (base : List Message) (rounds : List Round) : List Message :=
  base ++ rounds.flatMap Round.messages

theorem said_concat (base : List Message) (rounds : List Round) (p : Round) :
    said base (rounds ++ [p]) = said base rounds ++ [.assistant p.1, .results p.2] := by
  simp [said, Round.messages]

theorem calledIn_concat (rounds : List Round) (p : Round) :
    calledIn (rounds ++ [p]) = calledIn rounds ++ (toolUses p.1).map Prod.snd := by
  simp [calledIn]

/-- The model has been called `n` times, each time with all rounds before. -/
def Requested (base : List Message) (rounds : List Round) (n : ℕ)
    (requests : List (List Message)) : Prop :=
  requests = (List.range n).map fun i ↦ said base (rounds.take i)

/-- Only rounds have taken place. -/
structure Talk {β : Type} (base : List Message) (rounds : List Round) (c : Conversation β) :
    Prop where
  messages : c.messages = said base rounds
  requests : Requested base rounds rounds.length c.requests
  toolCalls : c.toolCalls = calledIn rounds
  answered : ∀ p ∈ rounds, Answers p.1 p.2

/-- How `ask` has ended: behind the rounds there may be one more turn of the model. -/
structure Transcript {β ε : Type} (maxIterations : ℕ) (base : List Message) (rounds : List Round)
    (last : Option (List Block)) (r : Except ε AgentReply × Conversation β) : Prop where
  messages : r.2.messages = said base rounds ++ last.toList.map .assistant
  answered : ∀ p ∈ rounds, Answers p.1 p.2
  requests : Requested base rounds r.2.requests.length r.2.requests
  calls : rounds.length ≤ r.2.requests.length ∧ r.2.requests.length ≤ rounds.length + 1
  bound : r.2.requests.length ≤ maxIterations
  toolCalls : ∀ reply, r.1 = .ok reply → reply.toolCalls = calledIn rounds
  /-- A reply without another turn of the model is the one at the limit. -/
  limit : ∀ reply, r.1 = .ok reply → last = none →
    reply.stopReason = "max_iterations" ∧ rounds.length = maxIterations
  text : ∀ reply blocks, r.1 = .ok reply → last = some blocks → reply.text = extractText blocks

section

variable {β : Type} {base : List Message} {rounds : List Round} {c : Conversation β}

/-- Nothing has been said behind the prompt. -/
theorem Talk.start (world : β) (base : List Message) :
    Talk base [] { world, messages := base } where
  messages := (List.append_nil base).symm
  requests := rfl
  toolCalls := rfl
  answered := List.forall_mem_nil _

/-- One more call of the model. -/
theorem Talk.requested (h : Talk base rounds c) :
    Requested base rounds (rounds.length + 1) (c.requests ++ [c.messages]) := by
  rw [Requested, h.requests, h.messages, List.range_succ, List.map_append, List.map_singleton,
    List.take_length]

theorem Talk.length_requests (h : Talk base rounds c) : c.requests.length = rounds.length := by
  rw [h.requests, List.length_map, List.length_range]

/-- A round that is complete. -/
theorem Talk.concat (h : Talk base rounds c) {blocks : List Block} {answers : List Answer}
    (hanswers : Answers blocks answers) (world : β) :
    Talk base (rounds ++ [(blocks, answers)]) {
      world
      messages := c.messages ++ [.assistant blocks] ++ [.results answers]
      toolCalls := c.toolCalls ++ (toolUses blocks).map Prod.snd
      requests := c.requests ++ [c.messages] } where
  messages := by
    dsimp only
    rw [said_concat, h.messages, List.append_assoc]
    rfl
  requests := by
    have hprefix : ∀ i ∈ List.range (rounds.length + 1),
        said base ((rounds ++ [(blocks, answers)]).take i) = said base (rounds.take i) := by
      intro i hi
      have hle : i ≤ rounds.length := Nat.lt_succ_iff.mp (List.mem_range.mp hi)
      rw [List.take_append_of_le_length hle]
    rw [Requested, List.length_append, List.length_singleton, List.map_congr_left hprefix]
    exact h.requested
  toolCalls := by
    dsimp only
    rw [calledIn_concat, h.toolCalls]
  answered := by
    intro p hp
    rcases List.mem_append.mp hp with hp | hp
    · exact h.answered p hp
    · rw [List.mem_singleton.mp hp]
      exact hanswers

/-- An end in the middle of a round. -/
theorem Talk.transcript (h : Talk base rounds c) {ε : Type} {maxIterations : ℕ}
    (hlt : rounds.length < maxIterations) {last : Option (List Block)}
    {outcome : Except ε AgentReply} {c' : Conversation β}
    (hmessages : c'.messages = c.messages ++ last.toList.map .assistant)
    (hrequests : c'.requests = c.requests ++ [c.messages])
    (hreply : ∀ reply, outcome = .ok reply → reply.toolCalls = c.toolCalls ∧
      ∃ blocks, last = some blocks ∧ reply.text = extractText blocks) :
    Transcript maxIterations base rounds last (outcome, c') := by
  have hlength : c'.requests.length = rounds.length + 1 := by
    rw [hrequests, List.length_append, h.length_requests, List.length_singleton]
  constructor
  case messages => exact hmessages.trans (congrArg (· ++ _) h.messages)
  case answered => exact h.answered
  case requests =>
    show Requested base rounds c'.requests.length c'.requests
    rw [hlength, hrequests]
    exact h.requested
  case calls =>
    show rounds.length ≤ c'.requests.length ∧ c'.requests.length ≤ rounds.length + 1
    omega
  case bound =>
    show c'.requests.length ≤ maxIterations
    omega
  case toolCalls => exact fun reply hok ↦ (hreply reply hok).1.trans h.toolCalls
  case limit =>
    intro reply hok hlast
    obtain ⟨-, blocks, hblocks, -⟩ := hreply reply hok
    rw [hlast] at hblocks
    cases hblocks
  case text =>
    intro reply blocks hok hlast
    obtain ⟨-, blocks', hblocks, htext⟩ := hreply reply hok
    rw [hlast] at hblocks
    cases hblocks
    exact htext

end

namespace SAAgent

variable {β ε : Type} {agent : SAAgent β ε}

/-- An answer is an error exactly if there is no such tool. -/
theorem isError_of_dispatch {world world' : β} {name : String} {result : ToolResult}
    (h : agent.dispatch world name = (.ok result, world')) :
    result.isError = true ↔ name ∉ toolNames := by
  unfold dispatch at h
  split_ifs at h with hdrone htracks
  · have hok := congrArg Prod.fst h
    cases hstate : (agent.droneState world).1 with
    | error e =>
        simp only [hstate] at hok
        cases hok
    | ok state =>
        simp only [hstate] at hok
        cases hok
        simp [toolNames, hdrone]
  · have hok := congrArg Prod.fst h
    cases htrack : (agent.tracks world).1 with
    | error e =>
        simp only [htrack] at hok
        cases hok
    | ok tracks =>
        simp only [htrack] at hok
        cases hok
        simp [toolNames, htracks]
  · cases h
    simp [toolNames, hdrone, htracks]

theorem answers_of_runTools {world world' : β} {blocks : List Block} {answers : List Answer}
    {names : List String} (h : agent.runTools world blocks = (.ok answers, names, world')) :
    Answers blocks answers ∧ names = (toolUses blocks).map Prod.snd := by
  induction blocks generalizing world world' answers names with
  | nil =>
      cases h
      exact ⟨.nil, rfl⟩
  | cons block blocks ih =>
      cases block with
      | text text => exact ih h
      | other type => exact ih h
      | toolUse id name input =>
          rw [runTools] at h
          split at h
          · cases h
          · rename_i result w hdispatch
            generalize hrest : agent.runTools w blocks = rest at h
            obtain ⟨outcome, called, w'⟩ := rest
            cases outcome with
            | error e => cases h
            | ok rest =>
                obtain ⟨hanswers, hcalled⟩ := ih hrest
                cases h
                refine ⟨?_, ?_⟩
                · exact .cons ⟨rfl, isError_of_dispatch hdispatch⟩ hanswers
                · rw [hcalled]
                  rfl

/-- The loop ends a conversation. -/
theorem exists_transcript_loop {base : List Message} {n : ℕ} {c : Conversation β}
    {rounds : List Round} (h : Talk base rounds c) (hn : rounds.length + n = agent.maxIterations) :
    ∃ rounds last, Transcript agent.maxIterations base rounds last (agent.loop n c) := by
  induction n generalizing c rounds with
  | zero =>
      have hlength := h.length_requests
      refine ⟨rounds, none, ?_⟩
      constructor
      case messages => exact h.messages.trans (List.append_nil _).symm
      case answered => exact h.answered
      case requests =>
        show Requested base rounds c.requests.length c.requests
        rw [hlength]
        exact h.requests
      case calls =>
        show rounds.length ≤ c.requests.length ∧ c.requests.length ≤ rounds.length + 1
        omega
      case bound =>
        show c.requests.length ≤ agent.maxIterations
        omega
      case toolCalls =>
        intro reply hreply
        cases hreply
        exact h.toolCalls
      case limit =>
        intro reply hreply _
        cases hreply
        exact ⟨rfl, hn⟩
      case text =>
        intro reply blocks _ hlast
        cases hlast
  | succ n ih =>
      have hlt : rounds.length < agent.maxIterations := by omega
      rw [loop]
      split
      · refine ⟨rounds, none, h.transcript hlt (List.append_nil _).symm rfl ?_⟩
        intro reply hok
        cases hok
      · rename_i response world hcreate
        dsimp only
        split_ifs with htool
        · split
          · refine ⟨rounds, some response.content, h.transcript hlt rfl rfl ?_⟩
            intro reply hok
            cases hok
          · rename_i answers names world' htools
            obtain ⟨hanswers, hnames⟩ := answers_of_runTools htools
            rw [hnames]
            apply ih (h.concat hanswers world')
            rw [List.length_append, List.length_singleton]
            omega
        · refine ⟨rounds, some response.content, h.transcript hlt rfl rfl ?_⟩
          intro reply hok
          cases hok
          exact ⟨rfl, response.content, rfl, rfl⟩

/-- **The conversation of `ask`.**  Behind the history and the prompt come rounds, in which every
tool that the model asks for is answered once, under its id and in order, and at most one more
turn of the model.  The model was called at most as often as the limit says, each time with all
complete rounds, and the reply names the tools that were called. -/
theorem exists_transcript (agent : SAAgent β ε) (world : β) (prompt : String)
    (history : List Value) : ∃ rounds last, Transcript agent.maxIterations
      (history.map .prior ++ [.prompt prompt]) rounds last (agent.ask world prompt history) :=
  exists_transcript_loop (Talk.start world _) (Nat.zero_add _)

end SAAgent

end DroneComms.Llm
