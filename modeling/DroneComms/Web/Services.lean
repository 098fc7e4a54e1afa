import DroneComms.Llm.Agent
import DroneComms.Mesh.Metrics
import DroneComms.Web.Station

/-!
# The other HTTP services

The assistant (`chat_reply` and `build_app` of `llm/server.py`), the operator console
(`build_ui_app` of `ui/app.py`) and the listener of a node (`build_healthz_app` of
`meshsa/health.py`), and what all services owe to the check of the bind with which they start.
-/

namespace DroneComms.Web

open Py (Value Interpreter)
open Scout
open Llm (SAAgent AgentReply Conversation Talk Transcript)
open Transports (BindRefused validateBind isLoopback hasToken)

/-- A call that may raise. -/
abbrev Call (σ α : Type) := σ → Option α × σ

/-! ## The assistant -/

/-- The prompt in a payload, as `chat_reply` checks it. -/
def promptOf (maxPromptChars : ℤ) (payload : Option Value) : Except String String :=
  match payload with
  | some (.dict d) =>
      match d.lookup "prompt" with
      | some (.str prompt) =>
          if Py.strip prompt.toList = [] then .error "missing 'prompt'"
          else if maxPromptChars < prompt.toList.length then
            .error ("prompt too long (max " ++ toString maxPromptChars ++ " chars)")
          else .ok (String.ofList (Py.strip prompt.toList))
      | _ => .error "missing 'prompt'"
  | _ => .error "expected a JSON object"

/-- The body and the status of `chat_reply` behind `agent.ask`. -/
def replyBody : Option AgentReply → Value × ℕ
  | none => (.dict [("error", .str "assistant unavailable; check the server logs")], 502)
  | some reply => (.dict [("reply", .str reply.text), ("tools", .list (reply.toolCalls.map .str)),
      ("stop_reason", .str reply.stopReason)], 200)

/-- `chat_reply`. -/
def chatReply {σ : Type} (ask : String → Call σ AgentReply) (maxPromptChars : ℤ)
    (payload : Option Value) (s : σ) : (Value × ℕ) × σ :=
  match promptOf maxPromptChars payload with
  | .error message => ((.dict [("error", .str message)], 400), s)
  | .ok prompt => (ask prompt s).map replyBody id

/-- `DEFAULT_MAX_PROMPT_CHARS`. -/
def defaultMaxPromptChars : ℤ := 8000

inductive AssistantRoute where
  | index
  | chat
  | healthz
deriving DecidableEq

/-- What `build_app` closes over. -/
structure Assistant (β ε : Type) where
  agent : SAAgent β ε
  token : Option String := none
  maxPromptChars : ℤ := defaultMaxPromptChars
  /-- `CHAT_WIDGET_HTML` -/
  widget : List Char

/-- The world of an assistant.  The list of the conversations that it has held is what the model
adds. -/
structure Desk (β : Type) where
  world : β
  held : List (String × Conversation β) := []

namespace Assistant

variable {β ε : Type} (a : Assistant β ε)

/-- `agent.ask`, without a history. -/
def ask (prompt : String) : Call (Desk β) AgentReply := fun d ↦
  let (outcome, c) := a.agent.ask d.world prompt []
  (outcome.toOption, { world := c.world, held := d.held ++ [(prompt, c)] })

/-- The table of routes. -/
def app : App (Desk β) AssistantRoute where
  auth := ⟨"meshsa-llm", a.token⟩
  gate
    | .chat => .bearer
    | _ => .free
  handler d r :=
    match r.route with
    | .index => (d, { body := .text "text/html" a.widget })
    | .chat =>
        let ((body, status), d) := chatReply a.ask a.maxPromptChars r.json d
        (d, apiJson body status)
    | .healthz => (d, healthz)

end Assistant

/-- `validate_bind` of the assistant. -/
def validateAssistantBind (host : List Char) (token : Option String) : Except BindRefused Unit :=
  validateBind host token "meshsa-llm"
    ("the assistant discloses live positions and spends model tokens. Set " ++
      "MESHSA_LLM_TOKEN to a strong secret, or bind to 127.0.0.1.")

/-! ## The console -/

/-- `UISources`, as far as the routes read them. -/
structure UISources (σ : Type) where
  tracksGeojson : Call σ Value
  detectionsGeojson : Call σ Value
  counters : Call σ Value
  /-- `health.snapshot` -/
  health : Option (Call σ Py.Dict) := none
  /-- `fpv.report` -/
  fpv : Option (Call σ Value) := none
  /-- `chat.reply` -/
  chat : Option (Option Value → Call σ (Value × ℕ)) := none
  /-- `logs.entries` -/
  logs : Option (Call σ Value) := none

/-- `panel_manifest`. -/
def panelManifest {σ : Type} (sources : UISources σ) : List String :=
  ["tracks", "detections", "health"] ++ (if sources.fpv.isSome then ["fpv"] else []) ++
    (if sources.chat.isSome then ["chat"] else []) ++
    (if sources.logs.isSome then ["logs"] else [])

inductive ConsoleRoute where
  | index
  | healthz
  | tracks
  | detections
  | health
  | fpv
  | chat
  | logs
deriving DecidableEq

/-- The token of a `UIConfig`: what its validator leaves. -/
structure UIToken where
  token : Option String
  normal : normalizeToken token = token

/-- What `build_ui_app` closes over. -/
structure Console (σ : Type) where
  auth : ServiceAuth
  sources : UISources σ
  /-- `render_page` -/
  page : List Char

/-- `validate_bind` of the console. -/
def validateConsoleBind (host : List Char) (token : Option String) : Except BindRefused Unit :=
  validateBind host token "meshsa-ui"
    ("the console shows live positions, health, and logs. Set MESHSA_UI_TOKEN " ++
      "to a strong secret, or bind to 127.0.0.1.")

/-- The token that is in force. -/
def effectiveToken (config : UIToken) (token : Option String) : Option String :=
  if token.isSome then normalizeToken token else config.token

/-- `build_ui_app`. -/
def buildConsole {σ : Type} (sources : UISources σ) (config : UIToken)
    (renderPage : Option String → List String → List Char) (host : Option (List Char))
    (token : Option String) : Except BindRefused (Console σ) :=
  let token := effectiveToken config token
  (host.elim (.ok ()) fun host ↦ validateConsoleBind host token).map fun _ ↦
    { auth := ⟨"meshsa-ui", token⟩, sources, page := renderPage token (panelManifest sources) }

namespace Console

variable {σ : Type} (c : Console σ)

/-- `upstream_error`. -/
def upstreamError : Response :=
  apiJson (.dict [("error", .str "source unavailable; check the server logs")]) 502

/-- The response of the framework where there is no route. -/
def notFound : Response where
  status := 404
  body := .text "text/plain" "404: Not Found".toList

/-- The handler of `_json_route`. -/
def jsonRoute (read : Call σ Value) (s : σ) : σ × Response :=
  let (body, s) := read s
  (s, body.elim upstreamError apiJson)

/-- `health_body`. -/
def healthBody : Call σ Value := fun s ↦
  match c.sources.counters s with
  | (none, s) => (none, s)
  | (some counters, s) =>
      let body := [("snapshot", counters)]
      match c.sources.health with
      | none => (some (.dict body), s)
      | some snapshot => (snapshot s).map
          (Option.map fun d ↦ .dict (d.foldl (fun body kv ↦ Py.Json.setKey body kv.1 kv.2) body)) id

/-- The handler of `_chat_route`. -/
def chatRoute (reply : Option Value → Call σ (Value × ℕ)) (payload : Option Value) (s : σ) :
    σ × Response :=
  let (answer, s) := reply payload s
  (s, answer.elim upstreamError fun (body, status) ↦ apiJson body status)

/-- The table of routes. -/
def app : App σ ConsoleRoute where
  auth := c.auth
  gate
    | .index => .page
    | .healthz => .free
    | .fpv => if c.sources.fpv.isSome then .bearer else .free
    | .chat => if c.sources.chat.isSome then .bearer else .free
    | .logs => if c.sources.logs.isSome then .bearer else .free
    | _ => .bearer
  handler s r :=
    match r.route with
    | .index => (s, htmlPage c.page)
    | .healthz => (s, healthz)
    | .tracks => jsonRoute c.sources.tracksGeojson s
    | .detections => jsonRoute c.sources.detectionsGeojson s
    | .health => jsonRoute c.healthBody s
    | .fpv => c.sources.fpv.elim (s, notFound) fun report ↦ jsonRoute report s
    | .chat => c.sources.chat.elim (s, notFound) fun reply ↦ chatRoute reply r.json s
    | .logs => c.sources.logs.elim (s, notFound) fun entries ↦
        jsonRoute (fun s ↦ (entries s).map (Option.map fun es ↦ .dict [("entries", es)]) id) s

end Console

/-! ## The listener of a node -/

/-- What the listener reads of a node. -/
structure NodeView where
  uid : String
  metrics : Mesh.MetricsFields
  /-- The transports, each with its counters. -/
  transports : List (String × Mesh.Counters)
  /-- `inference_service.as_dict()` -/
  inference : Option Mesh.Counters

inductive MetricsFormat where
  | prometheus
  | json
deriving DecidableEq

namespace NodeView

variable (node : NodeView)

/-- `_transport_counters`: of two transports with one name the later one counts. -/
def transportCounters : List (String × Mesh.Counters) :=
  node.transports.foldl (fun found t ↦
    let counters := ["dropped_inbox_full", "reconnects", "rx_frames"].map fun key ↦
      (key, t.2.get key)
    if t.1 ∈ found.map Prod.fst
    then found.map fun u ↦ if u.1 = t.1 then (t.1, counters) else u
    else found ++ [(t.1, counters)]) []

/-- Counters as a JSON object. -/
def countersValue (counters : Mesh.Counters) : Value :=
  .dict (counters.map fun kv ↦ (kv.1, .int kv.2))

/-- `RouterMetrics.as_dict`. -/
def metricsValue : Value :=
  countersValue [("rx", node.metrics.rx), ("tx", node.metrics.tx),
    ("forwarded", node.metrics.forwarded),
    ("dropped_undecodable", node.metrics.droppedUndecodable),
    ("schema_mismatch", node.metrics.schemaMismatch)]

def transportsValue : Value :=
  .dict (node.transportCounters.map fun t ↦ (t.1, countersValue t.2))

/-- `health_snapshot`. -/
def healthSnapshot : Value :=
  .dict [("status", .str "ok"), ("uid", .str node.uid), ("metrics", node.metricsValue),
    ("transports", node.transportsValue)]

/-- `render_metrics`, as the handler responds with it. -/
def renderMetrics : MetricsFormat → Response
  | .prometheus => textBody "text/plain"
      (Mesh.renderPrometheus node.metrics node.transportCounters node.inference).toList
  | .json => apiJson (.dict ([("metrics", node.metricsValue),
      ("transports", node.transportsValue)] ++
        (node.inference.map fun counters ↦ ("inference", countersValue counters)).toList))

end NodeView

inductive ListenerRoute where
  | healthz
  | metrics
deriving DecidableEq

/-- `build_healthz_app`.  A request that finds no route is none of the app's. -/
def healthzApp (token : Option String) (metricsEnabled : Bool) (format : MetricsFormat) :
    App NodeView ListenerRoute where
  auth := ⟨"meshsa-metrics", token⟩
  gate
    | .healthz => .free
    | .metrics => if metricsEnabled then .bearer else .free
  handler node r :=
    match r.route with
    | .healthz => (node, { body := .json node.healthSnapshot })
    | .metrics => (node, if metricsEnabled then node.renderMetrics format else Console.notFound)

/-- `validate_healthz_bind`. -/
def validateHealthzBind (host : List Char) (token : Option String) : Except BindRefused Unit :=
  validateBind host token "meshsa-healthz"
    ("the /metrics surface discloses counters. Set health.token / MESHSA_HEALTH_TOKEN, " ++
      "or bind to 127.0.0.1.")

/-! ## Starting on a host -/

/-- The services, each started on a host behind its check of the bind. -/
inductive Started (host : List Char) : {σ ρ : Type} → App σ ρ → Prop where
  | station {store : StationStore} {py : Interpreter} {renderPage : Option String → List Char}
      {token : Option String} {block : Option Value} {st : Station}
      (h : buildStation store py renderPage (some host) token block = .ok st) :
      Started host st.app
  | console {σ : Type} {sources : UISources σ} {config : UIToken}
      {renderPage : Option String → List String → List Char} {token : Option String}
      {c : Console σ} (h : buildConsole sources config renderPage (some host) token = .ok c) :
      Started host c.app
  | assistant {β ε : Type} {a : Assistant β ε} (h : validateAssistantBind host a.token = .ok ()) :
      Started host a.app
  | listener {token : Option String} {metricsEnabled : Bool} {format : MetricsFormat}
      (h : validateHealthzBind host token = .ok ()) :
      Started host (healthzApp token metricsEnabled format)

variable {host : List Char} {σ ρ : Type} {app : App σ ρ}

/-- A check of the bind that is passed. -/
theorem exists_token {token : Option String} {service remedy : String}
    (h : validateBind host token service remedy = .ok ()) (hhost : isLoopback host = false) :
    ∃ t : String, t ≠ "" ∧ token = some t := by
  have htoken : hasToken token = true := by
    by_contra hnone
    rw [Bool.not_eq_true] at hnone
    rw [Transports.validateBind_eq_ok hnone, hhost] at h
    cases h
  cases token with
  | none => cases htoken
  | some t => exact ⟨t, by simpa [hasToken] using htoken, rfl⟩

/-- What a factory builds behind its check. -/
theorem of_map_eq_ok {α ε : Type*} {check : Except ε Unit} {built a : α}
    (h : check.map (fun _ ↦ built) = .ok a) : check = .ok () ∧ a = built := by
  cases check with
  | error e => cases h
  | ok u =>
      cases h
      exact ⟨rfl, rfl⟩

theorem Started.exists_token (h : Started host app) (hhost : isLoopback host = false) :
    ∃ t : String, t ≠ "" ∧ app.auth.token = some t := by
  cases h with
  | station h =>
      obtain ⟨hbind, rfl⟩ := of_map_eq_ok h
      exact Web.exists_token hbind hhost
  | console h =>
      obtain ⟨hbind, rfl⟩ := of_map_eq_ok h
      exact Web.exists_token hbind hhost
  | assistant h => exact Web.exists_token h hhost
  | listener h => exact Web.exists_token h hhost

open scoped Classical in
/-- The requests that do not show a token at their gate have no effect, and the one refusal, or
500 where what they present there is not UTF-8. -/
structure App.OpensTo (app : App σ ρ) (token : String) : Prop where
  fst : ∀ s rs, (Purging.run app.handle s rs).1 =
    (Purging.run app.handle s (rs.filter fun r ↦ r.Shows token (app.gate r.route))).1
  snd : ∀ s rs, (Purging.run app.handle s rs).2.filter
      (fun p ↦ p.1.Shows token (app.gate p.1.route)) =
    (Purging.run app.handle s (rs.filter fun r ↦ r.Shows token (app.gate r.route))).2
  refusal : ∀ s rs, ∀ p ∈ (Purging.run app.handle s rs).2,
    ¬ p.1.Shows token (app.gate p.1.route) →
      p.2 = if p.1.Garbled (app.gate p.1.route) then serverError else app.auth.unauthorized

open scoped Classical in
/-- Nothing but the routes without a gate is ever answered otherwise than with the refusal, or 500
where what is presented is not UTF-8, and nothing changes. -/
def App.Locked (app : App σ ρ) (s : σ) : Prop :=
  ∀ rs, (Purging.run app.handle s rs).1 = s ∧
    ∀ p ∈ (Purging.run app.handle s rs).2, app.gate p.1.route = .free ∨
      p.2 = if p.1.Garbled (app.gate p.1.route) then serverError else app.auth.unauthorized

/-- The page of a token without blanks around it opens. -/
theorem allowsQueryToken_self {auth : ServiceAuth}
    (h : ∀ t ∈ auth.token, t ≠ "" → Py.strip t.toList = t.toList) :
    auth.allowsQueryToken (auth.token.map fun t ↦ wireText t.toList) = some true := by
  obtain ⟨service, token⟩ := auth
  cases token with
  | none => rfl
  | some t =>
      by_cases ht : t = ""
      · subst ht
        rfl
      · refine ((gate_iff ht service).2.1 _).mpr ?_
        rw [Option.map_some, Option.getD_some, stripWire_wireText, h t rfl ht]

theorem normalizeToken_eq_some {token : Option String} {t : String}
    (h : normalizeToken token = some t) : t ≠ "" ∧ Py.strip t.toList = t.toList := by
  obtain ⟨raw, -, hraw⟩ := Option.bind_eq_some_iff.mp h
  dsimp only at hraw
  split_ifs at hraw with hblank
  obtain rfl := Option.some.inj hraw
  rw [String.toList_ofList]
  refine ⟨fun hnil ↦ hblank ?_, strip_strip _⟩
  rw [← String.toList_ofList (l := Py.strip raw.toList), hnil]
  rfl

theorem effectiveToken_eq_some {config : UIToken} {token : Option String} {t : String}
    (h : effectiveToken config token = some t) : t ≠ "" ∧ Py.strip t.toList = t.toList := by
  unfold effectiveToken at h
  split_ifs at h
  · exact normalizeToken_eq_some h
  · exact normalizeToken_eq_some (config.normal.trans h)

/-- An app whose page opens is not locked. -/
theorem not_locked {s : σ} {r : Request ρ} (hgate : app.gate r.route ≠ .free)
    (hadmitted : app.Admitted r) (hresponse : (app.handler s r).2.status = 200) :
    ¬ app.Locked s := by
  classical
  intro hlocked
  rcases (hlocked [r]).2 (r, (app.handle s r).2) List.mem_cons_self with hfree | hrefused
  · exact hgate hfree
  · have hstatus := congrArg Response.status hrefused
    rw [app.handle_of_admitted s hadmitted, hresponse] at hstatus
    split_ifs at hstatus <;> cases hstatus

/-- An app whose token admits nobody at a gate is locked. -/
theorem locked_of_admits_none {token : String} (hauth : app.auth.token = some token)
    (htoken : token ≠ "") {s : σ} (hgates : ∀ r, app.Admitted r → app.gate r.route = .free)
    (hfree : ∀ s r, app.gate r.route = .free → (app.handler s r).1 = s) : app.Locked s := by
  intro rs
  constructor
  · refine app.refuses.run_invariant (I := (· = s)) (fun t r hr ht ↦ ?_) rfl rs
    rw [app.handle_of_admitted t hr, hfree t r (hgates r hr), ht]
  · intro p hp
    by_cases hr : app.Admitted p.1
    · exact .inl (hgates p.1 hr)
    · exact .inr ((app.refuses.eq_refusal hp hr).trans (App.refusal_eq hauth htoken p.1))

/-- No header and no query presents a token with blanks around it to the station. -/
theorem locked_station_iff {store : StationStore} {py : Interpreter}
    {page : Option String → List Char} {host : Option (List Char)} {token : Option String}
    {block : Option Value} {st : Station}
    (hst : buildStation store py page host token block = .ok st) (s : st.store.State) :
    st.app.Locked s ↔ ∃ t ∈ token, t ≠ "" ∧ Py.strip t.toList ≠ t.toList := by
  have hauth : st.app.auth = ⟨"meshsa-scout", token⟩ := by
    rw [(of_map_eq_ok hst).2]
    rfl
  refine ⟨fun hlocked ↦ ?_, ?_⟩
  · by_contra hblank
    push Not at hblank
    have hadmitted :
        st.app.Admitted ⟨.index, none, token.map fun t ↦ wireText t.toList, none⟩ := by
      show st.app.auth.allowsQueryToken _ = some true
      rw [hauth]
      exact allowsQueryToken_self hblank
    exact not_locked Gate.noConfusion hadmitted rfl hlocked
  · rintro ⟨t, rfl, ht, hblank⟩
    have htoken : st.app.auth.token = some t := congrArg ServiceAuth.token hauth
    refine locked_of_admits_none htoken ht (fun r hr ↦ ?_) fun t r hfree ↦ ?_
    · have hshows := (App.passes_iff htoken ht r).1.mp hr
      cases hgate : st.app.gate r.route with
      | free => rfl
      | bearer =>
          rw [hgate] at hshows
          obtain ⟨presented, -, hstrip⟩ := hshows
          exact absurd (strip_eq_of_stripWire hstrip) hblank
      | page =>
          rw [hgate] at hshows
          exact absurd (strip_eq_of_stripWire hshows) hblank
    · obtain ⟨route, header, query, json⟩ := r
      cases route with
      | healthz => rfl
      | _ => cases hfree

/-- The token in force opens the page of the console. -/
theorem not_locked_console {sources : UISources σ} {config : UIToken}
    {page : Option String → List String → List Char} {host : Option (List Char)}
    {token : Option String} {c : Console σ}
    (hc : buildConsole sources config page host token = .ok c) (s : σ) : ¬ c.app.Locked s := by
  have hauth : c.app.auth = ⟨"meshsa-ui", effectiveToken config token⟩ := by
    rw [(of_map_eq_ok hc).2]
    rfl
  have hadmitted : c.app.Admitted
      ⟨.index, none, (effectiveToken config token).map fun t ↦ wireText t.toList, none⟩ := by
    show c.app.auth.allowsQueryToken _ = some true
    rw [hauth]
    exact allowsQueryToken_self fun t ht _ ↦ (effectiveToken_eq_some ht).2
  exact not_locked Gate.noConfusion hadmitted rfl

/-- Sources that raise. -/
def raising : UISources Unit where
  tracksGeojson := fun s ↦ (none, s)
  detectionsGeojson := fun s ↦ (none, s)
  counters := fun s ↦ (none, s)

namespace Assistant

variable {β ε : Type} (a : Assistant β ε)

/-- The prompt that the agent is asked for a request. -/
def asked (r : Request AssistantRoute) : Option String :=
  if a.app.Admitted r ∧ r.route = .chat then (promptOf a.maxPromptChars r.json).toOption else none

/-- The response to a conversation. -/
def answer (outcome : Except ε AgentReply) : Response :=
  apiJson (replyBody outcome.toOption).1 (replyBody outcome.toOption).2

/-- The prompts of a run, each with the response to it. -/
def exchanges (out : List (Request AssistantRoute × Response)) : List (String × Response) :=
  out.filterMap fun p ↦ (a.asked p.1).map (·, p.2)

/-- A conversation that starts with nothing but the prompt, and the response to it. -/
def HeldFor (exchange : String × Response) (talk : String × Conversation β) : Prop :=
  talk.1 = exchange.1 ∧ ∃ rounds last, ∃ outcome : Except ε AgentReply,
    exchange.2 = answer outcome ∧
      Transcript a.agent.maxIterations [.prompt exchange.1] rounds last (outcome, talk.2)

/-- A prompt that is asked is not blank and within the bound. -/
theorem bounds_of_promptOf {maxPromptChars : ℤ} {payload : Option Value} {prompt : String}
    (h : promptOf maxPromptChars payload = .ok prompt) : prompt ≠ "" ∧
      Py.strip prompt.toList = prompt.toList ∧ (prompt.toList.length : ℤ) ≤ maxPromptChars := by
  unfold promptOf at h
  split at h
  · split at h
    · rename_i raw hraw
      split_ifs at h with hblank hlong
      cases h
      rw [String.toList_ofList]
      refine ⟨fun hnil ↦ hblank ?_, strip_strip _, ?_⟩
      · rw [← String.toList_ofList (l := Py.strip raw.toList), hnil]
        rfl
      · have hle := length_strip_le raw.toList
        omega
    · cases h
  · cases h

theorem bounds_of_asked {r : Request AssistantRoute} {prompt : String}
    (h : a.asked r = some prompt) : prompt ≠ "" ∧
      Py.strip prompt.toList = prompt.toList ∧ (prompt.toList.length : ℤ) ≤ a.maxPromptChars := by
  unfold asked at h
  split_ifs at h
  cases hprompt : promptOf a.maxPromptChars r.json with
  | error message =>
      rw [hprompt] at h
      cases h
  | ok raw =>
      rw [hprompt] at h
      cases h
      exact bounds_of_promptOf hprompt

/-- One request holds the conversation that it asks for, and no other. -/
theorem handle_cases (d : Desk β) (r : Request AssistantRoute) :
    (a.asked r = none ∧ (a.app.handle d r).1.held = d.held) ∨
      ∃ prompt c, a.asked r = some prompt ∧
        (a.app.handle d r).1.held = d.held ++ [(prompt, c)] ∧
        a.HeldFor (prompt, (a.app.handle d r).2) (prompt, c) := by
  by_cases hadmitted : a.app.Admitted r
  · have hhandle := a.app.handle_of_admitted d hadmitted
    obtain ⟨route, header, query, json⟩ := r
    cases route with
    | index => exact .inl ⟨if_neg fun h ↦ AssistantRoute.noConfusion h.2, by rw [hhandle]; rfl⟩
    | healthz => exact .inl ⟨if_neg fun h ↦ AssistantRoute.noConfusion h.2, by rw [hhandle]; rfl⟩
    | chat =>
        have hasked : a.asked ⟨.chat, header, query, json⟩ =
            (promptOf a.maxPromptChars json).toOption := if_pos ⟨hadmitted, rfl⟩
        rw [hasked, hhandle]
        unfold app chatReply
        dsimp only
        cases promptOf a.maxPromptChars json with
        | error message => exact .inl ⟨rfl, rfl⟩
        | ok prompt =>
            obtain ⟨rounds, last, h⟩ := SAAgent.exists_transcript_loop
              (Talk.start d.world [.prompt prompt]) (Nat.zero_add a.agent.maxIterations)
            exact .inr ⟨prompt, _, rfl, rfl, rfl, rounds, last, _, rfl, h⟩
  · refine .inl ⟨if_neg fun h ↦ hadmitted h.1, ?_⟩
    rw [a.app.refuses d r hadmitted]

/-- **What any run of requests makes the assistant say.**  It holds one conversation for each
admitted request with a prompt that passes the checks, in order, which starts with this prompt
alone and is reported in the response.  All other requests cost no call of the model. -/
theorem held_run (d : Desk β) (rs : List (Request AssistantRoute)) :
    (∀ prompt ∈ rs.filterMap a.asked, prompt ≠ "" ∧ Py.strip prompt.toList = prompt.toList ∧
      (prompt.toList.length : ℤ) ≤ a.maxPromptChars) ∧ ∃ talks,
    (Purging.run a.app.handle d rs).1.held = d.held ++ talks ∧
    List.Forall₂ a.HeldFor (a.exchanges (Purging.run a.app.handle d rs).2) talks ∧
    (a.exchanges (Purging.run a.app.handle d rs).2).map Prod.fst = rs.filterMap a.asked ∧
    (talks.map fun talk ↦ talk.2.requests.length).sum ≤
      (rs.filterMap a.asked).length * a.agent.maxIterations := by
  refine ⟨fun prompt hprompt ↦ ?_, ?_⟩
  · obtain ⟨r, -, hasked⟩ := List.mem_filterMap.mp hprompt
    exact a.bounds_of_asked hasked
  induction rs generalizing d with
  | nil => exact ⟨[], (List.append_nil _).symm, .nil, rfl, Nat.zero_le _⟩
  | cons r rs ih =>
      obtain ⟨talks, hheld, htalks, hprompts, hcalls⟩ := ih (a.app.handle d r).1
      rw [Purging.run]
      rcases a.handle_cases d r with ⟨hasked, hstep⟩ | ⟨prompt, c, hasked, hstep, htalk⟩
      · refine ⟨talks, ?_, ?_, ?_, ?_⟩
        · rw [hheld, hstep]
        · rw [exchanges, List.filterMap_cons_none (by rw [hasked]; rfl)]
          exact htalks
        · rw [exchanges, List.filterMap_cons_none (by rw [hasked]; rfl),
            List.filterMap_cons_none hasked]
          exact hprompts
        · rw [List.filterMap_cons_none hasked]
          exact hcalls
      · refine ⟨(prompt, c) :: talks, ?_, ?_, ?_, ?_⟩
        · rw [hheld, hstep, List.append_assoc, List.singleton_append]
        · rw [exchanges, List.filterMap_cons_some (by rw [hasked]; rfl)]
          exact .cons htalk htalks
        · rw [exchanges, List.filterMap_cons_some (by rw [hasked]; rfl),
            List.filterMap_cons_some hasked, List.map_cons]
          exact congrArg _ hprompts
        · obtain ⟨-, rounds, last, outcome, -, htranscript⟩ := htalk
          have hbound : c.requests.length ≤ a.agent.maxIterations := htranscript.bound
          rw [List.filterMap_cons_some hasked, List.map_cons, List.sum_cons, List.length_cons,
            Nat.add_one_mul, Nat.add_comm (_ * _)]
          exact Nat.add_le_add hbound hcalls

end Assistant

end DroneComms.Web
