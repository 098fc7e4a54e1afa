import DroneComms.Command.Supervision
import DroneComms.Py.Interpreter

/-!
# The command endpoint

The handlers of `flightctl/run_commander.py` behind their guard, for an authorised
request.  The body is any JSON value.  A handler reads it, calls the service in a
thread of its own and makes an answer of what the service returns or raises.  What
`str` makes of an exception of a builder is a parameter.
-/

namespace DroneComms.Command

open Automaton
open Py

/-! ## Handlers -/

/-- The routes with a body. -/
inductive CommandRoute where
  | stage
  | confirm
  | cancel
deriving DecidableEq, Repr

/-- `web.json_response`. -/
structure JsonResponse where
  body : Dict
  status : ℕ := 200

/-- An error as an answer. -/
def JsonResponse.error (message : String) (status : ℕ) : JsonResponse :=
  ⟨[("error", .str message)], status⟩

/-- What a handler does with its body. -/
inductive Parsed where
  | answers (r : JsonResponse)
  | raises (e : PyError)
  | calls (call : ServiceEvent)

/-- How a handler ends. -/
inductive Ending where
  | /-- With the answer of an operation. -/ performed (r : JsonResponse)
  | refused (r : JsonResponse)
  | /-- With an exception. -/ escaped

namespace CommandEndpoint

def parseStage (payload : Dict) : Parsed :=
  match Dict.get payload "name" .none, Dict.getOr payload "params" (.dict []) with
  | .str name, .dict params => .calls (.stage name params)
  | _, _ => .answers (.error "missing 'name' or bad 'params'" 400)

def parseConfirm (payload : Dict) : Parsed :=
  match Dict.get payload "confirmation_id" .none with
  | .str token => .calls (.confirm token (Dict.get payload "force_ack" (.bool false)).truthy)
  | _ => .answers (.error "missing 'confirmation_id'" 400)

def parseCancel (payload : Dict) : Parsed :=
  match Dict.get payload "confirmation_id" .none with
  | .str token => .calls (.cancel token)
  | _ => .answers (.error "missing 'confirmation_id'" 400)

/-- A handler up to its call of the service, where `none` is a body that is no JSON. -/
def parse (route : CommandRoute) : Option Value → Parsed
  | none => .answers (.error "expected a JSON object" 400)
  | some body =>
      match body.entries with
      | .error e => .raises e
      | .ok payload =>
          match route with
          | .stage => parseStage payload
          | .confirm => parseConfirm payload
          | .cancel => parseCancel payload

/-- The answer to a `CommandError`, by `_STATUS_FOR`. -/
def commandError : ServiceError → Option JsonResponse
  | .build (.unknownCommand name) => some (.error name 400)
  | .build (.commandNotAllowed name) | .build (.forceDisarmDisabled name) => some (.error name 403)
  | .gate (.unknownConfirmation token) => some (.error token 404)
  | .gate (.forceConfirmationRequired name) => some (.error name 409)
  | .armBlocked message => some (.error message 409)
  | .build (.builder _) | .surroundings => none

/-- What a handler catches: `stage` a `CommandError`, a `TypeError` and a `ValueError`,
`confirm` a `CommandError` and `cancel` nothing. -/
def caught (explain : PyError → String) (route : CommandRoute) (e : ServiceError) :
    Option JsonResponse :=
  match route, e with
  | .stage, .build (.builder .typeError) =>
      some (.error ("bad params: " ++ explain .typeError) 400)
  | .stage, .build (.builder .valueError) =>
      some (.error ("bad params: " ++ explain .valueError) 400)
  | .stage, e | .confirm, e => commandError e
  | .cancel, _ => none

/-- A handler behind the service. -/
def respond (explain : PyError → String) (route : CommandRoute) : Result → Ending
  | .staged command => .performed
      { body := [("confirmation_id", .str command.confirmationId), ("name", .str command.name),
          ("command", .int command.command),
          ("requires_force_confirm", .bool command.requiresForceConfirm)] }
  | .cancelled => .performed { body := [("ok", .bool true)] }
  | .outcome outcome => .performed
      { body := [("accepted", .bool outcome.accepted),
          ("result", outcome.result.elim .none .int), ("attempts", .int outcome.attempts),
          ("reason", .str outcome.reason), ("name", .str outcome.spec.name),
          ("command", .int outcome.spec.command)]
        status := if outcome.accepted then 200 else 502 }
  | .raised e => (caught explain route e).elim .escaped .refused

/-- How a request can end, if neither audit nor link raise. -/
inductive Ends (svc : CommandService) (explain : PyError → String) (gate : ConfirmationGate)
    (route : CommandRoute) (body : Option Value) : Ending → Prop
  | answered (r : JsonResponse) (h : parse route body = .answers r) :
      Ends svc explain gate route body (.refused r)
  | raised (e : PyError) (h : parse route body = .raises e) :
      Ends svc explain gate route body .escaped
  | served (call : ServiceEvent) (replies : List Reply) (s : Session) (result : Result)
      (h : parse route body = .calls call) (hquiet : Reply.raised ∉ replies)
      (hexec : exec (Session.step svc) { gate } (call :: replies.map .reply) = some s)
      (hidle : s.frame = none) (hresult : s.result = some result) :
      Ends svc explain gate route body (respond explain route result)

/-! ## The contract -/

/-- The operation was performed, or refused with a client error. -/
def Proper : Ending → Prop
  | .performed _ => True
  | .refused r => 400 ≤ r.status ∧ r.status < 500
  | .escaped => False

/-- A session waits for its surroundings or has a result. -/
def Waiting (svc : CommandService) (s : Session) : Prop :=
  (∃ f call, s.frame = some f ∧ f.call svc = some call) ∨
    s.frame = none ∧ ∃ result, s.result = some result

/-- A body is handled, and it releases a force command only if it says so. -/
structure Handled (svc : CommandService) (explain : PyError → String) (gate : ConfirmationGate)
    (route : CommandRoute) (body : Option Value) : Prop where
  proper : ∀ ending, Ends svc explain gate route body ending → Proper ending
  waits : ∀ call (replies : List Reply) s, parse route body = .calls call → Reply.raised ∉ replies →
    exec (Session.step svc) { gate } (call :: replies.map .reply) = some s → Waiting svc s
  force : ∀ token, parse route body = .calls (.confirm token true) →
    ∃ payload, body = some (.dict payload) ∧ payload.lookup "force_ack" = some (.bool true)

/-- An integer that `float` refuses. -/
def Huge (v : Value) : Prop := ∃ n, v = .int n ∧ floatLimit ≤ |n|

/-- A number whose product with the scale is no float, or infinite. -/
def TooLarge (v : Value) : Prop :=
  Huge v ∨ mulFloat degE7 v = .ok .posInf ∨ mulFloat degE7 v = .ok .negInf

/-- A number whose product with the scale is finite. -/
def Scalable (v : Value) : Prop := ∃ q, mulFloat degE7 v = .ok (.fin q)

/-- The builder of an allowed command is given a number that it cannot convert. -/
def Overflowing (svc : CommandService) (name : String) (params : Dict) : Prop :=
  name ∈ svc.settings.allowed ∧
    ((name = "set_mode" ∧ ∃ v, bindKwargs ["custom_mode"] params = .ok [v] ∧ Huge v) ∨
      (name = "goto" ∧ ∃ lat lon alt, bindKwargs ["lat_deg", "lon_deg", "alt_m"] params =
        .ok [lat, lon, alt] ∧ (TooLarge lat ∨ Scalable lat ∧ TooLarge lon)))

/-- The bodies that are handled. -/
def Acceptable (svc : CommandService) (route : CommandRoute) : Option Value → Prop
  | none => True
  | some (.dict payload) =>
      match route with
      | .stage => ∀ name params, Dict.get payload "name" .none = .str name →
          Dict.getOr payload "params" (.dict []) = .dict params → ¬Overflowing svc name params
      | .confirm => ∀ token, Dict.get payload "confirmation_id" .none = .str token →
          (Dict.get payload "force_ack" (.bool false)).truthy = true →
            payload.lookup "force_ack" = some (.bool true)
      | .cancel => True
  | some _ => False

/-! ## Exceptions of the builders -/

section Builders

variable {text : FloatText} {v : Value}

theorem toFloat_eq_error {e : PyError} (h : toFloat text v = .error e) :
    e = .typeError ∨ e = .valueError ∨ Huge v := by
  cases v with
  | int n => exact .inr (.inr ⟨n, rfl, (floatOfInt_eq_error.mp h).1⟩)
  | str s =>
      simp only [toFloat] at h
      cases hs : text.ofStr s with
      | none =>
          rw [hs] at h
          cases h
          exact .inr (.inl rfl)
      | some x =>
          rw [hs] at h
          cases h
  | none | list _ | dict _ =>
      cases h
      exact .inl rfl
  | bool _ | float _ => cases h

theorem toFloat_of_huge (h : Huge v) : toFloat text v = .error .overflowError := by
  obtain ⟨n, rfl, hn⟩ := h
  exact floatOfInt_eq_error.mpr ⟨hn, rfl⟩

theorem mulFloat_eq_error {e : PyError} (h : mulFloat degE7 v = .error e) :
    e = .typeError ∨ Huge v := by
  cases v with
  | int n =>
      cases hn : floatOfInt n with
      | ok x =>
          rw [mulFloat, hn] at h
          cases h
      | error e' => exact .inr ⟨n, rfl, (floatOfInt_eq_error.mp hn).1⟩
  | none | str _ | list _ | dict _ =>
      cases h
      exact .inl rfl
  | bool _ | float _ => cases h

theorem mulFloat_of_huge (h : Huge v) : mulFloat degE7 v = .error .overflowError := by
  obtain ⟨n, rfl, hn⟩ := h
  rw [mulFloat, floatOfInt_eq_error.mpr ⟨hn, rfl⟩]
  rfl

/-- A coordinate is scaled, too large, or no number. -/
theorem scaled_cases (v : Value) :
    (Scalable v ∧ ∃ n, (mulFloat degE7 v >>= intRound) = .ok n) ∨
      (TooLarge v ∧ (mulFloat degE7 v >>= intRound) = .error .overflowError) ∨
        ¬TooLarge v ∧ ¬Scalable v ∧ ((mulFloat degE7 v >>= intRound) = .error .typeError ∨
          (mulFloat degE7 v >>= intRound) = .error .valueError) := by
  cases hv : mulFloat degE7 v with
  | error e =>
      by_cases hhuge : Huge v
      · rw [mulFloat_of_huge hhuge] at hv
        cases hv
        exact .inr (.inl ⟨.inl hhuge, rfl⟩)
      · have htype : e = .typeError := (mulFloat_eq_error hv).resolve_right hhuge
        subst htype
        refine .inr (.inr ⟨?_, ?_, .inl rfl⟩)
        · simp [TooLarge, hhuge, hv]
        · simp [Scalable, hv]
  | ok x =>
      have hhuge : ¬Huge v := by
        intro h
        rw [mulFloat_of_huge h] at hv
        cases hv
      cases x with
      | fin q => exact .inl ⟨⟨q, hv⟩, _, rfl⟩
      | posInf => exact .inr (.inl ⟨.inr (.inl hv), rfl⟩)
      | negInf => exact .inr (.inl ⟨.inr (.inr hv), rfl⟩)
      | nan =>
          refine .inr (.inr ⟨?_, ?_, .inr rfl⟩)
          · simp [TooLarge, hhuge, hv]
          · simp [Scalable, hv]

theorem goto_eq_error {lat lon alt : Value} {e : PyError} (h : goto lat lon alt = .error e) :
    e = .typeError ∨ e = .valueError ∨ TooLarge lat ∨ Scalable lat ∧ TooLarge lon := by
  rcases Py.bind_eq_error.mp h with hx | ⟨x, hx, h⟩
  · rcases scaled_cases lat with ⟨-, n, hlat⟩ | ⟨hlarge, -⟩ | ⟨-, -, hlat | hlat⟩
    · cases hlat.symm.trans hx
    · exact .inr (.inr (.inl hlarge))
    · cases hlat.symm.trans hx
      exact .inl rfl
    · cases hlat.symm.trans hx
      exact .inr (.inl rfl)
  · rcases Py.bind_eq_error.mp h with hy | ⟨y, -, h⟩
    · rcases scaled_cases lon with ⟨-, n, hlon⟩ | ⟨hlarge, -⟩ | ⟨-, -, hlon | hlon⟩
      · cases hlon.symm.trans hy
      · rcases scaled_cases lat with ⟨hscalable, -⟩ | ⟨-, hlat⟩ | ⟨-, -, hlat | hlat⟩
        · exact .inr (.inr (.inr ⟨hscalable, hlarge⟩))
        · cases hlat.symm.trans hx
        · cases hlat.symm.trans hx
        · cases hlat.symm.trans hx
      · cases hlon.symm.trans hy
        exact .inl rfl
      · cases hlon.symm.trans hy
        exact .inr (.inl rfl)
    · cases h

theorem scaled_of_tooLarge (h : TooLarge v) :
    (mulFloat degE7 v >>= intRound) = .error .overflowError := by
  rcases h with hhuge | hv | hv
  · rw [mulFloat_of_huge hhuge]
    rfl
  · rw [hv]
    rfl
  · rw [hv]
    rfl

theorem scaled_of_scalable (h : Scalable v) :
    ∃ n, (mulFloat degE7 v >>= intRound) = .ok n := by
  obtain ⟨q, hv⟩ := h
  exact ⟨roundEven q, by rw [hv]; rfl⟩

theorem goto_of_tooLarge {lat lon : Value} (h : TooLarge lat ∨ Scalable lat ∧ TooLarge lon)
    (alt : Value) : goto lat lon alt = .error .overflowError := by
  rcases h with hlat | ⟨hlat, hlon⟩
  · rw [goto, scaled_of_tooLarge hlat]
    rfl
  · obtain ⟨n, hn⟩ := scaled_of_scalable hlat
    rw [goto, hn, scaled_of_tooLarge hlon]
    rfl

/-- Wrong keywords are a `TypeError`. -/
theorem bindKwargs_eq_error {names : List String} {params : Dict} {e : PyError}
    (h : bindKwargs names params = .error e) : e = .typeError := by
  rw [bindKwargs] at h
  split_ifs at h with hknown
  · clear hknown
    induction names with
    | nil => cases h
    | cons name names ih =>
        rw [List.mapM_cons] at h
        rcases Py.bind_eq_error.mp h with hname | ⟨v, -, h⟩
        · cases hv : params.lookup name with
          | none =>
              rw [hv] at hname
              cases hname
              rfl
          | some v =>
              rw [hv] at hname
              cases hname
        · rcases Py.bind_eq_error.mp h with hnames | ⟨vs, -, h⟩
          · exact ih hnames
          · cases h
  · cases h
    rfl

/-- A builder of the table raises a `TypeError`, a `ValueError`, or is given a number
that it cannot convert. -/
theorem builders_eq_error {name : String} {builder : Builder} {params : Dict} {e : PyError}
    {svc : CommandService} (hb : (builders text).lookup name = some builder)
    (hall : name ∈ svc.settings.allowed) (h : builder params = .error e) :
    e = .typeError ∨ e = .valueError ∨ Overflowing svc name params := by
  have hmem := mem_builders hb
  have hconstant : ∀ spec, constant spec params = .error e → e = .typeError := by
    intro spec h
    rcases Py.bind_eq_error.mp h with h | ⟨_, -, h⟩
    · exact bindKwargs_eq_error h
    · cases h
  simp only [builders, List.mem_cons, Prod.mk.injEq, List.not_mem_nil, or_false] at hmem
  rcases hmem with ⟨-, rfl⟩ | ⟨-, rfl⟩ | ⟨-, rfl⟩ | ⟨-, rfl⟩ | ⟨rfl, rfl⟩ | ⟨rfl, rfl⟩
  · exact .inl (hconstant _ h)
  · exact .inl (hconstant _ h)
  · exact .inl (hconstant _ h)
  · exact .inl (hconstant _ h)
  · rcases Py.bind_eq_error.mp h with h | ⟨vs, hvs, h⟩
    · exact .inl (bindKwargs_eq_error h)
    split at h
    · rename_i v
      rcases Py.bind_eq_error.mp h with h | ⟨_, -, h⟩
      · rcases toFloat_eq_error h with htype | hvalue | hhuge
        · exact .inl htype
        · exact .inr (.inl hvalue)
        · exact .inr (.inr ⟨hall, .inl ⟨rfl, v, hvs, hhuge⟩⟩)
      · cases h
    · cases h
      exact .inl rfl
  · rcases Py.bind_eq_error.mp h with h | ⟨vs, hvs, h⟩
    · exact .inl (bindKwargs_eq_error h)
    split at h
    · rename_i lat lon alt
      rcases goto_eq_error h with htype | hvalue | hlarge
      · exact .inl htype
      · exact .inr (.inl hvalue)
      · exact .inr (.inr ⟨hall, .inr ⟨rfl, lat, lon, alt, hvs, hlarge⟩⟩)
    · cases h
      exact .inl rfl

/-- `build_command` raises a `CommandError`, a `TypeError`, a `ValueError`, or hands a
number to a builder that cannot convert it. -/
theorem buildCommand_eq_error {svc : CommandService} {name : String} {params : Dict}
    {e : PyError} (h : buildCommand text name svc.settings params = .error (.builder e)) :
    e = .typeError ∨ e = .valueError ∨ Overflowing svc name params := by
  unfold buildCommand at h
  split at h
  · cases h
    exact .inl rfl
  split at h
  · cases h
  · rename_i builder hb
    split_ifs at h with hall hforce
    · cases h
    · cases hr : builder params with
      | error e' =>
          rw [hr] at h
          cases h
          exact builders_eq_error hb hall hr
      | ok spec =>
          rw [hr] at h
          cases h
    · cases h

/-- Keywords that a builder takes are none of `build_command` itself. -/
theorem bound_keywords {names : List String} {params : Dict} {vs : List Value}
    (h : bindKwargs names params = .ok vs) (hname : "name" ∉ names)
    (hsettings : "settings" ∉ names) :
    ¬(params.any fun kv ↦ kv.1 = "name" || kv.1 = "settings") = true := by
  rw [bindKwargs] at h
  split_ifs at h with hknown
  rw [List.all_eq_true] at hknown
  simp only [List.any_eq_true, Bool.or_eq_true, decide_eq_true_eq, not_exists, not_and, not_or]
  intro kv hkv
  have hmem : kv.1 ∈ names := by simpa using hknown kv hkv
  refine ⟨?_, ?_⟩
  · intro heq
    exact hname (heq ▸ hmem)
  · intro heq
    exact hsettings (heq ▸ hmem)

/-- `build_command` lets the exception of the builder through. -/
theorem buildCommand_of_overflowing {svc : CommandService} {name : String} {params : Dict}
    (h : Overflowing svc name params) :
    buildCommand text name svc.settings params = .error (.builder .overflowError) := by
  obtain ⟨hall, ⟨rfl, v, hv, hhuge⟩ | ⟨rfl, lat, lon, alt, hv, hlarge⟩⟩ := h
  · rw [buildCommand, if_neg (bound_keywords hv (by decide) (by decide))]
    simp only [show (builders text).lookup "set_mode" = some _ from rfl]
    rw [if_neg (not_not.mpr hall), if_neg (by simp), hv]
    simp only [Except.bind, bind, setMode, toFloat_of_huge hhuge]
    rfl
  · rw [buildCommand, if_neg (bound_keywords hv (by decide) (by decide))]
    simp only [show (builders text).lookup "goto" = some _ from rfl]
    rw [if_neg (not_not.mpr hall), if_neg (by simp), hv]
    simp only [Except.bind, bind, goto_of_tooLarge hlarge]
    rfl

end Builders

/-! ## Bodies -/

/-- What an object makes a handler call. -/
inductive Calls (payload : Dict) : CommandRoute → ServiceEvent → Prop
  | stage (name params) (hname : Dict.get payload "name" .none = .str name)
      (hparams : Dict.getOr payload "params" (.dict []) = .dict params) :
      Calls payload .stage (.stage name params)
  | confirm (token) (h : Dict.get payload "confirmation_id" .none = .str token) :
      Calls payload .confirm
        (.confirm token (Dict.get payload "force_ack" (.bool false)).truthy)
  | cancel (token) (h : Dict.get payload "confirmation_id" .none = .str token) :
      Calls payload .cancel (.cancel token)

/-- A handler refuses an object, or calls the service. -/
theorem parse_dict (route : CommandRoute) (payload : Dict) :
    (∃ message, parse route (some (.dict payload)) = .answers (.error message 400)) ∨
      ∃ call, parse route (some (.dict payload)) = .calls call ∧ Calls payload route call := by
  cases route with
  | stage =>
      show (∃ message, parseStage payload = _) ∨ ∃ call, parseStage payload = _ ∧ _
      unfold parseStage
      split
      · rename_i hname hparams
        exact .inr ⟨_, rfl, .stage _ _ hname hparams⟩
      · exact .inl ⟨_, rfl⟩
  | confirm =>
      show (∃ message, parseConfirm payload = _) ∨ ∃ call, parseConfirm payload = _ ∧ _
      unfold parseConfirm
      split
      · rename_i htoken
        exact .inr ⟨_, rfl, .confirm _ htoken⟩
      · exact .inl ⟨_, rfl⟩
  | cancel =>
      show (∃ message, parseCancel payload = _) ∨ ∃ call, parseCancel payload = _ ∧ _
      unfold parseCancel
      split
      · rename_i htoken
        exact .inr ⟨_, rfl, .cancel _ htoken⟩
      · exact .inl ⟨_, rfl⟩

/-- What calls the service is an object. -/
theorem calls_of_parse {route : CommandRoute} {body : Option Value} {call : ServiceEvent}
    (h : parse route body = .calls call) :
    ∃ payload, body = some (.dict payload) ∧ Calls payload route call := by
  cases body with
  | none => cases h
  | some v =>
      cases hv : v.entries with
      | error e =>
          simp only [parse, hv] at h
          cases h
      | ok payload =>
          obtain rfl := Value.eq_of_entries hv
          rcases parse_dict route payload with ⟨message, hm⟩ | ⟨call', hc, hcalls⟩
          · cases hm.symm.trans h
          · cases hc.symm.trans h
            exact ⟨payload, rfl, hcalls⟩

theorem parse_of_calls {route : CommandRoute} {payload : Dict} {call : ServiceEvent}
    (h : Calls payload route call) : parse route (some (.dict payload)) = .calls call := by
  cases h with
  | stage name params hname hparams =>
      show parseStage payload = _
      rw [parseStage, hname, hparams]
  | confirm token htoken =>
      show parseConfirm payload = _
      rw [parseConfirm, htoken]
  | cancel token htoken =>
      show parseCancel payload = _
      rw [parseCancel, htoken]

/-- A handler answers what is no object only if it is no JSON. -/
theorem dict_or_raises (route : CommandRoute) (v : Value) :
    (∃ payload, v = .dict payload) ∨ ∃ e, parse route (some v) = .raises e := by
  cases hv : v.entries with
  | ok payload => exact .inl ⟨payload, Value.eq_of_entries hv⟩
  | error e => exact .inr ⟨e, by simp only [parse, hv]⟩

/-! ## Requests behind their call -/

section Serving

variable {svc : CommandService} {explain : PyError → String} {route : CommandRoute}

/-- The frames of a route, each at a call. -/
def Serves (svc : CommandService) (route : CommandRoute) : Frame → Prop
  | .naming _ | .staging .. => route = .stage
  | .cancelling _ => route = .cancel
  | .executing _ spec x => route = .confirm ∧ ∃ call, x.call svc.sender spec = some call
  | .checking .. | .timing .. | .blocking _ | .confirming .. => route = .confirm

/-- A request waits at a call of its route or has its answer. -/
def Serving (svc : CommandService) (explain : PyError → String) (route : CommandRoute)
    (s : Session) : Prop :=
  (∃ f, s.frame = some f ∧ Serves svc route f) ∨
    s.frame = none ∧ ∃ result, s.result = some result ∧ Proper (respond explain route result)

theorem Serves.call {f : Frame} (h : Serves svc route f) : ∃ call, f.call svc = some call := by
  cases f with
  | executing token spec x => exact h.2
  | _ => exact ⟨_, rfl⟩

theorem Serving.waiting {s : Session} (h : Serving svc explain route s) : Waiting svc s := by
  rcases h with ⟨f, hf, hserves⟩ | ⟨hidle, result, hresult, -⟩
  · obtain ⟨call, hcall⟩ := hserves.call
    exact .inl ⟨f, call, hf, hcall⟩
  · exact .inr ⟨hidle, result, hresult⟩

theorem Serving.running {gate : ConfirmationGate} {f : Frame} {h : List Action}
    (hf : Serves svc route f) :
    Serving svc explain route ⟨gate, (Progress.running f).frame, (Progress.running f).result, h⟩ :=
  .inl ⟨f, rfl, hf⟩

theorem Serving.finished {gate : ConfirmationGate} {result : Result} {h : List Action}
    (hp : Proper (respond explain route result)) :
    Serving svc explain route
      ⟨gate, (Progress.finished result).frame, (Progress.finished result).result, h⟩ :=
  .inr ⟨rfl, result, rfl, hp⟩

/-- An execution behind a reply that is no exception. -/
theorem serving_settle {gate : ConfirmationGate} {token : String} {spec : CommandSpec}
    {x : Execution} {h : List Action} (hx : x.pc ≠ .raised) :
    Serving svc explain .confirm ⟨gate, (Frame.settle token spec x).frame,
      (Frame.settle token spec x).result, h⟩ := by
  obtain ⟨pc, last⟩ := x
  cases pc with
  | returned outcome => exact .finished trivial
  | raised => exact absurd rfl hx
  | _ => exact .running ⟨rfl, _, rfl⟩

/-- A reply that is no exception leaves a request waiting or answers it. -/
theorem Serving.reply {s t : Session} {r : Reply} (hs : Serving svc explain route s)
    (hr : r ≠ .raised) (hstep : s.step svc (.reply r) = some t) :
    Serving svc explain route t := by
  cases Session.steps_of_step hstep with
  | replied f r gate p hf h =>
    rcases hs with ⟨f', hf', hserves⟩ | ⟨hidle, -⟩
    · obtain rfl := Option.some.inj (hf.symm.trans hf')
      cases h with
      | parked => exact .running hserves
      | staged => exact .finished trivial
      | cancelled => exact .finished trivial
      | reported => exact .running hserves
      | cleared => exact .running hserves
      | refused => exact .running hserves
      | blocked token message =>
          obtain rfl : route = .confirm := hserves
          exact .finished (by simp [respond, caught, commandError, Proper, JsonResponse.error])
      | started token spec forceAck =>
          refine .running ⟨hserves, ?_⟩
          rcases svc.sender.loop_cases 1 with hl | hl
          · exact ⟨_, by rw [Execution.start, hl]; rfl⟩
          · exact ⟨_, by rw [Execution.start, hl]; rfl⟩
      | lost => exact absurd rfl hr
      | executed token spec x _ y h =>
          obtain ⟨rfl, -⟩ := hserves
          exact serving_settle fun hx ↦ hr (h.raised_iff.mp hx)
    · cases hf.symm.trans hidle

/-- A request is served until it has its answer. -/
theorem Serving.exec {s t : Session} {replies : List Reply} (hs : Serving svc explain route s)
    (hquiet : Reply.raised ∉ replies)
    (h : exec (Session.step svc) s (replies.map .reply) = some t) :
    Serving svc explain route t := by
  induction replies generalizing s with
  | nil =>
      cases h
      exact hs
  | cons r replies ih =>
      obtain ⟨u, hu, h⟩ := exec_cons_eq_some.mp h
      rw [List.mem_cons, not_or] at hquiet
      exact ih (hs.reply (Ne.symm hquiet.1) hu) hquiet.2 h

theorem serves_release (token : String) (spec : CommandSpec) (forceAck : Bool) :
    Serves svc .confirm (svc.release token spec forceAck) := by
  unfold CommandService.release
  split_ifs
  · rfl
  · rfl
  · rfl

/-- A service refuses with a client error, unless a builder cannot convert a number. -/
theorem proper_of_build {name : String} {params : Dict} {e : BuildError}
    (hok : ¬Overflowing svc name params)
    (h : buildCommand svc.text name svc.settings params = .error e) :
    Proper (respond explain .stage (.raised (.build e))) := by
  cases e with
  | builder e =>
      rcases buildCommand_eq_error h with rfl | rfl | hover
      · simp [respond, caught, Proper, JsonResponse.error]
      · simp [respond, caught, Proper, JsonResponse.error]
      · exact absurd hover hok
  | _ => simp [respond, caught, commandError, Proper, JsonResponse.error]

theorem proper_of_gate (e : GateError) : Proper (respond explain .confirm (.raised (.gate e))) := by
  cases e with
  | _ => simp [respond, caught, commandError, Proper, JsonResponse.error]

/-- A call on an acceptable body waits at its first call or is refused. -/
theorem serving_enter {payload : Dict} {gate : ConfirmationGate} {call : ServiceEvent}
    {t : Session} (hcalls : Calls payload route call)
    (hok : Acceptable svc route (some (.dict payload)))
    (hstep : Session.step svc { gate } call = some t) : Serving svc explain route t := by
  cases hcalls with
  | stage name params hname hparams =>
      cases Session.steps_of_step hstep with
      | refused _ _ e _ he =>
          exact .inr ⟨rfl, _, rfl, proper_of_build (hok name params hname hparams) he⟩
      | built _ _ spec => exact .inl ⟨_, rfl, rfl⟩
  | confirm token htoken =>
      cases Session.steps_of_step hstep with
      | unconfirmed _ _ e => exact .inr ⟨rfl, _, rfl, proper_of_gate e⟩
      | confirmed _ _ spec => exact .inl ⟨_, rfl, serves_release token spec _⟩
  | cancel token htoken =>
      cases Session.steps_of_step hstep with
      | cancelled => exact .inl ⟨_, rfl, rfl⟩

/-- An acceptable request is served until it has its answer. -/
theorem serving_of_exec {payload : Dict} {gate : ConfirmationGate} {call : ServiceEvent}
    {replies : List Reply} {s : Session} (hcalls : Calls payload route call)
    (hok : Acceptable svc route (some (.dict payload))) (hquiet : Reply.raised ∉ replies)
    (h : exec (Session.step svc) { gate } (call :: replies.map .reply) = some s) :
    Serving svc explain route s := by
  obtain ⟨u, hu, h⟩ := exec_cons_eq_some.mp h
  exact (serving_enter hcalls hok hu).exec hquiet h

end Serving

/-! ## Acceptable bodies -/

section Contract

variable {svc : CommandService} {explain : PyError → String} {gate : ConfirmationGate}
  {route : CommandRoute} {body : Option Value}

/-- A number that a builder cannot convert is an exception of the handler. -/
theorem escapes_of_overflowing {payload : Dict} {name : String} {params : Dict}
    (hcalls : Calls payload .stage (.stage name params)) (hover : Overflowing svc name params) :
    Ends svc explain gate .stage (some (.dict payload)) .escaped := by
  have hexec : exec (Session.step svc) { gate } [.stage name params] =
      some { gate, result := some (.raised (.build (.builder .overflowError))) } := by
    simp [Session.step, buildCommand_of_overflowing hover]
  exact .served _ [] _ _ (parse_of_calls hcalls) (by simp) hexec rfl rfl

theorem acceptable_of_handled (h : Handled svc explain gate route body) :
    Acceptable svc route body := by
  cases body with
  | none => trivial
  | some v =>
      rcases dict_or_raises route v with ⟨payload, rfl⟩ | ⟨e, he⟩
      · cases route with
        | stage =>
            intro name params hname hparams hover
            exact h.proper _ (escapes_of_overflowing (.stage name params hname hparams) hover)
        | confirm =>
            intro token htoken hforce
            have hcall : parse .confirm (some (.dict payload)) = .calls (.confirm token true) := by
              rw [parse_of_calls (.confirm token htoken), hforce]
            obtain ⟨_, heq, hliteral⟩ := h.force token hcall
            cases heq
            exact hliteral
        | cancel => trivial
      · exact absurd (h.proper _ (.raised e he)) id

theorem proper_of_ends {ending : Ending} (hok : Acceptable svc route body)
    (h : Ends svc explain gate route body ending) : Proper ending := by
  cases h with
  | answered r hr =>
      cases body with
      | none =>
          cases hr
          simp [Proper, JsonResponse.error]
      | some v =>
          rcases dict_or_raises route v with ⟨payload, rfl⟩ | ⟨e, he⟩
          · rcases parse_dict route payload with ⟨message, hm⟩ | ⟨call, hc, -⟩
            · cases hm.symm.trans hr
              simp [Proper, JsonResponse.error]
            · cases hc.symm.trans hr
          · cases he.symm.trans hr
  | raised e he =>
      cases body with
      | none => cases he
      | some v =>
          cases v with
          | dict payload =>
              rcases parse_dict route payload with ⟨message, hm⟩ | ⟨call, hc, -⟩
              · cases hm.symm.trans he
              · cases hc.symm.trans he
          | _ => exact absurd hok id
  | served call replies s result hcall hquiet hexec hidle hresult =>
      obtain ⟨payload, rfl, hcalls⟩ := calls_of_parse hcall
      rcases serving_of_exec hcalls hok hquiet hexec with ⟨f, hf, -⟩ | ⟨-, result', heq, hp⟩
      · cases hidle.symm.trans hf
      · cases hresult.symm.trans heq
        exact hp

theorem force_of_acceptable {token : String} (hok : Acceptable svc route body)
    (h : parse route body = .calls (.confirm token true)) :
    ∃ payload, body = some (.dict payload) ∧ payload.lookup "force_ack" = some (.bool true) := by
  obtain ⟨payload, rfl, hcalls⟩ := calls_of_parse h
  generalize hcall : ServiceEvent.confirm token true = call at hcalls
  cases hcalls with
  | stage => cases hcall
  | cancel => cases hcall
  | confirm _ htoken =>
      injection hcall with hname hforce
      exact ⟨payload, rfl, hok _ htoken hforce.symm⟩

/-- A request is handled exactly if its body is acceptable: an object, without a number
that a builder cannot convert, whose force acknowledgement is the literal one or none. -/
theorem handled_iff (svc : CommandService) (explain : PyError → String)
    (gate : ConfirmationGate) (route : CommandRoute) (body : Option Value) :
    Handled svc explain gate route body ↔ Acceptable svc route body := by
  constructor
  · exact acceptable_of_handled
  · intro hok
    refine ⟨fun ending ↦ proper_of_ends hok, ?_, fun token ↦ force_of_acceptable hok⟩
    intro call replies s hcall hquiet hexec
    obtain ⟨payload, rfl, hcalls⟩ := calls_of_parse hcall
    have hserving : Serving svc explain route s := serving_of_exec hcalls hok hquiet hexec
    exact hserving.waiting

/-- A list has no `get`, and no handler catches that. -/
theorem list_body_escapes :
    ¬∀ (svc : CommandService) (explain : PyError → String) (gate : ConfirmationGate)
      (route : CommandRoute) (body : Option Value), Handled svc explain gate route body := by
  intro h
  have hends : Ends { text := FloatText.plain } (fun _ ↦ "") {} .cancel (some (.list []))
      .escaped := .raised .attributeError rfl
  exact (h _ _ _ _ _).proper _ hends

end Contract

end CommandEndpoint

end DroneComms.Command
