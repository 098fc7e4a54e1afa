import DroneComms.Lib.Fallible
import DroneComms.Py.Interpreter
import DroneComms.Py.Json

/-!
# The inference client

What `NemotronClient.analyze` of `meshsa/inference/client.py` makes of the reply
that ends its retries, and which of its exceptions of `meshsa/inference/errors.py`
are worth a replay.

`json` is a parameter, since it may raise for a text or a body that is too large or
nested too deeply.
-/

namespace DroneComms.Inference

open Py (Value)
open Py.Json (Loaded)
open Fallible (bind_errors_iff)

/-- The exceptions of the service; any that is no `InferenceError` is `other`. -/
inductive Failure where
  | inferenceTransport
  | inferenceHttp (status : ℤ)
  | inference
  | other
deriving DecidableEq, Repr

/-- `_is_transient_status`. -/
def isTransientStatus (status : ℤ) : Bool := status = 429 || 500 ≤ status

namespace Failure

/-- `isinstance(exc, InferenceError)`. -/
def isInferenceError : Failure → Bool
  | other => false
  | _ => true

/-- `_is_offline_retryable`. -/
def isOfflineRetryable : Failure → Bool
  | inferenceTransport => true
  | inferenceHttp status => isTransientStatus status
  | _ => false

end Failure

/-- What a client is configured with, and its `json`. -/
structure ClientConfig where
  /-- `json.loads`. -/
  loads : List Char → Loaded
  /-- `json.dumps`, unless it raises. -/
  dumps : Value → Option String
  /-- `_want_json`. -/
  wantJson : Bool := false
  guidedJsonSummaryField : String := "summary"

/-- The last answer of `post_json`. -/
inductive Reply where
  | transportError
  /-- An exception that is no `InferenceError`. -/
  | unexpected
  | response (status : ℤ) (payload : Value)

/-- `InferenceResult`. -/
structure InferenceResult where
  summary : String
  rawResponse : String
deriving DecidableEq, Repr

/-! ## The completion text -/

/-- `v[key]`. -/
def member (key : String) : Value → Option Value
  | .dict kvs => kvs.lookup key
  | _ => none

/-- `v[0]`; of a text it is the first character. -/
def first : Value → Option Value
  | .list (x :: _) => some x
  | .str s => s.toList.head?.map fun c ↦ .str (String.ofList [c])
  | _ => none

/-- `data["choices"][0]["message"]["content"]`. -/
def completion (data : Value) : Option Value :=
  (((member "choices" data).bind first).bind (member "message")).bind (member "content")

/-- `len(v)` does not raise. -/
def hasLen : Value → Bool
  | .str _ | .list _ | .dict _ => true
  | _ => false

/-- The validation of an `InferenceResult`; only a text is a `str`. -/
def InferenceResult.validate (summary : Value) (rawResponse : String) :
    Except Failure InferenceResult :=
  match summary with
  | .str summary => .ok { summary, rawResponse }
  | _ => .error .other

namespace ClientConfig

variable (cfg : ClientConfig)

/-- The summary of a structured reply, or the text as it is.  The `TypeError` for a content
that is no text is caught. -/
def unwrap (content : Value) : Except Failure Value :=
  match content with
  | .str s =>
      match cfg.loads s.toList with
      | .raises => .error .other
      | loaded =>
          match loaded.document?.bind (member cfg.guidedJsonSummaryField) with
          | some (.str summary) => .ok (.str summary)
          | _ => .ok content
  | _ => .ok content

/-- The end of `_parse`, which takes the length of the summary for its log line. -/
def result (data summary : Value) : Except Failure InferenceResult :=
  if hasLen summary then
    match cfg.dumps data with
    | some rawResponse => InferenceResult.validate summary rawResponse
    | none => .error .other
  else .error .other

/-- The summary of a completion text. -/
def summaryOf (content : Value) : Except Failure Value :=
  if cfg.wantJson then cfg.unwrap content else .ok content

/-- `_parse`. -/
def parse (data : Value) : Except Failure InferenceResult :=
  match completion data with
  | none => .error .inference
  | some content => do
      let summary ← cfg.summaryOf content
      cfg.result data summary

/-- The result of `analyze`. -/
def outcome : Reply → Except Failure InferenceResult
  | .transportError => .error .inferenceTransport
  | .unexpected => .error .other
  | .response status payload =>
      if isTransientStatus status || 400 ≤ status then .error (.inferenceHttp status)
      else cfg.parse payload

/-! ## What is handled -/

/-- A body whose completion, if it has one, is a text, and for which `json` does not raise. -/
structure Parsable (data : Value) : Prop where
  text : ∀ content, completion data = some content → ∃ s, content = .str s
  loads : cfg.wantJson = true → ∀ s, completion data = some (.str s) →
    cfg.loads s.toList ≠ .raises
  dumps : completion data ≠ none → cfg.dumps data ≠ none

/-- The reply is an exception that is no `InferenceError`, or a body that is not parsable. -/
def Unhandled : Reply → Prop
  | .transportError => False
  | .unexpected => True
  | .response status payload => status < 400 ∧ ¬cfg.Parsable payload

variable {cfg} {content summary data : Value}

theorem unwrap_own_iff : (∀ e, cfg.unwrap content = .error e → e.isInferenceError = true) ↔
    ∀ s, content = .str s → cfg.loads s.toList ≠ .raises := by
  cases content with
  | str s =>
      rw [unwrap]
      cases hloads : cfg.loads s.toList with
      | raises => simp [hloads, Failure.isInferenceError]
      | value _ | decodeError =>
          refine iff_of_true (fun e he ↦ ?_) ?_
          · dsimp only at he
            split at he <;> cases he
          · rintro s' ⟨⟩ h
            rw [hloads] at h
            cases h
  | none | bool _ | int _ | float _ | list _ | dict _ => simp [unwrap]

/-- Unwrapping a text gives a text, and only that does. -/
theorem str_of_unwrap (h : cfg.unwrap content = .ok summary) :
    (∃ s, summary = .str s) ↔ ∃ s, content = .str s := by
  cases content with
  | str s =>
      refine iff_of_true ?_ ⟨s, rfl⟩
      rw [unwrap] at h
      split at h
      · cases h
      · split at h
        · cases h
          exact ⟨_, rfl⟩
        · cases h
          exact ⟨s, rfl⟩
  | none | bool _ | int _ | float _ | list _ | dict _ =>
      cases h
      rfl

theorem summaryOf_own_iff : (∀ e, cfg.summaryOf content = .error e → e.isInferenceError = true) ↔
    (cfg.wantJson = true → ∀ s, content = .str s → cfg.loads s.toList ≠ .raises) := by
  rw [summaryOf]
  cases cfg.wantJson with
  | false => simp
  | true => simpa using unwrap_own_iff

theorem str_of_summaryOf (h : cfg.summaryOf content = .ok summary) :
    (∃ s, summary = .str s) ↔ ∃ s, content = .str s := by
  rw [summaryOf] at h
  split at h
  · exact str_of_unwrap h
  · cases h
    rfl

theorem exists_unwrap (h : ∀ s, content = .str s → cfg.loads s.toList ≠ .raises) :
    ∃ summary, cfg.unwrap content = .ok summary := by
  cases content with
  | str s =>
      rw [unwrap]
      cases hloads : cfg.loads s.toList with
      | raises => exact absurd hloads (h s rfl)
      | value _ | decodeError =>
          dsimp only
          split <;> exact ⟨_, rfl⟩
  | none | bool _ | int _ | float _ | list _ | dict _ => exact ⟨_, rfl⟩

/-- The summary of a content exists if the parser takes it. -/
theorem exists_summaryOf
    (h : cfg.wantJson = true → ∀ s, content = .str s → cfg.loads s.toList ≠ .raises) :
    ∃ summary, cfg.summaryOf content = .ok summary := by
  rw [summaryOf]
  split_ifs with hwant
  · exact exists_unwrap (h hwant)
  · exact ⟨content, rfl⟩

/-- The summary of a text. -/
theorem summaryOf_eq_ok {s t : String} (h : cfg.summaryOf (.str s) = .ok (.str t)) :
    t = s ∨ cfg.wantJson = true ∧
      (cfg.loads s.toList).document?.bind (member cfg.guidedJsonSummaryField) = some (.str t) := by
  rw [summaryOf] at h
  split_ifs at h with hwant
  · rw [unwrap] at h
    split at h
    · cases h
    · split at h
      next hmember =>
        cases h
        exact .inr ⟨hwant, hmember⟩
      · cases h
        exact .inl rfl
  · cases h
    exact .inl rfl

theorem result_eq_ok {result : InferenceResult} (h : cfg.result data summary = .ok result) :
    summary = .str result.summary ∧ cfg.dumps data = some result.rawResponse := by
  unfold ClientConfig.result at h
  split at h
  · split at h
    next raw hdumps =>
      cases summary with
      | str s =>
          cases h
          exact ⟨rfl, hdumps⟩
      | none | bool _ | int _ | float _ | list _ | dict _ => cases h
    · cases h
  · cases h

/-- The result is validated exactly if the summary is a text and the body is written. -/
theorem result_own_iff : (∀ e, cfg.result data summary = .error e → e.isInferenceError = true) ↔
    (∃ s, summary = .str s) ∧ cfg.dumps data ≠ none := by
  rw [result]
  cases cfg.dumps data with
  | none => split <;> simp [Failure.isInferenceError]
  | some raw =>
      cases summary <;> simp [hasLen, InferenceResult.validate, Failure.isInferenceError]

/-- What `_parse` raises is an `InferenceError` exactly if the body is parsable. -/
theorem parse_own_iff : (∀ e, cfg.parse data = .error e → e.isInferenceError = true) ↔
    cfg.Parsable data := by
  rw [parse]
  cases hcontent : completion data with
  | none =>
      refine iff_of_true ?_ ⟨?_, ?_, ?_⟩
      · rintro e ⟨⟩
        rfl
      · rw [hcontent]
        rintro content ⟨⟩
      · rw [hcontent]
        rintro - s ⟨⟩
      · exact fun h ↦ absurd hcontent h
  | some content =>
      dsimp only
      rw [bind_errors_iff, summaryOf_own_iff]
      constructor
      · rintro ⟨hloads, hresult⟩
        obtain ⟨summary, hsummary⟩ := exists_summaryOf hloads
        obtain ⟨htext, hdumps⟩ := result_own_iff.mp (hresult summary hsummary)
        refine ⟨fun c hc ↦ ?_, fun hwant s hs ↦ ?_, fun _ ↦ hdumps⟩
        · rw [hcontent] at hc
          cases hc
          exact (str_of_summaryOf hsummary).mp htext
        · rw [hcontent] at hs
          cases hs
          exact hloads hwant s rfl
      · intro h
        refine ⟨fun hwant s hs ↦ h.loads hwant s (hs ▸ hcontent), fun summary hsummary ↦ ?_⟩
        refine result_own_iff.mpr ⟨(str_of_summaryOf hsummary).mpr (h.text content hcontent), ?_⟩
        exact h.dumps (by simp [hcontent])

/-- A body that is not parsable raises an exception that is no `InferenceError`. -/
theorem parse_eq_other_iff : cfg.parse data = .error .other ↔ ¬cfg.Parsable data := by
  rw [← parse_own_iff]
  cases hparse : cfg.parse data with
  | ok result => simp
  | error e => cases e <;> simp [Failure.isInferenceError]

/-- Which replies end an analysis with an exception that is no `InferenceError`. -/
theorem outcome_eq_other_iff {reply : Reply} :
    cfg.outcome reply = .error .other ↔ cfg.Unhandled reply := by
  cases reply with
  | transportError => simp [outcome, Unhandled]
  | unexpected => simp [outcome, Unhandled]
  | response status payload =>
      rw [outcome, Unhandled]
      by_cases hstatus : status < 400
      · have htransient : (isTransientStatus status || decide (400 ≤ status)) = false := by
          simp [isTransientStatus]
          omega
        simp [htransient, hstatus, parse_eq_other_iff]
      · have hfloor : (isTransientStatus status || decide (400 ≤ status)) = true := by
          simp [not_lt.mp hstatus]
        simp [hfloor, hstatus]

/-- A structured request does not lose the answer. -/
theorem parse_summary {result : InferenceResult} (h : cfg.parse data = .ok result) :
    ∃ s, completion data = some (.str s) ∧ cfg.dumps data = some result.rawResponse ∧
      (result.summary = s ∨ cfg.wantJson = true ∧
        (cfg.loads s.toList).document?.bind (member cfg.guidedJsonSummaryField) =
          some (.str result.summary)) := by
  have hparsable : cfg.Parsable data := parse_own_iff.mp fun e he ↦ by
    rw [h] at he
    cases he
  rw [parse] at h
  cases hcontent : completion data with
  | none =>
      rw [hcontent] at h
      cases h
  | some content =>
      obtain ⟨s, rfl⟩ := hparsable.text content hcontent
      rw [hcontent] at h
      obtain ⟨summary, hsummary, hresult⟩ := Py.bind_eq_ok.mp h
      obtain ⟨rfl, hdumps⟩ := result_eq_ok hresult
      exact ⟨s, rfl, hdumps, summaryOf_eq_ok hsummary⟩

/-- **Completions.**  `_parse` returns a result or raises an `InferenceError` exactly if the
completion text, if there is one, is a text that `json` does not raise for. -/
theorem parse_handled_iff (cfg : ClientConfig) (data : Value) :
    ((∃ result, cfg.parse data = .ok result) ∨
      ∃ e, cfg.parse data = .error e ∧ e.isInferenceError = true) ↔ cfg.Parsable data := by
  rw [← parse_own_iff]
  cases cfg.parse data with
  | ok result => simp
  | error e => simp

/-- `json` without limits, for closed runs. -/
def plain : ClientConfig where
  loads := Py.Json.unlimited .plain
  dumps data := some (String.ofList (Py.Json.dumps .plain [' '] data))

end ClientConfig

/-- A body with this completion text. -/
def chatCompletion (content : Value) : Value :=
  .dict [("choices", .list [.dict [("message", .dict [("content", content)])]])]

/-- `len(None)` raises a `TypeError`. -/
theorem null_content_escapes :
    ¬((∃ result, ClientConfig.plain.parse (chatCompletion .none) = .ok result) ∨
      ∃ e, ClientConfig.plain.parse (chatCompletion .none) = .error e ∧
        e.isInferenceError = true) := by
  have hescapes : ClientConfig.plain.parse (chatCompletion .none) = .error .other := by
    decide
  rw [hescapes]
  rintro (⟨result, h⟩ | ⟨e, h, hown⟩)
  · cases h
  · cases h
    cases hown

end DroneComms.Inference
