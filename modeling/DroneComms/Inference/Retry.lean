import DroneComms.Inference.Replay
import Mathlib.Data.ENat.Lattice
import Mathlib.Data.List.DropRight
import Mathlib.Data.Stream.Init

/-!
# The retries of the inference client

`NemotronClient.analyze` and `_backoff_delay` of `meshsa/inference/client.py`, with
a transport that answers the posts with an infinite sequence of replies, one after
the other.  A run is everything that `analyze` awaits, in order, and what it returns
or raises.

The loop has two transient paths and one attempt counter.  Its run is told apart
from any other by the number of replies that ask for another attempt (`retried`).
-/

namespace DroneComms.Inference

open Mesh (Envelope)
open Py (PyFloat Value)

/-- Whether an attempt that has this reply is worth another one. -/
def Reply.Transient : Reply → Prop
  | .transportError => True
  | .unexpected => False
  | .response status _ => isTransientStatus status = true

instance : DecidablePred Reply.Transient := fun reply ↦
  match reply with
  | .transportError => isTrue trivial
  | .unexpected => isFalse id
  | .response status _ => inferInstanceAs (Decidable (isTransientStatus status = true))

/-- `NemotronConfig.response_format`. -/
inductive ResponseFormat where
  | text
  | json
deriving DecidableEq, Repr

/-- The fields of a `NemotronConfig` that `analyze` reads, and its `json`. -/
structure NemotronConfig (F : Type) [Field F] [LinearOrder F] where
  loads : List Char → Py.Json.Loaded
  dumps : Value → Option String
  enabled : Bool := false
  apiKey : String := ""
  baseUrl : String := "https://integrate.api.nvidia.com/v1"
  model : String := "nvidia/nemotron-3-ultra-550b-a55b"
  systemPrompt : String := "You are a tactical AI assistant. " ++
    "Summarize the user's message clearly. Keep it under 100 words."
  /-- The double at 0.6. -/
  temperature : PyFloat := .fin (5404319552844595 / 2 ^ 53)
  maxTokens : ℤ := 512
  timeoutS : PyFloat := .fin 30
  maxRetries : ℤ := 3
  backoffBase : F := 2
  backoffMaxS : F := 30
  responseFormat : ResponseFormat := .text
  /-- `guided_json_schema`, parsed. -/
  guidedJson : Option (List (String × Value)) := none
  guidedJsonSummaryField : String := "summary"
  one_le_backoffBase : 1 ≤ backoffBase
  backoffMaxS_nonneg : 0 ≤ backoffMaxS

/-- The arguments of `post_json`. -/
structure PostRequest where
  url : String
  headers : List (String × String)
  jsonBody : Value
  timeoutS : PyFloat

/-- Something that `analyze` awaits. -/
inductive Await (F : Type) where
  | post (request : PostRequest)
  | sleep (delay : F)

/-- A run of `analyze`. -/
structure Analysis (F : Type) where
  awaits : List (Await F)
  result : Except Failure InferenceResult

/-- What an iteration makes of the reply to its post. -/
inductive Turn (F : Type) where
  | retry (delay : F)
  | finish (result : Except Failure InferenceResult)

namespace Await

variable {F : Type}

def request? : Await F → Option PostRequest
  | post request => some request
  | sleep _ => none

def delay? : Await F → Option F
  | post _ => none
  | sleep delay => some delay

end Await

namespace Analysis

variable {F : Type}

/-- The posts of a run. -/
def posts (run : Analysis F) : List PostRequest := run.awaits.filterMap Await.request?

/-- The sleeps of a run. -/
def sleeps (run : Analysis F) : List F := run.awaits.filterMap Await.delay?

/-- The run behind these awaits. -/
def behind (run : Analysis F) (awaits : List (Await F)) : Analysis F :=
  { run with awaits := awaits ++ run.awaits }

end Analysis

variable {F : Type} [Field F] [LinearOrder F]

namespace NemotronConfig

variable (cfg : NemotronConfig F)

/-- `_want_json`, and what `_parse` is given. -/
def client : ClientConfig where
  loads := cfg.loads
  dumps := cfg.dumps
  wantJson := cfg.guidedJson.isSome || cfg.responseFormat = .json
  guidedJsonSummaryField := cfg.guidedJsonSummaryField

/-- `_backoff_delay`. -/
def backoffDelay (attempt : ℕ) : F := min (cfg.backoffBase ^ attempt) cfg.backoffMaxS

/-- The directive for a structured reply; the schema wins. -/
def directive : List (String × Value) :=
  match cfg.guidedJson with
  | some schema => [("nvext", .dict [("guided_json", .dict schema)])]
  | none =>
      match cfg.responseFormat with
      | .json => [("response_format", .dict [("type", .str "json_object")])]
      | .text => []

/-- The request for an envelope, unless `json.dumps` raises for its payload. -/
def request (envelope : Envelope) : Option PostRequest :=
  (cfg.dumps (.dict envelope.payload)).map fun payload ↦
    { url := String.ofList (cfg.baseUrl.toList.rdropWhile (· = '/')) ++ "/chat/completions"
      headers := [("Authorization", "Bearer " ++ cfg.apiKey), ("Content-Type", "application/json")]
      jsonBody := .dict ([
        ("model", .str cfg.model),
        ("messages", .list [
          .dict [("role", .str "system"), ("content", .str cfg.systemPrompt)],
          .dict [("role", .str "user"), ("content", .str ("Analyze this " ++ envelope.kind.value ++
            " message from " ++ envelope.sourceUid ++ ": " ++ payload))]]),
        ("temperature", .float cfg.temperature),
        ("max_tokens", .int cfg.maxTokens)] ++ cfg.directive)
      timeoutS := cfg.timeoutS }

/-- The body of the loop behind `post_json`. -/
def turn (attempt : ℕ) : Reply → Turn F
  | .transportError =>
      if attempt = cfg.maxRetries then .finish (.error .inferenceTransport)
      else .retry (cfg.backoffDelay attempt)
  | .unexpected => .finish (.error .other)
  | .response status payload =>
      if isTransientStatus status then
        if attempt < cfg.maxRetries then .retry (cfg.backoffDelay attempt)
        else .finish (.error (.inferenceHttp status))
      else if 400 ≤ status then .finish (.error (.inferenceHttp status))
      else .finish (cfg.client.parse payload)

/-- The loop, over the attempts that are left. -/
def loop (request : PostRequest) : List ℕ → Stream' Reply → Analysis F
  | [], _ => { awaits := [], result := .error .inference }
  | attempt :: rest, replies =>
      match cfg.turn attempt replies.head with
      | .finish result => { awaits := [.post request], result }
      | .retry delay => (loop request rest replies.tail).behind [.post request, .sleep delay]

/-- `analyze`. -/
def analyze (envelope : Envelope) (replies : Stream' Reply) : Analysis F :=
  if !cfg.enabled || cfg.apiKey.isEmpty then
    { awaits := [], result := .ok { summary := "", rawResponse := "" } }
  else
    match cfg.request envelope with
    | none => { awaits := [], result := .error .other }
    | some request => cfg.loop request (List.range (cfg.maxRetries + 1).toNat) replies

end NemotronConfig

/-! ## How often -/

/-- How many of the replies ask for another attempt, if there are `n` of those. -/
def retried : ℕ → Stream' Reply → ℕ
  | 0, _ => 0
  | n + 1, replies => if replies.head.Transient then retried n replies.tail + 1 else 0

/-- The index of the first reply that is not transient. -/
noncomputable def firstSettled (replies : Stream' Reply) : ℕ∞ :=
  ⨅ i ∈ {i : ℕ | ¬(replies.get i).Transient}, (i : ℕ∞)

theorem retried_le (n : ℕ) (replies : Stream' Reply) : retried n replies ≤ n := by
  induction n generalizing replies with
  | zero => rfl
  | succ n ih =>
      rw [retried]
      split_ifs with h
      · exact Nat.succ_le_succ (ih replies.tail)
      · exact Nat.zero_le _

theorem transient_of_lt_retried {n i : ℕ} {replies : Stream' Reply} (h : i < retried n replies) :
    (replies.get i).Transient := by
  induction n generalizing replies i with
  | zero => exact absurd h (Nat.not_lt_zero i)
  | succ n ih =>
      rw [retried] at h
      split_ifs at h with hhead
      · cases i with
        | zero => exact hhead
        | succ i =>
            have htail : (replies.tail.get i).Transient := ih (Nat.lt_of_succ_lt_succ h)
            exact htail
      · exact absurd h (Nat.not_lt_zero i)

/-- The loop stops before its last attempt only for a reply that is not transient. -/
theorem settled_of_retried_lt {n : ℕ} {replies : Stream' Reply} (h : retried n replies < n) :
    ¬(replies.get (retried n replies)).Transient := by
  induction n generalizing replies with
  | zero => exact absurd h (Nat.not_lt_zero _)
  | succ n ih =>
      rw [retried] at h ⊢
      split_ifs at h ⊢ with hhead
      · exact ih (Nat.lt_of_succ_lt_succ h)
      · exact hhead

theorem le_firstSettled_iff {n : ℕ} {replies : Stream' Reply} :
    (n : ℕ∞) ≤ firstSettled replies ↔ ∀ i < n, (replies.get i).Transient := by
  rw [firstSettled, le_iInf₂_iff]
  constructor
  · intro h i hi
    by_contra hsettled
    exact absurd (Nat.cast_le.mp (h i hsettled)) (not_le.mpr hi)
  · intro h i hsettled
    by_contra hi
    exact hsettled (h i (Nat.cast_lt.mp (not_le.mp hi)))

theorem retried_eq_min (n : ℕ) (replies : Stream' Reply) :
    (retried n replies : ℕ∞) = min (firstSettled replies) n := by
  apply le_antisymm
  · apply le_min
    · exact le_firstSettled_iff.mpr fun i hi ↦ transient_of_lt_retried hi
    · exact Nat.cast_le.mpr (retried_le n replies)
  · rcases (retried_le n replies).lt_or_eq with h | h
    · apply (min_le_left _ _).trans
      exact iInf₂_le (retried n replies) (settled_of_retried_lt h)
    · rw [h]
      exact min_le_right _ _

/-! ## The loop -/

namespace NemotronConfig

variable {cfg : NemotronConfig F} {replies : Stream' Reply} {reply : Reply} {attempt : ℕ}

/-- An attempt that is not the last one is followed by another exactly for a transient reply. -/
theorem turn_of_transient (h : reply.Transient) (hattempt : (attempt : ℤ) < cfg.maxRetries) :
    cfg.turn attempt reply = .retry (cfg.backoffDelay attempt) := by
  cases reply with
  | transportError => rw [turn, if_neg hattempt.ne]
  | unexpected => exact absurd h id
  | response status payload =>
      have htransient : isTransientStatus status = true := h
      rw [turn, if_pos htransient, if_pos hattempt]

/-- Any other attempt ends the analysis. -/
theorem turn_of_settled (h : reply.Transient → (attempt : ℤ) = cfg.maxRetries) :
    cfg.turn attempt reply = .finish (cfg.client.outcome reply) := by
  cases reply with
  | transportError =>
      rw [turn, if_pos (h trivial)]
      rfl
  | unexpected => rfl
  | response status payload =>
      rw [turn, ClientConfig.outcome]
      by_cases htransient : isTransientStatus status = true
      · have hlast : ¬(attempt : ℤ) < cfg.maxRetries := (h htransient).not_lt
        rw [if_pos htransient, if_neg hlast, htransient, Bool.true_or, if_pos rfl]
      · rw [if_neg htransient, Bool.eq_false_iff.mpr htransient, Bool.false_or]
        by_cases herror : 400 ≤ status
        · rw [if_pos herror, if_pos (decide_eq_true herror)]
        · rw [if_neg herror, if_neg (by simpa using herror)]

/-- What is awaited behind the first post. -/
def again (cfg : NemotronConfig F) (request : PostRequest) (attempt : ℕ) : List (Await F) :=
  [.sleep (cfg.backoffDelay attempt), .post request]

/-- The loop from an attempt on. -/
theorem loop_eq (request : PostRequest) {n : ℕ} (h : (attempt + n : ℤ) = cfg.maxRetries) :
    cfg.loop request (List.range' attempt (n + 1)) replies =
      { awaits := .post request ::
          (List.range' attempt (retried n replies)).flatMap (cfg.again request)
        result := cfg.client.outcome (replies.get (retried n replies)) } := by
  induction n generalizing attempt replies with
  | zero =>
      have hturn : cfg.turn attempt replies.head = .finish (cfg.client.outcome replies.head) :=
        turn_of_settled fun _ ↦ by simpa using h
      rw [List.range'_succ, loop, hturn]
      rfl
  | succ n ih =>
      rw [List.range'_succ, loop, retried]
      split_ifs with htransient
      · have hturn : cfg.turn attempt replies.head = .retry (cfg.backoffDelay attempt) :=
          turn_of_transient htransient (by omega)
        rw [hturn]
        dsimp only
        rw [ih (by push_cast at h ⊢; omega), List.range'_succ, List.flatMap_cons]
        rfl
      · rw [turn_of_settled fun hreply ↦ absurd hreply htransient]
        rfl

/-- `analyze` of an enabled client with a key. -/
theorem analyze_eq (henabled : cfg.enabled = true) (hkey : cfg.apiKey ≠ "")
    (hretries : 0 ≤ cfg.maxRetries) {envelope : Envelope} {request : PostRequest}
    (hrequest : cfg.request envelope = some request) :
    cfg.analyze envelope replies =
      { awaits := .post request ::
          (List.range (retried cfg.maxRetries.toNat replies)).flatMap (cfg.again request)
        result := cfg.client.outcome (replies.get (retried cfg.maxRetries.toNat replies)) } := by
  have hempty : cfg.apiKey.isEmpty = false := by simpa using hkey
  have hsucc : (cfg.maxRetries + 1).toNat = cfg.maxRetries.toNat + 1 := by omega
  rw [analyze, henabled, hempty, hrequest, hsucc, List.range_eq_range', List.range_eq_range']
  exact loop_eq request (by omega)

theorem length_requests_again (request : PostRequest) (n : ℕ) :
    (((List.range n).flatMap (cfg.again request)).filterMap Await.request?).length = n := by
  have hagain (k : ℕ) : (cfg.again request k).filterMap Await.request? = [request] := rfl
  simp [List.filterMap_flatMap, hagain]

theorem delays_again (request : PostRequest) (n : ℕ) :
    ((List.range n).flatMap (cfg.again request)).filterMap Await.delay? =
      (List.range n).map cfg.backoffDelay := by
  have hagain (k : ℕ) : (cfg.again request k).filterMap Await.delay? = [cfg.backoffDelay k] := rfl
  simp only [List.filterMap_flatMap, hagain, List.map_eq_flatMap]

/-- The waits never decrease. -/
theorem backoffDelay_mono [IsStrictOrderedRing F] (cfg : NemotronConfig F) :
    Monotone cfg.backoffDelay := by
  intro i j h
  exact min_le_min_right _ (pow_le_pow_right₀ cfg.one_le_backoffBase h)

end NemotronConfig

/-! ## The queue -/

namespace ClientConfig

variable {cfg : ClientConfig} {content summary data : Value} {failure : Failure} {reply : Reply}

theorem unwrap_eq_error (h : cfg.unwrap content = .error failure) : failure = .other := by
  cases content with
  | str s =>
      rw [unwrap] at h
      split at h
      · cases h
        rfl
      · split at h <;> cases h
  | none | bool _ | int _ | float _ | list _ | dict _ => cases h

theorem result_eq_error (h : cfg.result data summary = .error failure) : failure = .other := by
  rw [result] at h
  split at h
  · split at h
    · cases summary with
      | str s => cases h
      | none | bool _ | int _ | float _ | list _ | dict _ =>
          cases h
          rfl
    · cases h
      rfl
  · cases h
    rfl

/-- A body that cannot be parsed is not worth a replay. -/
theorem parse_eq_error (h : cfg.parse data = .error failure) :
    failure.isOfflineRetryable = false := by
  rw [parse] at h
  split at h
  · cases h
    rfl
  next content _ =>
    cases hsummary : cfg.summaryOf content with
    | ok summary =>
        rw [hsummary] at h
        rw [result_eq_error h]
        rfl
    | error e =>
        rw [hsummary] at h
        cases h
        rw [summaryOf] at hsummary
        split_ifs at hsummary
        · rw [unwrap_eq_error hsummary]
          rfl

variable (cfg) in
/-- The exception of a reply is worth a replay exactly if the reply is transient. -/
theorem retryable_iff : (∃ failure, cfg.outcome reply = .error failure ∧
    failure.isOfflineRetryable = true) ↔ reply.Transient := by
  cases reply with
  | transportError => exact iff_of_true ⟨.inferenceTransport, rfl, rfl⟩ trivial
  | unexpected =>
      refine iff_of_false ?_ id
      rintro ⟨failure, ⟨⟩, h⟩
      cases h
  | response status payload =>
      by_cases herror : (isTransientStatus status || decide (400 ≤ status)) = true
      · rw [outcome, if_pos herror]
        constructor
        · rintro ⟨failure, ⟨⟩, h⟩
          exact h
        · exact fun h ↦ ⟨.inferenceHttp status, rfl, h⟩
      · rw [outcome, if_neg herror]
        refine iff_of_false ?_ fun h ↦ herror ?_
        · rintro ⟨failure, hparse, h⟩
          rw [parse_eq_error hparse] at h
          cases h
        · have htransient : isTransientStatus status = true := h
          rw [htransient, Bool.true_or]

end ClientConfig

namespace OfflineQueue

/-- A queue with another envelope is another queue. -/
theorem enqueue_ne (maxlen : ℕ) (envelope : Envelope) (q : OfflineQueue) :
    q.enqueue maxlen envelope ≠ q := by
  intro h
  have hlength : (q.enqueue maxlen envelope).enqueued.length = q.enqueued.length := by rw [h]
  simp [enqueue, put] at hlength

end OfflineQueue

namespace Service

variable {cfg : ServiceConfig} {s : Service} {t : ℕ} {envelope : Envelope} {reply : Reply}
  {failure : Failure}

theorem fail_offline (hmax : 0 < cfg.offlineQueueMax) : (s.fail cfg t envelope failure).offline =
    if failure.isOfflineRetryable then s.offline.enqueue cfg.offlineQueueMax envelope
    else s.offline := by
  have hown : failure.isOfflineRetryable = true → failure.isInferenceError = true := by
    cases failure <;> simp [Failure.isOfflineRetryable, Failure.isInferenceError]
  rw [fail]
  by_cases h : failure.isOfflineRetryable = true
  · rw [h, hown h, decide_eq_true hmax]
    rfl
  · rw [Bool.eq_false_iff.mpr h]
    simp [setPhase]

/-- What a live analysis does to the queue. -/
theorem analyzedLive_offline (hmax : 0 < cfg.offlineQueueMax) :
    (s.analyzedLive cfg t envelope reply).offline =
      if reply.Transient then s.offline.enqueue cfg.offlineQueueMax envelope else s.offline := by
  have hiff : _ ↔ reply.Transient := cfg.client.retryable_iff
  rw [analyzedLive]
  cases houtcome : cfg.client.outcome reply with
  | ok result =>
      rw [houtcome] at hiff
      have hsettled : ¬reply.Transient := by simpa using hiff
      rw [if_neg hsettled]
      rfl
  | error failure =>
      rw [houtcome] at hiff
      simp only [fail_offline hmax, ← hiff, Except.error.injEq, exists_eq_left']

end Service

/-! ## The retries -/

/-- A run that makes the attempts it should, waits between them, and ends as its last reply
says. -/
structure RetriesExactly (cfg : NemotronConfig F) (envelope : Envelope) (replies : Stream' Reply)
    (run : Analysis F) : Prop where
  posts : (run.posts.length : ℕ∞) = min (firstSettled replies) cfg.maxRetries.toNat + 1
  /-- One sleep stands between two posts, and none behind the last. -/
  awaits : ∃ request, cfg.request envelope = some request ∧
    run.awaits = .post request :: (List.range (run.posts.length - 1)).flatMap fun k ↦
      [.sleep (min (cfg.backoffBase ^ k) cfg.backoffMaxS), .post request]
  sleeps : run.sleeps = (List.range (run.posts.length - 1)).map fun k ↦
    min (cfg.backoffBase ^ k) cfg.backoffMaxS
  nondecreasing : run.sleeps.Pairwise (· ≤ ·)
  transport : replies.get (run.posts.length - 1) = .transportError →
    run.result = .error .inferenceTransport
  http : ∀ status payload, replies.get (run.posts.length - 1) = .response status payload →
    400 ≤ status → run.result = .error (.inferenceHttp status)
  parsed : ∀ status payload, replies.get (run.posts.length - 1) = .response status payload →
    status < 400 → run.result = cfg.client.parse payload
  /-- The service is given this result, and it queues the message or leaves the queue alone. -/
  analyzed : run.result = cfg.client.outcome (replies.get (run.posts.length - 1))
  queued : ∀ svc : ServiceConfig, svc.client = cfg.client → 0 < svc.offlineQueueMax →
    ∀ (s : Service) (t : ℕ),
      ((s.analyzedLive svc t envelope (replies.get (run.posts.length - 1))).offline =
          s.offline.enqueue svc.offlineQueueMax envelope ↔
        (replies.get (run.posts.length - 1)).Transient) ∧
      (¬(replies.get (run.posts.length - 1)).Transient →
        (s.analyzedLive svc t envelope (replies.get (run.posts.length - 1))).offline = s.offline)
  /-- Nor is it queued later, by a publication that raises. -/
  published : ∀ svc : ServiceConfig, ∀ failure : Option Failure,
    (∀ f ∈ failure, f.isInferenceError = false) → ∀ (s : Service) (t : ℕ),
      (s.publishedLive svc t envelope failure).offline = s.offline

/-- **Retries.**  An enabled client with a key posts up to the first reply that is not transient
or to the end of its budget, waits longer and longer in between, and ends as its last reply
says; the service queues the message exactly if that reply was transient. -/
theorem analyze_retries_exactly [IsStrictOrderedRing F] (cfg : NemotronConfig F)
    (henabled : cfg.enabled = true) (hkey : cfg.apiKey ≠ "") (hretries : 0 ≤ cfg.maxRetries)
    (envelope : Envelope) (hprompt : cfg.dumps (.dict envelope.payload) ≠ none)
    (replies : Stream' Reply) :
    RetriesExactly cfg envelope replies (cfg.analyze envelope replies) := by
  obtain ⟨payload, hpayload⟩ := Option.ne_none_iff_exists'.mp hprompt
  obtain ⟨request, hrequest⟩ : ∃ request, cfg.request envelope = some request := by
    rw [NemotronConfig.request, hpayload]
    exact ⟨_, rfl⟩
  rw [NemotronConfig.analyze_eq henabled hkey hretries hrequest]
  set n := retried cfg.maxRetries.toNat replies with hn
  set run : Analysis F := ⟨.post request :: (List.range n).flatMap (cfg.again request),
    cfg.client.outcome (replies.get n)⟩ with hrun
  have hposts : run.posts.length = n + 1 := by
    have hcons : run.posts =
        request :: ((List.range n).flatMap (cfg.again request)).filterMap Await.request? := rfl
    rw [hcons, List.length_cons, NemotronConfig.length_requests_again]
  have hsleeps : run.sleeps = (List.range n).map cfg.backoffDelay :=
    NemotronConfig.delays_again request n
  have hlast : run.posts.length - 1 = n := by rw [hposts, Nat.add_sub_cancel]
  constructor
  case posts => rw [hposts, Nat.cast_succ, hn, retried_eq_min]
  case awaits =>
    rw [hlast]
    exact ⟨request, hrequest, rfl⟩
  case sleeps =>
    rw [hlast]
    exact hsleeps
  case nondecreasing =>
    rw [hsleeps, List.pairwise_map]
    exact List.pairwise_lt_range.imp fun h ↦ cfg.backoffDelay_mono h.le
  case transport =>
    rw [hlast]
    intro hreply
    rw [hrun, hreply]
    rfl
  case http =>
    rw [hlast]
    intro status payload hreply herror
    rw [hrun, hreply, ClientConfig.outcome, if_pos (by simp [herror])]
  case parsed =>
    rw [hlast]
    intro status payload hreply hstatus
    have hfloor : (isTransientStatus status || decide (400 ≤ status)) = false := by
      simp [isTransientStatus]
      omega
    simp [hrun, hreply, ClientConfig.outcome, hfloor]
  case analyzed => rw [hlast]
  case queued =>
    intro svc _ hmax s t
    rw [Service.analyzedLive_offline hmax]
    refine ⟨?_, fun hsettled ↦ if_neg hsettled⟩
    split_ifs with htransient
    · exact iff_of_true rfl htransient
    · exact iff_of_false (OfflineQueue.enqueue_ne _ _ _).symm htransient
  case published =>
    intro svc failure hfailure s t
    cases failure with
    | none => rfl
    | some f =>
        rw [Service.publishedLive, Service.fail, hfailure f rfl]
        rfl

/-- A client of a server that resets the connection, is overloaded, and then answers. -/
def recovering : Stream' Reply :=
  Stream'.cons .transportError (Stream'.cons (.response 503 .none)
    (Stream'.const (.response 200 (chatCompletion (.str "clear")))))

/-- The defaults, and a key. -/
def patient : NemotronConfig ℚ where
  loads := ClientConfig.plain.loads
  dumps := ClientConfig.plain.dumps
  enabled := true
  apiKey := "key"
  backoffBase := 2
  backoffMaxS := 30
  one_le_backoffBase := by norm_num
  backoffMaxS_nonneg := by norm_num

/-- The third post is answered. -/
theorem recovers_in_two_retries :
    RetriesExactly patient { msgId := "m", ts := .fin 0, sourceUid := "u", kind := .chat } recovering
        (patient.analyze { msgId := "m", ts := .fin 0, sourceUid := "u", kind := .chat }
          recovering) ∧
      retried 3 recovering = 2 :=
  ⟨analyze_retries_exactly patient rfl (by decide) (by decide) _ (by decide) recovering, by decide⟩

end DroneComms.Inference
