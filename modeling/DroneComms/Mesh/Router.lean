import DroneComms.Mesh.Models
import Mathlib.Data.List.Basic
import Mathlib.Logic.Function.Basic

/-!
# The router

`Router` of `meshsa/router.py` as tasks on one event loop: any number of
`publish` calls and one pump per transport.  A step is what a task does between
two points where it may be suspended, so tasks interleave as they do in the
source; cancellation by `stop` is left out.  A frame on the wire is a value of a
type `β`.  What a transport's `send` and a subscriber do is part of the event.

A fan-out carries its targets and what became of them.  `handed` and `failed`
are not in the source: they record which sends returned and at which target an
exception left the loop.
-/

namespace DroneComms.Mesh

variable {β : Type}

/-- The collaborators of a `Router`.  A transport is a position in the list. -/
structure Router (β : Type) where
  /-- The names of `transports`. -/
  transports : List String
  codec : Codec β
  codecs : List (String × Codec β) := []
  dedupeCacheSize : ℕ := 2048

namespace Router

/-- `_codec_for`. -/
def codecFor (r : Router β) (transport : ℕ) : Codec β :=
  ((r.transports[transport]?).bind fun name ↦ r.codecs.lookup name).getD r.codec

/-- The transports in order. -/
def targets (r : Router β) : List ℕ := List.range r.transports.length

end Router

/-- `RouterMetrics`. -/
structure RouterMetrics where
  rx : ℕ := 0
  tx : ℕ := 0
  forwarded : ℕ := 0
  droppedUndecodable : ℕ := 0
  schemaMismatch : ℕ := 0
deriving DecidableEq, Repr

/-- One pass of an envelope over its targets. -/
structure FanOut where
  envelope : Envelope
  /-- The targets to come. -/
  targets : List ℕ
  handed : List ℕ := []
  failed : List ℕ := []

/-- A `publish` call. -/
inductive Publish where
  | sending (f : FanOut)
  | returned (f : FanOut)
  | raised (f : FanOut)

/-- A `_pump` task. -/
inductive Pump where
  | /-- In `source.stream()`. -/ reading
  | /-- Calling the subscribers. -/ handling (e : Envelope) (handlers : ℕ)
  | forwarding (f : FanOut)
  | /-- An exception has ended the task. -/ raised (f : FanOut)

/-- The mutable state of a router and its tasks. -/
structure Node where
  /-- `_seen`, oldest id first. -/
  seen : List String := []
  metrics : RouterMetrics := {}
  subscribers : ℕ := 0
  pumps : ℕ → Pump := fun _ ↦ .reading
  publishes : ℕ → Option Publish := fun _ ↦ none
  /-- The fan-outs each pump has finished. -/
  finished : ℕ → List FanOut := fun _ ↦ []

/-- What can happen next. -/
inductive NodeEvent (β : Type) where
  | subscribe
  | /-- `publish` is called. -/ publish (i : ℕ) (e : Envelope)
  | /-- The pump of a transport gets a frame. -/ frame (source : ℕ) (data : β)
  | /-- A subscriber returns or raises. -/ handled (source : ℕ) (ok : Bool)
  | /-- A `publish` call comes to its next target. -/ sendPublished (i : ℕ) (ok : Bool)
  | /-- A pump comes to its next target. -/ sendForwarded (source : ℕ) (ok : Bool)

namespace Node

/-- Drop the oldest ids until at most `n` are left. -/
def evict (n : ℕ) (seen : List String) : List String := seen.drop (seen.length - n)

theorem mem_evict {n : ℕ} {seen : List String} {id id' : String}
    (h : id' ∈ evict n (seen ++ [id])) : id' ∈ seen ∨ id' = id := by
  rcases List.mem_append.mp (List.mem_of_mem_drop h) with hseen | hid
  · exact .inl hseen
  · exact .inr (List.mem_singleton.mp hid)

/-- `_mark_seen`. -/
def markSeen (r : Router β) (w : Node) (msgId : String) : Node × Bool :=
  if msgId ∈ w.seen then (w, false)
  else ({ w with seen := evict r.dedupeCacheSize (w.seen ++ [msgId]) }, true)

/-- Encode for the next target and send.  It fails if the codec or the transport
raises. -/
def attempt (r : Router β) (f : FanOut) (target : ℕ) (targets : List ℕ) (ok : Bool) :
    FanOut × Bool :=
  if ((r.codecFor target).encode f.envelope).toBool && ok then
    ({ f with targets, handed := target :: f.handed }, true)
  else ({ f with targets, failed := target :: f.failed }, false)

/-- A `publish` call goes on. -/
def publishing (f : FanOut) : Publish := if f.targets = [] then .returned f else .sending f

/-- A pump goes on to its next target or frame. -/
def forwarding (w : Node) (source : ℕ) (f : FanOut) : Node :=
  if f.targets = [] then
    { w with
      pumps := Function.update w.pumps source .reading
      finished := Function.update w.finished source (f :: w.finished source) }
  else { w with pumps := Function.update w.pumps source (.forwarding f) }

/-- The subscribers have been called; every transport but the source is a
target. -/
def handling (r : Router β) (w : Node) (source : ℕ) (e : Envelope) (handlers : ℕ) : Node :=
  match handlers with
  | 0 => w.forwarding source ⟨e, r.targets.filter (· ≠ source), [], []⟩
  | n + 1 => { w with pumps := Function.update w.pumps source (.handling e (n + 1)) }

/-- A frame is decoded and, if it is new, passed on. -/
def receive (r : Router β) (w : Node) (source : ℕ) (data : β) : Node :=
  match (r.codecFor source).decode data with
  | .error .incompatibleSchema =>
      { w with metrics := { w.metrics with schemaMismatch := w.metrics.schemaMismatch + 1 } }
  | .error _ =>
      { w with metrics := {
          w.metrics with droppedUndecodable := w.metrics.droppedUndecodable + 1 } }
  | .ok e =>
      let w := { w with metrics := { w.metrics with rx := w.metrics.rx + 1 } }
      let (w, new) := w.markSeen r e.msgId
      if new then w.handling r source e w.subscribers else w

/-- One step. -/
def step (r : Router β) (w : Node) : NodeEvent β → Option Node
  | .subscribe => some { w with subscribers := w.subscribers + 1 }
  | .publish i e =>
      if (w.publishes i).isSome then none
      else
        let w := (w.markSeen r e.msgId).1
        some { w with
          publishes := Function.update w.publishes i (some (publishing ⟨e, r.targets, [], []⟩)) }
  | .frame source data =>
      match w.pumps source with
      | .reading => if source < r.transports.length then some (w.receive r source data) else none
      | _ => none
  | .handled source _ =>
      -- a subscriber's exception is caught
      match w.pumps source with
      | .handling e (n + 1) => some (w.handling r source e n)
      | _ => none
  | .sendPublished i ok =>
      match w.publishes i with
      | some (.sending f) =>
          match f.targets with
          | [] => none
          | target :: targets =>
              let (f, sent) := attempt r f target targets ok
              if sent then
                some { w with
                  metrics := { w.metrics with tx := w.metrics.tx + 1 }
                  publishes := Function.update w.publishes i (some (publishing f)) }
              else some { w with publishes := Function.update w.publishes i (some (.raised f)) }
      | _ => none
  | .sendForwarded source ok =>
      match w.pumps source with
      | .forwarding f =>
          match f.targets with
          | [] => none
          | target :: targets =>
              let (f, sent) := attempt r f target targets ok
              if sent then
                some (forwarding
                  { w with metrics := { w.metrics with forwarded := w.metrics.forwarded + 1 } }
                  source f)
              else some { w with pumps := Function.update w.pumps source (.raised f) }
      | _ => none

end Node

end DroneComms.Mesh
