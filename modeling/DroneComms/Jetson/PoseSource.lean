import DroneComms.Jetson.LandingTarget
import DroneComms.Lib.Automaton

/-!
# The pose source

`MavlinkPoseSource` of `mavlink/pose.py`.  A call of `poll` asks the connection for an
ATTITUDE and the AGL source for a height; what they answer comes with the call.  They
may answer with any objects: `float` of an object is a parameter, and an attribute may
be missing.  Logging is left out.
-/

namespace DroneComms.Jetson

open Automaton
open Py Py.Arith

/-- What `float` makes of an object, and what reading a missing attribute raises. -/
structure Objects (V X F : Type) where
  float : V → Except X F
  attributeError : X

/-- The attributes of an ATTITUDE that are read. -/
structure Attitude (V : Type) where
  yaw : Option V
  roll : Option V
deriving DecidableEq

/-- What a `poll` meets. -/
structure PoseAnswers (V X : Type) where
  /-- `recv_match(type="ATTITUDE", blocking=False)`. -/
  recvMatch : Except X (Option (Attitude V))
  /-- `_agl_source_m()`, should it be asked. -/
  aglSourceM : Except X (Option V)

variable {V X F : Type} [Arith F]

/-- `MavlinkPoseSource`. -/
structure MavlinkPoseSource (F : Type) where
  cameraDepressionDeg : F
  latest : Option (VehiclePose F) := none

namespace MavlinkPoseSource

/-- `float(msg.name)`. -/
def floatAttr (o : Objects V X F) (attr : Option V) : Except X F :=
  attr.elim (.error o.attributeError) o.float

/-- The new `VehiclePose`. -/
def reduce (o : Objects V X F) (cameraDepressionDeg : F) (msg : Attitude V) (agl : V) :
    Except X (VehiclePose F) := do
  let altAglM ← o.float agl
  let yaw ← floatAttr o msg.yaw
  let roll ← floatAttr o msg.roll
  return { altAglM, headingDeg := mod (degrees yaw) 360, pitchDeg := cameraDepressionDeg,
           rollDeg := degrees roll }

/-- `poll` behind the reduction, which is not guarded. -/
def refresh (s : MavlinkPoseSource F) : Except X (VehiclePose F) →
    Except X Bool × MavlinkPoseSource F
  | .error x => (.error x, s)
  | .ok pose => (.ok true, { s with latest := some pose })

/-- `poll` behind the ATTITUDE; nor is the AGL source. -/
def reading (o : Objects V X F) (s : MavlinkPoseSource F) (msg : Attitude V) :
    Except X (Option V) → Except X Bool × MavlinkPoseSource F
  | .error x => (.error x, s)
  | .ok none => (.ok false, s)
  | .ok (some agl) => s.refresh (reduce o s.cameraDepressionDeg msg agl)

/-- `poll`. -/
def poll (o : Objects V X F) (s : MavlinkPoseSource F) (a : PoseAnswers V X) :
    Except X Bool × MavlinkPoseSource F :=
  match a.recvMatch with
  | .error _ => (.ok false, s)
  | .ok none => (.ok false, s)
  | .ok (some msg) => s.reading o msg a.aglSourceM

end MavlinkPoseSource

/-! ## Readings -/

namespace PoseAnswers

/-- The pose of the ATTITUDE and the height, if they make one. -/
def pose? (o : Objects V X F) (cameraDepressionDeg : F) (a : PoseAnswers V X) :
    Option (VehiclePose F) := do
  let msg ← a.recvMatch.toOption.join
  let agl ← a.aglSourceM.toOption.join
  (MavlinkPoseSource.reduce o cameraDepressionDeg msg agl).toOption

/-- `float` takes an attribute, which is there. -/
def Numeric (o : Objects V X F) (attr : Option V) : Prop :=
  ∃ v x, attr = some v ∧ o.float v = .ok x

/-- Where there is an ATTITUDE the AGL source answers: with nothing, or with a number, and then
the ATTITUDE has its two numbers. -/
def Readable (o : Objects V X F) (a : PoseAnswers V X) : Prop :=
  ∀ msg, a.recvMatch = .ok (some msg) → a.aglSourceM = .ok none ∨
    ∃ agl, a.aglSourceM = .ok (some agl) ∧ Numeric o (some agl) ∧ Numeric o msg.yaw ∧
      Numeric o msg.roll

end PoseAnswers

namespace MavlinkPoseSource

variable {o : Objects V X F} {s s' : MavlinkPoseSource F} {a : PoseAnswers V X}

/-- How a `poll` ends. -/
inductive Polled (o : Objects V X F) (s : MavlinkPoseSource F) (a : PoseAnswers V X) :
    Except X Bool × MavlinkPoseSource F → Prop
  | kept (hreadable : a.Readable o) : Polled o s a (.ok false, s)
  | refreshed (pose : VehiclePose F) (hreadable : a.Readable o)
      (hpose : a.pose? o s.cameraDepressionDeg = some pose) :
      Polled o s a (.ok true, { s with latest := some pose })
  | raised (x : X) (hreadable : ¬a.Readable o) : Polled o s a (.error x, s)

omit [Arith F] in
theorem floatAttr_eq_ok {attr : Option V} {x : F} :
    floatAttr o attr = .ok x ↔ ∃ v, attr = some v ∧ o.float v = .ok x := by
  cases attr with
  | none => simp [floatAttr]
  | some v => simp [floatAttr]

/-- A reduction succeeds on three numbers. -/
theorem reduce_ok {depression : F} {msg : Attitude V} {agl : V} :
    (∃ pose, reduce o depression msg agl = .ok pose) ↔
      PoseAnswers.Numeric o (some agl) ∧ PoseAnswers.Numeric o msg.yaw ∧
        PoseAnswers.Numeric o msg.roll := by
  constructor
  · rintro ⟨pose, h⟩
    obtain ⟨alt, halt, h⟩ := Py.bind_eq_ok.mp h
    obtain ⟨yaw, hyaw, h⟩ := Py.bind_eq_ok.mp h
    obtain ⟨roll, hroll, -⟩ := Py.bind_eq_ok.mp h
    obtain ⟨v, hv, hyaw⟩ := floatAttr_eq_ok.mp hyaw
    obtain ⟨w, hw, hroll⟩ := floatAttr_eq_ok.mp hroll
    exact ⟨⟨agl, alt, rfl, halt⟩, ⟨v, yaw, hv, hyaw⟩, ⟨w, roll, hw, hroll⟩⟩
  · rintro ⟨⟨_, alt, ⟨⟩, halt⟩, ⟨v, yaw, hv, hyaw⟩, ⟨w, roll, hw, hroll⟩⟩
    have hyaw' := floatAttr_eq_ok.mpr ⟨v, hv, hyaw⟩
    have hroll' := floatAttr_eq_ok.mpr ⟨w, hw, hroll⟩
    simp [reduce, halt, hyaw', hroll', bind, Except.bind, pure, Except.pure]

theorem polled_poll : Polled o s a (s.poll o a) := by
  obtain ⟨recv, agl⟩ := a
  rcases recv with x | _ | msg
  · exact .kept fun _ hmsg ↦ by cases hmsg
  · exact .kept fun _ hmsg ↦ by cases hmsg
  rcases agl with x | _ | agl
  · refine .raised x fun hreadable ↦ ?_
    rcases hreadable msg rfl with hnone | ⟨agl, hagl, -⟩
    · cases hnone
    · cases hagl
  · exact .kept fun _ _ ↦ .inl rfl
  show Polled o s _ (s.refresh (reduce o s.cameraDepressionDeg msg agl))
  cases hpose : reduce o s.cameraDepressionDeg msg agl with
  | ok pose =>
      refine .refreshed pose ?_ ?_
      · rintro _ ⟨⟩
        exact .inr ⟨agl, rfl, reduce_ok.mp ⟨pose, hpose⟩⟩
      · show (reduce o s.cameraDepressionDeg msg agl).toOption = some pose
        rw [hpose]
        rfl
  | error x =>
      refine .raised x fun hreadable ↦ ?_
      rcases hreadable msg rfl with hnone | ⟨agl', hagl, hnumeric⟩
      · cases hnone
      · cases hagl
        obtain ⟨pose, hok⟩ := reduce_ok.mpr hnumeric
        rw [hpose] at hok
        cases hok

end MavlinkPoseSource

/-! ## Sequences of calls -/

/-- A call, with the answers it meets. -/
inductive PoseCall (V X : Type) where
  | poll (a : PoseAnswers V X)
  | latest

/-- A `poll` meets readable answers. -/
def PoseCall.Readable (o : Objects V X F) : PoseCall V X → Prop
  | poll a => a.Readable o
  | latest => True

/-- A call that has ended, and how.  Of a `poll` also the cached pose before it and behind it. -/
inductive PoseReturn (V X F : Type) where
  | poll (a : PoseAnswers V X) (result : Except X Bool) (before after : Option (VehiclePose F))
  | latest (pose : Option (VehiclePose F))

/-- A source, and the calls that it has seen, oldest first. -/
structure PoseHistory (V X F : Type) where
  source : MavlinkPoseSource F
  returned : List (PoseReturn V X F) := []

namespace PoseHistory

/-- A call.  One that raises is over, too. -/
def step (o : Objects V X F) (h : PoseHistory V X F) : PoseCall V X → Option (PoseHistory V X F)
  | .poll a =>
      let polled := h.source.poll o a
      some {
        source := polled.2
        returned := h.returned ++ [.poll a polled.1 h.source.latest polled.2.latest] }
  | .latest => some { h with returned := h.returned ++ [.latest h.source.latest] }

/-- The pose behind a call, if it was `pose` before it: that of its answers, if it has returned
`True`. -/
def refreshedBy (o : Objects V X F) (depression : F) (pose : Option (VehiclePose F)) :
    PoseReturn V X F → Option (VehiclePose F)
  | .poll a (.ok true) _ _ => a.pose? o depression
  | _ => pose

/-- The pose of the last `poll` that has returned `True`. -/
def refreshed (o : Objects V X F) (depression : F) (calls : List (PoseReturn V X F)) :
    Option (VehiclePose F) :=
  calls.foldl (refreshedBy o depression) none

/-- No call has been left half done. -/
structure Atomic (o : Objects V X F) (depression : F) (h : PoseHistory V X F) : Prop where
  camera : h.source.cameraDepressionDeg = depression
  cached : h.source.latest = refreshed o depression h.returned
  kept : ∀ a result before after, .poll a result before after ∈ h.returned →
    result ≠ .ok true → after = before
  /-- A pose that `latest` has returned was that of the last `True`. -/
  latest : ∀ pre pose rest, h.returned = pre ++ .latest pose :: rest →
    pose = refreshed o depression pre

/-- Every `poll` has returned a bool. -/
def Returns (h : PoseHistory V X F) : Prop :=
  ∀ a result before after, .poll a result before after ∈ h.returned → ∃ b, result = .ok b

variable {o : Objects V X F} {depression : F} {h h' : PoseHistory V X F} {c : PoseCall V X}

theorem refreshed_append (calls : List (PoseReturn V X F)) (r : PoseReturn V X F) :
    refreshed o depression (calls ++ [r]) =
      refreshedBy o depression (refreshed o depression calls) r := by
  simp [refreshed]

theorem atomic_init (o : Objects V X F) (depression : F) :
    Atomic (V := V) o depression { source := { cameraDepressionDeg := depression } } where
  camera := rfl
  cached := rfl
  kept _ _ _ _ hmem := by cases hmem
  latest pre _ _ hsplit := absurd hsplit.symm (by simp)

omit [Arith F] in
/-- What holds of the polls so far and of the last call. -/
theorem polls_append {P : PoseAnswers V X → Except X Bool → Option (VehiclePose F) →
      Option (VehiclePose F) → Prop}
    {calls : List (PoseReturn V X F)} {r : PoseReturn V X F}
    (hcalls : ∀ a result before after, .poll a result before after ∈ calls →
      P a result before after)
    (hr : ∀ a result before after, r = .poll a result before after → P a result before after)
    (a : PoseAnswers V X) (result : Except X Bool) (before after : Option (VehiclePose F))
    (hmem : .poll a result before after ∈ calls ++ [r]) : P a result before after := by
  rcases List.mem_append.mp hmem with hmem | hmem
  · exact hcalls a result before after hmem
  · exact hr a result before after (List.mem_singleton.mp hmem).symm

/-- What `latest` has returned earlier was looked at before. -/
theorem latest_append {calls : List (PoseReturn V X F)} {r : PoseReturn V X F}
    (hcalls : ∀ pre pose rest, calls = pre ++ .latest pose :: rest →
      pose = refreshed o depression pre)
    (hr : ∀ pose, r = .latest pose → pose = refreshed o depression calls)
    (pre : List (PoseReturn V X F)) (pose : Option (VehiclePose F))
    (rest : List (PoseReturn V X F)) (hsplit : calls ++ [r] = pre ++ .latest pose :: rest) :
    pose = refreshed o depression pre := by
  rcases List.eq_nil_or_concat rest with rfl | ⟨rest, last, rfl⟩
  · obtain ⟨rfl, hlast⟩ := List.append_inj' hsplit rfl
    exact hr pose (List.singleton_inj.mp hlast)
  · rw [List.concat_eq_append, ← List.cons_append, ← List.append_assoc] at hsplit
    exact hcalls pre pose rest (List.append_inj' hsplit rfl).1

/-- A call keeps the history atomic, whatever it meets. -/
theorem Atomic.step (hh : h.Atomic o depression) (hstep : h.step o c = some h') :
    h'.Atomic o depression := by
  cases c with
  | latest =>
      cases hstep
      refine ⟨hh.camera, ?_, ?_, ?_⟩
      · rw [refreshed_append]
        exact hh.cached
      · refine polls_append hh.kept ?_
        rintro _ _ _ _ ⟨⟩
      · refine latest_append hh.latest ?_
        rintro _ ⟨⟩
        exact hh.cached
  | poll a =>
      cases hstep
      have hpolled := MavlinkPoseSource.polled_poll (o := o) (s := h.source) (a := a)
      generalize h.source.poll o a = polled at hpolled
      have hlatest : ∀ pre pose rest, h.returned ++ [.poll a polled.1 h.source.latest
          polled.2.latest] = pre ++ .latest pose :: rest → pose = refreshed o depression pre :=
        latest_append hh.latest fun pose hr ↦ by cases hr
      have hkept (hsame : polled.1 ≠ .ok true → polled.2.latest = h.source.latest) :
          ∀ b result before after, .poll b result before after ∈ h.returned ++
            [.poll a polled.1 h.source.latest polled.2.latest] → result ≠ .ok true →
              after = before := by
        refine polls_append hh.kept ?_
        rintro _ _ _ _ ⟨⟩
        exact hsame
      cases hpolled with
      | kept _ =>
          refine ⟨hh.camera, ?_, hkept fun _ ↦ rfl, hlatest⟩
          rw [refreshed_append]
          exact hh.cached
      | raised x _ =>
          refine ⟨hh.camera, ?_, hkept fun _ ↦ rfl, hlatest⟩
          rw [refreshed_append]
          exact hh.cached
      | refreshed pose _ hpose =>
          refine ⟨hh.camera, ?_, hkept fun hfalse ↦ absurd rfl hfalse, hlatest⟩
          rw [refreshed_append, ← hh.camera]
          exact hpose.symm

/-- A `poll` returns exactly if its answers are readable. -/
theorem returns_step_iff (hh : h.Returns) (hstep : h.step o c = some h') :
    h'.Returns ↔ c.Readable o := by
  cases c with
  | latest =>
      cases hstep
      refine iff_of_true (polls_append hh ?_) trivial
      rintro _ _ _ _ ⟨⟩
  | poll a =>
      cases hstep
      have hpolled := MavlinkPoseSource.polled_poll (o := o) (s := h.source) (a := a)
      generalize h.source.poll o a = polled at hpolled
      have hiff : (∃ b, polled.1 = .ok b) ↔ a.Readable o := by
        cases hpolled with
        | kept hreadable => exact iff_of_true ⟨_, rfl⟩ hreadable
        | refreshed _ hreadable _ => exact iff_of_true ⟨_, rfl⟩ hreadable
        | raised x hnot => exact iff_of_false (by simp) hnot
      constructor
      · intro hreturns
        exact hiff.mp (hreturns a _ _ _ (List.mem_append_right _ (List.mem_singleton_self _)))
      · intro hreadable
        refine polls_append hh ?_
        rintro _ _ _ _ ⟨⟩
        exact hiff.mpr hreadable

/-- What has been promised of `poll` and `latest`. -/
structure Safe (o : Objects V X F) (depression : F) (h : PoseHistory V X F) : Prop where
  returns : h.Returns
  atomic : h.Atomic o depression

/-- **Polling never raises and is atomic** exactly in the sequences of calls whose answers are all
readable. -/
theorem safe_iff_readable (o : Objects V X F) (depression : F) (calls : List (PoseCall V X)) :
    Always (step o) (Safe o depression) { source := { cameraDepressionDeg := depression } } calls ↔
      ∀ c ∈ calls, c.Readable o := by
  have hinit := atomic_init o depression
  have htotal : ∀ h (c : PoseCall V X), ∃ h', step o h c = some h' := by
    intro h c
    cases c <;> exact ⟨_, rfl⟩
  rw [← along_iff_forall htotal]
  refine always_iff_along (fun _ _ _ hh hstep ↦ hh.step hstep) ?_ hinit ⟨?_, hinit⟩ calls
  · intro h c h' hh hsafe hstep
    rw [← returns_step_iff hsafe.returns hstep]
    exact ⟨Safe.returns, fun hreturns ↦ ⟨hreturns, hh.step hstep⟩⟩
  · intro a result before after hmem
    cases hmem

/-- An AGL source that raises is not guarded. -/
theorem agl_error_escapes : ¬∀ (V X : Type) (o : Objects V X ℝ) (depression : ℝ)
    (calls : List (PoseCall V X)),
    Always (step o) (Safe o depression) { source := { cameraDepressionDeg := depression } }
      calls := by
  intro h
  have hreached := always_iff_prefix.mp (h ℚ Py.PyError ⟨fun q ↦ .ok q, .attributeError⟩ 90
    [.poll ⟨.ok (some ⟨some 0, some 0⟩), .error .valueError⟩]) _ _ (List.prefix_refl _) rfl
  obtain ⟨b, hb⟩ := hreached.returns _ _ _ _ (List.mem_singleton_self _)
  cases hb

end PoseHistory

end DroneComms.Jetson
