import DroneComms.Py.JsonRoundTrip
import DroneComms.Ui.Snapshot

/-!
# The keys of detections

The console keeps its detections under texts: a tracked one under its source and
its track id with a colon between them, any other under its message id.  Two
detections should have one key exactly if they are one object (`SameObject`).

They may also share a key because the texts run together (`Clash`): two ids of one
source print alike, a source name ends in what another track id begins with, or a
message id reads like a source and a track id.  These are all the ways.
-/

namespace DroneComms.Ui

open Mesh (Envelope MessageKind)
open Py (PyError PyFloat Value)

/-- The `track_id` that `_detection_key` looks up, `None` if there is none. -/
def trackId (envelope : Envelope) : Value :=
  match envelope.payload.lookup "detection" with
  | some (.dict detection) => (detection.lookup "track_id").getD .none
  | _ => .none

/-- The envelopes are about one object: one track of one source, or one message
without a track. -/
inductive SameObject (e e' : Envelope) : Prop
  | tracked (h : trackId e ≠ .none) (source : e.sourceUid = e'.sourceUid)
      (track : trackId e = trackId e')
  | untracked (h : trackId e = .none) (h' : trackId e' = .none) (message : e.msgId = e'.msgId)

variable {format : Value → Except PyError String} {e e' : Envelope} {key key' : String}

/-- Different objects with one key. -/
inductive Clash (format : Value → Except PyError String) (e e' : Envelope) : Prop
  | /-- Two ids of one source have one text. -/
    text (s : String) (source : e.sourceUid = e'.sourceUid) (h : trackId e ≠ .none)
      (h' : trackId e' ≠ .none) (track : trackId e ≠ trackId e')
      (hs : format (trackId e) = .ok s) (hs' : format (trackId e') = .ok s)
  | /-- The text of an id begins with the rest of a longer source. -/
    split (m s : String) (h : trackId e ≠ .none) (h' : trackId e' ≠ .none)
      (source : e'.sourceUid = e.sourceUid ++ ":" ++ m)
      (hs : format (trackId e) = .ok (m ++ ":" ++ s)) (hs' : format (trackId e') = .ok s)
  | /-- A message id reads like a source and an id. -/
    message (s : String) (h : trackId e ≠ .none) (h' : trackId e' = .none)
      (hs : format (trackId e) = .ok s) (message : e'.msgId = e.sourceUid ++ ":" ++ s)

/-! ## Keys -/

/-- `_detection_key` on the track id it found. -/
def keyOf (format : Value → Except PyError String) (e : Envelope) : Value → Except PyError String
  | .none => .ok e.msgId
  | t => (format t).map fun s ↦ e.sourceUid ++ ":" ++ s

theorem detectionKey_eq : detectionKey format e = keyOf format e (trackId e) := by
  unfold detectionKey keyOf trackId
  rfl

theorem detectionKey_untracked (h : trackId e = .none) : detectionKey format e = .ok e.msgId := by
  rw [detectionKey_eq, h]
  rfl

/-- The key of a tracked detection. -/
theorem detectionKey_tracked (h : trackId e ≠ .none) (hkey : detectionKey format e = .ok key) :
    ∃ s, format (trackId e) = .ok s ∧ key = e.sourceUid ++ ":" ++ s := by
  rw [detectionKey_eq] at hkey
  have hmap : (format (trackId e)).map (fun s ↦ e.sourceUid ++ ":" ++ s) = .ok key := by
    cases ht : trackId e with
    | none => exact absurd ht h
    | _ => rwa [ht] at hkey
  cases hs : format (trackId e) with
  | error err =>
      rw [hs] at hmap
      cases hmap
  | ok s =>
      rw [hs] at hmap
      cases hmap
      exact ⟨s, rfl, rfl⟩

/-- A text with a colon can be split at an earlier or at a later one. -/
theorem append_colon_eq {a s b t : String} : a ++ ":" ++ s = b ++ ":" ++ t ↔
    (a = b ∧ s = t) ∨ (∃ m, b = a ++ ":" ++ m ∧ s = m ++ ":" ++ t) ∨
      ∃ m, a = b ++ ":" ++ m ∧ t = m ++ ":" ++ s := by
  constructor
  · intro h
    have hlist : a.toList ++ ([':'] ++ s.toList) = b.toList ++ ([':'] ++ t.toList) := by
      simpa using congrArg String.toList h
    rcases List.append_eq_append_iff.mp hlist with ⟨cs, hb, hs⟩ | ⟨cs, ha, ht⟩
    · cases cs with
      | nil =>
          refine .inl ⟨String.toList_inj.mp ?_, String.toList_inj.mp ?_⟩
          · simpa using hb.symm
          · simpa using hs
      | cons c cs =>
          simp only [List.cons_append, List.cons.injEq] at hs
          obtain ⟨rfl, hs⟩ := hs
          refine .inr (.inl ⟨String.ofList cs, String.toList_inj.mp ?_, String.toList_inj.mp ?_⟩)
          · simpa using hb
          · simpa using hs
    · cases cs with
      | nil =>
          refine .inl ⟨String.toList_inj.mp ?_, String.toList_inj.mp ?_⟩
          · simpa using ha
          · simpa using ht.symm
      | cons c cs =>
          simp only [List.cons_append, List.cons.injEq] at ht
          obtain ⟨rfl, ht⟩ := ht
          refine .inr (.inr ⟨String.ofList cs, String.toList_inj.mp ?_, String.toList_inj.mp ?_⟩)
          · simpa using ha
          · simpa using ht
  · rintro (⟨rfl, rfl⟩ | ⟨m, rfl, rfl⟩ | ⟨m, rfl, rfl⟩)
    · rfl
    · simp only [String.append_assoc]
    · simp only [String.append_assoc]

/-- The key that `handle` computes for a MARKER envelope. -/
theorem detectionKey_of_keyIn (h : keyIn format .detections e = some key) :
    detectionKey format e = .ok key := by
  unfold keyIn at h
  cases hkind : e.kind with
  | marker =>
      rw [hkind] at h
      cases hkey : detectionKey format e with
      | error err =>
          rw [hkey] at h
          cases h
      | ok k =>
          rw [hkey] at h
          cases h
          rfl
  | _ =>
      rw [hkind] at h
      cases h

/-! ## Telling objects apart -/

/-- One object has one key. -/
theorem SameObject.key_eq (h : SameObject e e') (hkey : detectionKey format e = .ok key)
    (hkey' : detectionKey format e' = .ok key') : key = key' := by
  cases h with
  | tracked h source track =>
      obtain ⟨s, hs, rfl⟩ := detectionKey_tracked h hkey
      obtain ⟨s', hs', rfl⟩ := detectionKey_tracked (track ▸ h) hkey'
      rw [← track, hs] at hs'
      cases hs'
      rw [source]
  | untracked h h' message =>
      rw [detectionKey_untracked h] at hkey
      rw [detectionKey_untracked h'] at hkey'
      cases hkey
      cases hkey'
      exact message

theorem SameObject.symm (h : SameObject e e') : SameObject e' e := by
  cases h with
  | tracked h source track => exact .tracked (track ▸ h) source.symm track.symm
  | untracked h h' message => exact .untracked h' h message.symm

/-- A clash is between different objects. -/
theorem Clash.not_sameObject (h : Clash format e e') : ¬ SameObject e e' := by
  intro hsame
  cases h with
  | text s source h h' track =>
      cases hsame with
      | tracked _ _ same => exact track same
      | untracked hnone => exact h hnone
  | split m s h h' source hs hs' =>
      cases hsame with
      | tracked _ same =>
          have hlength := congrArg (fun t : String ↦ t.toList.length) (same.trans source)
          simp at hlength
      | untracked hnone => exact h hnone
  | message s h h' =>
      cases hsame with
      | tracked _ _ same => exact h (same.trans h')
      | untracked hnone => exact h hnone

/-- A clash gives both the same key. -/
theorem Clash.key_eq (h : Clash format e e') (hkey : detectionKey format e = .ok key)
    (hkey' : detectionKey format e' = .ok key') : key = key' := by
  have htracked {e : Envelope} {key s : String} (h : trackId e ≠ .none)
      (hs : format (trackId e) = .ok s) (hkey : detectionKey format e = .ok key) :
      key = e.sourceUid ++ ":" ++ s := by
    obtain ⟨s', hs', rfl⟩ := detectionKey_tracked h hkey
    rw [hs] at hs'
    cases hs'
    rfl
  cases h with
  | text s source h h' track hs hs' => rw [htracked h hs hkey, htracked h' hs' hkey', source]
  | split m s h h' source hs hs' =>
      rw [htracked h hs hkey, htracked h' hs' hkey', source]
      simp only [String.append_assoc]
  | message s h h' hs message =>
      rw [detectionKey_untracked h'] at hkey'
      cases hkey'
      rw [htracked h hs hkey, message]

/-- One key belongs to one object, or to two that clash. -/
theorem sameObject_or_clash (hkey : detectionKey format e = .ok key)
    (hkey' : detectionKey format e' = .ok key) :
    SameObject e e' ∨ Clash format e e' ∨ Clash format e' e := by
  by_cases h : trackId e = .none
  · by_cases h' : trackId e' = .none
    · rw [detectionKey_untracked h] at hkey
      rw [detectionKey_untracked h'] at hkey'
      exact .inl (.untracked h h' (Except.ok.inj (hkey.trans hkey'.symm)))
    · obtain ⟨s, hs, hmessage⟩ := detectionKey_tracked h' hkey'
      rw [detectionKey_untracked h] at hkey
      cases hkey
      exact .inr (.inr (.message s h' h hs hmessage))
  · obtain ⟨s, hs, hsplit⟩ := detectionKey_tracked h hkey
    by_cases h' : trackId e' = .none
    · rw [detectionKey_untracked h'] at hkey'
      cases hkey'
      exact .inr (.inl (.message s h h' hs hsplit))
    · obtain ⟨s', hs', hsplit'⟩ := detectionKey_tracked h' hkey'
      rw [hsplit] at hsplit'
      rcases append_colon_eq.mp hsplit' with ⟨source, rfl⟩ | ⟨m, source, rfl⟩ | ⟨m, source, rfl⟩
      · by_cases track : trackId e = trackId e'
        · exact .inl (.tracked h source track)
        · exact .inr (.inl (.text s source h h' track hs hs'))
      · exact .inr (.inl (.split m s' h h' source hs hs'))
      · exact .inr (.inr (.split m s h' h source hs' hs))

/-- **Detection keys.**  Two MARKER envelopes have one key exactly for one object,
if and only if their texts do not run together. -/
theorem keys_tell_objects_apart_iff (hkey : keyIn format .detections e = some key)
    (hkey' : keyIn format .detections e' = some key') :
    (key = key' ↔ SameObject e e') ↔ ¬ (Clash format e e' ∨ Clash format e' e) := by
  have hk := detectionKey_of_keyIn hkey
  have hk' := detectionKey_of_keyIn hkey'
  constructor
  · rintro h (hclash | hclash)
    · exact hclash.not_sameObject (h.mp (hclash.key_eq hk hk'))
    · exact hclash.not_sameObject (h.mp (hclash.key_eq hk' hk).symm).symm
  · intro hno
    refine ⟨?_, fun h ↦ h.key_eq hk hk'⟩
    rintro rfl
    exact (sameObject_or_clash hk hk').resolve_right hno

/-- A marker of the source "alpha" about its track 7. -/
def alphaTrack : Envelope :=
  ⟨1, "m1", .fin 0, "alpha", .marker, [("detection", .dict [("track_id", .int 7)])]⟩

/-- A marker of any source with the message id "alpha:7" and no track. -/
def alphaMessage : Envelope := ⟨1, "alpha:7", .fin 0, "alpha", .marker, []⟩

theorem trackId_alphaTrack : trackId alphaTrack = .int 7 := by
  simp [trackId, alphaTrack]

theorem keyIn_alphaTrack : keyIn (fun _ ↦ .ok "7") .detections alphaTrack = some "alpha:7" := by
  have hkey : detectionKey (fun _ ↦ .ok "7") alphaTrack = .ok "alpha:7" := by
    rw [detectionKey_eq, trackId_alphaTrack]
    rfl
  calc keyIn (fun _ ↦ .ok "7") .detections alphaTrack
      = (detectionKey (fun _ ↦ .ok "7") alphaTrack).toOption := rfl
    _ = some "alpha:7" := by rw [hkey]; rfl

theorem keyIn_alphaMessage : keyIn (fun _ ↦ .ok "7") .detections alphaMessage = some "alpha:7" := rfl

/-- The two share a key, as the theorem says of two that clash. -/
theorem alpha_keys_not_apart : ¬ ("alpha:7" = "alpha:7" ↔ SameObject alphaTrack alphaMessage) := by
  have hclash : Clash (fun _ ↦ .ok "7") alphaTrack alphaMessage := by
    refine .message "7" ?_ rfl rfl rfl
    rw [trackId_alphaTrack]
    exact Value.noConfusion
  exact fun h ↦ (keys_tell_objects_apart_iff keyIn_alphaTrack keyIn_alphaMessage).mp h (.inl hclash)

/-- A tracked detection and one without a track have one key. -/
theorem track_and_message_collide : ∃ e e' : Envelope, ∃ key key',
    keyIn (fun _ ↦ .ok "7") .detections e = some key ∧
      keyIn (fun _ ↦ .ok "7") .detections e' = some key' ∧
        ¬ (key = key' ↔ SameObject e e') := by
  refine ⟨alphaTrack, alphaMessage, _, _, keyIn_alphaTrack, keyIn_alphaMessage, fun h ↦ ?_⟩
  cases h.mp rfl with
  | tracked _ _ track =>
      rw [trackId_alphaTrack] at track
      cases track
  | untracked hnone =>
      rw [trackId_alphaTrack] at hnone
      cases hnone

/-! ## Integer track ids -/

/-- The text of an integer has no colon and tells the integer. -/
def PrintsIntegers (format : Value → Except PyError String) : Prop :=
  ∀ n s, format (.int n) = .ok s → s = String.ofList (Decimal.signed n)

/-- Detections with integer track ids, as the detectors number them, do not clash
with each other: only a message id can. -/
theorem keys_of_integers (hformat : PrintsIntegers format) {n n' : ℤ} (h : trackId e = .int n)
    (h' : trackId e' = .int n') (hkey : detectionKey format e = .ok key)
    (hkey' : detectionKey format e' = .ok key') : key = key' ↔ SameObject e e' := by
  have hno {e e' : Envelope} {n n' : ℤ} (h : trackId e = .int n) (h' : trackId e' = .int n') :
      ¬ Clash format e e' := by
    intro hclash
    cases hclash with
    | text s source _ _ track hs hs' =>
        rw [h] at hs
        rw [h'] at hs'
        have hsame : Decimal.signed n = Decimal.signed n' :=
          String.ofList_injective ((hformat n s hs).symm.trans (hformat n' s hs'))
        have hread := congrArg Decimal.readSigned hsame
        rw [Decimal.readSigned_signed, Decimal.readSigned_signed, Option.some.injEq] at hread
        exact track (h.trans (hread ▸ h'.symm))
    | split m s _ _ source hs =>
        rw [h] at hs
        have htext := congrArg String.toList (hformat n _ hs)
        have hcolon : ':' ∈ Decimal.signed n := by
          rw [← String.toList_ofList (l := Decimal.signed n), ← htext]
          simp
        exact absurd (Py.Json.isNumberChar_signed hcolon) (by decide)
    | message s _ hnone =>
        rw [h'] at hnone
        cases hnone
  refine ⟨?_, fun hsame ↦ hsame.key_eq hkey hkey'⟩
  rintro rfl
  exact (sameObject_or_clash hkey hkey').resolve_right (not_or.mpr ⟨hno h h', hno h' h⟩)

end DroneComms.Ui
