import DroneComms.Mesh.Payloads
import DroneComms.Py.ElementTree
import DroneComms.Py.JsonReader

/-!
# The JSON codec

`JsonCodec` of `meshsa/codec.py`.  It leaves the envelope to pydantic, which is a
parameter (`EnvelopeJson`): `model_dump_json` writes a float that is not finite
as `null`, and `model_validate_json` reads back what was written.
-/

namespace DroneComms.Mesh

open Py (PyFloat Value Dict Interpreter JsonReader Bytes)
open Py.Json (WellKeyed WellKeyedItems WellKeyedMembers)

/-! ## Floats that are not finite -/

mutual

/-- A value as it is read back, with `None` for every float that is not finite. -/
def nulled : Value → Value
  | .float x => if x.isFinite then .float x else .none
  | .list xs => .list (nulledItems xs)
  | .dict kvs => .dict (nulledMembers kvs)
  | .none => .none
  | .bool b => .bool b
  | .int n => .int n
  | .str s => .str s

def nulledItems : List Value → List Value
  | [] => []
  | x :: xs => nulled x :: nulledItems xs

def nulledMembers : List (String × Value) → List (String × Value)
  | [] => []
  | (k, x) :: kvs => (k, nulled x) :: nulledMembers kvs

end

theorem lookup_nulledMembers (kvs : Dict) (key : String) :
    (nulledMembers kvs).lookup key = (kvs.lookup key).map nulled := by
  induction kvs with
  | nil => rfl
  | cons kv kvs ih =>
      rw [nulledMembers, List.lookup_cons, List.lookup_cons, ih]
      cases key == kv.1 <;> rfl

theorem keys_nulledMembers (kvs : Dict) :
    (nulledMembers kvs).map Prod.fst = kvs.map Prod.fst := by
  induction kvs with
  | nil => rfl
  | cons kv kvs ih => rw [nulledMembers, List.map_cons, List.map_cons, ih]

mutual

theorem wellKeyed_nulled : ∀ x : Value, WellKeyed x → WellKeyed (nulled x)
  | .float x, _ => by
      rw [nulled]
      split_ifs <;> trivial
  | .list xs, h => wellKeyed_nulledItems xs h
  | .dict kvs, h => ⟨by rw [keys_nulledMembers]; exact h.1, wellKeyed_nulledMembers kvs h.2⟩
  | .none, _ => trivial
  | .bool _, _ => trivial
  | .int _, _ => trivial
  | .str _, _ => trivial

theorem wellKeyed_nulledItems : ∀ xs, WellKeyedItems xs → WellKeyedItems (nulledItems xs)
  | [], _ => trivial
  | x :: xs, h => ⟨wellKeyed_nulled x h.1, wellKeyed_nulledItems xs h.2⟩

theorem wellKeyed_nulledMembers : ∀ kvs, WellKeyedMembers kvs → WellKeyedMembers (nulledMembers kvs)
  | [], _ => trivial
  | (_, x) :: kvs, h => ⟨wellKeyed_nulled x h.1, wellKeyed_nulledMembers kvs h.2⟩

end

mutual

theorem nulled_nulled : ∀ x : Value, nulled (nulled x) = nulled x
  | .float x => by
      rw [nulled]
      split_ifs with h
      · rw [nulled, if_pos h]
      · rw [nulled]
  | .list xs => congrArg Value.list (nulledItems_nulledItems xs)
  | .dict kvs => congrArg Value.dict (nulledMembers_nulledMembers kvs)
  | .none => rfl
  | .bool _ => rfl
  | .int _ => rfl
  | .str _ => rfl

theorem nulledItems_nulledItems : ∀ xs, nulledItems (nulledItems xs) = nulledItems xs
  | [] => rfl
  | x :: xs => by
      rw [nulledItems, nulledItems, nulled_nulled x, nulledItems_nulledItems xs]

theorem nulledMembers_nulledMembers : ∀ kvs, nulledMembers (nulledMembers kvs) = nulledMembers kvs
  | [] => rfl
  | (k, x) :: kvs => by
      rw [nulledMembers, nulledMembers, nulled_nulled x, nulledMembers_nulledMembers kvs]

end

/-! ## The codec -/

/-- `model_dump_json` and `model_validate_json` of `Envelope`. -/
structure EnvelopeJson where
  dump : Envelope → Option Bytes
  validate : Bytes → Option Envelope
  /-- The fields beside the payload are read back as they were. -/
  header : ∀ {e b e'}, dump e = some b → validate b = some e' →
    e'.schemaVersion = e.schemaVersion ∧ e'.msgId = e.msgId ∧ e'.ts = e.ts ∧
      e'.sourceUid = e.sourceUid ∧ e'.kind = e.kind
  payload : ∀ {e b e'}, WellKeyed (.dict e.payload) → dump e = some b → validate b = some e' →
    e'.payload = nulledMembers e.payload

/-- `JsonCodec`. -/
def jsonCodec (ej : EnvelopeJson) (supported : List ℤ) : Codec Bytes where
  encode e := (ej.dump e).elim (.error .other) .ok
  decode b :=
    match ej.validate b with
    | none => .error .meshSA
    | some e => if e.schemaVersion ∈ supported then .ok e else .error .incompatibleSchema

/-- Everything `encode` and `decode` return comes from pydantic. -/
theorem jsonCodec_encode_eq_ok {ej : EnvelopeJson} {supported : List ℤ} {e : Envelope} {b : Bytes} :
    (jsonCodec ej supported).encode e = .ok b ↔ ej.dump e = some b := by
  show (ej.dump e).elim (Except.error CodecError.other) Except.ok = Except.ok b ↔ _
  cases ej.dump e with
  | none => exact iff_of_false nofun nofun
  | some b' =>
      constructor
      · rintro ⟨⟩
        rfl
      · rintro ⟨⟩
        rfl

theorem jsonCodec_decode_eq_ok {ej : EnvelopeJson} {supported : List ℤ} {b : Bytes} {e : Envelope} :
    (jsonCodec ej supported).decode b = .ok e ↔
      ej.validate b = some e ∧ e.schemaVersion ∈ supported := by
  unfold jsonCodec
  dsimp only
  cases ej.validate b with
  | none =>
      refine iff_of_false nofun ?_
      rintro ⟨h, -⟩
      cases h
  | some e' =>
      dsimp only
      split_ifs with hsupported
      · constructor
        · rintro ⟨⟩
          exact ⟨rfl, hsupported⟩
        · rintro ⟨⟨⟩, -⟩
          rfl
      · refine iff_of_false nofun ?_
        rintro ⟨⟨⟩, h⟩
        exact hsupported h

/-! ## Closed runs -/

namespace EnvelopeJson

mutual

def decideWellKeyed : ∀ x : Value, Decidable (WellKeyed x)
  | .list xs => decideItems xs
  | .dict kvs =>
      have := decideMembers kvs
      inferInstanceAs (Decidable (_ ∧ _))
  | .float _ => .isTrue trivial
  | .none => .isTrue trivial
  | .bool _ => .isTrue trivial
  | .int _ => .isTrue trivial
  | .str _ => .isTrue trivial

def decideItems : ∀ xs, Decidable (WellKeyedItems xs)
  | [] => .isTrue trivial
  | x :: xs =>
      have := decideWellKeyed x
      have := decideItems xs
      inferInstanceAs (Decidable (_ ∧ _))

def decideMembers : ∀ kvs, Decidable (WellKeyedMembers kvs)
  | [] => .isTrue trivial
  | (_, x) :: kvs =>
      have := decideWellKeyed x
      have := decideMembers kvs
      inferInstanceAs (Decidable (_ ∧ _))

end

instance (x : Value) : Decidable (WellKeyed x) := decideWellKeyed x

/-- The fields of an envelope. -/
def fields (e : Envelope) : Value :=
  .dict [("schema_version", .int e.schemaVersion), ("msg_id", .str e.msgId), ("ts", .float e.ts),
    ("source_uid", .str e.sourceUid), ("kind", .str e.kind.value),
    ("payload", .dict (nulledMembers e.payload))]

def kindOf (s : String) : Option MessageKind :=
  [MessageKind.pli, .chat, .marker, .status].find? fun kind ↦ kind.value = s

theorem kindOf_value (kind : MessageKind) : kindOf kind.value = some kind := by
  cases kind <;> rfl

def ofFields : Value → Option Envelope
  | .dict [(_, .int schemaVersion), (_, .str msgId), (_, .float ts), (_, .str sourceUid),
      (_, .str kind), (_, .dict payload)] =>
      (kindOf kind).map fun kind ↦ { schemaVersion, msgId, ts, sourceUid, kind, payload }
  | _ => none

theorem ofFields_fields (e : Envelope) :
    ofFields (fields e) = some { e with payload := nulledMembers e.payload } := by
  rw [fields, ofFields, kindOf_value]
  rfl

theorem wellKeyed_fields {e : Envelope} (h : WellKeyed (.dict e.payload)) :
    WellKeyed (fields e) := by
  have hnodup : ["schema_version", "msg_id", "ts", "source_uid", "kind", "payload"].Nodup := by
    decide +kernel
  refine ⟨hnodup, trivial, trivial, trivial, trivial, trivial, ?_, trivial⟩
  exact wellKeyed_nulled (.dict e.payload) h

/-- How pydantic writes for closed runs. -/
def plainDump (e : Envelope) : Option Bytes :=
  if e.ts.isFinite = true ∧ WellKeyed (.dict e.payload) then
    some (Py.dumpsCompact Interpreter.plain (fields e))
  else none

def plainValidate (b : Bytes) : Option Envelope :=
  (Wire.ofUtf8 b).bind fun s ↦ (JsonReader.plain.loads s).bind ofFields

theorem plainValidate_dump {e : Envelope} {b : Bytes} (h : plainDump e = some b) :
    plainValidate b = some { e with payload := nulledMembers e.payload } := by
  obtain ⟨⟨-, hkeys⟩, h⟩ := Option.ite_none_right_eq_some.mp h
  cases h
  rw [plainValidate, Py.dumpsCompact, Wire.ofUtf8_utf8, Option.bind_some,
    JsonReader.plain.loads_dumps _ (wellKeyed_fields hkeys), Option.bind_some, ofFields_fields]

/-- Pydantic for closed runs. -/
def plain : EnvelopeJson where
  dump := plainDump
  validate := plainValidate
  header hdump hvalidate := by
    rw [plainValidate_dump hdump] at hvalidate
    cases hvalidate
    exact ⟨rfl, rfl, rfl, rfl, rfl⟩
  payload _ hdump hvalidate := by
    rw [plainValidate_dump hdump] at hvalidate
    cases hvalidate
    rfl

end EnvelopeJson

end DroneComms.Mesh
