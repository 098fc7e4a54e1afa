import DroneComms.Py.Value

/-!
# Envelopes

The wire envelope of `meshsa/models.py` and what a codec may raise.
-/

namespace DroneComms.Mesh

/-- `MessageKind`. -/
inductive MessageKind where
  | pli
  | chat
  | marker
  | status
deriving DecidableEq, Repr

/-- `MessageKind.value`. -/
def MessageKind.value : MessageKind → String
  | pli => "pli"
  | chat => "chat"
  | marker => "marker"
  | status => "status"

/-- `SCHEMA_VERSION`. -/
def schemaVersion : Int := 1

/-- `Envelope`. -/
structure Envelope where
  schemaVersion : Int := Mesh.schemaVersion
  msgId : String
  ts : Py.PyFloat
  sourceUid : String
  kind : MessageKind
  payload : List (String × Py.Value) := []

/-- An exception of a codec. -/
inductive CodecError where
  | /-- `IncompatibleSchemaError`. -/ incompatibleSchema
  | /-- Any other `MeshSAError`. -/ meshSA
  | /-- Any other exception. -/ other
deriving DecidableEq, Repr

/-- `Codec`, on frames `β`. -/
structure Codec (β : Type) where
  encode : Envelope → Except CodecError β
  decode : β → Except CodecError Envelope

end DroneComms.Mesh
