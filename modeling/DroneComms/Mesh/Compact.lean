import DroneComms.Mesh.Payloads
import DroneComms.Py.JsonReader

/-!
# The compact codec

`CompactCodec` of `meshsa/compact.py`: a binary frame for links of LoRa size.
The encoder and the decoder keep an offset into the frame; here the decoder has
the rest of the frame instead, so a slice that runs over the end is what is left
and a read behind the end fails.

Every exception of the decoder is caught, except for what `Envelope` makes of a
JSON payload that is no object.
-/

namespace DroneComms.Mesh

open Py (PyFloat Value Dict PyError Interpreter JsonReader)
open Wire (bigEndian ofBigEndian unpack toUnsigned toSigned utf8 ofUtf8 getStr)

namespace Compact

/-- `_KINDS`. -/
def kinds : List MessageKind := [.pli, .chat, .marker, .status]

/-- `_TIERS`. -/
def tiers : List String := [NodeTier.user.value, NodeTier.backbone.value, NodeTier.base.value]

/-- `_LATLON_SCALE`. -/
def latlonScale : ℚ := 10000000

/-- `_U16_MAX`. -/
def u16Max : ℤ := 65535

/-! ## Encoding -/

/-- An exception that is no `MeshSAError`. -/
def raised {α : Type} : Except PyError α → Except CodecError α
  | .ok a => .ok a
  | .error _ => .error .other

/-- `_put_str`. -/
def putStr (s : String) : Except CodecError (List UInt8) :=
  if 255 < (utf8 s).length then .error .meshSA
  else .ok (UInt8.ofNat (utf8 s).length :: utf8 s)

/-- `int(round(v))`. -/
def rounded : Value → Except PyError ℤ
  | .bool b => .ok (if b then 1 else 0)
  | .int n => .ok n
  | .float x => Py.intRound x
  | .str _ | .none | .list _ | .dict _ => .error .typeError

/-- `struct.pack(">i", n)`; a `struct.error` is raised out of range. -/
def packI32 (n : ℤ) : Except CodecError (List UInt8) :=
  if -2 ^ 31 ≤ n ∧ n < 2 ^ 31 then .ok (bigEndian 4 (toUnsigned 32 n)) else .error .other

/-- A length in `struct.pack(">H", n)` and what it is the length of. -/
def packBlob (bs : List UInt8) : Except CodecError (List UInt8) :=
  if bs.length ≤ 65535 then .ok (bigEndian 2 bs.length ++ bs) else .error .other

/-- `_clamp_u16`. -/
def clampU16 (n : ℤ) : ℕ := (min (max n 0) u16Max).toNat

/-- A degree, scaled. -/
def scaledDegree (v : Value) : Except PyError ℤ := Py.mulFloat latlonScale v >>= Py.intRound

/-- The index of a tier, or that of the first. -/
def tierIndex (tier : String) : ℕ := if tier ∈ tiers then tiers.idxOf tier else 0

variable (py : Interpreter)

/-- The body of a PLI or a marker. -/
def positionBody (env : Envelope) : Except CodecError (List UInt8) := do
  let node ← raised (Dict.get env.payload "node" (.dict [])).entries
  let pos ← raised (Dict.get env.payload "position" (.dict [])).entries
  let lat ← raised (scaledDegree (Dict.get pos "lat" (.float (.fin 0))))
  let lon ← raised (scaledDegree (Dict.get pos "lon" (.float (.fin 0))))
  let hae ← raised (rounded (Dict.get pos "hae" (.float (.fin 0))))
  let latBytes ← packI32 lat
  let lonBytes ← packI32 lon
  let haeBytes ← packI32 hae
  let ce ← raised (rounded (Dict.get pos "ce" (.int u16Max)))
  let le ← raised (rounded (Dict.get pos "le" (.int u16Max)))
  let callsign ← putStr (py.strOf (Dict.get node "callsign" (.str env.sourceUid)))
  .ok (latBytes ++ (lonBytes ++ (haeBytes ++ (bigEndian 2 (clampU16 ce) ++
    (bigEndian 2 (clampU16 le) ++ (callsign ++
      [UInt8.ofNat (tierIndex (py.strOf (Dict.get node "tier" (.str NodeTier.user.value))))]))))))

/-- `v or ""` where a string is needed. -/
def textOf : Value → Except CodecError String
  | .str s => .ok s
  | v => if v.truthy then .error .other else .ok ""

/-- The body of a chat. -/
def chatBody (env : Envelope) : Except CodecError (List UInt8) := do
  let room ← textOf (Dict.getOr env.payload "to" (.str ""))
  let addressee ← putStr room
  let text ← textOf (Dict.getOr env.payload "text" (.str ""))
  let blob ← packBlob (utf8 text)
  .ok (addressee ++ blob)

/-- The body behind the header. -/
def body (env : Envelope) : Except CodecError (List UInt8) :=
  match env.kind with
  | .pli | .marker => positionBody py env
  | .chat => chatBody env
  | .status => packBlob (Py.dumpsCompact py (.dict env.payload))

/-- `CompactCodec.encode`. -/
def encode (env : Envelope) : Except CodecError (List UInt8) := do
  let ts ← raised (Py.intOfFloat env.ts)
  let source ← putStr env.sourceUid
  let msgId ← putStr env.msgId
  let bytes ← body py env
  .ok (UInt8.ofNat (env.schemaVersion % 256).toNat :: UInt8.ofNat (kinds.idxOf env.kind) ::
    (bigEndian 4 (toUnsigned 32 ts) ++ (source ++ (msgId ++ bytes))))

/-! ## Decoding -/

variable {py} (json : JsonReader py)

/-- What is read from a frame before it is an `Envelope`. -/
structure Fields where
  kind : MessageKind
  ts : ℕ
  sourceUid : String
  msgId : String
  payload : Value

/-- Read a signed number of 4 bytes. -/
def unpackI32 (bs : List UInt8) : Option (ℤ × List UInt8) :=
  (unpack 4 bs).map fun p ↦ (toSigned 32 p.1, p.2)

/-- `lat_e7 / _LATLON_SCALE`. -/
def degrees (n : ℤ) : PyFloat := .ofRat (n / latlonScale)

/-- The position in a frame, as integers. -/
structure Fix where
  latE7 : ℤ
  lonE7 : ℤ
  hae : ℤ
  ce : ℕ
  le : ℕ

/-- The model of the position in a frame. -/
def Fix.position (fix : Fix) : Position where
  lat := degrees fix.latE7
  lon := degrees fix.lonE7
  hae := .fin fix.hae
  ce := .fin fix.ce
  le := .fin fix.le

/-- Read a position. -/
def readFix (bs : List UInt8) : Option (Fix × List UInt8) := do
  let (latE7, bs) ← unpackI32 bs
  let (lonE7, bs) ← unpackI32 bs
  let (hae, bs) ← unpackI32 bs
  let (ce, bs) ← unpack 2 bs
  let (le, bs) ← unpack 2 bs
  some (⟨latE7, lonE7, hae, ce, le⟩, bs)

/-- The payload of a PLI or a marker. -/
def readPosition (sourceUid : String) (bs : List UInt8) : Option Value := do
  let (fix, bs) ← readFix bs
  let (callsign, bs) ← getStr bs
  let tierIdx ← bs.head?
  let tier ← tiers[tierIdx.toNat]?
  some (.dict [("node", .dict [("uid", .str sourceUid), ("callsign", .str callsign),
    ("tier", .str tier)]), ("position", .dict fix.position.dump)])

/-- The payload of a chat. -/
def readChat (bs : List UInt8) : Option Value := do
  let (addressee, bs) ← getStr bs
  let (length, bs) ← unpack 2 bs
  let text ← ofUtf8 (bs.take length)
  some (.dict [("text", .str text),
    ("to", if addressee = "" then .none else .str addressee)])

/-- Any other payload. -/
def readJson (bs : List UInt8) : Option Value := do
  let (length, bs) ← unpack 2 bs
  let text ← ofUtf8 (bs.take length)
  json.loads text

/-- The payload of a kind. -/
def readBody (kind : MessageKind) (sourceUid : String) (bs : List UInt8) : Option Value :=
  match kind with
  | .pli | .marker => readPosition sourceUid bs
  | .chat => readChat bs
  | .status => readJson json bs

/-- The header of a frame, behind the schema. -/
def readHeader (bs : List UInt8) : Option (MessageKind × ℕ × String × String × List UInt8) := do
  let kindIdx ← bs.head?
  let kind ← kinds[kindIdx.toNat]?
  let (ts, bs) ← unpack 4 bs.tail
  let (sourceUid, bs) ← getStr bs
  let (msgId, bs) ← getStr bs
  some (kind, ts, sourceUid, msgId, bs)

/-- A frame behind its schema. -/
def readFields (bs : List UInt8) : Option Fields := do
  let (kind, ts, sourceUid, msgId, bs) ← readHeader bs
  let payload ← readBody json kind sourceUid bs
  some { kind, ts, sourceUid, msgId, payload }

/-- `Envelope(...)`, where the payload has to be a dictionary. -/
def Fields.envelope (schema : ℤ) (f : Fields) : Except CodecError Envelope :=
  match f.payload with
  | .dict payload => .ok
      { schemaVersion := schema, msgId := f.msgId, ts := .fin f.ts, sourceUid := f.sourceUid,
        kind := f.kind, payload }
  | _ => .error .other

/-- `CompactCodec.decode`. -/
def decode (supportedSchemas : List ℤ) (bs : List UInt8) : Except CodecError Envelope :=
  match bs with
  | [] => .error .meshSA
  | schema :: bs =>
      if (schema.toNat : ℤ) ∉ supportedSchemas then .error .incompatibleSchema
      else
        match readFields json bs with
        | none => .error .meshSA
        | some f => f.envelope schema.toNat

end Compact

/-- `SUPPORTED_SCHEMAS`. -/
def supportedSchemas : List ℤ := [schemaVersion]

/-- `CompactCodec`. -/
def compactCodec (py : Interpreter) (json : JsonReader py)
    (supported : List ℤ := supportedSchemas) : Codec (List UInt8) where
  encode := Compact.encode py
  decode := Compact.decode json supported

end DroneComms.Mesh
