import DroneComms.Mesh.CompactTrip
import DroneComms.Py.JsonTruncation

/-!
# Truncated compact frames

A frame that loses its tail on the link.  Each field of the header, of a position
and of a JSON body misses what is cut off, at the latest when the field behind it
is read.  The text of a chat is the last of its frame and sliced by its length
without a look at what is there, so a chat is cut short.
-/

namespace DroneComms.Mesh

open Py (PyFloat Value Dict PyError Interpreter JsonReader)
open Wire (bigEndian ofBigEndian unpack toUnsigned toSigned utf8 ofUtf8 getStr IsCut RefusesCuts
  Takes)

namespace Compact

/-! ## Fields -/

section

variable {β : Type}

theorem refusesCuts_bigEndian (k n : ℕ) (next : ℕ × List UInt8 → Option β) :
    RefusesCuts (fun q ↦ unpack k q >>= next) (bigEndian k n) :=
  (Wire.takes_unpack k).refusesCuts next (Wire.length_bigEndian k n)

/-- A string in front of a field that is missed. -/
theorem refusesCuts_putStr {s : String} (h : Fits s) {next : String × List UInt8 → Option β}
    (hnext : ∀ s', next (s', []) = none) {v : List UInt8}
    (hv : RefusesCuts (fun q ↦ next (s, q)) v) :
    RefusesCuts (fun q ↦ getStr q >>= next) ((UInt8.ofNat (utf8 s).length :: utf8 s) ++ v) := by
  have hlength : (UInt8.ofNat (utf8 s).length).toNat = (utf8 s).length :=
    UInt8.toNat_ofNat_of_lt (Nat.lt_succ_of_le h)
  exact (Wire.refusesCuts_getStr hlength.symm hnext).bind (getStr_putStr h) hv

end

/-! ## Bodies -/

theorem takes_unpackI32 : Takes unpackI32 4 := (Wire.takes_unpack 4).map (toSigned 32)

theorem takes_readFix : Takes readFix 16 := by
  have hread : readFix = fun bs ↦ unpackI32 bs >>= fun lat ↦ unpackI32 lat.2 >>= fun lon ↦
      unpackI32 lon.2 >>= fun hae ↦ unpack 2 hae.2 >>= fun ce ↦ unpack 2 ce.2 >>= fun le ↦
        some (⟨lat.1, lon.1, hae.1, ce.1, le.1⟩, le.2) := rfl
  rw [hread]
  exact takes_unpackI32.bind fun latE7 ↦ takes_unpackI32.bind fun lonE7 ↦
    takes_unpackI32.bind fun hae ↦ (Wire.takes_unpack 2).bind fun ce ↦
      (Wire.takes_unpack 2).bind fun le ↦ Takes.pure (Fix.mk latE7 lonE7 hae ce le)

theorem length_packI32 {n : ℤ} {bs : List UInt8} (h : packI32 n = .ok bs) : bs.length = 4 := by
  unfold packI32 at h
  split_ifs at h
  cases h
  exact Wire.length_bigEndian 4 _

/-- The bytes of a position are those of a fix, a callsign and a tier. -/
theorem positionBody_bytes {py : Interpreter} {env : Envelope} {bytes : List UInt8}
    (h : positionBody py env = .ok bytes) :
    ∃ fix callsign tier, fix.length = 16 ∧ Fits callsign ∧
      bytes = fix ++ ((UInt8.ofNat (utf8 callsign).length :: utf8 callsign) ++ [tier]) := by
  obtain ⟨node, -, h⟩ := Py.bind_eq_ok.mp h
  obtain ⟨pos, -, h⟩ := Py.bind_eq_ok.mp h
  obtain ⟨lat, -, h⟩ := Py.bind_eq_ok.mp h
  obtain ⟨lon, -, h⟩ := Py.bind_eq_ok.mp h
  obtain ⟨hae, -, h⟩ := Py.bind_eq_ok.mp h
  obtain ⟨latBytes, hlat, h⟩ := Py.bind_eq_ok.mp h
  obtain ⟨lonBytes, hlon, h⟩ := Py.bind_eq_ok.mp h
  obtain ⟨haeBytes, hhae, h⟩ := Py.bind_eq_ok.mp h
  obtain ⟨ce, -, h⟩ := Py.bind_eq_ok.mp h
  obtain ⟨le, -, h⟩ := Py.bind_eq_ok.mp h
  obtain ⟨callsign, hcallsign, h⟩ := Py.bind_eq_ok.mp h
  obtain ⟨hfits, rfl⟩ := putStr_fits hcallsign
  cases h
  refine ⟨latBytes ++ (lonBytes ++ (haeBytes ++ (bigEndian 2 (clampU16 ce) ++
    bigEndian 2 (clampU16 le)))), _, UInt8.ofNat (tierIndex (py.strOf (Dict.get node "tier"
      (.str NodeTier.user.value)))), ?_, hfits, ?_⟩
  · simp only [List.length_append, length_packI32 hlat, length_packI32 hlon, length_packI32 hhae,
      Wire.length_bigEndian]
  · simp only [List.append_assoc]

/-- A position is missed up to the byte of its tier. -/
theorem refusesCuts_position {py : Interpreter} {env : Envelope} {bytes : List UInt8}
    (h : positionBody py env = .ok bytes) (sourceUid : String) :
    RefusesCuts (readPosition sourceUid) bytes := by
  obtain ⟨w, callsign, tier, hw, hfits, rfl⟩ := positionBody_bytes h
  obtain ⟨fix, hfix⟩ := takes_readFix.full hw
  refine (takes_readFix.refusesCuts _ hw).bind hfix (refusesCuts_putStr hfits ?_ ?_)
  · intro s
    rfl
  · intro q hq
    have hnil : q = [] := List.length_eq_zero_iff.mp (Nat.lt_one_iff.mp hq.length_lt)
    rw [hnil]
    rfl

theorem packBlob_bytes {bs bytes : List UInt8} (h : packBlob bs = .ok bytes) :
    bs.length ≤ 65535 ∧ bytes = bigEndian 2 bs.length ++ bs := by
  unfold packBlob at h
  split_ifs at h with hlength
  cases h
  exact ⟨hlength, rfl⟩

/-- A slice of what is left of a blob. -/
theorem take_cut {bs q : List UInt8} (hq : IsCut q bs) : q.take bs.length = q :=
  List.take_of_length_le hq.length_lt.le

/-- A JSON body is missed: no object text is the start of another. -/
theorem refusesCuts_json {py : Interpreter} {json : JsonReader py} (hjson : json.Rejects)
    {payload : Dict} (hkeys : Py.Json.WellKeyed (.dict payload)) {bytes : List UInt8}
    (h : packBlob (Py.dumpsCompact py (.dict payload)) = .ok bytes) :
    RefusesCuts (readJson json) bytes := by
  obtain ⟨hlength, rfl⟩ := packBlob_bytes h
  refine (refusesCuts_bigEndian 2 _ _).bind (Wire.unpack_bigEndian (by omega)) ?_
  intro q hq
  dsimp only
  rw [take_cut hq]
  cases hs : ofUtf8 q with
  | none => rfl
  | some s => exact hjson.loads_cut hkeys hq.1 hq.2 hs

/-- A chat is missed up to its text. -/
theorem refusesCuts_chat {room : String} (hroom : Fits room) (n : ℕ) :
    RefusesCuts readChat
      ((UInt8.ofNat (utf8 room).length :: utf8 room) ++ bigEndian 2 n) := by
  refine refusesCuts_putStr hroom ?_ (refusesCuts_bigEndian 2 n _)
  intro s
  rfl

/-- The text of a chat is what is left of it. -/
theorem readChat_cut {room : String} (hroom : Fits room) {text q : List UInt8}
    (htext : text.length ≤ 65535) (hq : IsCut q text) :
    readChat ((UInt8.ofNat (utf8 room).length :: utf8 room) ++ (bigEndian 2 text.length ++ q)) =
      (ofUtf8 q).map fun s ↦
        .dict [("text", .str s), ("to", if room = "" then .none else .str room)] := by
  have hlength : text.length < 256 ^ 2 := by omega
  simp only [readChat, getStr_putStr hroom, Wire.unpack_bigEndian hlength, Option.bind_eq_bind,
    Option.bind_some, take_cut hq]
  cases ofUtf8 q <;> rfl

/-! ## Frames -/

section

variable {py : Interpreter} (json : JsonReader py)

theorem readFields_cons (kind : MessageKind) (bs : List UInt8) :
    readFields json (UInt8.ofNat (kinds.idxOf kind) :: bs) =
      unpack 4 bs >>= fun ts ↦ getStr ts.2 >>= fun source ↦ getStr source.2 >>= fun msgId ↦
        readBody json kind source.1 msgId.2 >>= fun payload ↦
          some { kind, ts := ts.1, sourceUid := source.1, msgId := msgId.1, payload } := by
  simp only [readFields, readHeader, List.head?_cons, List.tail_cons, Option.bind_eq_bind,
    Option.bind_some, kinds_idxOf, Option.bind_assoc]

theorem readBody_nil (kind : MessageKind) (sourceUid : String) :
    readBody json kind sourceUid [] = none := by
  cases kind <;> rfl

/-- The header is missed, and with it what of the body is. -/
theorem refusesCuts_fields {env : Envelope} (hsource : Fits env.sourceUid) (hid : Fits env.msgId)
    (ts : ℕ) {w : List UInt8} (hw : RefusesCuts (readBody json env.kind env.sourceUid) w) :
    RefusesCuts (fun q ↦ readFields json (UInt8.ofNat (kinds.idxOf env.kind) :: q))
      (bigEndian 4 ts ++ ((UInt8.ofNat (utf8 env.sourceUid).length :: utf8 env.sourceUid) ++
        ((UInt8.ofNat (utf8 env.msgId).length :: utf8 env.msgId) ++ w))) := by
  have hbody : ∀ ts' id : _, RefusesCuts (fun q ↦ readBody json env.kind env.sourceUid q >>=
      fun payload ↦ some (Fields.mk env.kind ts' env.sourceUid id payload)) w := by
    intro ts' id q hq
    show readBody json env.kind env.sourceUid q >>= _ = none
    rw [hw q hq]
    rfl
  have hnil : ∀ (ts' : ℕ) (source id : String), (readBody json env.kind source [] >>=
      fun payload ↦ some (Fields.mk env.kind ts' source id payload)) = none := by
    intro ts' source id
    rw [readBody_nil]
    rfl
  simp only [readFields_cons]
  obtain ⟨ts', hts⟩ := (Wire.takes_unpack 4).full (Wire.length_bigEndian 4 ts)
  refine (refusesCuts_bigEndian 4 ts _).bind hts ?_
  dsimp only
  refine refusesCuts_putStr hsource ?_ ?_
  · intro source
    rfl
  · dsimp only
    refine refusesCuts_putStr hid ?_ ?_
    · exact hnil ts' env.sourceUid
    · exact hbody ts' env.msgId

end

/-- A `MeshSAError` is raised. -/
def Rejected (r : Except CodecError Envelope) : Prop :=
  ∃ e, r = .error e ∧ (e = .meshSA ∨ e = .incompatibleSchema)

/-- Where the text of a chat begins in its frame. -/
def textStart (env : Envelope) (room : String) : ℕ :=
  11 + (utf8 env.sourceUid).length + (utf8 env.msgId).length + (utf8 room).length

/-- `n` bytes of a chat have the length of its text and end with a character of it. -/
def CutsText (env : Envelope) (n : ℕ) : Prop :=
  env.kind = .chat ∧ ∃ room text, textOf (Dict.getOr env.payload "to" (.str "")) = .ok room ∧
    textOf (Dict.getOr env.payload "text" (.str "")) = .ok text ∧ textStart env room ≤ n ∧
      (ofUtf8 ((utf8 text).take (n - textStart env room))).isSome = true

section

variable {py : Interpreter} {json : JsonReader py} {supported : List ℤ}

theorem rejected_nil : Rejected (decode json supported []) := ⟨.meshSA, rfl, .inl rfl⟩

/-- What is read behind a schema decides, if the schema is supported. -/
theorem rejected_cons {schema : UInt8} {bs : List UInt8}
    (h : (schema.toNat : ℤ) ∈ supported → readFields json bs = none) :
    Rejected (decode json supported (schema :: bs)) := by
  rw [decode]
  by_cases hschema : (schema.toNat : ℤ) ∈ supported
  · rw [if_neg (not_not.mpr hschema), h hschema]
    exact ⟨.meshSA, rfl, .inl rfl⟩
  · rw [if_pos hschema]
    exact ⟨.incompatibleSchema, rfl, .inr rfl⟩

theorem not_rejected_cons {schema : UInt8} {bs : List UInt8} {f : Fields} {d : Dict}
    (hschema : (schema.toNat : ℤ) ∈ supported) (hread : readFields json bs = some f)
    (hpayload : f.payload = .dict d) : ¬Rejected (decode json supported (schema :: bs)) := by
  rintro ⟨e, he, -⟩
  rw [decode_cons hschema hread, Fields.envelope, hpayload] at he
  cases he

theorem toNat_schema (n : ℤ) : ((UInt8.ofNat (n % 256).toNat).toNat : ℤ) = n % 256 := by
  have hnonneg := Int.emod_nonneg n (by decide : (256 : ℤ) ≠ 0)
  have hlt := Int.emod_lt_of_pos n (by decide : (0 : ℤ) < 256)
  have hbyte : (UInt8.ofNat (n % 256).toNat).toNat = (n % 256).toNat :=
    UInt8.toNat_ofNat_of_lt (by change _ < 256; omega)
  rw [hbyte, Int.toNat_of_nonneg hnonneg]

/-- A frame of any other kind than a chat is missed. -/
theorem refusesCuts_body (hjson : json.Rejects) {env : Envelope} {bytes : List UInt8}
    (hkeys : Py.Json.WellKeyed (.dict env.payload)) (hkind : env.kind ≠ .chat)
    (h : body py env = .ok bytes) : RefusesCuts (readBody json env.kind env.sourceUid) bytes := by
  cases hk : env.kind with
  | pli =>
      rw [body, hk] at h
      exact refusesCuts_position h env.sourceUid
  | marker =>
      rw [body, hk] at h
      exact refusesCuts_position h env.sourceUid
  | chat => exact absurd hk hkind
  | status =>
      rw [body, hk] at h
      exact refusesCuts_json hjson hkeys h

theorem chatBody_bytes {env : Envelope} {bytes : List UInt8} (h : chatBody env = .ok bytes) :
    ∃ room text, textOf (Dict.getOr env.payload "to" (.str "")) = .ok room ∧
      textOf (Dict.getOr env.payload "text" (.str "")) = .ok text ∧ Fits room ∧
        (utf8 text).length ≤ 65535 ∧ bytes =
          ((UInt8.ofNat (utf8 room).length :: utf8 room) ++ bigEndian 2 (utf8 text).length) ++
            utf8 text := by
  obtain ⟨room, hroom, h⟩ := Py.bind_eq_ok.mp h
  obtain ⟨roomBytes, hput, h⟩ := Py.bind_eq_ok.mp h
  obtain ⟨text, htext, h⟩ := Py.bind_eq_ok.mp h
  obtain ⟨blob, hblob, h⟩ := Py.bind_eq_ok.mp h
  obtain ⟨hfits, rfl⟩ := putStr_fits hput
  obtain ⟨hlength, rfl⟩ := packBlob_bytes hblob
  cases h
  exact ⟨room, text, hroom, htext, hfits, hlength, (List.append_assoc _ _ _).symm⟩

/-- A chat between its kind and its text. -/
def chatFront (env : Envelope) (ts : ℕ) (room : String) (length : ℕ) : List UInt8 :=
  bigEndian 4 ts ++ ((UInt8.ofNat (utf8 env.sourceUid).length :: utf8 env.sourceUid) ++
    ((UInt8.ofNat (utf8 env.msgId).length :: utf8 env.msgId) ++
      ((UInt8.ofNat (utf8 room).length :: utf8 room) ++ bigEndian 2 length)))

theorem length_chatFront (env : Envelope) (ts : ℕ) (room : String) (length : ℕ) :
    (chatFront env ts room length).length + 2 = textStart env room := by
  simp only [chatFront, textStart, List.length_append, List.length_cons, Wire.length_bigEndian]
  omega

/-- A chat with less than its text. -/
theorem readFields_chat (json : JsonReader py) {env : Envelope} (hsource : Fits env.sourceUid)
    (hid : Fits env.msgId)
    {ts : ℕ} (hts : ts < 2 ^ 32) {room : String} (hroom : Fits room) {text q : List UInt8}
    (htext : text.length ≤ 65535) (hq : IsCut q text) :
    readFields json (UInt8.ofNat (kinds.idxOf .chat) ::
        (chatFront env ts room text.length ++ q)) =
      (ofUtf8 q).map fun s ↦ ⟨.chat, ts, env.sourceUid, env.msgId,
        .dict [("text", .str s), ("to", if room = "" then .none else .str room)]⟩ := by
  have hbytes : ts < 256 ^ 4 := lt_of_lt_of_eq hts (by norm_num)
  have hread := readChat_cut hroom htext hq
  simp only [readFields_cons, chatFront, List.append_assoc, Wire.unpack_bigEndian hbytes,
    getStr_putStr hsource, getStr_putStr hid, readBody, hread, Option.bind_eq_bind,
    Option.bind_some]
  cases ofUtf8 q <;> rfl

/-- A chat is missed if and only if its text is. -/
theorem cutsText_iff {env : Envelope} (hkind : env.kind = .chat) {room text : String}
    (hroom : textOf (Dict.getOr env.payload "to" (.str "")) = .ok room)
    (htext : textOf (Dict.getOr env.payload "text" (.str "")) = .ok text) (n : ℕ) :
    CutsText env n ↔ textStart env room ≤ n ∧
      (ofUtf8 ((utf8 text).take (n - textStart env room))).isSome = true := by
  constructor
  · rintro ⟨-, room', text', hroom', htext', h⟩
    rw [hroom] at hroom'
    rw [htext] at htext'
    cases hroom'
    cases htext'
    exact h
  · intro h
    exact ⟨hkind, room, text, hroom, htext, h⟩

/-- A frame that is a chat if its text is one. -/
theorem rejected_chat_iff {n : ℤ} {bs q : List UInt8} {f : String → Fields}
    (hread : readFields json bs = (ofUtf8 q).map f) (hdict : ∀ s, ∃ d, (f s).payload = .dict d) :
    Rejected (decode json supported (UInt8.ofNat (n % 256).toNat :: bs)) ↔
      ¬(n % 256 ∈ supported ∧ (ofUtf8 q).isSome = true) := by
  cases hs : ofUtf8 q with
  | none =>
      rw [hs] at hread
      refine iff_of_true (rejected_cons fun _ ↦ hread) ?_
      rintro ⟨-, hsome⟩
      cases hsome
  | some s =>
      rw [hs] at hread
      by_cases hschema : n % 256 ∈ supported
      · obtain ⟨d, hd⟩ := hdict s
        refine iff_of_false (not_rejected_cons (by rwa [toNat_schema]) hread hd) ?_
        exact not_not.mpr ⟨hschema, rfl⟩
      · refine iff_of_true (rejected_cons fun hbyte ↦ ?_) fun hcuts ↦ hschema hcuts.1
        rw [toNat_schema] at hbyte
        exact absurd hbyte hschema

/-- A chat that is cut short. -/
theorem chat_rejected_iff {env : Envelope} {bytes p : List UInt8} (hkind : env.kind = .chat)
    (h : encode py env = .ok bytes) (hp : IsCut p bytes) :
    Rejected (decode json supported p) ↔
      ¬(env.schemaVersion % 256 ∈ supported ∧ CutsText env p.length) := by
  obtain ⟨ts, body', hbody, hsource, hid, rfl⟩ := encode_eq_ok h
  rw [body, hkind] at hbody
  obtain ⟨room, text, hroom, htext, hroomFits, hlength, rfl⟩ := chatBody_bytes hbody
  rw [cutsText_iff hkind hroom htext]
  have hstart := length_chatFront env (toUnsigned 32 ts) room (utf8 text).length
  have hsplit : bigEndian 4 (toUnsigned 32 ts) ++
      ((UInt8.ofNat (utf8 env.sourceUid).length :: utf8 env.sourceUid) ++
        ((UInt8.ofNat (utf8 env.msgId).length :: utf8 env.msgId) ++
          ((UInt8.ofNat (utf8 room).length :: utf8 room) ++ bigEndian 2 (utf8 text).length ++
            utf8 text))) =
      chatFront env (toUnsigned 32 ts) room (utf8 text).length ++ utf8 text := by
    simp only [chatFront, List.append_assoc]
  rw [hsplit] at hp
  have hshort : ∀ {q : List UInt8}, q.length < textStart env room →
      ¬(env.schemaVersion % 256 ∈ supported ∧ textStart env room ≤ q.length ∧
        (ofUtf8 ((utf8 text).take (q.length - textStart env room))).isSome = true) := by
    rintro q hlt ⟨-, hle, -⟩
    omega
  rcases hp.cons_cases with rfl | ⟨p₁, rfl, hp₁⟩
  · exact iff_of_true rejected_nil (hshort (by rw [List.length_nil]; omega))
  rcases hp₁.cons_cases with rfl | ⟨p₂, rfl, hp₂⟩
  · exact iff_of_true (rejected_cons fun _ ↦ rfl) (hshort (by rw [List.length_singleton]; omega))
  rcases hp₂.append_cases with hfront | ⟨q, rfl, hq⟩
  · have hbody : RefusesCuts (readBody json env.kind env.sourceUid)
        ((UInt8.ofNat (utf8 room).length :: utf8 room) ++ bigEndian 2 (utf8 text).length) := by
      rw [hkind]
      exact refusesCuts_chat hroomFits _
    have hrefuse := refusesCuts_fields json hsource hid (toUnsigned 32 ts) hbody
    have hlt : p₂.length < _ := hfront.length_lt
    refine iff_of_true (rejected_cons fun _ ↦ hrefuse p₂ hfront) (hshort ?_)
    rw [List.length_cons, List.length_cons]
    omega
  · have hread := readFields_chat json hsource hid (Wire.toUnsigned_lt 32 ts) hroomFits
      hlength hq
    have htake : (utf8 text).take ((chatFront env (toUnsigned 32 ts) room (utf8 text).length).length +
        q.length + 1 + 1 - textStart env room) = q := by
      rw [← hstart, (by omega : ∀ a b : ℕ, a + b + 1 + 1 - (a + 2) = b)]
      exact (List.prefix_iff_eq_take.mp hq.1).symm
    rw [hkind, List.length_cons, List.length_cons, List.length_append, htake,
      rejected_chat_iff hread fun s ↦ ⟨_, rfl⟩]
    have hle : textStart env room ≤ (chatFront env (toUnsigned 32 ts) room
        (utf8 text).length).length + q.length + 1 + 1 := by omega
    simp only [hle, true_and]

/-- **Truncation.**  A frame that loses its tail is rejected, unless it is a chat cut behind
a character of its text. -/
theorem truncated_rejected_iff (hjson : json.Rejects) {env : Envelope} {bytes p : List UInt8}
    (hkeys : Py.Json.WellKeyed (.dict env.payload))
    (h : (compactCodec py json supported).encode env = .ok bytes) (hp : p <+: bytes)
    (hne : p ≠ bytes) :
    Rejected ((compactCodec py json supported).decode p) ↔
      ¬(env.schemaVersion % 256 ∈ supported ∧ CutsText env p.length) := by
  have hcut : IsCut p bytes := ⟨hp, hne⟩
  have henc : encode py env = .ok bytes := h
  show Rejected (decode json supported p) ↔ _
  by_cases hkind : env.kind = .chat
  · exact chat_rejected_iff hkind henc hcut
  · refine iff_of_true ?_ fun hcuts ↦ hkind hcuts.2.1
    obtain ⟨ts, body', hbody, hsource, hid, rfl⟩ := encode_eq_ok henc
    have hrefuse := refusesCuts_fields json hsource hid (toUnsigned 32 ts)
      (refusesCuts_body hjson hkeys hkind hbody)
    rcases hcut.cons_cases with rfl | ⟨p₁, rfl, hp₁⟩
    · exact rejected_nil
    rcases hp₁.cons_cases with rfl | ⟨p₂, rfl, hp₂⟩
    · exact rejected_cons fun _ ↦ rfl
    · exact rejected_cons fun _ ↦ hrefuse p₂ hp₂

end

/-- A chat with the text `hello`. -/
def hello : Envelope where
  msgId := "m"
  ts := .fin 0
  sourceUid := "u"
  kind := .chat
  payload := [("text", .str "hello"), ("to", .none)]

/-- Its frame up to the text. -/
def helloFront : List UInt8 := [1, 1, 0, 0, 0, 0, 1, 117, 1, 109, 0, 0, 5]

theorem encode_hello : (compactCodec Interpreter.plain JsonReader.plain).encode hello =
    .ok (helloFront ++ [104, 101, 108, 108, 111]) := rfl

theorem truncated_rejected_hello :
    Rejected ((compactCodec Interpreter.plain JsonReader.plain).decode (helloFront ++ [104, 101])) ↔
      ¬(hello.schemaVersion % 256 ∈ supportedSchemas ∧
        CutsText hello (helloFront ++ [104, 101]).length) :=
  truncated_rejected_iff JsonReader.rejects_plain ⟨by decide, trivial, trivial, trivial⟩
    encode_hello ⟨[108, 108, 111], rfl⟩ (by decide)

/-- The frame cut behind `he` is a chat with that text. -/
theorem hello_cut_short :
    (compactCodec Interpreter.plain JsonReader.plain).encode hello =
        .ok (helloFront ++ [104, 101, 108, 108, 111]) ∧
      helloFront ++ [104, 101] <+: helloFront ++ [104, 101, 108, 108, 111] ∧
      helloFront ++ [104, 101] ≠ helloFront ++ [104, 101, 108, 108, 111] ∧
      (compactCodec Interpreter.plain JsonReader.plain).decode (helloFront ++ [104, 101]) =
        .ok { hello with payload := [("text", .str "he"), ("to", .none)] } :=
  ⟨encode_hello, ⟨[108, 108, 111], rfl⟩, by decide, rfl⟩

end Compact

end DroneComms.Mesh
