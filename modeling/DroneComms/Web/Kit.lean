import DroneComms.Lib.Purging
import DroneComms.Py.Value
import DroneComms.Transports.MavlinkSource

/-!
# The shared kit of the HTTP services

`authorize` of `meshsa/netauth.py`, and what the app factories share in `meshsa/_web.py`.  A
request comes from `aiohttp` with the route it was matched to; a response is what the handler
returns, before the framework writes it.  What is presented as a token need not be UTF-8, and
`authorize` raises where it is not; the tokens of the services are text.
-/

namespace DroneComms.Web

open Py (Value)

/-! ## Text from the wire -/

/-- A character of what `aiohttp` decodes as UTF-8 with `surrogateescape`: a byte that is no
UTF-8 becomes a lone surrogate, U+DC80 and up. -/
inductive WireChar where
  | char (c : Char)
  | escaped (byte : Fin 128)
deriving DecidableEq

abbrev WireText := List WireChar

/-- Text without such bytes. -/
def wireText (cs : List Char) : WireText := cs.map .char

namespace WireChar

def isWhitespace : WireChar → Bool
  | char c => Py.isWhitespace c
  | escaped _ => false

/-- `lower()`, where it matters: only ASCII letters have a lower case in `bearer`. -/
def lower : WireChar → WireChar
  | char c => char c.toLower
  | escaped byte => escaped byte

/-- A surrogate has no UTF-8 encoding. -/
def encode : WireChar → Option Char
  | char c => some c
  | escaped _ => none

end WireChar

/-- `s.strip()` -/
def stripWire (text : WireText) : WireText :=
  (text.dropWhile WireChar.isWhitespace).rdropWhile WireChar.isWhitespace

/-- `s.encode("utf-8")`, as the text that is encoded; `none` for a `UnicodeEncodeError`. -/
def encodeWire (text : WireText) : Option (List Char) := text.mapM WireChar.encode

/-- A request, matched to a route. -/
structure Request (ρ : Type) where
  route : ρ
  /-- The header `Authorization`. -/
  authorization : Option WireText
  /-- The query parameter `token`. -/
  queryToken : Option WireText
  /-- What `await request.json()` returns, unless it raises. -/
  json : Option Value

inductive Body where
  | json (v : Value)
  | text (contentType : String) (text : List Char)

structure Response where
  status : ℕ := 200
  body : Body
  /-- `Cache-Control: no-store` -/
  noStore : Bool := false
  /-- `WWW-Authenticate` -/
  challenge : Option String := none

/-- `scheme.lower() == "bearer"` -/
def isBearer (scheme : WireText) : Bool := scheme.map WireChar.lower = wireText "bearer".toList

/-- `authorize`, with `none` for the `UnicodeEncodeError` that what is presented may raise. -/
def authorize (token : Option String) (authHeader : Option WireText) : Option Bool :=
  match token, authHeader with
  | none, _ => some true
  | some token, header =>
      if token = "" then some true
      else
        let (scheme, rest) := (header.getD []).span (· ≠ .char ' ')
        let presented := rest.tail
        if isBearer scheme && presented ≠ [] then
          (encodeWire (stripWire presented)).map (· = token.toList)
        else some false

/-- `normalize_token`. -/
def normalizeToken (token : Option String) : Option String :=
  token.bind fun token ↦
    let stripped := Py.strip token.toList
    if stripped = [] then none else some (String.ofList stripped)

/-- `ServiceAuth`. -/
structure ServiceAuth where
  service : String
  token : Option String

namespace ServiceAuth

variable (auth : ServiceAuth)

/-- `challenge`. -/
def challenge : String := "Bearer realm=\"" ++ auth.service ++ "\""

/-- `allows`. -/
def allows (authHeader : Option WireText) : Option Bool := authorize auth.token authHeader

/-- `allows_query_token`. -/
def allowsQueryToken (presented : Option WireText) : Option Bool :=
  authorize auth.token (some (wireText "Bearer ".toList ++ presented.getD []))

/-- `unauthorized`: the body is `UNAUTHORIZED_BODY`. -/
def unauthorized : Response where
  status := 401
  body := .json (.dict [("error", .str "unauthorized")])
  noStore := true
  challenge := some auth.challenge

end ServiceAuth

/-- `api_json`. -/
def apiJson (body : Value) (status : ℕ := 200) : Response where
  status := status
  body := .json body
  noStore := true

/-- `text_body`. -/
def textBody (contentType : String) (text : List Char) : Response where
  body := .text contentType text
  noStore := true

/-- `html_page`. -/
def htmlPage (page : List Char) : Response := textBody "text/html" page

/-- `healthz`. -/
def healthz : Response where
  body := .json (.dict [("status", .str "ok")])

/-- The response of the framework to a handler that raises. -/
def serverError : Response where
  status := 500
  body := .text "text/plain" "500 Internal Server Error".toList

/-! ## Apps -/

/-- What stands in front of a handler. -/
inductive Gate where
  | /-- Nothing. -/ free
  | /-- `guarded` -/ bearer
  | /-- `page_token_gate` -/ page
deriving DecidableEq

/-- What an app factory builds: a table of routes whose handlers share a state. -/
structure App (σ ρ : Type) where
  auth : ServiceAuth
  gate : ρ → Gate
  handler : σ → Request ρ → σ × Response

namespace App

variable {σ ρ : Type} (app : App σ ρ)

/-- Whether the gate of its route lets a request pass, unless it raises. -/
def passes (r : Request ρ) : Option Bool :=
  match app.gate r.route with
  | .free => some true
  | .bearer => app.auth.allows r.authorization
  | .page => app.auth.allowsQueryToken r.queryToken

/-- The requests that get past the gate. -/
def Admitted (r : Request ρ) : Prop := app.passes r = some true

instance : DecidablePred app.Admitted := fun _ ↦ inferInstanceAs (Decidable (_ = _))

/-- A request, behind the gate of its route. -/
def handle (s : σ) (r : Request ρ) : σ × Response :=
  match app.passes r with
  | none => (s, serverError)
  | some true => app.handler s r
  | some false => (s, app.auth.unauthorized)

theorem handle_of_admitted (s : σ) {r : Request ρ} (h : app.Admitted r) :
    app.handle s r = app.handler s r := by
  rw [handle, show app.passes r = some true from h]

/-- What a request that is not admitted is told. -/
def refusal (r : Request ρ) : Response :=
  match app.passes r with
  | none => serverError
  | some _ => app.auth.unauthorized

/-- Whoever is not let in is not heard. -/
theorem refuses : Purging.Refuses app.handle app.Admitted app.refusal := by
  intro s r hr
  unfold handle refusal
  cases hpasses : app.passes r with
  | none => rfl
  | some passed =>
      cases passed with
      | true => exact absurd hpasses hr
      | false => rfl

end App

/-! ## Who is let in -/

/-- A header with the scheme of a bearer token, and what it presents behind it. -/
def Bears (authHeader : Option WireText) (presented : WireText) : Prop :=
  ∃ scheme, authHeader = some (scheme ++ .char ' ' :: presented) ∧ isBearer scheme = true

/-- A header that presents a token. -/
def Presents (authHeader : Option WireText) (token : List Char) : Prop :=
  ∃ presented, Bears authHeader presented ∧ stripWire presented = wireText token

/-- A header that presents something else than UTF-8. -/
def Garbled (authHeader : Option WireText) : Prop :=
  ∃ presented, Bears authHeader presented ∧ ∃ byte, .escaped byte ∈ presented

theorem not_space_of_isBearer {scheme : WireText} (h : isBearer scheme = true) :
    ∀ c ∈ scheme, decide (c ≠ .char ' ') = true := by
  intro c hc
  have hlower : c.lower ∈ wireText "bearer".toList := by
    rw [← of_decide_eq_true h]
    exact List.mem_map_of_mem hc
  refine decide_eq_true ?_
  rintro rfl
  exact absurd hlower (by decide)

/-- What stands behind the first space of a header. -/
theorem bears_iff {scheme presented text : WireText} (hscheme : isBearer scheme = true) :
    Bears (some (scheme ++ .char ' ' :: text)) presented ↔ presented = text := by
  constructor
  · rintro ⟨scheme', heq, hscheme'⟩
    have htake := congrArg (List.takeWhile fun c ↦ decide (c ≠ WireChar.char ' ')) (Option.some.inj heq)
    rw [List.takeWhile_append_of_pos (not_space_of_isBearer hscheme),
      List.takeWhile_append_of_pos (not_space_of_isBearer hscheme')] at htake
    obtain rfl : scheme = scheme' := by simpa using htake
    exact (List.cons_eq_cons.mp (List.append_cancel_left (Option.some.inj heq))).2.symm
  · rintro rfl
    exact ⟨scheme, rfl, hscheme⟩

/-- A header is one of a bearer token, or `authorize` reads none. -/
theorem authorize_cases {token : String} (htoken : token ≠ "") (authHeader : Option WireText) :
    (∃ presented, Bears authHeader presented ∧ authorize (some token) authHeader =
        if presented = [] then some false
        else (encodeWire (stripWire presented)).map (· = token.toList)) ∨
      (∀ presented, ¬ Bears authHeader presented) ∧ authorize (some token) authHeader = some false := by
  by_cases h : ∃ presented, Bears authHeader presented
  · obtain ⟨presented, scheme, rfl, hscheme⟩ := h
    refine .inl ⟨presented, ⟨scheme, rfl, hscheme⟩, ?_⟩
    have hspace := not_space_of_isBearer hscheme
    simp only [authorize, if_neg htoken, List.span_eq_takeWhile_dropWhile, Option.getD_some,
      List.takeWhile_append_of_pos hspace, List.dropWhile_append_of_pos hspace]
    by_cases hpresented : presented = []
    · simp [hpresented]
    · simp [hpresented, hscheme]
  · have hnone : ∀ presented, ¬ Bears authHeader presented := not_exists.mp h
    refine .inr ⟨hnone, ?_⟩
    simp only [authorize, if_neg htoken, List.span_eq_takeWhile_dropWhile]
    refine if_neg fun hbearer ↦ ?_
    obtain ⟨hscheme, hpresented⟩ := Bool.and_eq_true_iff.mp hbearer
    cases authHeader with
    | none => exact absurd hscheme (by decide)
    | some header =>
        rw [Option.getD_some] at hscheme hpresented
        cases hrest : header.dropWhile fun c ↦ decide (c ≠ .char ' ') with
        | nil =>
            rw [hrest] at hpresented
            cases hpresented
        | cons c presented =>
            obtain rfl : c = .char ' ' := by
              have hhead := List.head?_dropWhile_not (fun c ↦ decide (c ≠ WireChar.char ' ')) header
              rw [hrest] at hhead
              simpa using hhead
            refine hnone presented ⟨_, ?_, hscheme⟩
            rw [← hrest, List.takeWhile_append_dropWhile]

/-! ### What is encoded -/

theorem encodeWire_eq_some {text : WireText} {cs : List Char} :
    encodeWire text = some cs ↔ text = wireText cs := by
  unfold encodeWire
  induction text generalizing cs with
  | nil => cases cs <;> simp [wireText]
  | cons c text ih =>
      cases c with
      | escaped byte =>
          refine iff_of_false nofun fun h ↦ ?_
          cases cs <;> cases h
      | char c =>
          rw [List.mapM_cons]
          show (List.mapM WireChar.encode text).bind (fun ds ↦ some (c :: ds)) = some cs ↔ _
          rw [Option.bind_eq_some_iff]
          constructor
          · rintro ⟨ds, hds, heq⟩
            cases heq
            rw [ih.mp hds]
            rfl
          · intro h
            cases cs with
            | nil => cases h
            | cons d ds =>
                obtain ⟨hc, htext⟩ := List.cons_eq_cons.mp h
                cases hc
                exact ⟨ds, ih.mpr htext, rfl⟩

/-- Only text is without surrogates. -/
theorem exists_wireText {text : WireText} (h : ∀ byte, .escaped byte ∉ text) :
    ∃ cs, text = wireText cs := by
  induction text with
  | nil => exact ⟨[], rfl⟩
  | cons c text ih =>
      obtain ⟨cs, rfl⟩ := ih fun byte hmem ↦ h byte (List.mem_cons_of_mem c hmem)
      cases c with
      | char d => exact ⟨d :: cs, rfl⟩
      | escaped byte => exact absurd List.mem_cons_self (h byte)

/-- A surrogate is no blank. -/
theorem escaped_mem_stripWire {text : WireText} {byte : Fin 128} :
    .escaped byte ∈ stripWire text ↔ .escaped byte ∈ text := by
  constructor
  · exact fun h ↦ (List.dropWhile_suffix _).subset ((List.rdropWhile_prefix _ _).subset h)
  · intro hmem
    have hfront : WireChar.escaped byte ∈ text.dropWhile WireChar.isWhitespace := by
      rw [← List.takeWhile_append_dropWhile (p := WireChar.isWhitespace) (l := text)] at hmem
      rcases List.mem_append.mp hmem with hmem | hmem
      · cases List.mem_takeWhile_imp hmem
      · exact hmem
    rw [← List.rdropWhile_append_rtakeWhile (p := WireChar.isWhitespace)
      (l := text.dropWhile WireChar.isWhitespace)] at hfront
    rcases List.mem_append.mp hfront with hfront | hfront
    · exact hfront
    · cases List.mem_rtakeWhile_imp hfront

/-- What is stripped cannot be encoded if there is a surrogate in it. -/
theorem encodeWire_stripWire_eq_none {text : WireText} :
    encodeWire (stripWire text) = none ↔ ∃ byte, .escaped byte ∈ text := by
  rw [exists_congr fun byte ↦ escaped_mem_stripWire.symm]
  constructor
  · intro h
    by_contra hnone
    obtain ⟨cs, hcs⟩ := exists_wireText (not_exists.mp hnone)
    rw [encodeWire_eq_some.mpr hcs] at h
    cases h
  · rintro ⟨byte, hmem⟩
    refine Option.eq_none_iff_forall_ne_some.mpr fun cs hcs ↦ ?_
    rw [encodeWire_eq_some.mp hcs] at hmem
    obtain ⟨c, -, hc⟩ := List.mem_map.mp hmem
    cases hc

/-! ### The gates -/

/-- A request is let in by a token that is set exactly if it presents it, and the gate raises
exactly if what is presented is not UTF-8. -/
theorem authorize_iff {token : String} (htoken : token ≠ "") (authHeader : Option WireText) :
    (authorize (some token) authHeader = some true ↔ Presents authHeader token.toList) ∧
      (authorize (some token) authHeader = none ↔ Garbled authHeader) := by
  have hchars : token.toList ≠ [] := fun hnil ↦ htoken (String.toList_eq_nil_iff.mp hnil)
  rcases authorize_cases htoken authHeader with ⟨presented, hbears, heq⟩ | ⟨hnone, heq⟩
  · obtain ⟨scheme, rfl, hscheme⟩ := hbears
    have hpresents : Presents (some (scheme ++ .char ' ' :: presented)) token.toList ↔
        stripWire presented = wireText token.toList := by
      refine ⟨?_, fun h ↦ ⟨presented, ⟨scheme, rfl, hscheme⟩, h⟩⟩
      rintro ⟨presented', hbears, hstrip⟩
      rwa [(bears_iff hscheme).mp hbears] at hstrip
    have hgarbled : Garbled (some (scheme ++ .char ' ' :: presented)) ↔
        ∃ byte, .escaped byte ∈ presented := by
      refine ⟨?_, fun h ↦ ⟨presented, ⟨scheme, rfl, hscheme⟩, h⟩⟩
      rintro ⟨presented', hbears, hbyte⟩
      rwa [(bears_iff hscheme).mp hbears] at hbyte
    rw [heq, hpresents, hgarbled]
    by_cases hpresented : presented = []
    · subst hpresented
      refine ⟨iff_of_false (by simp) fun h ↦ hchars ?_, by simp⟩
      exact (List.map_eq_nil_iff.mp h.symm)
    · rw [if_neg hpresented, Option.map_eq_some_iff, Option.map_eq_none_iff,
        encodeWire_stripWire_eq_none]
      refine ⟨⟨?_, fun h ↦ ⟨_, encodeWire_eq_some.mpr h, decide_eq_true rfl⟩⟩, Iff.rfl⟩
      rintro ⟨cs, hcs, htrue⟩
      rw [← of_decide_eq_true htrue]
      exact encodeWire_eq_some.mp hcs
  · rw [heq]
    refine ⟨iff_of_false (by simp) ?_, iff_of_false (by simp) ?_⟩
    · exact fun ⟨presented, hbears, _⟩ ↦ hnone presented hbears
    · exact fun ⟨presented, hbears, _⟩ ↦ hnone presented hbears

/-- The text that `allows_query_token` puts behind the scheme is what it presents. -/
theorem bears_query {query presented : WireText} :
    Bears (some (wireText "Bearer ".toList ++ query)) presented ↔ presented = query := by
  have hbearer : isBearer (wireText "Bearer".toList) = true := by decide
  exact bears_iff hbearer

/-- Stripping twice is stripping once. -/
theorem rdropWhile_dropWhile_idem {α : Type*} (p : α → Bool) (l : List α) :
    (((l.dropWhile p).rdropWhile p).dropWhile p).rdropWhile p = (l.dropWhile p).rdropWhile p := by
  have hself : ((l.dropWhile p).rdropWhile p).dropWhile p = (l.dropWhile p).rdropWhile p := by
    cases hstrip : (l.dropWhile p).rdropWhile p with
    | nil => rfl
    | cons c stripped =>
        -- what is stripped at the end leaves the first character as it is
        obtain ⟨back, hback⟩ := List.rdropWhile_prefix p (l.dropWhile p)
        rw [hstrip] at hback
        have hhead := List.head?_dropWhile_not p l
        rw [← hback, List.cons_append, List.head?_cons] at hhead
        exact List.dropWhile_cons_of_neg (by simpa using hhead)
  rw [hself, List.rdropWhile_idempotent]

theorem strip_strip (cs : List Char) : Py.strip (Py.strip cs) = Py.strip cs :=
  rdropWhile_dropWhile_idem Py.isWhitespace cs

theorem stripWire_stripWire (text : WireText) : stripWire (stripWire text) = stripWire text :=
  rdropWhile_dropWhile_idem WireChar.isWhitespace text

/-- Text is stripped as text. -/
theorem stripWire_wireText (cs : List Char) : stripWire (wireText cs) = wireText (Py.strip cs) := by
  have hcomp : WireChar.isWhitespace ∘ WireChar.char = Py.isWhitespace := rfl
  simp only [stripWire, wireText, Py.strip, List.rdropWhile, List.dropWhile_map, hcomp,
    ← List.map_reverse]

theorem wireText_injective : Function.Injective wireText :=
  List.map_injective_iff.mpr fun _ _ h ↦ WireChar.char.inj h

theorem length_strip_le (cs : List Char) : (Py.strip cs).length ≤ cs.length :=
  (List.rdropWhile_prefix Py.isWhitespace _).length_le.trans
    (List.dropWhile_suffix Py.isWhitespace).length_le

/-- What the gates of a service whose token is set let in: a header or a query that presents the
token, behind any spelling of the scheme and with any blanks around.  Nothing presents a token
that has blanks around itself, and the gates raise where what is presented is not UTF-8. -/
theorem gate_iff {token : String} (htoken : token ≠ "") (service : String) :
    (∀ header, (ServiceAuth.mk service (some token)).allows header = some true ↔
      Presents header token.toList) ∧
    (∀ query, (ServiceAuth.mk service (some token)).allowsQueryToken query = some true ↔
      stripWire (query.getD []) = wireText token.toList) ∧
    (∀ header, (ServiceAuth.mk service (some token)).allows header = none ↔ Garbled header) ∧
    (∀ query, (ServiceAuth.mk service (some token)).allowsQueryToken query = none ↔
      ∃ byte, .escaped byte ∈ query.getD []) := by
  refine ⟨fun header ↦ (authorize_iff htoken header).1, fun query ↦ ?_,
    fun header ↦ (authorize_iff htoken header).2, fun query ↦ ?_⟩
  · rw [ServiceAuth.allowsQueryToken, (authorize_iff htoken _).1]
    exact ⟨fun ⟨_, hbears, hstrip⟩ ↦ bears_query.mp hbears ▸ hstrip,
      fun hstrip ↦ ⟨_, bears_query.mpr rfl, hstrip⟩⟩
  · rw [ServiceAuth.allowsQueryToken, (authorize_iff htoken _).2]
    exact ⟨fun ⟨_, hbears, hbyte⟩ ↦ bears_query.mp hbears ▸ hbyte,
      fun hbyte ↦ ⟨_, bears_query.mpr rfl, hbyte⟩⟩

/-- What is stripped has no blanks around it. -/
theorem strip_eq_of_stripWire {presented : WireText} {token : List Char}
    (h : stripWire presented = wireText token) : Py.strip token = token := by
  apply wireText_injective
  rw [← stripWire_wireText, ← h, stripWire_stripWire]

/-- A request that shows a token at a gate. -/
def Request.Shows {ρ : Type} (r : Request ρ) (token : String) : Gate → Prop
  | .free => True
  | .bearer => Presents r.authorization token.toList
  | .page => stripWire (r.queryToken.getD []) = wireText token.toList

/-- A request that presents something else than UTF-8 at a gate. -/
def Request.Garbled {ρ : Type} (r : Request ρ) : Gate → Prop
  | .free => False
  | .bearer => Web.Garbled r.authorization
  | .page => ∃ byte, .escaped byte ∈ r.queryToken.getD []

/-- The token of an app is what its gates ask for, and they raise for a garbled one. -/
theorem App.passes_iff {σ ρ : Type} {app : App σ ρ} {token : String}
    (hauth : app.auth.token = some token) (htoken : token ≠ "") (r : Request ρ) :
    (app.Admitted r ↔ r.Shows token (app.gate r.route)) ∧
      (app.passes r = none ↔ r.Garbled (app.gate r.route)) := by
  obtain ⟨hallows, hquery, hgarbled, hgarbledQuery⟩ := gate_iff htoken app.auth.service
  have heq : app.auth = ⟨app.auth.service, some token⟩ := by
    rw [← hauth]
  unfold App.Admitted App.passes Request.Shows Request.Garbled
  rw [heq]
  cases app.gate r.route with
  | free => exact ⟨iff_of_true rfl trivial, iff_of_false nofun id⟩
  | bearer => exact ⟨hallows r.authorization, hgarbled r.authorization⟩
  | page => exact ⟨hquery r.queryToken, hgarbledQuery r.queryToken⟩

open scoped Classical in
/-- A request that is not admitted is told the one 401, or 500 where the gate raises. -/
theorem App.refusal_eq {σ ρ : Type} {app : App σ ρ} {token : String}
    (hauth : app.auth.token = some token) (htoken : token ≠ "") (r : Request ρ) :
    app.refusal r =
      if r.Garbled (app.gate r.route) then serverError else app.auth.unauthorized := by
  unfold refusal
  cases hpasses : app.passes r with
  | none => rw [if_pos ((app.passes_iff hauth htoken r).2.mp hpasses)]
  | some passed =>
      rw [if_neg fun hgarbled ↦ ?_]
      rw [(app.passes_iff hauth htoken r).2.mpr hgarbled] at hpasses
      cases hpasses

end DroneComms.Web
