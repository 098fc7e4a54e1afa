import DroneComms.Py.TextFile
import DroneComms.Transports.PollingSource

/-!
# The bind of a MAVLink source

`is_loopback` and `validate_bind` of `meshsa/netauth.py`, and the construction of
`MavlinkSourceTransport` (`meshsa/transports/mavlink_source.py`), which looks for a
host in its endpoint and lets the bind pass where it finds none.

pymavlink reads the endpoint on its own: `BindsTo` is how it does.
-/

namespace DroneComms.Transports

/-! ## Binds -/

/-- `_LOOPBACK_HOSTS`. -/
def loopbackHosts : List String := ["127.0.0.1", "::1", "localhost"]

/-- `is_loopback`.  Only ASCII letters have a lower case in one of the three names. -/
def isLoopback (host : List Char) : Bool :=
  loopbackHosts.any fun h ↦ h.toList = (Py.strip host).map Char.toLower

/-- The `ValueError` of `validate_bind`. -/
structure BindRefused where
  service : String
  host : List Char
  remedy : String
deriving DecidableEq

/-- A token that is `None` or empty is none. -/
def hasToken (token : Option String) : Bool := token.any (· ≠ "")

/-- `validate_bind`. -/
def validateBind (host : List Char) (token : Option String) (service remedy : String) :
    Except BindRefused Unit :=
  if !isLoopback host && !hasToken token then .error { service, host, remedy } else .ok ()

/-! ## Endpoints -/

/-- A text without the first of some prefixes that it has. -/
def withoutPrefix : List String → List Char → List Char
  | [], spec => spec
  | p :: ps, spec => (p.toList.isPrefixOf? spec).getD (withoutPrefix ps spec)

/-- The prefixes that `_extract_endpoint_host` knows. -/
def endpointPrefixes : List String := ["udpin:", "udpout:", "tcpin:", "tcpout:", "udp:", "tcp:"]

/-- `_extract_endpoint_host`. -/
def extractEndpointHost (endpoint : List Char) : Option (List Char) :=
  if endpoint = [] then none
  else match (withoutPrefix endpointPrefixes endpoint).span (· ≠ ':') with
    | (host, _ :: _) => if host = [] then none else some host
    | (_, []) => none

/-- `DEFAULT_MAVLINK_ENDPOINT`. -/
def defaultMavlinkEndpoint : String := "udpin:127.0.0.1:14550"

/-- The options of a MAVLink source that decide on its link. -/
structure MavlinkOptions where
  sourceUid : String := "mav-1"
  callsign : Option String := none
  endpoint : String := defaultMavlinkEndpoint
  token : Option String := none

/-- `MavlinkSourceTransport.__init__`. -/
def mavlinkSource (o : MavlinkOptions) : Except BindRefused PollingSource := do
  match extractEndpointHost o.endpoint.toList with
  | some host =>
      validateBind host o.token "the MAVLink source transport"
        "set 'token' in transport options or bind to loopback (127.0.0.1)"
  | none => pure ()
  return .init o.sourceUid o.callsign

/-! ## What pymavlink binds to -/

/-- The prefixes of an endpoint that is listened on. -/
def listenPrefixes : List String := ["udpin:", "tcpin:", "udp:"]

/-- An endpoint without a listening prefix is a host and a port. -/
def BindsTo (endpoint host : List Char) : Prop :=
  ∃ port, withoutPrefix listenPrefixes endpoint = host ++ ':' :: port ∧ ':' ∉ host ∧ ':' ∉ port

/-- An endpoint that begins like that of a link which is not listened on. -/
def Outbound (endpoint : List Char) : Prop :=
  ∃ p ∈ ["udpout:", "tcpout:", "tcp:"], p.toList <+: endpoint

/-- Without a token a source on an endpoint is only constructed if the host is a
loopback host. -/
def BindsLoopback (endpoint host : List Char) : Prop :=
  ∀ o s, o.endpoint.toList = endpoint → hasToken o.token = false → mavlinkSource o = .ok s →
    isLoopback host = true

/-! ## The two readings of an endpoint -/

theorem withoutPrefix_of_not {p : String} {ps : List String} {spec : List Char}
    (h : ¬p.toList <+: spec) : withoutPrefix (p :: ps) spec = withoutPrefix ps spec := by
  have hnone : p.toList.isPrefixOf? spec = none := by
    rw [Option.eq_none_iff_forall_ne_some]
    intro rest hrest
    exact h ⟨rest, List.isPrefixOf?_eq_some_iff_append_eq.mp hrest⟩
  rw [withoutPrefix, hnone, Option.getD_none]

theorem withoutPrefix_of_prefix {p q : String} {ps qs : List String} {spec : List Char}
    (hp : p = q) (h : withoutPrefix ps spec = withoutPrefix qs spec) :
    withoutPrefix (p :: ps) spec = withoutPrefix (q :: qs) spec := by
  rw [withoutPrefix, withoutPrefix, hp, h]

/-- On any other endpoint the code strips what pymavlink does. -/
theorem withoutPrefix_of_not_outbound {endpoint : List Char} (h : ¬Outbound endpoint) :
    withoutPrefix endpointPrefixes endpoint = withoutPrefix listenPrefixes endpoint := by
  have hnot : ∀ p ∈ ["udpout:", "tcpout:", "tcp:"], ¬p.toList <+: endpoint :=
    fun p hp hpre ↦ h ⟨p, hp, hpre⟩
  apply withoutPrefix_of_prefix rfl
  rw [withoutPrefix_of_not (hnot "udpout:" (by simp))]
  apply withoutPrefix_of_prefix rfl
  rw [withoutPrefix_of_not (hnot "tcpout:" (by simp))]
  apply withoutPrefix_of_prefix rfl
  exact withoutPrefix_of_not (hnot "tcp:" (by simp))

/-- The host in front of the first colon. -/
theorem extractEndpointHost_eq {endpoint host port : List Char}
    (h : withoutPrefix endpointPrefixes endpoint = host ++ ':' :: port) (hhost : ':' ∉ host) :
    extractEndpointHost endpoint = if host = [] then none else some host := by
  have hne : endpoint ≠ [] := by
    rintro rfl
    cases host <;> cases h
  have hspan : (host ++ ':' :: port).span (· ≠ ':') = (host, ':' :: port) := by
    apply Py.Json.span_append
    · intro c hc
      simpa using ne_of_mem_of_not_mem hc hhost
    · simp
  rw [extractEndpointHost, if_neg hne, h, hspan]

/-- Behind an outbound prefix the code finds no host, and pymavlink takes the prefix
for one. -/
theorem of_outbound {endpoint host : List Char} (h : Outbound endpoint)
    (hbinds : BindsTo endpoint host) :
    extractEndpointHost endpoint = none ∧ isLoopback host = false := by
  have hcase : ∃ w rest, endpoint = w ++ ':' :: rest ∧ ':' ∉ w ∧ isLoopback w = false ∧
      withoutPrefix listenPrefixes endpoint = endpoint ∧
        withoutPrefix endpointPrefixes endpoint = rest := by
    obtain ⟨p, hp, rest, rfl⟩ := h
    simp only [List.mem_cons, List.not_mem_nil, or_false] at hp
    rcases hp with rfl | rfl | rfl
    · exact ⟨"udpout".toList, rest, rfl, by decide, by decide, rfl, rfl⟩
    · exact ⟨"tcpout".toList, rest, rfl, by decide, by decide, rfl, rfl⟩
    · exact ⟨"tcp".toList, rest, rfl, by decide, by decide, rfl, rfl⟩
  obtain ⟨w, rest, hsplit, hw, hloop, hlisten, hcode⟩ := hcase
  obtain ⟨port, hport, hhost, hcolon⟩ := hbinds
  rw [hlisten, hsplit] at hport
  obtain ⟨rfl, -, rfl⟩ := (List.append_cons_inj_of_notMem hhost hcolon).mp hport.symm
  refine ⟨?_, hloop⟩
  have hspan : (port ++ []).span (· ≠ ':') = (port, []) := by
    apply Py.Json.span_append
    · intro c hc
      simpa using ne_of_mem_of_not_mem hc hcolon
    · simp
  rw [List.append_nil] at hspan
  rw [extractEndpointHost, hcode, hspan]
  simp

/-! ## The construction -/

theorem validateBind_eq_ok {host : List Char} {token : Option String} {service remedy : String}
    (h : hasToken token = false) :
    validateBind host token service remedy = .ok () ↔ isLoopback host = true := by
  unfold validateBind
  cases hloop : isLoopback host <;> simp [h]

/-- Without a token the source is constructed unless a host is found that is no
loopback host. -/
theorem mavlinkSource_eq_ok {o : MavlinkOptions} (htoken : hasToken o.token = false) :
    (∃ s, mavlinkSource o = .ok s) ↔
      ∀ host ∈ extractEndpointHost o.endpoint.toList, isLoopback host = true := by
  unfold mavlinkSource
  cases extractEndpointHost o.endpoint.toList with
  | none => simp [pure, Except.pure]
  | some host =>
      simp only [Option.mem_def, Option.some.injEq, forall_eq', Py.bind_eq_ok,
        validateBind_eq_ok htoken]
      constructor
      · rintro ⟨-, -, h, -⟩
        exact h
      · exact fun h ↦ ⟨_, (), h, rfl⟩

theorem bindsLoopback_iff {endpoint host : List Char} : BindsLoopback endpoint host ↔
    ((∀ h ∈ extractEndpointHost endpoint, isLoopback h = true) → isLoopback host = true) := by
  constructor
  · intro h hok
    obtain ⟨s, hs⟩ := (mavlinkSource_eq_ok
      (o := { endpoint := String.ofList endpoint }) rfl).mpr (by simpa using hok)
    exact h _ s String.toList_ofList rfl hs
  · rintro h o s rfl htoken hs
    exact h ((mavlinkSource_eq_ok htoken).mp ⟨s, hs⟩)

/-- **The bind of a MAVLink source.**  Without a token it is a loopback host or refused,
unless the host is empty or the endpoint begins like an outbound one. -/
theorem binds_loopback_iff {endpoint host : List Char} (h : BindsTo endpoint host) :
    BindsLoopback endpoint host ↔ host ≠ [] ∧ ¬Outbound endpoint := by
  rw [bindsLoopback_iff]
  by_cases hout : Outbound endpoint
  · obtain ⟨hnone, hloop⟩ := of_outbound hout h
    simp [hnone, hloop, hout]
  · obtain ⟨port, hport, hhost, -⟩ := h
    rw [← withoutPrefix_of_not_outbound hout] at hport
    rw [extractEndpointHost_eq hport hhost]
    by_cases hempty : host = []
    · subst hempty
      simp [show isLoopback [] = false by decide]
    · simp [hempty, hout]

/-- A source on the loopback host of its default endpoint. -/
theorem binds_loopback_default :
    BindsLoopback defaultMavlinkEndpoint.toList "127.0.0.1".toList ↔
      "127.0.0.1".toList ≠ [] ∧ ¬Outbound defaultMavlinkEndpoint.toList :=
  binds_loopback_iff ⟨"14550".toList, rfl, by decide, by decide⟩

/-- An empty host binds to all interfaces. -/
theorem empty_host_binds : BindsTo "udpin::14550".toList [] ∧
    ¬BindsLoopback "udpin::14550".toList [] := by
  refine ⟨⟨"14550".toList, rfl, by decide, by decide⟩, fun h ↦ ?_⟩
  have hloop := h { endpoint := "udpin::14550" } (.init "mav-1") rfl rfl rfl
  cases hloop

end DroneComms.Transports
