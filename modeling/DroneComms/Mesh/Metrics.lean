import DroneComms.Lib.Exposition

/-!
# The metrics endpoint

`render_prometheus` of `meshsa/metrics.py`.  The names of transports are texts of
the user; they are escaped, so a document has the same lines for all names, and
reading it by the grammar returns the names and all counters.
-/

namespace DroneComms.Mesh

open Exposition (Sample document escape escapeChar parse series)

/-- The fields of a `RouterMetrics`.  A router only counts up, but the endpoint takes any
integers. -/
structure MetricsFields where
  rx : ℤ := 0
  tx : ℤ := 0
  forwarded : ℤ := 0
  droppedUndecodable : ℤ := 0
  schemaMismatch : ℤ := 0

/-- A mapping from names to counters. -/
abbrev Counters := List (String × ℤ)

/-- `counters.get(key, 0)`. -/
def Counters.get (counters : Counters) (key : String) : ℤ := (counters.lookup key).getD 0

/-- `_TRANSPORT_METRICS`. -/
def transportMetrics : List (String × String) :=
  [("dropped_inbox_full", "meshsa_transport_dropped_inbox_full"),
    ("reconnects", "meshsa_transport_reconnects"),
    ("rx_frames", "meshsa_transport_rx_frames")]

/-- `_INFERENCE_METRICS`. -/
def inferenceMetrics : List (String × String) :=
  [("offline_dropped", "meshsa_inference_offline_dropped_total"),
    ("intake_dropped", "meshsa_inference_intake_dropped_total"),
    ("offline_queue_depth", "meshsa_inference_offline_queue_depth"),
    ("pending_tasks", "meshsa_inference_pending_tasks")]

/-- `value.replace(old, new)` for a character. -/
def replaceChar (old : Char) (new value : List Char) : List Char :=
  value.flatMap fun c ↦ if c = old then new else [c]

/-- `_escape_label_value`. -/
def escapeLabelValue (value : List Char) : List Char :=
  replaceChar '\n' ['\\', 'n']
    (replaceChar '"' ['\\', '"'] (replaceChar '\\' ['\\', '\\'] value))

/-- `f"{name} {value}"`. -/
def metricLine (name : String) (value : ℤ) : List Char :=
  name.toList ++ ' ' :: Decimal.signed value

/-- The line of a counter of a transport. -/
def transportLine (name label : List Char) (value : ℤ) : List Char :=
  name ++ '{' :: "transport=".toList ++ '"' :: label ++ '"' :: '}' :: ' ' :: Decimal.signed value

/-- `render_prometheus`. -/
def renderPrometheus (metrics : MetricsFields) (transports : List (String × Counters))
    (inference : Option Counters) : String :=
  let lines :=
    [metricLine "meshsa_rx_total" metrics.rx,
      metricLine "meshsa_tx_total" metrics.tx,
      metricLine "meshsa_forwarded_total" metrics.forwarded,
      metricLine "meshsa_dropped_undecodable_total" metrics.droppedUndecodable,
      metricLine "meshsa_schema_mismatch_total" metrics.schemaMismatch] ++
    (transports.flatMap fun t ↦
      let label := escapeLabelValue t.1.toList
      transportMetrics.map fun m ↦ transportLine m.2.toList label (t.2.get m.1)) ++
    inference.elim [] fun counters ↦
      inferenceMetrics.map fun m ↦ metricLine m.2 (counters.get m.1)
  String.ofList (List.intercalate ['\n'] lines ++ ['\n'])

/-! ## The samples of a document -/

/-- The metrics of a router. -/
def routerMetrics : List (String × (MetricsFields → ℤ)) :=
  [("meshsa_rx_total", MetricsFields.rx),
    ("meshsa_tx_total", MetricsFields.tx),
    ("meshsa_forwarded_total", MetricsFields.forwarded),
    ("meshsa_dropped_undecodable_total", MetricsFields.droppedUndecodable),
    ("meshsa_schema_mismatch_total", MetricsFields.schemaMismatch)]

def routerSamples (metrics : MetricsFields) : List Sample :=
  routerMetrics.map fun m ↦ { name := m.1, value := m.2 metrics }

def transportSamples (t : String × Counters) : List Sample :=
  transportMetrics.map fun m ↦
    { name := m.2, labels := [("transport", t.1)], value := t.2.get m.1 }

def inferenceSamples (counters : Counters) : List Sample :=
  inferenceMetrics.map fun m ↦ { name := m.2, value := counters.get m.1 }

/-- What the endpoint says. -/
def metricSamples (metrics : MetricsFields) (transports : List (String × Counters))
    (inference : Option Counters) : List Sample :=
  routerSamples metrics ++ transports.flatMap transportSamples ++
    inference.toList.flatMap inferenceSamples

variable (metrics : MetricsFields) (transports : List (String × Counters))
  (inference : Option Counters)

/-! ## Escaping -/

theorem replaceChar_append (old : Char) (new as bs : List Char) :
    replaceChar old new (as ++ bs) = replaceChar old new as ++ replaceChar old new bs :=
  List.flatMap_append

theorem escapeLabelValue_append (as bs : List Char) :
    escapeLabelValue (as ++ bs) = escapeLabelValue as ++ escapeLabelValue bs := by
  simp only [escapeLabelValue, replaceChar_append]

/-- The later replacements leave what the earlier ones wrote. -/
theorem escapeLabelValue_singleton (c : Char) : escapeLabelValue [c] = escapeChar c := by
  by_cases hback : c = '\\'
  · subst hback
    rfl
  · by_cases hquote : c = '"'
    · subst hquote
      rfl
    · by_cases hbreak : c = '\n'
      · subst hbreak
        rfl
      · rw [Exposition.escapeChar_of_ne hback hquote hbreak]
        simp [escapeLabelValue, replaceChar, hback, hquote, hbreak]

/-- The three replacements escape each character once. -/
theorem escapeLabelValue_eq (value : List Char) : escapeLabelValue value = escape value := by
  induction value with
  | nil => rfl
  | cons c value ih =>
      rw [← List.singleton_append, escapeLabelValue_append, escapeLabelValue_singleton, ih]
      rfl

theorem escapeLabelValue_injective : Function.Injective escapeLabelValue := by
  rw [funext escapeLabelValue_eq]
  exact Exposition.escape_injective

/-! ## Lines -/

theorem line_eq_metricLine (name : String) (value : ℤ) :
    Sample.line { name, value } = metricLine name value := by
  rw [Sample.line, Exposition.labelsText, List.append_nil, metricLine]

theorem line_eq_transportLine (name transport : String) (value : ℤ) :
    Sample.line { name, labels := [("transport", transport)], value } =
      transportLine name.toList (escapeLabelValue transport.toList) value := by
  rw [escapeLabelValue_eq]
  simp [Sample.line, Exposition.labelsText, Exposition.labelText, Exposition.moreLabelsText,
    transportLine]

theorem map_line_routerSamples : (routerSamples metrics).map Sample.line =
    [metricLine "meshsa_rx_total" metrics.rx,
      metricLine "meshsa_tx_total" metrics.tx,
      metricLine "meshsa_forwarded_total" metrics.forwarded,
      metricLine "meshsa_dropped_undecodable_total" metrics.droppedUndecodable,
      metricLine "meshsa_schema_mismatch_total" metrics.schemaMismatch] := by
  simp only [routerSamples, routerMetrics, List.map_cons, List.map_nil, line_eq_metricLine]

theorem map_line_transportSamples (t : String × Counters) :
    (transportSamples t).map Sample.line = transportMetrics.map fun m ↦
      transportLine m.2.toList (escapeLabelValue t.1.toList) (t.2.get m.1) := by
  simp only [transportSamples, List.map_map, Function.comp_def, line_eq_transportLine]

theorem map_line_inferenceSamples (counters : Counters) :
    (inferenceSamples counters).map Sample.line =
      inferenceMetrics.map fun m ↦ metricLine m.2 (counters.get m.1) := by
  simp only [inferenceSamples, List.map_map, Function.comp_def, line_eq_metricLine]

/-- The document has a line for each sample. -/
theorem renderPrometheus_eq : (renderPrometheus metrics transports inference).toList =
    document (metricSamples metrics transports inference) := by
  have hinference : (inference.toList.flatMap inferenceSamples).map Sample.line =
      inference.elim [] fun counters ↦
        inferenceMetrics.map fun m ↦ metricLine m.2 (counters.get m.1) := by
    cases inference with
    | none => rfl
    | some counters => simp [map_line_inferenceSamples]
  have hne : metricSamples metrics transports inference ≠ [] := by
    simp [metricSamples, routerSamples, routerMetrics]
  rw [document, ← LineLog.intercalate_append_singleton hne, renderPrometheus,
    String.toList_ofList, metricSamples, List.map_append, List.map_append, map_line_routerSamples,
    List.map_flatMap, hinference]
  simp only [map_line_transportSamples]

/-! ## Reading back -/

section

open Exposition (IsName isNameChar isLabelChar isName_ofList)

theorem isName_routerMetrics : ∀ m ∈ routerMetrics, IsName isNameChar m.1.toList := by
  simp only [routerMetrics, List.forall_mem_cons]
  exact ⟨isName_ofList (by decide +kernel), isName_ofList (by decide +kernel),
    isName_ofList (by decide +kernel), isName_ofList (by decide +kernel),
    isName_ofList (by decide +kernel),
    List.forall_mem_nil _⟩

theorem isName_transportMetrics : ∀ m ∈ transportMetrics, IsName isNameChar m.2.toList := by
  simp only [transportMetrics, List.forall_mem_cons]
  exact ⟨isName_ofList (by decide +kernel), isName_ofList (by decide +kernel),
    isName_ofList (by decide +kernel),
    List.forall_mem_nil _⟩

theorem isName_inferenceMetrics : ∀ m ∈ inferenceMetrics, IsName isNameChar m.2.toList := by
  simp only [inferenceMetrics, List.forall_mem_cons]
  exact ⟨isName_ofList (by decide +kernel), isName_ofList (by decide +kernel),
    isName_ofList (by decide +kernel), isName_ofList (by decide +kernel),
    List.forall_mem_nil _⟩

/-- All metrics and labels of the document have names. -/
theorem wellNamed_metricSamples :
    ∀ s ∈ metricSamples metrics transports inference, s.WellNamed := by
  have htransport : IsName isLabelChar "transport".toList := isName_ofList (by decide +kernel)
  intro s h
  simp only [metricSamples, List.mem_append, List.mem_flatMap] at h
  rcases h with (h | ⟨t, -, h⟩) | ⟨counters, -, h⟩
  · obtain ⟨m, hm, rfl⟩ := List.mem_map.mp h
    exact ⟨isName_routerMetrics m hm, List.forall_mem_nil _⟩
  · obtain ⟨m, hm, rfl⟩ := List.mem_map.mp h
    exact ⟨isName_transportMetrics m hm, List.forall_mem_singleton.mpr htransport⟩
  · obtain ⟨m, hm, rfl⟩ := List.mem_map.mp h
    exact ⟨isName_inferenceMetrics m hm, List.forall_mem_nil _⟩

end

/-! ### Metric by metric -/

section

variable {metrics transports inference}

theorem series_routerSamples_eq_nil {name : String} (h : ∀ m ∈ routerMetrics, m.1 ≠ name) :
    series name (routerSamples metrics) = [] :=
  Exposition.series_eq_nil (List.forall_mem_map.mpr h)

theorem series_transportSamples_eq_nil {name : String} (h : ∀ m ∈ transportMetrics, m.2 ≠ name) :
    series name (transports.flatMap transportSamples) = [] := by
  refine Exposition.series_eq_nil fun s hs ↦ ?_
  obtain ⟨t, -, ht⟩ := List.mem_flatMap.mp hs
  obtain ⟨m, hm, rfl⟩ := List.mem_map.mp ht
  exact h m hm

theorem series_inferenceSamples_eq_nil {name : String} (h : ∀ m ∈ inferenceMetrics, m.2 ≠ name) :
    series name (inference.toList.flatMap inferenceSamples) = [] := by
  refine Exposition.series_eq_nil fun s hs ↦ ?_
  obtain ⟨counters, -, hcounters⟩ := List.mem_flatMap.mp hs
  obtain ⟨m, hm, rfl⟩ := List.mem_map.mp hcounters
  exact h m hm

end

/-- A metric of the router has its value. -/
theorem series_router {m : String × (MetricsFields → ℤ)} (hm : m ∈ routerMetrics) :
    series m.1 (metricSamples metrics transports inference) = [([], m.2 metrics)] := by
  have htransport : ∀ m ∈ routerMetrics, ∀ m' ∈ transportMetrics, m'.2 ≠ m.1 := by
    simp [routerMetrics, transportMetrics]
  have hinference : ∀ m ∈ routerMetrics, ∀ m' ∈ inferenceMetrics, m'.2 ≠ m.1 := by
    simp [routerMetrics, inferenceMetrics]
  have hrouter : series m.1 (routerSamples metrics) = [([], m.2 metrics)] :=
    Exposition.series_map (by simp [routerMetrics]) [] (fun m ↦ m.2 metrics) hm
  rw [metricSamples, Exposition.series_append, Exposition.series_append, hrouter,
    series_transportSamples_eq_nil (htransport m hm),
    series_inferenceSamples_eq_nil (hinference m hm)]
  rfl

/-- A metric of the transports has a value for each of them. -/
theorem series_transport {m : String × String} (hm : m ∈ transportMetrics) :
    series m.2 (metricSamples metrics transports inference) =
      transports.map fun t ↦ ([("transport", t.1)], t.2.get m.1) := by
  have hrouter : ∀ m ∈ transportMetrics, ∀ m' ∈ routerMetrics, m'.1 ≠ m.2 := by
    simp [routerMetrics, transportMetrics]
  have hinference : ∀ m ∈ transportMetrics, ∀ m' ∈ inferenceMetrics, m'.2 ≠ m.2 := by
    simp [transportMetrics, inferenceMetrics]
  have htransport (t : String × Counters) :
      series m.2 (transportSamples t) = [([("transport", t.1)], t.2.get m.1)] :=
    Exposition.series_map (by simp [transportMetrics]) _ (fun m ↦ t.2.get m.1) hm
  rw [metricSamples, Exposition.series_append, Exposition.series_append,
    series_routerSamples_eq_nil (hrouter m hm),
    Exposition.series_flatMap_of_singleton htransport,
    series_inferenceSamples_eq_nil (hinference m hm), List.nil_append, List.append_nil]

/-- A metric of the inference service has a value if there is a service. -/
theorem series_inference {m : String × String} (hm : m ∈ inferenceMetrics) :
    series m.2 (metricSamples metrics transports inference) =
      inference.toList.map fun counters ↦ ([], counters.get m.1) := by
  have hrouter : ∀ m ∈ inferenceMetrics, ∀ m' ∈ routerMetrics, m'.1 ≠ m.2 := by
    simp [routerMetrics, inferenceMetrics]
  have htransport : ∀ m ∈ inferenceMetrics, ∀ m' ∈ transportMetrics, m'.2 ≠ m.2 := by
    simp [transportMetrics, inferenceMetrics]
  have hinference (counters : Counters) :
      series m.2 (inferenceSamples counters) = [([], counters.get m.1)] :=
    Exposition.series_map (by simp [inferenceMetrics]) _ (fun m ↦ counters.get m.1) hm
  rw [metricSamples, Exposition.series_append, Exposition.series_append,
    series_routerSamples_eq_nil (hrouter m hm), series_transportSamples_eq_nil (htransport m hm),
    Exposition.series_flatMap_of_singleton hinference, List.nil_append, List.nil_append]

/-- Five samples, three for each transport and four for an inference service. -/
theorem length_metricSamples : (metricSamples metrics transports inference).length =
    5 + 3 * transports.length + 4 * inference.toList.length := by
  have htransports : (transports.flatMap transportSamples).length = 3 * transports.length := by
    induction transports with
    | nil => rfl
    | cons t transports ih =>
        rw [List.flatMap_cons, List.length_append, ih, List.length_cons, Nat.mul_add, Nat.add_comm]
        rfl
  rw [metricSamples, List.length_append, List.length_append, htransports]
  cases inference <;> rfl

/-- **The endpoint says what it is told.**  A scrape returns every counter, under the name of
its transport, and whatever the names are, a sample has a line and a line is a sample. -/
theorem renderPrometheus_round_trip :
    ∃ samples, parse (renderPrometheus metrics transports inference).toList = some samples ∧
      (∀ m ∈ routerMetrics, series m.1 samples = [([], m.2 metrics)]) ∧
      (∀ m ∈ transportMetrics, series m.2 samples =
        transports.map fun t ↦ ([("transport", t.1)], t.2.get m.1)) ∧
      (∀ m ∈ inferenceMetrics, series m.2 samples =
        inference.toList.map fun counters ↦ ([], counters.get m.1)) ∧
      samples.length = 5 + 3 * transports.length + 4 * inference.toList.length ∧
      (renderPrometheus metrics transports inference).toList.splitOn '\n' =
        samples.map Sample.line ++ [[]] ∧
      Function.Injective escapeLabelValue := by
  have hwell := wellNamed_metricSamples metrics transports inference
  refine ⟨metricSamples metrics transports inference, ?_, ?_, ?_, ?_, ?_, ?_, ?_⟩
  · rw [renderPrometheus_eq, Exposition.parse_document hwell]
  · intro m hm
    exact series_router metrics transports inference hm
  · intro m hm
    exact series_transport metrics transports inference hm
  · intro m hm
    exact series_inference metrics transports inference hm
  · exact length_metricSamples metrics transports inference
  · rw [renderPrometheus_eq]
    exact LineLog.splitOn_closed fun s hs ↦ (hwell s hs).newline_not_mem_line
  · exact escapeLabelValue_injective

end DroneComms.Mesh
