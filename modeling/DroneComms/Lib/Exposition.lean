import DroneComms.Lib.Decimal
import DroneComms.Lib.LineLog

/-!
# Metric expositions

The text format of a metrics endpoint.  A sample is a line: the name of a metric,
its labels in braces and its value.  The value of a label stands in quotes, with
backslashes, quotes and line breaks escaped.  Empty lines and lines that begin
with `#` are no samples.

`parse` reads a document by this grammar and `document` writes one; `parse`
inverts `document` for all samples whose names are names (`parse_document`).
Values are integers; timestamps are left out.
-/

namespace DroneComms.Exposition

/-! ## Label values -/

/-- The text of a character of a label value. -/
def escapeChar : Char → List Char
  | '\\' => ['\\', '\\']
  | '"' => ['\\', '"']
  | '\n' => ['\\', 'n']
  | c => [c]

def escape (value : List Char) : List Char := value.flatMap escapeChar

/-- Read a label value up to the first quote that is not escaped. -/
def readLabelValue : List Char → Option (List Char × List Char)
  | [] => none
  | '"' :: rest => some ([], rest)
  | '\\' :: '\\' :: cs => (readLabelValue cs).map fun p ↦ ('\\' :: p.1, p.2)
  | '\\' :: '"' :: cs => (readLabelValue cs).map fun p ↦ ('"' :: p.1, p.2)
  | '\\' :: 'n' :: cs => (readLabelValue cs).map fun p ↦ ('\n' :: p.1, p.2)
  | '\\' :: _ => none
  | c :: cs => (readLabelValue cs).map fun p ↦ (c :: p.1, p.2)

theorem escapeChar_of_ne {c : Char} (hback : c ≠ '\\') (hquote : c ≠ '"') (hbreak : c ≠ '\n') :
    escapeChar c = [c] := by
  unfold escapeChar
  split <;> simp_all

theorem readLabelValue_of_ne {c : Char} (hback : c ≠ '\\') (hquote : c ≠ '"') (cs : List Char) :
    readLabelValue (c :: cs) = (readLabelValue cs).map fun p ↦ (c :: p.1, p.2) := by
  conv_lhs => unfold readLabelValue
  split <;> simp_all

/-- An escaped character is read back. -/
theorem readLabelValue_escapeChar (c : Char) (cs : List Char) :
    readLabelValue (escapeChar c ++ cs) = (readLabelValue cs).map fun p ↦ (c :: p.1, p.2) := by
  by_cases hback : c = '\\'
  · subst hback
    rfl
  · by_cases hquote : c = '"'
    · subst hquote
      rfl
    · by_cases hbreak : c = '\n'
      · subst hbreak
        rfl
      · rw [escapeChar_of_ne hback hquote hbreak, List.singleton_append,
          readLabelValue_of_ne hback hquote]

/-- Reading back a label value. -/
theorem readLabelValue_escape (value rest : List Char) :
    readLabelValue (escape value ++ '"' :: rest) = some (value, rest) := by
  induction value with
  | nil => rfl
  | cons c value ih =>
      rw [escape, List.flatMap_cons, List.append_assoc, readLabelValue_escapeChar, ← escape, ih]
      rfl

theorem escape_injective : Function.Injective escape := by
  intro v v' h
  have hv := readLabelValue_escape v []
  rw [h, readLabelValue_escape] at hv
  simpa using hv.symm

/-- An escaped label value stays on its line. -/
theorem newline_not_mem_escape (value : List Char) : '\n' ∉ escape value := by
  intro h
  obtain ⟨c, -, hc⟩ := List.mem_flatMap.mp h
  unfold escapeChar at hc
  split at hc
  · simp at hc
  · simp at hc
  · simp at hc
  · rename_i hbreak
    exact hbreak (List.mem_singleton.mp hc).symm

/-! ## Samples -/

structure Sample where
  name : String
  labels : List (String × String) := []
  value : ℤ
deriving DecidableEq, Repr

def isLabelChar (c : Char) : Bool := c.isAlphanum || c = '_'

def isNameChar (c : Char) : Bool := isLabelChar c || c = ':'

/-- A nonempty text of the allowed characters that does not begin with a digit. -/
def IsName (allowed : Char → Bool) (cs : List Char) : Prop :=
  (∀ c ∈ cs, allowed c = true) ∧ cs.head?.any (fun c ↦ !c.isDigit) = true

instance (allowed : Char → Bool) (cs : List Char) : Decidable (IsName allowed cs) :=
  inferInstanceAs (Decidable (_ ∧ _))

theorem isName_ofList {allowed : Char → Bool} {cs : List Char} (h : IsName allowed cs) :
    IsName allowed (String.ofList cs).toList := by
  rwa [String.toList_ofList]

/-- The metric and the labels have names. -/
structure Sample.WellNamed (s : Sample) : Prop where
  name : IsName isNameChar s.name.toList
  labels : ∀ l ∈ s.labels, IsName isLabelChar l.1.toList

/-- The samples of a metric: their labels and values. -/
def series (name : String) (samples : List Sample) : List (List (String × String) × ℤ) :=
  samples.filterMap fun s ↦ if s.name = name then some (s.labels, s.value) else none

@[simp] theorem series_append (name : String) (ss ss' : List Sample) :
    series name (ss ++ ss') = series name ss ++ series name ss' := List.filterMap_append

/-- A metric with one sample for each object has a value for each object. -/
theorem series_flatMap_of_singleton {α : Type*} {name : String} {samples : α → List Sample}
    {entry : α → List (String × String) × ℤ} (h : ∀ x, series name (samples x) = [entry x])
    (xs : List α) : series name (xs.flatMap samples) = xs.map entry := by
  induction xs with
  | nil => rfl
  | cons x xs ih => rw [List.flatMap_cons, series_append, h, ih, List.map_cons, List.singleton_append]

/-- A metric that no sample is of has no values. -/
theorem series_eq_nil {name : String} {samples : List Sample} (h : ∀ s ∈ samples, s.name ≠ name) :
    series name samples = [] :=
  List.filterMap_eq_nil_iff.mpr fun s hs ↦ if_neg (h s hs)

/-- Samples of different metrics have one value each. -/
theorem series_map {β : Type*} {metric : β → String} {table : List β}
    (hnodup : (table.map metric).Nodup) (labels : List (String × String)) (value : β → ℤ) {m : β}
    (hm : m ∈ table) :
    series (metric m) (table.map fun m' ↦ { name := metric m', labels, value := value m' }) =
      [(labels, value m)] := by
  induction table with
  | nil => exact absurd hm List.not_mem_nil
  | cons x table ih =>
      rw [List.map_cons, List.nodup_cons] at hnodup
      have hsingle : ∀ ss : List Sample, ∀ s, series (metric m) (s :: ss) =
          series (metric m) [s] ++ series (metric m) ss := fun ss s ↦ series_append _ [s] ss
      rw [List.map_cons, hsingle]
      rcases List.mem_cons.mp hm with rfl | hmem
      · have hrest : ∀ s ∈ table.map fun m' ↦ Sample.mk (metric m') labels (value m'),
            s.name ≠ metric m := by
          intro s hs heq
          obtain ⟨m', hm', rfl⟩ := List.mem_map.mp hs
          exact hnodup.1 (List.mem_map.mpr ⟨m', hm', heq⟩)
        rw [series_eq_nil hrest]
        simp [series]
      · have hne : metric x ≠ metric m := fun heq ↦
          hnodup.1 (List.mem_map.mpr ⟨m, hmem, heq.symm⟩)
        rw [ih hnodup.2 hmem]
        simp [series, hne]

/-! ### Writing -/

def labelText (l : String × String) : List Char :=
  l.1.toList ++ '=' :: '"' :: escape l.2.toList ++ ['"']

/-- The labels behind the first one. -/
def moreLabelsText (ls : List (String × String)) : List Char :=
  ls.flatMap (fun l ↦ ',' :: labelText l) ++ ['}']

def labelsText : List (String × String) → List Char
  | [] => []
  | l :: ls => '{' :: labelText l ++ moreLabelsText ls

def Sample.line (s : Sample) : List Char :=
  s.name.toList ++ labelsText s.labels ++ ' ' :: Decimal.signed s.value

/-- A document with a line for each sample. -/
def document (samples : List Sample) : List Char := LineLog.closed '\n' Sample.line samples

/-! ### Reading -/

/-- Read a name. -/
def readName (allowed : Char → Bool) (cs : List Char) : Option (String × List Char) :=
  if IsName allowed (cs.takeWhile allowed) then
    some (String.ofList (cs.takeWhile allowed), cs.dropWhile allowed)
  else none

/-- Read a label. -/
def readLabel (cs : List Char) : Option ((String × String) × List Char) := do
  let (name, cs) ← readName isLabelChar cs
  match cs with
  | '=' :: '"' :: cs => (readLabelValue cs).map fun p ↦ ((name, String.ofList p.1), p.2)
  | _ => none

/-- Read the labels behind the first one.  The counter bounds the labels read. -/
def readMoreLabels : ℕ → List Char → Option (List (String × String) × List Char)
  | _ + 1, '}' :: rest => some ([], rest)
  | n + 1, ',' :: cs => do
      let (l, cs) ← readLabel cs
      let (ls, rest) ← readMoreLabels n cs
      some (l :: ls, rest)
  | _, _ => none

/-- Read the labels, if there are any. -/
def readLabels : List Char → Option (List (String × String) × List Char)
  | '{' :: '}' :: rest => some ([], rest)
  | '{' :: cs => do
      let (l, cs) ← readLabel cs
      let (ls, rest) ← readMoreLabels cs.length cs
      some (l :: ls, rest)
  | cs => some ([], cs)

/-- Read a line. -/
def readSample (line : List Char) : Option Sample := do
  let (name, cs) ← readName isNameChar line
  let (labels, cs) ← readLabels cs
  match cs with
  | ' ' :: cs => (Decimal.readSigned cs).map fun value ↦ { name, labels, value }
  | _ => none

/-- A line that is neither empty nor a comment. -/
def isSampleLine (line : List Char) : Bool := line.head?.any (· ≠ '#')

/-- Read a document. -/
def parse (text : List Char) : Option (List Sample) :=
  ((text.splitOn '\n').filter isSampleLine).mapM readSample

/-! ## Reading back -/

/-- A name is read up to the first character that cannot stand in it. -/
theorem readName_append {allowed : Char → Bool} {s : String} (h : IsName allowed s.toList)
    {c : Char} (hc : allowed c = false) (rest : List Char) :
    readName allowed (s.toList ++ c :: rest) = some (s, c :: rest) := by
  have htake : (s.toList ++ c :: rest).takeWhile allowed = s.toList := by
    rw [List.takeWhile_append_of_pos h.1, List.takeWhile_cons_of_neg (by simp [hc]),
      List.append_nil]
  have hdrop : (s.toList ++ c :: rest).dropWhile allowed = c :: rest := by
    rw [List.dropWhile_append_of_pos h.1, List.dropWhile_cons_of_neg (by simp [hc])]
  rw [readName, htake, hdrop, if_pos h, String.ofList_toList]

theorem readLabel_labelText {l : String × String} (h : IsName isLabelChar l.1.toList)
    (rest : List Char) : readLabel (labelText l ++ rest) = some (l, rest) := by
  have htext : labelText l ++ rest =
      l.1.toList ++ '=' :: '"' :: (escape l.2.toList ++ '"' :: rest) := by
    simp [labelText]
  rw [htext, readLabel, readName_append h rfl]
  simp [readLabelValue_escape]

/-- No label begins with a closing brace. -/
theorem readLabel_brace (rest : List Char) : readLabel ('}' :: rest) = none := by
  have hname : ¬IsName isLabelChar [] := fun h ↦ Bool.false_ne_true h.2
  rw [readLabel, readName, List.takeWhile_cons_of_neg (by decide), if_neg hname]
  rfl

theorem readMoreLabels_moreLabelsText {ls : List (String × String)}
    (h : ∀ l ∈ ls, IsName isLabelChar l.1.toList) (rest : List Char) {n : ℕ} (hn : ls.length < n) :
    readMoreLabels n (moreLabelsText ls ++ rest) = some (ls, rest) := by
  induction ls generalizing n with
  | nil =>
      obtain ⟨m, rfl⟩ := Nat.exists_eq_add_one.mpr hn
      rfl
  | cons l ls ih =>
      obtain ⟨hl, hls⟩ := List.forall_mem_cons.mp h
      obtain ⟨m, rfl⟩ := Nat.exists_eq_add_one.mpr (Nat.lt_of_le_of_lt (Nat.zero_le _) hn)
      have htext : moreLabelsText (l :: ls) ++ rest =
          ',' :: (labelText l ++ (moreLabelsText ls ++ rest)) := by
        simp [moreLabelsText]
      rw [htext, readMoreLabels, readLabel_labelText hl, Option.bind_eq_bind, Option.bind_some]
      simp only [ih hls (Nat.lt_of_succ_lt_succ hn), Option.bind_eq_bind, Option.bind_some]

/-- Each label takes a character at least. -/
theorem length_lt_moreLabelsText (ls : List (String × String)) (rest : List Char) :
    ls.length < (moreLabelsText ls ++ rest).length := by
  induction ls with
  | nil => simp [moreLabelsText]
  | cons l ls ih =>
      simp only [moreLabelsText, List.flatMap_cons, List.length_append, List.length_cons] at ih ⊢
      omega

theorem readLabels_labelsText {ls : List (String × String)}
    (h : ∀ l ∈ ls, IsName isLabelChar l.1.toList) (rest : List Char) :
    readLabels (labelsText ls ++ ' ' :: rest) = some (ls, ' ' :: rest) := by
  cases ls with
  | nil => rfl
  | cons l ls =>
      obtain ⟨hl, hls⟩ := List.forall_mem_cons.mp h
      have htext : labelsText (l :: ls) ++ ' ' :: rest =
          '{' :: (labelText l ++ (moreLabelsText ls ++ ' ' :: rest)) := by
        simp [labelsText]
      have hlabel := readLabel_labelText hl (moreLabelsText ls ++ ' ' :: rest)
      have hmore := readMoreLabels_moreLabelsText hls (' ' :: rest)
        (length_lt_moreLabelsText ls (' ' :: rest))
      rw [htext]
      unfold readLabels
      split
      · rename_i rest' heq
        rw [(List.cons.inj heq).2, readLabel_brace] at hlabel
        cases hlabel
      · rename_i cs hnot heq
        rw [← (List.cons.inj heq).2, hlabel, Option.bind_eq_bind, Option.bind_some]
        simp only [hmore, Option.bind_eq_bind, Option.bind_some]
      · rename_i hnot hbrace
        exact absurd rfl (hbrace _)

/-! ### Lines -/

theorem newline_not_mem_name {allowed : Char → Bool} (hallowed : allowed '\n' = false) {s : String}
    (h : IsName allowed s.toList) : '\n' ∉ s.toList := fun hmem ↦ by
  simpa [hallowed] using h.1 _ hmem

theorem newline_not_mem_labelText {l : String × String} (h : IsName isLabelChar l.1.toList) :
    '\n' ∉ labelText l := by
  simp [labelText, newline_not_mem_name rfl h, newline_not_mem_escape]

theorem newline_not_mem_signed (n : ℤ) : '\n' ∉ Decimal.signed n := by
  have hdigits (k : ℕ) : '\n' ∉ Nat.toDigits 10 k := fun h ↦
    absurd (Decimal.isDigit_of_mem_toDigits h) (by decide)
  cases n with
  | ofNat k => exact hdigits k
  | negSucc k => exact List.not_mem_cons_of_ne_of_not_mem (by decide) (hdigits (k + 1))

theorem newline_not_mem_labelsText {ls : List (String × String)}
    (h : ∀ l ∈ ls, IsName isLabelChar l.1.toList) : '\n' ∉ labelsText ls := by
  cases ls with
  | nil => exact List.not_mem_nil
  | cons l ls =>
      obtain ⟨hl, hls⟩ := List.forall_mem_cons.mp h
      have hmore : ∀ x ∈ ls, '\n' ∉ labelText x := fun x hx ↦ newline_not_mem_labelText (hls x hx)
      simpa [labelsText, moreLabelsText, newline_not_mem_labelText hl] using hmore

namespace Sample.WellNamed

variable {s : Sample}

/-- A sample stays on its line. -/
theorem newline_not_mem_line (h : s.WellNamed) : '\n' ∉ s.line := by
  simp [Sample.line, newline_not_mem_name rfl h.name, newline_not_mem_labelsText h.labels,
    newline_not_mem_signed]

/-- The name of a metric ends at the labels or at the blank. -/
theorem readName_line (h : s.WellNamed) : readName isNameChar s.line =
    some (s.name, labelsText s.labels ++ ' ' :: Decimal.signed s.value) := by
  rw [Sample.line, List.append_assoc]
  cases s.labels with
  | nil => exact readName_append h.name rfl _
  | cons l ls => exact readName_append h.name rfl _

/-- Reading back a line. -/
theorem readSample_line (h : s.WellNamed) : readSample s.line = some s := by
  rw [readSample, h.readName_line, Option.bind_eq_bind, Option.bind_some]
  simp [readLabels_labelsText h.labels]

/-- A sample is no comment. -/
theorem isSampleLine_line (h : s.WellNamed) : isSampleLine s.line = true := by
  obtain ⟨c, hc, -⟩ := (Option.any_eq_true _ _).mp h.name.2
  have hname := h.name.1 c (List.mem_of_mem_head? hc)
  have hhead : s.line.head? = some c := by
    rw [Sample.line, List.append_assoc, List.head?_append, hc, Option.some_or]
  have hne : c ≠ '#' := by
    rintro rfl
    simp [isNameChar, isLabelChar] at hname
  simp [isSampleLine, hhead, hne]

end Sample.WellNamed

theorem mapM_readSample_line {samples : List Sample} (h : ∀ s ∈ samples, s.WellNamed) :
    (samples.map Sample.line).mapM readSample = some samples := by
  induction samples with
  | nil => rfl
  | cons s samples ih =>
      obtain ⟨hs, hsamples⟩ := List.forall_mem_cons.mp h
      rw [List.map_cons, List.mapM_cons, hs.readSample_line, ih hsamples]
      rfl

/-- Reading back a document. -/
theorem parse_document {samples : List Sample} (h : ∀ s ∈ samples, s.WellNamed) :
    parse (document samples) = some samples := by
  have hlines : (samples.map Sample.line).filter isSampleLine = samples.map Sample.line :=
    List.filter_eq_self.mpr (List.forall_mem_map.mpr fun s hs ↦ (h s hs).isSampleLine_line)
  have hend : [([] : List Char)].filter isSampleLine = [] := rfl
  rw [parse, document, LineLog.splitOn_closed fun s hs ↦ (h s hs).newline_not_mem_line,
    List.filter_append, hlines, hend, List.append_nil, mapM_readSample_line h]

end DroneComms.Exposition
