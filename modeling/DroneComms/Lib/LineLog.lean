import Mathlib.Data.List.Basic

/-!
# Line-oriented logs

A text whose records are lines, each closed by a separator.  A record that is
appended to a text whose last line is closed stands on a line of its own, and
goes on standing there whatever is appended later; so a reader that splits the
text at the separators finds it (`OnOwnLine.mem_readBack`).  A record that is
appended behind a torn line does not stand on its own (`onOwnLine_append_iff`).
-/

namespace DroneComms.LineLog

universe u v

variable {α : Type u} {β : Type v} {sep : α}

/-- Every line of the text is closed. -/
def Terminated (sep : α) (text : List α) : Prop := ∀ c ∈ text.getLast?, c = sep

instance [DecidableEq α] (text : List α) : Decidable (Terminated sep text) :=
  inferInstanceAs (Decidable (∀ c ∈ text.getLast?, c = sep))

theorem Terminated.nil : Terminated sep [] := nofun

/-- The line stands in the text at the offset, from its first character to its
separator. -/
structure OnOwnLine (sep : α) (text line : List α) (offset : ℕ) : Prop where
  terminated : Terminated sep (text.take offset)
  line : line ++ [sep] <+: text.drop offset

/-- Parse each line, skipping those that do not parse. -/
def readBack [BEq α] (sep : α) (parse : List α → Option β) (text : List α) : List β :=
  (text.splitOn sep).filterMap parse

/-- What stands in a text stands in every continuation. -/
theorem OnOwnLine.append {text line : List α} {offset : ℕ} (h : OnOwnLine sep text line offset)
    (more : List α) : OnOwnLine sep (text ++ more) line offset := by
  have hle : offset ≤ text.length := by
    by_contra hlt
    have hline := h.line
    rw [List.drop_eq_nil_of_le (by omega)] at hline
    exact absurd (List.prefix_nil.mp hline) (by simp)
  constructor
  · rw [List.take_append_of_le_length hle]
    exact h.terminated
  · rw [List.drop_append_of_le_length hle]
    exact h.line.trans (List.prefix_append ..)

/-- A line just appended stands on its own exactly if the text was terminated. -/
theorem onOwnLine_append_iff {text line : List α} :
    OnOwnLine sep (text ++ line ++ [sep]) line text.length ↔ Terminated sep text := by
  have htake : (text ++ line ++ [sep]).take text.length = text := by
    rw [List.append_assoc, List.take_left]
  have hdrop : (text ++ line ++ [sep]).drop text.length = line ++ [sep] := by
    rw [List.append_assoc, List.drop_left]
  constructor
  · intro h
    have hterm := h.terminated
    rwa [htake] at hterm
  · intro h
    constructor
    · rwa [htake]
    · exact hdrop.symm ▸ List.prefix_refl _

/-- A terminated text ends in a separator, if it is not empty. -/
theorem Terminated.eq_nil_or {text : List α} (h : Terminated sep text) :
    text = [] ∨ ∃ lines, text = lines ++ [sep] := by
  rcases List.eq_nil_or_concat text with rfl | ⟨lines, c, rfl⟩
  · exact .inl rfl
  · refine .inr ⟨lines, ?_⟩
    rw [List.concat_eq_append, h c (by simp)]

variable [BEq α] [LawfulBEq α]

/-- A line that stands on its own is one of the lines. -/
theorem OnOwnLine.mem_splitOn {text line : List α} {offset : ℕ}
    (h : OnOwnLine sep text line offset) (hline : sep ∉ line) : line ∈ text.splitOn sep := by
  obtain ⟨more, hmore⟩ := h.line
  have htext : text = text.take offset ++ (line ++ sep :: more) := by
    conv_lhs => rw [← List.take_append_drop offset text, ← hmore]
    simp
  have htail : line ∈ (line ++ sep :: more).splitOn sep := by
    rw [List.splitOn_append_cons_self_of_not_mem hline]
    exact List.mem_cons_self
  rcases h.terminated.eq_nil_or with hnil | ⟨lines, hlines⟩
  · rw [htext, hnil]
    exact htail
  · rw [htext, hlines, List.append_assoc, List.singleton_append, List.splitOn_append_cons_self]
    exact List.mem_append_right _ htail

/-- A line that stands on its own is read back. -/
theorem OnOwnLine.mem_readBack {text line : List α} {offset : ℕ}
    (h : OnOwnLine sep text line offset) (hline : sep ∉ line) {parse : List α → Option β} {b : β}
    (hparse : parse line = some b) : b ∈ readBack sep parse text :=
  List.mem_filterMap.mpr ⟨line, h.mem_splitOn hline, hparse⟩

/-! ## Cut texts -/

section

variable {R : Type v} (sep : α) (line : R → List α)

/-- The records, each on a closed line. -/
def closed (rs : List R) : List α := rs.flatMap fun r ↦ line r ++ [sep]

/-- The records whose text ends at the offset `cut` or before, in a text whose
first record begins at `start`. -/
def endingBefore (cut start : ℕ) : List R → List R
  | [] => []
  | r :: rs =>
      let stop := start + (line r).length
      if stop ≤ cut then r :: endingBefore cut (stop + 1) rs else endingBefore cut (stop + 1) rs

omit [BEq α] [LawfulBEq α] in
theorem endingBefore_eq_nil {cut start : ℕ} (h : cut < start) (rs : List R) :
    endingBefore line cut start rs = [] := by
  induction rs generalizing start with
  | nil => rfl
  | cons r rs ih => rw [endingBefore, if_neg (by omega), ih (by omega)]

variable {sep line}

omit [BEq α] [LawfulBEq α] in
/-- Lines that are joined by the separator, with one more behind the last. -/
theorem intercalate_append_singleton {rs : List R} (h : rs ≠ []) :
    List.intercalate [sep] (rs.map line) ++ [sep] = closed sep line rs := by
  induction rs with
  | nil => exact absurd rfl h
  | cons r rs ih =>
      cases rs with
      | nil => simp [closed]
      | cons r' rs =>
          have ih' := ih (List.cons_ne_nil r' rs)
          rw [List.map_cons] at ih'
          rw [List.map_cons, List.map_cons, List.intercalate_cons_cons, List.append_assoc, ih']
          simp [closed]

/-- The lines of a log are its records' lines, with nothing behind the last one. -/
theorem splitOn_closed {rs : List R} (hsep : ∀ r ∈ rs, sep ∉ line r) :
    (closed sep line rs).splitOn sep = rs.map line ++ [[]] := by
  induction rs with
  | nil => simp [closed]
  | cons r rs ih =>
      obtain ⟨hr, hrs⟩ := List.forall_mem_cons.mp hsep
      have htext : closed sep line (r :: rs) = line r ++ sep :: closed sep line rs := by
        simp [closed]
      rw [htext, List.splitOn_append_cons_self_of_not_mem hr, ih hrs]
      rfl

/-- The lines of a cut text: the records that end before the cut, and the cut of
the next one. -/
theorem splitOn_take_closed {rs : List R} (hsep : ∀ r ∈ rs, sep ∉ line r) (start n : ℕ) :
    ∃ torn, ((closed sep line rs).take n).splitOn sep =
        (endingBefore line (start + n) start rs).map line ++ torn ∧
      (torn = [] ∨ torn = [[]] ∨ ∃ r ∈ rs, ∃ cut, torn = [cut] ∧ cut <+: line r ∧ cut ≠ line r) := by
  induction rs generalizing start n with
  | nil => exact ⟨[[]], by simp [closed, endingBefore], .inr (.inl rfl)⟩
  | cons r rs ih =>
      have hr := hsep r List.mem_cons_self
      have htext : closed sep line (r :: rs) = line r ++ sep :: closed sep line rs := by
        simp [closed]
      rw [htext, endingBefore]
      rcases Nat.lt_trichotomy n (line r).length with hlt | heq | hgt
      · refine ⟨[(line r).take n], ?_, .inr (.inr ⟨r, List.mem_cons_self, _, rfl,
          List.take_prefix .., fun hall ↦ ?_⟩)⟩
        · rw [if_neg (by omega), endingBefore_eq_nil line (by omega),
            List.take_append_of_le_length (Nat.le_of_lt hlt), List.splitOn_eq_singleton]
          · rfl
          · exact fun hmem ↦ hr (List.mem_of_mem_take hmem)
        · have hlength := congrArg List.length hall
          rw [List.length_take] at hlength
          omega
      · refine ⟨[], ?_, .inl rfl⟩
        rw [if_pos (by omega), endingBefore_eq_nil line (by omega), heq, List.take_left,
          List.splitOn_eq_singleton hr]
        rfl
      · obtain ⟨m, rfl⟩ : ∃ m, n = (line r).length + (m + 1) := ⟨n - (line r).length - 1, by omega⟩
        obtain ⟨torn, hsplit, htorn⟩ :=
          ih (fun r' hr' ↦ hsep r' (List.mem_cons_of_mem r hr')) (start + (line r).length + 1) m
        refine ⟨torn, ?_, ?_⟩
        · rw [if_pos (by omega), List.take_length_add_append, List.take_succ_cons,
            List.splitOn_append_cons_self_of_not_mem hr, hsplit]
          have hcut : start + ((line r).length + (m + 1)) =
              start + (line r).length + 1 + m := by omega
          rw [hcut, List.map_cons, List.cons_append]
        · rcases htorn with h | h | ⟨r', hr', h⟩
          · exact .inl h
          · exact .inr (.inl h)
          · exact .inr (.inr ⟨r', List.mem_cons_of_mem r hr', h⟩)

end

end DroneComms.LineLog
