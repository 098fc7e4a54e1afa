import DroneComms.Lib.Wire

/-!
# Truncated input

Readers on a strict prefix of what was written.  A slice that runs over the end
of its input is what is left of it, so a reader may read less than was written.
A reader that refuses every such cut is put together from its fields: one of a
fixed width refuses, and one that does not has to leave the refusal to the next.
-/

namespace DroneComms.Wire

/-! ## Readers -/

section

variable {α β : Type} {w v p : List UInt8}

/-- A strict prefix. -/
def IsCut (q w : List UInt8) : Prop := q <+: w ∧ q ≠ w

theorem IsCut.length_lt {q w : List UInt8} (h : IsCut q w) : q.length < w.length :=
  lt_of_le_of_ne h.1.length_le fun hlength ↦ h.2 (h.1.eq_of_length hlength)

theorem IsCut.cons_cases {b : UInt8} {bs : List UInt8} (h : IsCut p (b :: bs)) :
    p = [] ∨ ∃ q, p = b :: q ∧ IsCut q bs := by
  obtain ⟨hp, hne⟩ := h
  cases p with
  | nil => exact .inl rfl
  | cons c q =>
      obtain ⟨rfl, hq⟩ := List.cons_prefix_cons.mp hp
      refine .inr ⟨q, rfl, hq, ?_⟩
      rintro rfl
      exact hne rfl

/-- A cut is in the first part, or leaves it whole. -/
theorem IsCut.append_cases (h : IsCut p (w ++ v)) : IsCut p w ∨ ∃ q, p = w ++ q ∧ IsCut q v := by
  obtain ⟨hp, hne⟩ := h
  rcases List.prefix_or_prefix_of_prefix hp (List.prefix_append w v) with hpw | ⟨q, rfl⟩
  · by_cases heq : p = w
    · subst heq
      refine .inr ⟨[], (List.append_nil _).symm, List.nil_prefix, ?_⟩
      rintro rfl
      exact hne (List.append_nil _).symm
    · exact .inl ⟨hpw, heq⟩
  · refine .inr ⟨q, rfl, (List.prefix_append_right_inj w).mp hp, ?_⟩
    rintro rfl
    exact hne rfl

/-- No cut of `w` is read. -/
def RefusesCuts (read : List UInt8 → Option β) (w : List UInt8) : Prop :=
  ∀ q, IsCut q w → read q = none

/-- A field and what is read behind it. -/
theorem RefusesCuts.bind {read : List UInt8 → Option (α × List UInt8)}
    {next : α × List UInt8 → Option β} {a : α} (hw : RefusesCuts (fun q ↦ read q >>= next) w)
    (hread : ∀ rest, read (w ++ rest) = some (a, rest))
    (hv : RefusesCuts (fun q ↦ next (a, q)) v) :
    RefusesCuts (fun q ↦ read q >>= next) (w ++ v) := by
  intro p hp
  rcases hp.append_cases with hp | ⟨q, rfl, hq⟩
  · exact hw p hp
  · show read (w ++ q) >>= next = none
    rw [hread q]
    exact hv q hq

/-- A reader of `k` bytes. -/
structure Takes (read : List UInt8 → Option (α × List UInt8)) (k : ℕ) : Prop where
  short : ∀ {q}, q.length < k → read q = none
  full : ∀ {w}, w.length = k → ∃ a, ∀ rest, read (w ++ rest) = some (a, rest)

theorem takes_unpack (k : ℕ) : Takes (unpack k) k where
  short h := if_neg (by omega)
  full {w} hw := by
    refine ⟨ofBigEndian w, fun rest ↦ ?_⟩
    rw [unpack, if_pos (by rw [List.length_append]; omega), List.take_left' hw,
      List.drop_left' hw]

theorem Takes.map {read : List UInt8 → Option (α × List UInt8)} {k : ℕ} (h : Takes read k)
    (f : α → β) : Takes (fun bs ↦ (read bs).map fun p ↦ (f p.1, p.2)) k where
  short hq := by rw [h.short hq]; rfl
  full hw := by
    obtain ⟨a, ha⟩ := h.full hw
    exact ⟨f a, fun rest ↦ by rw [ha rest]; rfl⟩

theorem Takes.bind {read : List UInt8 → Option (α × List UInt8)}
    {next : α → List UInt8 → Option (β × List UInt8)} {k l : ℕ} (h : Takes read k)
    (hnext : ∀ a, Takes (next a) l) : Takes (fun bs ↦ read bs >>= fun p ↦ next p.1 p.2) (k + l) where
  short {q} hq := by
    by_cases hk : q.length < k
    · rw [h.short hk]
      rfl
    · have hsplit := List.take_append_drop k q
      obtain ⟨a, ha⟩ := h.full (w := q.take k) (by rw [List.length_take]; omega)
      rw [← hsplit, ha]
      exact (hnext a).short (by rw [List.length_drop]; omega)
  full {w} hw := by
    have hsplit := List.take_append_drop k w
    obtain ⟨a, ha⟩ := h.full (w := w.take k) (by rw [List.length_take]; omega)
    obtain ⟨b, hb⟩ := (hnext a).full (w := w.drop k) (by rw [List.length_drop]; omega)
    refine ⟨b, fun rest ↦ ?_⟩
    rw [← hsplit, List.append_assoc, ha]
    exact hb rest

theorem Takes.pure (a : α) : Takes (fun bs ↦ some (a, bs)) 0 where
  short hq := absurd hq (Nat.not_lt_zero _)
  full hw := ⟨a, fun rest ↦ by rw [List.eq_nil_of_length_eq_zero hw]; rfl⟩

/-- A field of a fixed width is missed. -/
theorem Takes.refusesCuts {read : List UInt8 → Option (α × List UInt8)} {k : ℕ} (h : Takes read k)
    (next : α × List UInt8 → Option β) (hw : w.length = k) :
    RefusesCuts (fun q ↦ read q >>= next) w := by
  intro q hq
  show read q >>= next = none
  rw [h.short (lt_of_lt_of_eq hq.length_lt hw)]
  rfl

/-- A string that is cut off is read as far as it goes, and leaves nothing behind. -/
theorem refusesCuts_getStr {n : UInt8} {bs : List UInt8} (hlength : bs.length = n.toNat)
    {next : String × List UInt8 → Option β} (hnext : ∀ s, next (s, []) = none) :
    RefusesCuts (fun q ↦ getStr q >>= next) (n :: bs) := by
  intro q hq
  rcases hq.cons_cases with rfl | ⟨q, rfl, hcut⟩
  · rfl
  · have hdrop : q.drop n.toNat = [] := List.drop_eq_nil_of_le (by
      have := hcut.length_lt
      omega)
    show getStr (n :: q) >>= next = none
    rw [getStr, hdrop]
    cases ofUtf8 (q.take n.toNat) with
    | none => rfl
    | some s => exact hnext s

end

/-! ## UTF-8 -/

theorem utf8_ofList (cs : List Char) :
    utf8 (String.ofList cs) = cs.flatMap String.utf8EncodeChar := by
  rw [utf8, String.toUTF8_eq_toByteArray, String.toByteArray_ofList, List.utf8Encode,
    List.toList_data_toByteArray]

/-- A character is decoded whatever comes behind it. -/
theorem eq_of_utf8EncodeChar_append {c d : Char} {bs bs' : List UInt8}
    (h : String.utf8EncodeChar c ++ bs = String.utf8EncodeChar d ++ bs') : c = d := by
  have hc := ByteArray.utf8DecodeChar?_utf8EncodeChar_append (b := bs.toByteArray) (c := c)
  have hd := ByteArray.utf8DecodeChar?_utf8EncodeChar_append (b := bs'.toByteArray) (c := d)
  rw [← List.toByteArray_append, h, List.toByteArray_append, hd] at hc
  exact (Option.some.inj hc).symm

theorem prefix_of_flatMap {cs ds : List Char}
    (h : ds.flatMap String.utf8EncodeChar <+: cs.flatMap String.utf8EncodeChar) : ds <+: cs := by
  induction ds generalizing cs with
  | nil => exact List.nil_prefix
  | cons d ds ih =>
      obtain ⟨rest, hrest⟩ := h
      rw [List.flatMap_cons, List.append_assoc] at hrest
      cases cs with
      | nil =>
          rw [List.flatMap_nil, List.append_eq_nil_iff] at hrest
          exact absurd hrest.1 String.utf8EncodeChar_ne_nil
      | cons c cs =>
          rw [List.flatMap_cons] at hrest
          cases eq_of_utf8EncodeChar_append hrest
          exact List.cons_prefix_cons.mpr ⟨rfl, ih ⟨rest, List.append_cancel_left hrest⟩⟩

/-- A valid cut of the text of a string is a cut of the string. -/
theorem prefix_of_ofUtf8 {bs : List UInt8} {s t : String} (hbs : bs <+: utf8 s)
    (h : ofUtf8 bs = some t) : t.toList <+: s.toList := by
  apply prefix_of_flatMap
  rw [← utf8_ofList, ← utf8_ofList, String.ofList_toList, String.ofList_toList, utf8_of_ofUtf8 h]
  exact hbs

end DroneComms.Wire
