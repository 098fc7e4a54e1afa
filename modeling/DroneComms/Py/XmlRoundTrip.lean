import DroneComms.Py.ElementTree
import DroneComms.Py.JsonRoundTrip

/-!
# A reader for written elements

The reader `ElementTree.plain` understands what `tostring` writes and nothing
more.  It shows that the law of `ElementTree` can be met, and closed runs use it.
-/

namespace DroneComms.Py.Xml

open Json (span_append)

/-! ## The reader -/

/-- The character a reference stands for. -/
def referenced : List Char → Option Char
  | ['a', 'm', 'p'] => some '&'
  | ['l', 't'] => some '<'
  | ['g', 't'] => some '>'
  | ['q', 'u', 'o', 't'] => some '"'
  | '#' :: ds => (Decimal.digits ds).bind fun n ↦
      if isXmlCode n then some (Char.ofNat n) else none
  | _ => none

mutual

/-- Resolve the references of a text. -/
def unescape : List Char → Option (List Char)
  | [] => some []
  | c :: cs =>
      if c = '&' then resolve [] cs
      else if isXmlChar c then (unescape cs).map (c :: ·)
      else none

/-- Inside of a reference, with what has been read of its name in reverse. -/
def resolve (name : List Char) : List Char → Option (List Char)
  | [] => none
  | c :: cs =>
      if c = ';' then (referenced name.reverse).bind fun d ↦ (unescape cs).map (d :: ·)
      else resolve (c :: name) cs

end

/-- Read the attributes; `true` if the element ends with them. -/
def readAttrib : ℕ → List Char → Option (List (String × String) × Bool × List Char)
  | 0, _ => none
  | fuel + 1, cs =>
      if cs.take 3 = [' ', '/', '>'] then some ([], true, cs.drop 3)
      else if cs.head? = some '>' then some ([], false, cs.drop 1)
      else do
        let (name, cs) := (cs.drop 1).span isNameChar
        let (raw, cs) := (cs.drop 2).span (· ≠ '"')
        let value ← unescape raw
        let (attrib, rest) ← readAttrib fuel (cs.drop 1)
        some ((String.ofList name, String.ofList value) :: attrib, rest)

mutual

def read : ℕ → List Char → Option (Element × List Char)
  | 0, _ => none
  | fuel + 1, cs => do
      let (name, cs) := (cs.drop 1).span isNameChar
      let (attrib, closed, cs) ← readAttrib (cs.length + 1) cs
      if closed then some (.mk (String.ofList name) attrib "" [], cs)
      else do
        let (raw, cs) := cs.span (· ≠ '<')
        let text ← unescape (normalizeNewlines raw)
        let (children, cs) ← readAll fuel cs
        some (.mk (String.ofList name) attrib (String.ofList text) children,
          cs.drop (name.length + 3))

/-- Read up to an end tag. -/
def readAll : ℕ → List Char → Option (List Element × List Char)
  | 0, _ => none
  | fuel + 1, cs =>
      if cs.take 2 = ['<', '/'] then some ([], cs)
      else do
        let (el, cs) ← read fuel cs
        let (els, rest) ← readAll fuel cs
        some (el :: els, rest)

end

/-- The characters of ASCII bytes. -/
def chars (b : Bytes) : List Char := b.map fun n ↦ Char.ofNat n.toNat

def fromstring (b : Bytes) : Option Element := do
  let (el, rest) ← read (2 * b.length) (chars b)
  if rest = [] then some el else none

/-! ## Characters -/

theorem resolve_append {ds name cs : List Char} (h : ∀ c ∈ ds, c ≠ ';') :
    resolve name (ds ++ ';' :: cs) =
      (referenced (name.reverse ++ ds)).bind fun d ↦ (unescape cs).map (d :: ·) := by
  induction ds generalizing name with
  | nil => rw [List.nil_append, List.append_nil, resolve, if_pos rfl]
  | cons c ds ih =>
      rw [List.forall_mem_cons] at h
      rw [List.cons_append, resolve, if_neg h.1, ih h.2, List.reverse_cons, List.append_assoc,
        List.singleton_append]

/-- A reference is resolved. -/
theorem unescape_reference {ds cs : List Char} {d : Char} (h : ∀ c ∈ ds, c ≠ ';')
    (hd : referenced ds = some d) :
    unescape (reference ds ++ cs) = (unescape cs).map (d :: ·) := by
  rw [reference, List.append_assoc, List.cons_append, unescape, if_pos rfl, List.singleton_append,
    resolve_append h, List.reverse_nil, List.nil_append, hd, Option.bind_some]

/-- A legal character before the rest of a text. -/
def legalCons (c : Char) (cs : List Char) : Option (List Char) :=
  if isXmlChar c then (unescape cs).map (c :: ·) else none

theorem unescape_plain {c : Char} {cs : List Char} (hne : c ≠ '&') :
    unescape (c :: cs) = legalCons c cs := by
  rw [unescape, if_neg hne, legalCons]

theorem ne_semicolon_number {n : ℕ} : ∀ c ∈ '#' :: Nat.toDigits 10 n, c ≠ ';' := by
  rintro d hd rfl
  rcases List.mem_cons.mp hd with h | h
  · exact absurd h (by decide)
  · exact absurd (Decimal.isDigit_of_mem_toDigits h) (by decide)

/-- A character written as its number is read back if it is legal. -/
theorem unescape_number (c : Char) (cs : List Char) :
    unescape (reference ('#' :: Nat.toDigits 10 c.toNat) ++ cs) = legalCons c cs := by
  rw [reference, List.append_assoc, List.cons_append, unescape, if_pos rfl, List.singleton_append,
    resolve_append ne_semicolon_number, List.reverse_nil, List.nil_append, referenced,
    Decimal.digits_toDigits, Option.bind_some, Char.ofNat_toNat, legalCons, isXmlChar]
  split_ifs <;> rfl

theorem unescape_escapeAscii {c : Char} (hne : c ≠ '&') (cs : List Char) :
    unescape (escapeAscii c ++ cs) = legalCons c cs := by
  rw [escapeAscii]
  split_ifs
  · exact unescape_plain hne
  · exact unescape_number c cs

theorem unescape_escapeText (c : Char) (cs : List Char) :
    unescape (escapeText c ++ cs) = legalCons c cs := by
  rw [escapeText]
  split_ifs with hamp hlt hgt
  · subst hamp
    exact unescape_reference (by decide) rfl
  · subst hlt
    exact unescape_reference (by decide) rfl
  · subst hgt
    exact unescape_reference (by decide) rfl
  · exact unescape_escapeAscii hamp cs

theorem unescape_escapeAttrib (c : Char) (cs : List Char) :
    unescape (escapeAttrib c ++ cs) = legalCons c cs := by
  rw [escapeAttrib]
  split_ifs with hquot hcr hlf htab
  · subst hquot
    exact unescape_reference (by decide) rfl
  · subst hcr
    exact unescape_reference (by decide) rfl
  · subst hlf
    exact unescape_reference (by decide) rfl
  · subst htab
    exact unescape_reference (by decide) rfl
  · exact unescape_escapeText c cs

/-- A written text is read back if it is legal. -/
theorem unescape_flatMap {escape : Char → List Char}
    (h : ∀ c cs, unescape (escape c ++ cs) = legalCons c cs) (s : List Char) :
    unescape (s.flatMap escape) = if s.all isXmlChar then some s else none := by
  induction s with
  | nil => rfl
  | cons c s ih =>
      rw [List.flatMap_cons, h, legalCons, ih, List.all_cons]
      cases isXmlChar c <;> cases s.all isXmlChar <;> rfl

/-! ## Lines -/

theorem mem_escapeAscii {c d : Char} (h : d ∈ escapeAscii c) :
    d = c ∨ d ∈ ['&', '#', ';'] ∨ d.isDigit = true := by
  rw [escapeAscii] at h
  split_ifs at h
  · exact .inl (List.mem_singleton.mp h)
  · rcases List.mem_append.mp h with h | h
    · rcases List.mem_cons.mp h with rfl | h
      · exact .inr (.inl (by decide))
      · rcases List.mem_cons.mp h with rfl | h
        · exact .inr (.inl (by decide))
        · exact .inr (.inr (Decimal.isDigit_of_mem_toDigits h))
    · rw [List.mem_singleton.mp h]
      exact .inr (.inl (by decide))

/-- What is written for a character in a text does not end the text, and breaks a
line only if it is that character. -/
theorem mem_escapeText {c d : Char} (h : d ∈ escapeText c) :
    d ≠ '<' ∧ (d = c ∨ d ≠ '\r' ∧ d ≠ '\n') := by
  have hreference : ∀ ds ∈ [['a', 'm', 'p'], ['l', 't'], ['g', 't']], ∀ d ∈ reference ds,
      d ≠ '<' ∧ d ≠ '\r' ∧ d ≠ '\n' := by decide
  rw [escapeText] at h
  split_ifs at h with hamp hlt hgt
  · exact (hreference _ (by decide) d h).imp_right .inr
  · exact (hreference _ (by decide) d h).imp_right .inr
  · exact (hreference _ (by decide) d h).imp_right .inr
  · rcases mem_escapeAscii h with rfl | hd | hd
    · exact ⟨hlt, .inl rfl⟩
    · exact ((by decide : ∀ d ∈ ['&', '#', ';'], d ≠ '<' ∧ d ≠ '\r' ∧ d ≠ '\n') d hd).imp_right .inr
    · refine ⟨?_, .inr ⟨?_, ?_⟩⟩ <;>
      · rintro rfl
        exact absurd hd (by decide)

theorem ne_nil_escapeText (c : Char) : escapeText c ≠ [] := by
  rw [escapeText, escapeAscii]
  split_ifs <;> exact List.cons_ne_nil _ _

theorem normalizeNewlines_append {as : List Char} (h : ∀ c ∈ as, c ≠ '\r') (cs : List Char) :
    normalizeNewlines (as ++ cs) = as ++ normalizeNewlines cs := by
  induction as with
  | nil => rfl
  | cons a as ih =>
      rw [List.forall_mem_cons] at h
      rw [List.cons_append, normalizeNewlines, if_pos h.1, ih h.2]
      rfl

/-- The first character of a written text is a line feed if that of the text is. -/
theorem head?_flatMap_escapeText (s : List Char) :
    (s.flatMap escapeText).head? = some '\n' ↔ s.head? = some '\n' := by
  cases s with
  | nil => exact Iff.rfl
  | cons c s =>
      constructor
      · intro h
        have hmem : '\n' ∈ escapeText c := by
          rw [List.flatMap_cons, List.head?_append_of_ne_nil _ (ne_nil_escapeText c)] at h
          exact List.mem_of_head? h
        rcases (mem_escapeText hmem).2 with hc | hc
        · rw [← hc]
          rfl
        · exact absurd rfl hc.2
      · intro h
        cases h
        rfl

theorem normalizeNewlines_cr (cs : List Char) : normalizeNewlines ('\r' :: cs) =
    if cs.head? = some '\n' then normalizeNewlines cs else '\n' :: normalizeNewlines cs := by
  rw [normalizeNewlines, if_neg (not_not.mpr rfl)]

/-- Lines may be normalised before or after resolving the references. -/
theorem normalizeNewlines_flatMap (s : List Char) :
    normalizeNewlines (s.flatMap escapeText) = (normalizeNewlines s).flatMap escapeText := by
  induction s with
  | nil => rfl
  | cons c s ih =>
      by_cases hc : c = '\r'
      · subst hc
        have hwritten : escapeText '\r' = ['\r'] := by decide
        rw [List.flatMap_cons, hwritten, List.singleton_append, normalizeNewlines_cr,
          normalizeNewlines_cr, ih]
        by_cases hlf : s.head? = some '\n'
        · rw [if_pos hlf, if_pos ((head?_flatMap_escapeText s).mpr hlf)]
        · rw [if_neg hlf, if_neg (mt (head?_flatMap_escapeText s).mp hlf)]
          rfl
      · rw [List.flatMap_cons, normalizeNewlines_append, ih, normalizeNewlines, if_pos hc,
          List.flatMap_cons]
        intro d hd hcr
        rcases (mem_escapeText hd).2 with h | h
        · exact hc (h ▸ hcr)
        · exact h.1 hcr

theorem all_normalizeNewlines (s : List Char) :
    (normalizeNewlines s).all isXmlChar = s.all isXmlChar := by
  induction s with
  | nil => rfl
  | cons c s ih =>
      rw [normalizeNewlines]
      split_ifs with hc hlf
      · rw [List.all_cons, List.all_cons, ih]
      · rw [not_not.mp hc, List.all_cons, ih]
        rfl
      · rw [not_not.mp hc, List.all_cons, List.all_cons, ih]
        rfl

/-! ## Elements -/

/-- A written attribute value does not end the attribute. -/
theorem ne_quote_of_mem_escapeAttrib {c d : Char} (h : d ∈ escapeAttrib c) : d ≠ '"' := by
  rw [escapeAttrib, escapeText] at h
  have hreference : ∀ ds ∈ [['q', 'u', 'o', 't'], ['#', '1', '3'], ['#', '1', '0'],
      ['#', '0', '9'], ['a', 'm', 'p'], ['l', 't'], ['g', 't']], ∀ d ∈ reference ds, d ≠ '"' := by
    decide
  split_ifs at h with h1
  · exact hreference _ (by decide) d h
  · exact hreference _ (by decide) d h
  · exact hreference _ (by decide) d h
  · exact hreference _ (by decide) d h
  · exact hreference _ (by decide) d h
  · exact hreference _ (by decide) d h
  · exact hreference _ (by decide) d h
  · rcases mem_escapeAscii h with rfl | hd | hd
    · exact h1
    · exact (by decide : ∀ d ∈ ['&', '#', ';'], d ≠ '"') d hd
    · rintro rfl
      exact absurd hd (by decide)

theorem isName_head {name : String} (h : isName name = true) :
    ∃ c cs, name.toList = c :: cs ∧ isNameChar c = true := by
  rw [isName, Bool.and_eq_true, Bool.and_eq_true, List.all_eq_true] at h
  cases hname : name.toList with
  | nil =>
      rw [hname] at h
      exact absurd h.1.2 (by decide)
  | cons c cs => exact ⟨c, cs, rfl, h.1.1 c (by rw [hname]; exact List.mem_cons_self)⟩

theorem isNameChar_of_mem {name : String} (h : isName name = true) :
    ∀ c ∈ name.toList, isNameChar c = true := by
  rw [isName, Bool.and_eq_true, Bool.and_eq_true, List.all_eq_true] at h
  exact h.1.1

theorem span_name {name : String} (h : isName name = true) {c : Char} (hc : isNameChar c = false)
    (cs : List Char) : (name.toList ++ c :: cs).span isNameChar = (name.toList, c :: cs) :=
  span_append (isNameChar_of_mem h) (by rintro d ⟨⟩; exact hc)

theorem span_value (value : String) (cs : List Char) :
    (value.toList.flatMap escapeAttrib ++ '"' :: cs).span (· ≠ '"') =
      (value.toList.flatMap escapeAttrib, '"' :: cs) := by
  apply span_append
  · intro d hd
    obtain ⟨c, -, hc⟩ := List.mem_flatMap.mp hd
    exact decide_eq_true (ne_quote_of_mem_escapeAttrib hc)
  · rintro d ⟨⟩
    rfl

theorem span_text (text : String) {cs : List Char} (h : cs.head? = some '<') :
    (text.toList.flatMap escapeText ++ cs).span (· ≠ '<') =
      (text.toList.flatMap escapeText, cs) := by
  apply span_append
  · intro d hd
    obtain ⟨c, -, hc⟩ := List.mem_flatMap.mp hd
    exact decide_eq_true (mem_escapeText hc).1
  · intro d hd
    rw [h] at hd
    cases hd
    rfl

/-- Behind the attributes an element is closed or has content. -/
def Tail (closed : Bool) (rest tail : List Char) : Prop :=
  (closed = true ∧ tail = ' ' :: '/' :: '>' :: rest) ∨ (closed = false ∧ tail = '>' :: rest)

/-- Written attributes are read back if they are legal. -/
theorem readAttrib_writeAttrib {closed : Bool} {rest tail : List Char}
    (htail : Tail closed rest tail) {attrib : List (String × String)}
    (hnames : ∀ kv ∈ attrib, isName kv.1 = true) {fuel : ℕ} (hfuel : attrib.length < fuel) :
    readAttrib fuel (writeAttrib attrib ++ tail) =
      if attrib.all (fun kv ↦ isLegal kv.2) then some (attrib, closed, rest) else none := by
  induction attrib generalizing fuel with
  | nil =>
      obtain ⟨fuel, rfl⟩ : ∃ k, fuel = k + 1 := ⟨fuel - 1, by simp at hfuel; omega⟩
      rcases htail with ⟨rfl, rfl⟩ | ⟨rfl, rfl⟩
      · rfl
      · rfl
  | cons kv attrib ih =>
      obtain ⟨fuel, rfl⟩ : ∃ k, fuel = k + 1 := ⟨fuel - 1, by simp at hfuel; omega⟩
      rw [List.forall_mem_cons] at hnames
      obtain ⟨key, value⟩ := kv
      obtain ⟨c, cs, hkey, hc⟩ := isName_head hnames.1
      have hnext : readAttrib fuel (writeAttrib attrib ++ tail) = _ :=
        ih hnames.2 (by simp at hfuel; omega)
      have htext : writeAttrib ((key, value) :: attrib) ++ tail =
          ' ' :: (key.toList ++ '=' :: '"' :: (value.toList.flatMap escapeAttrib ++
            '"' :: (writeAttrib attrib ++ tail))) := by
        simp [writeAttrib]
      have hslash : c ≠ '/' := by
        rintro rfl
        exact absurd hc (by decide)
      rw [htext, readAttrib, if_neg, if_neg]
      · have hequals : isNameChar '=' = false := by decide
        simp only [List.drop_succ_cons, List.drop_zero, span_name hnames.1 hequals, span_value]
        rw [unescape_flatMap unescape_escapeAttrib, hnext]
        have hlegal : value.toList.all isXmlChar = isLegal value := rfl
        rw [hlegal, List.all_cons]
        cases isLegal value <;> cases attrib.all (fun kv ↦ isLegal kv.2) <;> simp
      · exact fun h ↦ absurd (Option.some.inj h) (by decide)
      · rw [hkey]
        intro h
        have h2 := congrArg (fun l ↦ l[1]?) h
        exact hslash (by simpa using h2)

theorem length_writeAttrib (attrib : List (String × String)) :
    attrib.length ≤ (writeAttrib attrib).length := by
  induction attrib with
  | nil => exact le_rfl
  | cons kv attrib ih =>
      rw [writeAttrib, List.flatMap_cons, List.length_append, List.length_cons]
      rw [writeAttrib] at ih
      simp only [List.length_append, List.length_cons]
      omega

theorem length_write_pos (el : Element) : 0 < (write el).length := by
  cases el
  simp [write]

/-- Behind a text an element goes on with a child or an end tag. -/
theorem head?_writeAll (els : List Element) (rest : List Char) :
    (writeAll els ++ '<' :: rest).head? = some '<' := by
  cases els with
  | nil => rfl
  | cons el els =>
      cases el
      rfl

/-- The first characters of an element are no end tag. -/
theorem take_write_ne {el : Element} (h : wellNamed el = true) (rest : List Char) :
    (write el ++ rest).take 2 ≠ ['<', '/'] := by
  cases el with
  | mk tag attrib text children =>
      obtain ⟨c, cs, htag, hc⟩ := isName_head (wellNamed_iff.mp h).1
      intro htake
      simp only [Element.tag] at htag
      rw [write, htag] at htake
      have hslash : c = '/' := by simpa using htake
      rw [hslash] at hc
      exact absurd hc (by decide)

/-- The start tag of a written element is read back if it is legal. -/
theorem readStart {tag : String} {attrib : List (String × String)} {closed : Bool}
    {rest tail : List Char} (htail : Tail closed rest tail) (htag : isName tag = true)
    (hkeys : ∀ kv ∈ attrib, isName kv.1 = true) :
    (tag.toList ++ (writeAttrib attrib ++ tail)).span isNameChar =
        (tag.toList, writeAttrib attrib ++ tail) ∧
      readAttrib ((writeAttrib attrib ++ tail).length + 1) (writeAttrib attrib ++ tail) =
        if attrib.all (fun kv ↦ isLegal kv.2) then some (attrib, closed, rest) else none := by
  constructor
  · apply span_append (isNameChar_of_mem htag)
    cases attrib with
    | nil =>
        rcases htail with ⟨-, rfl⟩ | ⟨-, rfl⟩
        · rintro d ⟨⟩
          rfl
        · rintro d ⟨⟩
          rfl
    | cons kv attrib =>
        rintro d ⟨⟩
        rfl
  · apply readAttrib_writeAttrib htail hkeys
    have := length_writeAttrib attrib
    rw [List.length_append]
    omega

mutual

/-- A written element is read back if it is legal. -/
theorem read_write : ∀ (el : Element) (fuel : ℕ) (rest : List Char), wellNamed el = true →
    2 * (write el).length ≤ fuel →
    read fuel (write el ++ rest) = if legal el then some (normalize el, rest) else none
  | .mk tag attrib text children, 0, rest, _, hfuel => by
      have := length_write_pos (.mk tag attrib text children)
      omega
  | .mk tag attrib text children, fuel + 1, rest, hnamed, hfuel => by
      rw [wellNamed, Bool.and_eq_true, Bool.and_eq_true, Bool.and_eq_true, List.all_eq_true] at hnamed
      obtain ⟨⟨⟨htag, hkeys⟩, -⟩, hchildren⟩ := hnamed
      by_cases hempty : text = "" ∧ children.isEmpty
      · obtain ⟨rfl, hnil⟩ := hempty
        rw [List.isEmpty_iff] at hnil
        subst hnil
        obtain ⟨hspan, hattrib⟩ := readStart (.inl ⟨rfl, rfl⟩ : Tail true rest _) htag hkeys
        have htext : write (.mk tag attrib "" []) ++ rest =
            '<' :: (tag.toList ++ (writeAttrib attrib ++ ' ' :: '/' :: '>' :: rest)) := by
          simp [write]
        rw [htext, read]
        simp only [List.drop_succ_cons, List.drop_zero, hspan, hattrib]
        rw [legal]
        cases attrib.all (fun kv ↦ isLegal kv.2) <;> simp [normalize, allLegal, normalizeAll,
          isLegal, normalizeNewlines]
      · have hspan := readStart (.inr ⟨rfl, rfl⟩ : Tail false (text.toList.flatMap escapeText ++
          (writeAll children ++ '<' :: '/' :: (tag.toList ++ '>' :: rest))) _) htag hkeys
        have htext : write (.mk tag attrib text children) ++ rest =
            '<' :: (tag.toList ++ (writeAttrib attrib ++ '>' :: (text.toList.flatMap escapeText ++
              (writeAll children ++ '<' :: '/' :: (tag.toList ++ '>' :: rest))))) := by
          rw [write, if_neg hempty]
          simp
        have hlength := congrArg List.length htext
        simp only [List.length_append, List.length_cons] at hlength
        have hall := readAll_writeAll children fuel (tag.toList ++ '>' :: rest) hchildren
          (by omega)
        have hraw := span_text text (head?_writeAll children ('/' :: (tag.toList ++ '>' :: rest)))
        rw [htext, read]
        simp only [List.drop_succ_cons, List.drop_zero, hspan.1, hspan.2]
        rw [legal]
        cases attrib.all (fun kv ↦ isLegal kv.2)
        · rfl
        · simp only [↓reduceIte, Option.bind_eq_bind, Option.bind_some, hraw]
          rw [normalizeNewlines_flatMap, unescape_flatMap unescape_escapeText,
            all_normalizeNewlines]
          have hlegal : text.toList.all isXmlChar = isLegal text := rfl
          rw [hlegal, hall]
          cases isLegal text <;> cases allLegal children <;> simp [normalize]

theorem readAll_writeAll : ∀ (els : List Element) (fuel : ℕ) (rest : List Char),
    allWellNamed els = true → 2 * (writeAll els).length < fuel →
    readAll fuel (writeAll els ++ '<' :: '/' :: rest) =
      if allLegal els then some (normalizeAll els, '<' :: '/' :: rest) else none
  | [], fuel + 1, rest, _, _ => rfl
  | el :: els, fuel + 1, rest, hnamed, hfuel => by
      rw [allWellNamed, Bool.and_eq_true] at hnamed
      rw [writeAll, List.length_append] at hfuel
      have hpos := length_write_pos el
      have hel := read_write el fuel (writeAll els ++ '<' :: '/' :: rest) hnamed.1 (by omega)
      have hels := readAll_writeAll els fuel rest hnamed.2 (by omega)
      rw [writeAll, List.append_assoc, readAll, if_neg (take_write_ne hnamed.1 _), hel, allLegal]
      cases legal el
      · rfl
      · simp only [↓reduceIte, Option.bind_eq_bind, Option.bind_some, hels]
        cases allLegal els <;> simp [normalizeAll]

end

/-! ## Bytes -/

def IsAscii (cs : List Char) : Prop := ∀ c ∈ cs, c.toNat < 128

theorem IsAscii.append {as bs : List Char} (ha : IsAscii as) (hb : IsAscii bs) :
    IsAscii (as ++ bs) :=
  fun c hc ↦ (List.mem_append.mp hc).elim (ha c) (hb c)

theorem IsAscii.flatMap {escape : Char → List Char} (h : ∀ c, IsAscii (escape c))
    (cs : List Char) : IsAscii (cs.flatMap escape) := by
  intro c hc
  obtain ⟨d, -, hd⟩ := List.mem_flatMap.mp hc
  exact h d c hd

theorem chars_ascii {cs : List Char} (h : IsAscii cs) : chars (ascii cs) = cs := by
  rw [chars, ascii, List.map_map]
  nth_rewrite 2 [← List.map_id cs]
  apply List.map_congr_left
  intro c hc
  have hlt : c.toNat < 256 := lt_trans (h c hc) (by decide)
  rw [Function.comp_apply, UInt8.toNat_ofNat_of_lt' hlt, Char.ofNat_toNat]
  rfl

theorem isAscii_reference {ds : List Char} (h : IsAscii ds) : IsAscii (reference ds) := by
  have hand : IsAscii ['&'] := by unfold IsAscii; decide
  have hend : IsAscii [';'] := by unfold IsAscii; decide
  exact (hand.append h).append hend

theorem isAscii_escapeAscii (c : Char) : IsAscii (escapeAscii c) := by
  rw [escapeAscii]
  split_ifs with hc
  · intro d hd
    rw [List.mem_singleton.mp hd]
    exact hc
  · apply isAscii_reference
    intro d hd
    rcases List.mem_cons.mp hd with rfl | hd
    · decide
    · have hdigit := Char.isDigit_iff_toNat.mp (Decimal.isDigit_of_mem_toDigits hd)
      exact lt_of_le_of_lt hdigit.2 (by decide)

theorem isAscii_escapeText (c : Char) : IsAscii (escapeText c) := by
  rw [escapeText]
  split_ifs
  · unfold IsAscii; decide
  · unfold IsAscii; decide
  · unfold IsAscii; decide
  · exact isAscii_escapeAscii c

theorem isAscii_escapeAttrib (c : Char) : IsAscii (escapeAttrib c) := by
  rw [escapeAttrib]
  split_ifs
  · unfold IsAscii; decide
  · unfold IsAscii; decide
  · unfold IsAscii; decide
  · unfold IsAscii; decide
  · exact isAscii_escapeText c

theorem isAscii_name {name : String} (h : isName name = true) : IsAscii name.toList := by
  intro c hc
  have hchar := isNameChar_of_mem h c hc
  simp only [isNameChar, Bool.or_eq_true, decide_eq_true_eq] at hchar
  rcases hchar with ((hchar | rfl) | rfl) | rfl
  · have hranges : ((decide ('A'.val ≤ c.val ∧ c.val ≤ 'Z'.val) ||
        decide ('a'.val ≤ c.val) && decide (c.val ≤ 'z'.val)) ||
          decide ('0'.val ≤ c.val) && decide (c.val ≤ '9'.val)) = true := hchar
    simp only [Bool.or_eq_true, Bool.and_eq_true, decide_eq_true_eq,
      UInt32.le_iff_toNat_le] at hranges
    have hval : c.toNat = c.val.toNat := rfl
    have hcodes : 'Z'.val.toNat = 90 ∧ 'z'.val.toNat = 122 ∧ '9'.val.toNat = 57 := by decide
    omega
  · decide
  · decide
  · decide

theorem isAscii_writeAttrib {attrib : List (String × String)}
    (h : ∀ kv ∈ attrib, isName kv.1 = true) : IsAscii (writeAttrib attrib) := by
  intro c hc
  obtain ⟨kv, hkv, hc⟩ := List.mem_flatMap.mp hc
  have hspace : IsAscii [' '] := by unfold IsAscii; decide
  have hequals : IsAscii ['=', '"'] := by unfold IsAscii; decide
  have hquote : IsAscii ['"'] := by unfold IsAscii; decide
  have hall := (((hspace.append (isAscii_name (h kv hkv))).append hequals).append
    (IsAscii.flatMap isAscii_escapeAttrib kv.2.toList)).append hquote
  apply hall c
  simpa using hc

mutual

theorem isAscii_write : ∀ el, wellNamed el = true → IsAscii (write el)
  | .mk tag attrib text children, h => by
      rw [wellNamed, Bool.and_eq_true, Bool.and_eq_true, Bool.and_eq_true, List.all_eq_true] at h
      obtain ⟨⟨⟨htag, hkeys⟩, -⟩, hchildren⟩ := h
      have hopen : IsAscii ['<'] := by unfold IsAscii; decide
      have hstart := (hopen.append (isAscii_name htag)).append (isAscii_writeAttrib hkeys)
      rw [write]
      split_ifs
      · have hend : IsAscii [' ', '/', '>'] := by unfold IsAscii; decide
        exact hstart.append hend
      · have hclose : IsAscii ['>'] := by unfold IsAscii; decide
        have hslash : IsAscii ['<', '/'] := by unfold IsAscii; decide
        have hcontent := (hclose.append (IsAscii.flatMap isAscii_escapeText text.toList)).append
          (isAscii_writeAll children hchildren)
        have hall := hstart.append
          (((hcontent.append hslash).append (isAscii_name htag)).append hclose)
        simpa using hall

theorem isAscii_writeAll : ∀ els, allWellNamed els = true → IsAscii (writeAll els)
  | [], _ => List.forall_mem_nil _
  | el :: els, h => by
      rw [allWellNamed, Bool.and_eq_true] at h
      exact (isAscii_write el h.1).append (isAscii_writeAll els h.2)

end

end DroneComms.Py.Xml

namespace DroneComms.Py

open Xml

/-- A reader for closed runs, and a writer that goes a thousand elements deep. -/
def ElementTree.plain : ElementTree where
  fromstring := Xml.fromstring
  fromstring_tostring el h := by
    have hread := read_write el (2 * (tostring el).length) [] h (by rw [tostring, ascii,
      List.length_map])
    rw [List.append_nil] at hread
    rw [Xml.fromstring, tostring, chars_ascii (isAscii_write el h)]
    rw [tostring] at hread
    rw [hread]
    cases legal el <;> rfl
  serializes el := depth el < 1000
  serializes_normalize el := by rw [depth_normalize]

end DroneComms.Py
