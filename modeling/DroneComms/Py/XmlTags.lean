import DroneComms.Py.XmlRoundTrip
import DroneComms.Lib.Search

/-!
# Where the tags of a written element stand

Escaping leaves no `<` in a text or in an attribute, so a `<` begins a tag.  An
element that has content ends with its end tag, and this end tag stands nowhere
else if no element inside has its name.
-/

namespace DroneComms.Py.Xml

open Search (not_infix_append not_infix_cons)

/-! ## Characters that begin a tag -/

theorem lt_not_mem_escapeText (s : List Char) : '<' ∉ s.flatMap escapeText := by
  intro h
  obtain ⟨c, -, hc⟩ := List.mem_flatMap.mp h
  exact (mem_escapeText hc).1 rfl

theorem lt_not_mem_escapeAttrib (s : List Char) : '<' ∉ s.flatMap escapeAttrib := by
  intro h
  obtain ⟨c, -, hc⟩ := List.mem_flatMap.mp h
  have hreference : ∀ ds ∈ [['q', 'u', 'o', 't'], ['#', '1', '3'], ['#', '1', '0'],
      ['#', '0', '9']], '<' ∉ reference ds := by decide
  rw [escapeAttrib] at hc
  split_ifs at hc
  · exact hreference _ (by decide) hc
  · exact hreference _ (by decide) hc
  · exact hreference _ (by decide) hc
  · exact hreference _ (by decide) hc
  · exact (mem_escapeText hc).1 rfl

theorem not_mem_name {name : String} (h : isName name = true) {c : Char}
    (hc : isNameChar c = false) : c ∉ name.toList := by
  intro hmem
  rw [isNameChar_of_mem h c hmem] at hc
  cases hc

theorem lt_not_mem_writeAttrib {attrib : List (String × String)}
    (h : ∀ kv ∈ attrib, isName kv.1 = true) : '<' ∉ writeAttrib attrib := by
  intro hmem
  obtain ⟨kv, hkv, hmem⟩ := List.mem_flatMap.mp hmem
  have hname := not_mem_name (h kv hkv) (rfl : isNameChar '<' = false)
  have hvalue := lt_not_mem_escapeAttrib kv.2.toList
  simp [hname, hvalue] at hmem

/-! ## End tags -/

/-- An end tag without its `<`. -/
def endOf (tag : String) : List Char := '/' :: (tag.toList ++ ['>'])

theorem lt_not_mem_endOf {tag : String} (h : isName tag = true) : '<' ∉ endOf tag := by
  have hname := not_mem_name h (rfl : isNameChar '<' = false)
  simp [endOf, hname]

/-- A start tag is no end tag. -/
theorem endOf_not_front {tag name : String} (h : isName name = true) (cs : List Char) :
    ¬endOf tag <+: name.toList ++ cs := by
  obtain ⟨c, ds, hname, hc⟩ := isName_head h
  rw [hname, List.cons_append, endOf, List.cons_prefix_cons]
  rintro ⟨rfl, -⟩
  cases hc

/-- An end tag has one name. -/
theorem endOf_prefix_endOf {tag name : String} (h : isName name = true)
    (hfits : endOf tag <+: endOf name) : name = tag := by
  rw [endOf, endOf, List.cons_prefix_cons] at hfits
  obtain ⟨-, hfits⟩ := hfits
  have hend : '>' ∉ name.toList := not_mem_name h rfl
  have hle := hfits.length_le
  rw [List.length_append, List.length_append, List.length_singleton, Nat.add_le_add_iff_right] at hle
  rcases hle.lt_or_eq with hlt | heq
  · rw [Search.prefix_append_iff (by rw [List.length_append]; exact hlt)] at hfits
    exact absurd (hfits.subset (List.mem_append_right _ List.mem_cons_self)) hend
  · have hall := hfits.eq_of_length (by simp [heq])
    exact String.toList_injective (List.append_cancel_right hall).symm

mutual

/-- No element in it has the name. -/
def lacks (tag : String) : Element → Bool
  | .mk name _ _ children => decide (name ≠ tag) && allLack tag children

def allLack (tag : String) : List Element → Bool
  | [] => true
  | el :: els => lacks tag el && allLack tag els

end

theorem allLack_append (tag : String) (els els' : List Element) :
    allLack tag (els ++ els') = (allLack tag els && allLack tag els') := by
  induction els with
  | nil => rfl
  | cons el els ih => rw [List.cons_append, allLack, allLack, ih, Bool.and_assoc]

/-- What stands in front of the content of an element, without its `<`. -/
def startOf (tag : String) (attrib : List (String × String)) (text : String) : List Char :=
  tag.toList ++ (writeAttrib attrib ++ '>' :: text.toList.flatMap escapeText)

theorem lt_not_mem_startOf {tag : String} {attrib : List (String × String)}
    (htag : isName tag = true) (hkeys : ∀ kv ∈ attrib, isName kv.1 = true) (text : String) :
    '<' ∉ startOf tag attrib text := by
  have hname := not_mem_name htag (rfl : isNameChar '<' = false)
  have hattrib := lt_not_mem_writeAttrib hkeys
  have htext := lt_not_mem_escapeText text.toList
  simp [startOf, hname, hattrib, htext]

theorem write_content {tag : String} {attrib : List (String × String)} {text : String}
    {children : List Element} (h : ¬(text = "" ∧ children.isEmpty)) :
    write (.mk tag attrib text children) =
      '<' :: startOf tag attrib text ++ writeAll children ++ '<' :: endOf tag := by
  rw [write, if_neg h]
  simp [startOf, endOf]

theorem head?_write (el : Element) : (write el).head? = some '<' := by
  cases el
  rfl

theorem head?_writeAll_all (els : List Element) : (writeAll els).head?.all (· = '<') := by
  cases els with
  | nil => rfl
  | cons el els =>
      rw [writeAll, List.head?_append, head?_write]
      rfl

mutual

/-- An end tag does not stand in an element where no element has its name. -/
theorem endTag_not_infix_write {tag : String} (htag : isName tag = true) : ∀ el,
    wellNamed el = true → lacks tag el = true → ¬ '<' :: endOf tag <:+: write el
  | .mk name attrib text children, hnamed, hlacks => by
      obtain ⟨hname, hkeys, -, -⟩ := wellNamed_iff.mp hnamed
      rw [wellNamed, Bool.and_eq_true] at hnamed
      rw [lacks, Bool.and_eq_true, decide_eq_true_eq] at hlacks
      by_cases hempty : text = "" ∧ children.isEmpty
      · rw [write, if_pos hempty, List.cons_append, List.cons_append, List.append_assoc]
        apply not_infix_cons _ (endOf_not_front hname _)
        have hlt := not_mem_name hname (rfl : isNameChar '<' = false)
        have hattrib : '<' ∉ writeAttrib attrib := lt_not_mem_writeAttrib hkeys
        simp [hlt, hattrib]
      · rw [write_content hempty]
        have hlt := lt_not_mem_endOf htag
        have hstart : ¬ '<' :: endOf tag <:+: '<' :: startOf name attrib text :=
          not_infix_cons (lt_not_mem_startOf hname hkeys text) (endOf_not_front hname _)
        have hend : ¬ '<' :: endOf tag <:+: '<' :: endOf name :=
          not_infix_cons (lt_not_mem_endOf hname) fun h ↦
            hlacks.1 (endOf_prefix_endOf hname h)
        have hchildren := endTag_not_infix_writeAll htag children hnamed.2 hlacks.2
        exact not_infix_append hlt
          (not_infix_append hlt hstart hchildren (head?_writeAll_all children)) hend rfl

theorem endTag_not_infix_writeAll {tag : String} (htag : isName tag = true) : ∀ els,
    allWellNamed els = true → allLack tag els = true → ¬ '<' :: endOf tag <:+: writeAll els
  | [], _, _ => by simp [writeAll]
  | el :: els, hnamed, hlacks => by
      rw [allWellNamed, Bool.and_eq_true] at hnamed
      rw [allLack, Bool.and_eq_true] at hlacks
      rw [writeAll]
      exact not_infix_append (lt_not_mem_endOf htag)
        (endTag_not_infix_write htag el hnamed.1 hlacks.1)
        (endTag_not_infix_writeAll htag els hnamed.2 hlacks.2) (head?_writeAll_all els)

end

/-- **One end.**  A written element with content begins with its start tag, and its end tag
stands at its end only, if no element inside has its name. -/
theorem tostring_ends_once {tag : String} {attrib : List (String × String)} {text : String}
    {children : List Element} (hnamed : wellNamed (.mk tag attrib text children) = true)
    (hlacks : allLack tag children = true) (hcontent : ¬(text = "" ∧ children.isEmpty)) :
    ∃ front, tostring (.mk tag attrib text children) = front ++ ascii ('<' :: endOf tag) ∧
      ascii ('<' :: tag.toList) <+: front ∧ ¬ascii ('<' :: endOf tag) <:+: front := by
  have hascii := isAscii_write _ hnamed
  obtain ⟨htag, hkeys, -, -⟩ := wellNamed_iff.mp hnamed
  rw [wellNamed, Bool.and_eq_true] at hnamed
  rw [write_content hcontent] at hascii
  refine ⟨ascii ('<' :: startOf tag attrib text ++ writeAll children), ?_, ?_, ?_⟩
  · rw [tostring, write_content hcontent, ascii, List.map_append]
    rfl
  · apply List.IsPrefix.map
    rw [startOf, List.cons_append, List.append_assoc]
    exact List.cons_prefix_cons.mpr ⟨rfl, List.prefix_append _ _⟩
  · intro h
    have hchars := h.map fun n ↦ Char.ofNat n.toNat
    have hfront : IsAscii ('<' :: startOf tag attrib text ++ writeAll children) :=
      fun c hc ↦ hascii c (List.mem_append_left _ hc)
    have hend : IsAscii ('<' :: endOf tag) := fun c hc ↦ hascii c (List.mem_append_right _ hc)
    have hinfix : '<' :: endOf tag <:+: '<' :: startOf tag attrib text ++ writeAll children := by
      rw [← chars_ascii hfront, ← chars_ascii hend]
      exact hchars
    exact not_infix_append (lt_not_mem_endOf htag)
      (not_infix_cons (lt_not_mem_startOf htag hkeys text) (endOf_not_front htag _))
      (endTag_not_infix_writeAll htag children hnamed.2 hlacks) (head?_writeAll_all children) hinfix

end DroneComms.Py.Xml
