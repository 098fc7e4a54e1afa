import DroneComms.Lib.Truncation
import DroneComms.Py.JsonReader
import Mathlib.Data.List.TakeWhile

/-!
# Truncated JSON

What `json.loads` makes of a text that ends early.  An object is a document of
its own: the reader of one does not look behind its closing brace, and anything
there but space is too much.  So no object text is the start of another.
-/

namespace DroneComms.Py

namespace Json

/-! ## Reading with more text behind -/

theorem readUnits_append {cs : List Char} {us : List Nat} {rest : List Char}
    (h : readUnits cs = some (us, rest)) (more : List Char) :
    readUnits (cs ++ more) = some (us, rest ++ more) := by
  fun_induction readUnits cs generalizing us rest with
  | case1 => cases h
  | case2 rest' =>
      cases h
      rfl
  | case3 a b c d cs ih =>
      obtain ⟨u, hu, hus⟩ := Option.bind_eq_some_iff.mp h
      obtain ⟨⟨us', rest'⟩, hcs, heq⟩ := Option.bind_eq_some_iff.mp hus
      cases heq
      simp [readUnits, hu, ih hcs]
  | case4 e cs hnot ih =>
      obtain ⟨u, hu, hus⟩ := Option.bind_eq_some_iff.mp h
      obtain ⟨⟨us', rest'⟩, hcs, heq⟩ := Option.bind_eq_some_iff.mp hus
      cases heq
      have hne : e ≠ 'u' := by
        rintro rfl
        cases hu
      rw [List.cons_append, List.cons_append, readUnits_short hu hne, ih hcs]
      rfl
  | case5 => cases h
  | case6 c cs hquote hescape hback hplain ih =>
      obtain ⟨⟨us', rest'⟩, hcs, heq⟩ := Option.bind_eq_some_iff.mp h
      cases heq
      obtain ⟨hlow, hback⟩ := not_or.mp hplain
      rw [List.cons_append, readUnits_cons hquote hback (not_lt.mp hlow), ih hcs]
      rfl

theorem readString_append {cs s rest : List Char} (h : readString cs = some (s, rest))
    (more : List Char) : readString (cs ++ more) = some (s, rest ++ more) := by
  obtain ⟨⟨us, rest'⟩, hcs, hs⟩ := Option.bind_eq_some_iff.mp h
  obtain ⟨s', hs', heq⟩ := Option.bind_eq_some_iff.mp hs
  cases heq
  simp [readString, readUnits_append hcs, hs']

theorem skip_append_of_ne_nil {cs : List Char} (h : skip cs ≠ []) (more : List Char) :
    skip (cs ++ more) = skip cs ++ more := by
  rw [skip, List.dropWhile_append, if_neg]
  · rfl
  · simpa [skip] using h

/-- What is read as a number is characters of one. -/
theorem readNumber_eq_some {text : FloatText} {cs rest : List Char} {x : Value}
    (h : readNumber text cs = some (x, rest)) :
    ∃ literal, cs.span isNumberChar = (literal, rest) ∧ literal ≠ [] ∧ literal ≠ ['-'] := by
  rcases hspan : cs.span isNumberChar with ⟨literal, rest'⟩
  rw [readNumber, hspan] at h
  dsimp only at h
  split_ifs at h with hint hfloat
  · obtain ⟨n, -, heq⟩ := Option.map_eq_some_iff.mp h
    cases heq
    exact ⟨literal, rfl, literal_ne hint⟩
  · obtain ⟨y, -, heq⟩ := Option.map_eq_some_iff.mp h
    cases heq
    exact ⟨literal, rfl, floatLiteral_ne hfloat⟩

theorem span_spec {p : Char → Bool} {cs literal rest : List Char}
    (h : cs.span p = (literal, rest)) : cs = literal ++ rest ∧ ∀ c ∈ literal, p c = true := by
  rw [List.span_eq_takeWhile_dropWhile, Prod.mk.injEq] at h
  obtain ⟨rfl, rfl⟩ := h
  exact ⟨List.takeWhile_append_dropWhile.symm, fun c hc ↦ List.mem_takeWhile_imp hc⟩

/-- A number ends where it ends, if there is anything behind it. -/
theorem span_append_of_ne_nil {p : Char → Bool} {cs literal rest : List Char}
    (h : cs.span p = (literal, rest)) (hrest : rest ≠ []) (more : List Char) :
    (cs ++ more).span p = (literal, rest ++ more) := by
  obtain ⟨hsplit, hall⟩ := span_spec h
  have hhead : ∀ c ∈ (rest ++ more).head?, p c = false := by
    intro c hc
    rw [List.span_eq_takeWhile_dropWhile, Prod.mk.injEq] at h
    have hnot := List.head?_dropWhile_not p cs
    rw [h.2, ← List.head?_append_of_ne_nil _ hrest, hc] at hnot
    exact hnot
  rw [hsplit, List.append_assoc]
  exact span_append hall hhead

theorem readNumber_append {text : FloatText} {cs rest : List Char} {x : Value}
    (h : readNumber text cs = some (x, rest)) (hrest : rest ≠ []) (more : List Char) :
    readNumber text (cs ++ more) = some (x, rest ++ more) := by
  obtain ⟨literal, hspan, -, -⟩ := readNumber_eq_some h
  rw [readNumber, hspan] at h
  rw [readNumber, span_append_of_ne_nil hspan hrest]
  dsimp only at h ⊢
  split_ifs at h ⊢
  · obtain ⟨n, hn, heq⟩ := Option.map_eq_some_iff.mp h
    cases heq
    rw [hn]
    rfl
  · obtain ⟨y, hy, heq⟩ := Option.map_eq_some_iff.mp h
    cases heq
    rw [hy]
    rfl

/-! ## Values -/

section

variable {text : FloatText} {fuel fuel' : Nat}

theorem scan_nil : scan text fuel [] = none := by cases fuel <;> rfl

theorem scanItems_nil : scanItems text fuel [] = none := by cases fuel <;> rfl

theorem scanMember_nil : scanMember text fuel [] = none := by cases fuel <;> rfl

theorem scanMembers_nil : scanMembers text fuel [] = none := by cases fuel <;> rfl

/-- A reader that fails at the end has something to read. -/
theorem ne_nil_of_read {α : Type} {read : List Char → Option α} (hnil : read [] = none)
    {cs : List Char} {a : α} (h : read cs = some a) : cs ≠ [] := by
  rintro rfl
  rw [hnil] at h
  cases h

theorem ne_nil_of_skip {cs : List Char} (h : skip cs ≠ []) : cs ≠ [] := by
  rintro rfl
  exact h rfl

/-- What is read with `fuel` is read with `fuel'`, whatever is behind the text.  Only a
number at the end of a text may go on. -/
structure Extends (text : FloatText) (fuel fuel' : Nat) : Prop where
  value : ∀ {cs x rest}, scan text fuel cs = some (x, rest) →
    (rest ≠ [] ∨ cs.head? = some '{') → ∀ more,
      scan text fuel' (cs ++ more) = some (x, rest ++ more)
  items : ∀ {cs xs rest}, scanItems text fuel cs = some (xs, rest) → ∀ more,
    scanItems text fuel' (cs ++ more) = some (xs, rest ++ more)
  member : ∀ {cs kv rest}, scanMember text fuel cs = some (kv, rest) → rest ≠ [] → ∀ more,
    scanMember text fuel' (cs ++ more) = some (kv, rest ++ more)
  members : ∀ {cs kvs rest}, scanMembers text fuel cs = some (kvs, rest) → ∀ more,
    scanMembers text fuel' (cs ++ more) = some (kvs, rest ++ more)

namespace Extends

variable (ih : Extends text fuel fuel')

include ih

/-- A value and what is read behind the space behind it. -/
theorem value_skip {α : Type} {read : List Char → Option α} (hnil : read [] = none)
    {cs es : List Char} {x : Value} {a : α} (hx : scan text fuel cs = some (x, es))
    (ha : read (skip es) = some a) (more : List Char) :
    scan text fuel' (cs ++ more) = some (x, es ++ more) ∧
      skip (es ++ more) = skip es ++ more := by
  have hes := ne_nil_of_read hnil ha
  exact ⟨ih.value hx (.inl (ne_nil_of_skip hes)) more, skip_append_of_ne_nil hes more⟩

theorem member_skip {α : Type} {read : List Char → Option α} (hnil : read [] = none)
    {cs es : List Char} {kv : String × Value} {a : α}
    (hkv : scanMember text fuel cs = some (kv, es)) (ha : read (skip es) = some a)
    (more : List Char) :
    scanMember text fuel' (cs ++ more) = some (kv, es ++ more) ∧
      skip (es ++ more) = skip es ++ more := by
  have hes := ne_nil_of_read hnil ha
  exact ⟨ih.member hkv (ne_nil_of_skip hes) more, skip_append_of_ne_nil hes more⟩

theorem scanItems_append {cs rest : List Char} {xs : List Value}
    (h : scanItems text (fuel + 1) cs = some (xs, rest)) (more : List Char) :
    scanItems text (fuel' + 1) (cs ++ more) = some (xs, rest ++ more) := by
  rw [scanItems.eq_def] at h
  dsimp only at h
  split at h
  · cases h
    rfl
  · rename_i cs
    obtain ⟨⟨x, es⟩, hx, h⟩ := Option.bind_eq_some_iff.mp h
    obtain ⟨⟨xs', rest'⟩, hxs, heq⟩ := Option.bind_eq_some_iff.mp h
    cases heq
    have hcs := ne_nil_of_read scan_nil hx
    obtain ⟨hx', hes⟩ := ih.value_skip scanItems_nil hx hxs more
    rw [List.cons_append, scanItems, skip_append_of_ne_nil hcs, hx']
    simp [hes, ih.items hxs]
  · cases h

theorem scanMembers_append {cs rest : List Char} {kvs : List (String × Value)}
    (h : scanMembers text (fuel + 1) cs = some (kvs, rest)) (more : List Char) :
    scanMembers text (fuel' + 1) (cs ++ more) = some (kvs, rest ++ more) := by
  rw [scanMembers.eq_def] at h
  dsimp only at h
  split at h
  · cases h
    rfl
  · rename_i cs
    obtain ⟨⟨kv, es⟩, hkv, h⟩ := Option.bind_eq_some_iff.mp h
    obtain ⟨⟨kvs', rest'⟩, hkvs, heq⟩ := Option.bind_eq_some_iff.mp h
    cases heq
    have hcs := ne_nil_of_read scanMember_nil hkv
    obtain ⟨hkv', hes⟩ := ih.member_skip scanMembers_nil hkv hkvs more
    rw [List.cons_append, scanMembers, skip_append_of_ne_nil hcs, hkv']
    simp [hes, ih.members hkvs]
  · cases h

theorem scanMember_append {cs rest : List Char} {kv : String × Value}
    (h : scanMember text (fuel + 1) cs = some (kv, rest)) (hrest : rest ≠ []) (more : List Char) :
    scanMember text (fuel' + 1) (cs ++ more) = some (kv, rest ++ more) := by
  rw [scanMember.eq_def] at h
  dsimp only at h
  split at h
  · rename_i cs
    obtain ⟨⟨k, es⟩, hk, h⟩ := Option.bind_eq_some_iff.mp h
    dsimp only at h
    split at h
    · rename_i ds hcolon
      obtain ⟨⟨x, rest'⟩, hx, heq⟩ := Option.bind_eq_some_iff.mp h
      cases heq
      have hes : skip (es ++ more) = ':' :: (ds ++ more) := by
        rw [skip_append_of_ne_nil (by simp [hcolon]), hcolon, List.cons_append]
      have hds := ne_nil_of_read scan_nil hx
      rw [List.cons_append, scanMember, readString_append hk]
      simp [hes, skip_append_of_ne_nil hds, ih.value hx (.inl hrest)]
    · cases h
  · cases h

theorem scan_list_append {cs rest : List Char} {x : Value}
    (h : scan text (fuel + 1) ('[' :: cs) = some (x, rest)) (more : List Char) :
    scan text (fuel' + 1) ('[' :: (cs ++ more)) = some (x, rest ++ more) := by
  rw [scan] at h
  split at h
  · rename_i hskip
    cases h
    rw [scan, skip_append_of_ne_nil (by simp [hskip]), hskip]
    rfl
  · rename_i hne
    obtain ⟨⟨y, es⟩, hy, h⟩ := Option.bind_eq_some_iff.mp h
    obtain ⟨⟨ys, rest'⟩, hys, heq⟩ := Option.bind_eq_some_iff.mp h
    cases heq
    have hcs := ne_nil_of_read scan_nil hy
    obtain ⟨c, ds, hskip⟩ := List.exists_cons_of_ne_nil hcs
    have hc : c ≠ ']' := by
      rintro rfl
      exact hne ds hskip
    obtain ⟨hy', hes⟩ := ih.value_skip scanItems_nil hy hys more
    have hskip' : skip (cs ++ more) = c :: (ds ++ more) := by
      rw [skip_append_of_ne_nil hcs, hskip, List.cons_append]
    rw [hskip, List.cons_append] at hy'
    refine scan_list hskip' hc hy' ?_
    rw [hes]
    exact ih.items hys more

theorem scan_dict_append {cs rest : List Char} {x : Value}
    (h : scan text (fuel + 1) ('{' :: cs) = some (x, rest)) (more : List Char) :
    scan text (fuel' + 1) ('{' :: (cs ++ more)) = some (x, rest ++ more) := by
  rw [scan] at h
  split at h
  · rename_i hskip
    cases h
    rw [scan, skip_append_of_ne_nil (by simp [hskip]), hskip]
    rfl
  · rename_i hne
    obtain ⟨⟨kv, es⟩, hkv, h⟩ := Option.bind_eq_some_iff.mp h
    obtain ⟨⟨kvs, rest'⟩, hkvs, heq⟩ := Option.bind_eq_some_iff.mp h
    cases heq
    have hcs := ne_nil_of_read scanMember_nil hkv
    obtain ⟨c, ds, hskip⟩ := List.exists_cons_of_ne_nil hcs
    have hc : c ≠ '}' := by
      rintro rfl
      exact hne ds hskip
    obtain ⟨hkv', hes⟩ := ih.member_skip scanMembers_nil hkv hkvs more
    have hskip' : skip (cs ++ more) = c :: (ds ++ more) := by
      rw [skip_append_of_ne_nil hcs, hskip, List.cons_append]
    rw [hskip, List.cons_append] at hkv'
    refine scan_dict hskip' hc hkv' ?_
    rw [hes]
    exact ih.members hkvs more

/-- A value ends where it ends. -/
theorem scan_append {cs rest : List Char} {x : Value}
    (h : scan text (fuel + 1) cs = some (x, rest)) (hend : rest ≠ [] ∨ cs.head? = some '{')
    (more : List Char) : scan text (fuel' + 1) (cs ++ more) = some (x, rest ++ more) := by
  have hscan := h
  rw [scan.eq_def] at h
  dsimp only at h
  split at h
  case h_1 cs =>
    obtain ⟨⟨s, rest'⟩, hs, heq⟩ := Option.map_eq_some_iff.mp h
    cases heq
    rw [List.cons_append, scan, readString_append hs]
    rfl
  case h_2 cs => exact ih.scan_list_append hscan more
  case h_3 cs => exact ih.scan_dict_append hscan more
  case h_10 hbrace _ _ _ _ _ _ =>
    obtain ⟨literal, hspan, hne, hminus⟩ := readNumber_eq_some h
    have hrest : rest ≠ [] := by
      rcases hend with hrest | hhead
      · exact hrest
      · obtain ⟨ds, rfl⟩ := List.head?_eq_some_iff.mp hhead
        exact (hbrace ds rfl).elim
    obtain ⟨rfl, hall⟩ := span_spec hspan
    have hread := readNumber_append h hrest more
    rw [List.append_assoc] at hread ⊢
    rw [scan_number text fuel' hne hminus hall, hread]
  all_goals
    cases h
    rfl

end Extends

/-- More fuel and more text read the same. -/
theorem extends_of_le (h : fuel ≤ fuel') : Extends text fuel fuel' := by
  induction fuel generalizing fuel' with
  | zero =>
      constructor
      · rintro cs x rest ⟨⟩
      · rintro cs xs rest ⟨⟩
      · rintro cs kv rest ⟨⟩
      · rintro cs kvs rest ⟨⟩
  | succ fuel ih =>
      obtain ⟨fuel', rfl⟩ := Nat.exists_eq_add_of_le' (Nat.pos_of_ne_zero (by omega : fuel' ≠ 0))
      have ih := ih (Nat.le_of_succ_le_succ h)
      exact ⟨ih.scan_append, ih.scanItems_append, ih.scanMember_append, ih.scanMembers_append⟩

end

/-! ## Documents -/

/-- An object with anything but space behind it is no document. -/
theorem loads_append {text : FloatText} {cs more : List Char} {x : Value}
    (h : loads text cs = some x) (hbrace : cs.head? = some '{')
    (hmore : ∃ c ∈ more, isSpace c = false) : loads text (cs ++ more) = none := by
  obtain ⟨ds, rfl⟩ := List.head?_eq_some_iff.mp hbrace
  rw [loads, skip_cons (by rfl)] at h
  obtain ⟨⟨y, rest⟩, hscan, h⟩ := Option.bind_eq_some_iff.mp h
  dsimp only at h
  have hrest : skip rest = [] := by
    by_contra hrest
    rw [if_neg hrest] at h
    cases h
  have hskip : skip (rest ++ more) ≠ [] := by
    obtain ⟨c, hc, hspace⟩ := hmore
    intro hnil
    have hall := List.dropWhile_eq_nil_iff.mp hnil c (List.mem_append_right rest hc)
    rw [hspace] at hall
    cases hall
  have hle : 2 * ('{' :: ds).length + 1 ≤ 2 * ('{' :: ds ++ more).length + 1 := by
    rw [List.length_append]
    omega
  rw [loads, List.cons_append, skip_cons (by rfl), ← List.cons_append,
    (extends_of_le hle).value hscan (.inr rfl)]
  exact if_neg hskip

theorem dumpsMembers_last (text : FloatText) (space : List Char) (kvs : List (String × Value)) :
    ∃ cs, dumpsMembers text space kvs = cs ++ ['}'] := by
  induction kvs with
  | nil => exact ⟨[], rfl⟩
  | cons kv kvs ih =>
      obtain ⟨cs, hcs⟩ := ih
      exact ⟨_, by rw [dumpsMembers, hcs, ← List.append_assoc]⟩

/-- The text of a dictionary is in braces. -/
theorem dumps_dict (text : FloatText) (space : List Char) (kvs : List (String × Value)) :
    ∃ cs, dumps text space (.dict kvs) = '{' :: (cs ++ ['}']) := by
  cases kvs with
  | nil => exact ⟨[], rfl⟩
  | cons kv kvs =>
      obtain ⟨cs, hcs⟩ := dumpsMembers_last text space kvs
      exact ⟨quote kv.1.toList ++ ':' :: space ++ dumps text space kv.2 ++ cs, by
        simp [dumps, hcs]⟩

/-- What is in front of a rest of a text in braces, and the rest. -/
theorem head_of_braces {cs ds more : List Char} (h : cs ++ more = '{' :: (ds ++ ['}']))
    (hmore : more ≠ []) : (cs = [] ∨ cs.head? = some '{') ∧ '}' ∈ more := by
  constructor
  · cases cs with
    | nil => exact .inl rfl
    | cons c cs =>
        rw [List.cons_append] at h
        exact .inr (congrArg some (List.cons.inj h).1)
  · have hlast := congrArg List.getLast? h
    rw [List.getLast?_append_of_ne_nil _ hmore, ← List.cons_append, List.getLast?_concat] at hlast
    exact List.mem_of_getLast? hlast

/-- The text of a dictionary cut short is no document. -/
theorem loads_cut {text : JsonText} {space : List Char} (hspace : ∀ c ∈ space, isSpace c = true)
    {kvs : List (String × Value)} (hkeys : WellKeyed (.dict kvs)) {cs : List Char}
    (hcut : cs <+: dumps text.toFloatText space (.dict kvs))
    (hne : cs ≠ dumps text.toFloatText space (.dict kvs)) : loads text.toFloatText cs = none := by
  obtain ⟨more, hmore⟩ := hcut
  obtain ⟨ds, hds⟩ := dumps_dict text.toFloatText space kvs
  have hend : more ≠ [] := by
    rintro rfl
    exact hne (by rw [← hmore, List.append_nil])
  obtain ⟨hhead, hlast⟩ := head_of_braces (hmore.trans hds) hend
  rcases hhead with rfl | hbrace
  · rfl
  · cases hread : loads text.toFloatText cs with
    | none => rfl
    | some x =>
        have hnone := loads_append hread hbrace ⟨'}', hlast, rfl⟩
        rw [hmore, loads_dumps text hspace hkeys] at hnone
        cases hnone

end Json

/-! ## `json.loads` of an interpreter -/

namespace JsonReader

variable {py : Interpreter}

/-- Where `json.loads` raises: `Expecting value` at the end of the text, and `Extra data`
behind an object. -/
structure Rejects (json : JsonReader py) : Prop where
  expecting_value : json.loads "" = none
  extra_data : ∀ s more x, s.toList.head? = some '{' → json.loads s = some x →
    (∃ c ∈ more.toList, Json.isSpace c = false) → json.loads (s ++ more) = none

theorem rejects_plain : plain.Rejects where
  expecting_value := rfl
  extra_data s more x hbrace h hmore := by
    show Json.loads _ (s ++ more).toList = none
    rw [String.toList_append]
    exact Json.loads_append h hbrace hmore

/-- The text of a dictionary cut short is rejected. -/
theorem Rejects.loads_cut {json : JsonReader py} (h : json.Rejects)
    {kvs : List (String × Value)} (hkeys : Json.WellKeyed (.dict kvs)) {bs : List UInt8}
    {s : String} (hbs : bs <+: dumpsCompact py (.dict kvs)) (hne : bs ≠ dumpsCompact py (.dict kvs))
    (hs : Wire.ofUtf8 bs = some s) : json.loads s = none := by
  obtain ⟨more, hmore⟩ := Wire.prefix_of_ofUtf8 hbs hs
  rw [String.toList_ofList] at hmore
  have hloads := json.loads_dumps (.dict kvs) hkeys
  obtain ⟨cs, hcs⟩ := Json.dumps_dict py.toFloatText [] kvs
  have hend : more ≠ [] := by
    rintro rfl
    apply hne
    rw [dumpsCompact, ← hmore, List.append_nil, String.ofList_toList, Wire.utf8_of_ofUtf8 hs]
  obtain ⟨hhead, hlast⟩ := Json.head_of_braces (hmore.trans hcs) hend
  rcases hhead with hnil | hbrace
  · rw [String.toList_eq_nil_iff.mp hnil]
    exact h.expecting_value
  · cases hread : json.loads s with
    | none => rfl
    | some x =>
        have hraise := h.extra_data s (String.ofList more) x hbrace hread
          ⟨'}', by rwa [String.toList_ofList], rfl⟩
        rw [← hmore, String.ofList_append, String.ofList_toList, hraise] at hloads
        cases hloads

end JsonReader

end DroneComms.Py
