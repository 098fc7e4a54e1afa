import DroneComms.Lib.Decimal

/-!
# XML elements

`xml.etree.ElementTree`: elements, `tostring` as the library writes them, and
the reader.  The reader is a parser for all of XML and a parameter
(`ElementTree`) with one law: an element that was written is read back if all of
its characters are XML characters, and is a parse error otherwise.  Reading
normalises the ends of lines in a text, but not in an attribute.

`tostring` calls itself on the children, so it raises a `RecursionError` of an
element that is nested too deep, and how deep depends on the caller.  The codec
writes shallow events; where it writes what it has read, `serializes` says which
elements are written.

The text of an element without text is the empty string.
-/

namespace DroneComms.Py

abbrev Bytes := List UInt8

/-- `xml.etree.ElementTree.Element`. -/
inductive Element where
  | mk (tag : String) (attrib : List (String × String)) (text : String)
      (children : List Element)

namespace Element

def tag : Element → String
  | mk tag _ _ _ => tag

def attrib : Element → List (String × String)
  | mk _ attrib _ _ => attrib

def text : Element → String
  | mk _ _ text _ => text

def children : Element → List Element
  | mk _ _ _ children => children

/-- `el.attrib.get(key)`. -/
def get (el : Element) (key : String) : Option String := el.attrib.lookup key

/-- `el.find(tag)`. -/
def find (el : Element) (tag : String) : Option Element := el.children.find? (·.tag = tag)

end Element

namespace Xml

/-! ## Characters -/

/-- The code of an XML character. -/
def isXmlCode (n : ℕ) : Bool :=
  n = 9 || n = 10 || n = 13 || (32 ≤ n && n ≤ 0xD7FF) || (0xE000 ≤ n && n ≤ 0xFFFD) ||
    (0x10000 ≤ n && n ≤ 0x10FFFF)

def isXmlChar (c : Char) : Bool := isXmlCode c.toNat

/-- A character of a name, in the names that are used here. -/
def isNameChar (c : Char) : Bool := c.isAlphanum || c = '_' || c = '-' || c = '.'

/-- A name; an attribute `xmlns` would declare a namespace. -/
def isName (s : String) : Bool :=
  s.toList.all isNameChar && (s.toList.head?.any fun c ↦ c.isAlpha || c = '_') && s ≠ "xmlns"

/-- The ends of lines in a text: a carriage return is dropped before a line feed
and becomes one otherwise. -/
def normalizeNewlines : List Char → List Char
  | [] => []
  | c :: cs =>
      if c ≠ '\r' then c :: normalizeNewlines cs
      else if cs.head? = some '\n' then normalizeNewlines cs
      else '\n' :: normalizeNewlines cs

/-! ## Writing -/

/-- A reference to a character. -/
def reference (name : List Char) : List Char := '&' :: name ++ [';']

/-- What does not fit ASCII is written as its number. -/
def escapeAscii (c : Char) : List Char :=
  if c.toNat < 128 then [c] else reference ('#' :: Nat.toDigits 10 c.toNat)

/-- `_escape_cdata`. -/
def escapeText (c : Char) : List Char :=
  if c = '&' then reference ['a', 'm', 'p']
  else if c = '<' then reference ['l', 't']
  else if c = '>' then reference ['g', 't']
  else escapeAscii c

/-- `_escape_attrib`. -/
def escapeAttrib (c : Char) : List Char :=
  if c = '"' then reference ['q', 'u', 'o', 't']
  else if c = '\r' then reference ['#', '1', '3']
  else if c = '\n' then reference ['#', '1', '0']
  else if c = '\t' then reference ['#', '0', '9']
  else escapeText c

def writeAttrib (attrib : List (String × String)) : List Char :=
  attrib.flatMap fun kv ↦
    ' ' :: kv.1.toList ++ '=' :: '"' :: kv.2.toList.flatMap escapeAttrib ++ ['"']

mutual

/-- An element as `tostring` writes it. -/
def write : Element → List Char
  | .mk tag attrib text children =>
      '<' :: tag.toList ++ writeAttrib attrib ++
        if text = "" ∧ children.isEmpty then [' ', '/', '>']
        else '>' :: text.toList.flatMap escapeText ++ writeAll children ++
          '<' :: '/' :: tag.toList ++ ['>']

def writeAll : List Element → List Char
  | [] => []
  | el :: els => write el ++ writeAll els

end

/-- ASCII characters as bytes. -/
def ascii (cs : List Char) : Bytes := cs.map fun c ↦ UInt8.ofNat c.toNat

/-- `ET.tostring`. -/
def tostring (el : Element) : Bytes := ascii (write el)

/-! ## What reading does to a written element -/

mutual

/-- All names are names. -/
def wellNamed : Element → Bool
  | .mk tag attrib _ children =>
      isName tag && attrib.all (fun kv ↦ isName kv.1) && decide (attrib.map Prod.fst).Nodup &&
        allWellNamed children

def allWellNamed : List Element → Bool
  | [] => true
  | el :: els => wellNamed el && allWellNamed els

end

/-- All characters are XML characters. -/
def isLegal (s : String) : Bool := s.toList.all isXmlChar

mutual

/-- All attributes and texts are legal. -/
def legal : Element → Bool
  | .mk _ attrib text children => attrib.all (fun kv ↦ isLegal kv.2) && isLegal text && allLegal children

def allLegal : List Element → Bool
  | [] => true
  | el :: els => legal el && allLegal els

end

mutual

/-- The element with the ends of lines normalised in every text. -/
def normalize : Element → Element
  | .mk tag attrib text children =>
      .mk tag attrib (String.ofList (normalizeNewlines text.toList)) (normalizeAll children)

def normalizeAll : List Element → List Element
  | [] => []
  | el :: els => normalize el :: normalizeAll els

end

end Xml

/-- `xml.etree.ElementTree`. -/
structure ElementTree where
  fromstring : Bytes → Option Element
  fromstring_tostring : ∀ el, Xml.wellNamed el = true →
    fromstring (Xml.tostring el) = if Xml.legal el then some (Xml.normalize el) else none
  /-- `tostring(el, encoding="unicode")` returns. -/
  serializes : Element → Bool
  /-- It does so whatever the ends of lines are. -/
  serializes_normalize : ∀ el, serializes (Xml.normalize el) = serializes el

namespace Xml

/-! ## Finding things in what was read -/

@[simp] theorem tag_normalize (el : Element) : (normalize el).tag = el.tag := by
  cases el
  rfl

@[simp] theorem attrib_normalize (el : Element) : (normalize el).attrib = el.attrib := by
  cases el
  rfl

@[simp] theorem get_normalize (el : Element) (key : String) :
    (normalize el).get key = el.get key := by
  rw [Element.get, attrib_normalize]
  rfl

@[simp] theorem text_normalize (el : Element) :
    (normalize el).text = String.ofList (normalizeNewlines el.text.toList) := by
  cases el
  rfl

theorem cr_not_mem_normalizeNewlines (cs : List Char) : '\r' ∉ normalizeNewlines cs := by
  induction cs with
  | nil => exact List.not_mem_nil
  | cons c cs ih =>
      rw [normalizeNewlines]
      split_ifs with hcr
      · exact fun h ↦ (List.mem_cons.mp h).elim (fun heq ↦ hcr heq.symm) ih
      · exact ih
      · exact fun h ↦ (List.mem_cons.mp h).elim (by decide) ih

/-- Only a text with a carriage return is changed. -/
theorem normalizeNewlines_eq_self {cs : List Char} : normalizeNewlines cs = cs ↔ '\r' ∉ cs := by
  constructor
  · intro h
    rw [← h]
    exact cr_not_mem_normalizeNewlines cs
  · intro h
    induction cs with
    | nil => rfl
    | cons c cs ih =>
        obtain ⟨hne, hcs⟩ := not_or.mp (List.mem_cons.not.mp h)
        rw [normalizeNewlines, if_pos fun heq ↦ hne heq.symm, ih hcs]

theorem normalizeAll_eq_map (els : List Element) : normalizeAll els = els.map normalize := by
  induction els with
  | nil => rfl
  | cons el els ih => rw [normalizeAll, ih, List.map_cons]

@[simp] theorem find_normalize (el : Element) (tag : String) :
    (normalize el).find tag = (el.find tag).map normalize := by
  cases el with
  | mk name attrib text children =>
      show (normalizeAll children).find? _ = (children.find? _).map normalize
      rw [normalizeAll_eq_map, List.find?_map]
      congr 1
      apply List.find?_congr
      intro el _
      rw [Function.comp_apply, tag_normalize]

theorem legal_iff {el : Element} : legal el = true ↔
    (∀ kv ∈ el.attrib, isLegal kv.2 = true) ∧ isLegal el.text = true ∧
      ∀ child ∈ el.children, legal child = true := by
  cases el with
  | mk tag attrib text children =>
      have hall : ∀ els, allLegal els = true ↔ ∀ child ∈ els, legal child = true := by
        intro els
        induction els with
        | nil => simp [allLegal]
        | cons el els ih => rw [allLegal, Bool.and_eq_true, ih, List.forall_mem_cons]
      rw [legal, Bool.and_eq_true, Bool.and_eq_true, List.all_eq_true, hall, and_assoc]
      rfl

mutual

/-- How deep an element is nested. -/
def depth : Element → ℕ
  | .mk _ _ _ children => depthAll children + 1

def depthAll : List Element → ℕ
  | [] => 0
  | el :: els => max (depth el) (depthAll els)

end

mutual

theorem depth_normalize : ∀ el, depth (normalize el) = depth el
  | .mk tag attrib text children => by
      rw [normalize, depth, depth, depthAll_normalize children]

theorem depthAll_normalize : ∀ els, depthAll (normalizeAll els) = depthAll els
  | [] => rfl
  | el :: els => by
      rw [normalizeAll, depthAll, depthAll, depth_normalize el, depthAll_normalize els]

end

theorem wellNamed_iff {el : Element} : wellNamed el = true ↔
    isName el.tag = true ∧ (∀ kv ∈ el.attrib, isName kv.1 = true) ∧
      (el.attrib.map Prod.fst).Nodup ∧ ∀ child ∈ el.children, wellNamed child = true := by
  cases el with
  | mk tag attrib text children =>
      have hall : ∀ els, allWellNamed els = true ↔ ∀ child ∈ els, wellNamed child = true := by
        intro els
        induction els with
        | nil => simp [allWellNamed]
        | cons el els ih => rw [allWellNamed, Bool.and_eq_true, ih, List.forall_mem_cons]
      rw [wellNamed, Bool.and_eq_true, Bool.and_eq_true, Bool.and_eq_true, List.all_eq_true,
        decide_eq_true_eq, hall, and_assoc, and_assoc]
      rfl

end Xml

end DroneComms.Py
