import DroneComms.Py.Json

/-!
# Reading back JSON text

`loads_dumps` is the round trip `json.loads(json.dumps(x)) = x`, by induction on
the value with whatever follows its text as a parameter.  `printable_dumps` says
that the text is printable ASCII, and hence has no line break.
-/

namespace DroneComms.Py.Json

/-! ## Strings -/

theorem hexVal_hexDigit {n : Nat} (h : n < 16) : hexVal (hexDigit n) = some n := by
  have hall : ∀ m < 16, hexVal (hexDigit m) = some m := by decide
  exact hall n h

/-- Reading back a `\uXXXX`. -/
theorem readUnits_escapeUnit {u : Nat} (hu : u < 0x10000) (cs : List Char) :
    readUnits (escapeUnit u ++ cs) = (readUnits cs).map fun p ↦ (u :: p.1, p.2) := by
  have hread : readHex (hexDigit (u / 4096 % 16)) (hexDigit (u / 256 % 16))
      (hexDigit (u / 16 % 16)) (hexDigit (u % 16)) = some u := by
    rw [readHex, hexVal_hexDigit (by omega), hexVal_hexDigit (by omega),
      hexVal_hexDigit (by omega), hexVal_hexDigit (by omega)]
    simp only [Option.bind_eq_bind, Option.bind_some, Option.some.injEq]
    omega
  rw [escapeUnit]
  simp only [List.cons_append, List.nil_append]
  rw [readUnits, hread]
  cases readUnits cs <;> rfl

/-- What an escape with one character is read as. -/
theorem shortEscape_cases {c e : Char} (h : shortEscape c = some e) :
    unescape e = some c.toNat ∧ utf16 c = [c.toNat] ∧ e ≠ 'u' := by
  unfold shortEscape at h
  split_ifs at h with h₁ h₂ h₃ h₄ h₅ h₆ h₇ <;> cases h <;> subst c <;> decide

/-- A character that is no quote, no backslash and no control character is read as itself. -/
theorem readUnits_cons {c : Char} (hquote : c ≠ '"') (hback : c ≠ '\\') (h : 0x20 ≤ c.toNat)
    (cs : List Char) :
    readUnits (c :: cs) = (readUnits cs).map fun p ↦ (utf16 c ++ p.1, p.2) := by
  rw [readUnits.eq_def]
  split
  · cases ‹_ :: _ = []›
  · rename_i heq
    cases heq
    exact absurd rfl hquote
  · rename_i heq
    cases heq
    exact absurd rfl hback
  · rename_i heq
    cases heq
    exact absurd rfl hback
  · rename_i heq
    cases heq
    rw [if_neg (by rintro (hlt | rfl) <;> [omega; exact hback rfl])]
    cases readUnits cs <;> rfl

/-- A character without a short escape is read as itself. -/
theorem readUnits_plain {c : Char} (hnone : shortEscape c = none) (h : 0x20 ≤ c.toNat)
    (cs : List Char) :
    readUnits (c :: cs) = (readUnits cs).map fun p ↦ (utf16 c ++ p.1, p.2) := by
  refine readUnits_cons ?_ ?_ h cs
  · rintro rfl
    cases hnone
  · rintro rfl
    cases hnone

/-- A short escape is read as the unit it stands for. -/
theorem readUnits_short {e : Char} {u : Nat} (hunescape : unescape e = some u) (hne : e ≠ 'u')
    (cs : List Char) :
    readUnits ('\\' :: e :: cs) = (readUnits cs).map fun p ↦ (u :: p.1, p.2) := by
  rw [readUnits.eq_def]
  split
  · rename_i heq
    cases heq
  · rename_i heq
    cases heq
  · rename_i heq
    cases heq
    exact absurd rfl hne
  · rename_i heq
    cases heq
    rw [hunescape]
    cases readUnits cs <;> rfl
  · rename_i hnot heq
    cases heq
    exact (hnot e cs rfl rfl).elim

/-- A character is not a surrogate. -/
theorem toNat_cases (c : Char) :
    c.toNat < 0xD800 ∨ 0xE000 ≤ c.toNat ∧ c.toNat < 0x110000 := by
  rcases c.valid with h | ⟨hlow, hhigh⟩
  · exact .inl h
  · exact .inr ⟨hlow, hhigh⟩

/-- Reading back a character of a string. -/
theorem readUnits_escape (c : Char) (cs : List Char) :
    readUnits (escape c ++ cs) = (readUnits cs).map fun p ↦ (utf16 c ++ p.1, p.2) := by
  unfold escape
  split
  · rename_i e he
    obtain ⟨hunescape, hunits, hne⟩ := shortEscape_cases he
    rw [hunits]
    exact readUnits_short hunescape hne cs
  · rename_i hnone
    split_ifs with hprint
    · exact readUnits_plain hnone hprint.1 cs
    · have hlt : c.toNat < 0x110000 := by
        rcases toNat_cases c with h | h <;> omega
      unfold utf16
      split_ifs with hbmp
      · simpa using readUnits_escapeUnit hbmp cs
      · simp only [List.flatMap_cons, List.flatMap_nil, List.append_nil, List.append_assoc]
        rw [readUnits_escapeUnit (by omega), readUnits_escapeUnit (by omega)]
        cases readUnits cs <;> rfl

/-- The code units of a character give it back. -/
theorem ofUnits_utf16 (c : Char) (us : List Nat) :
    ofUnits (utf16 c ++ us) = (ofUnits us).map (c :: ·) := by
  have hc := toNat_cases c
  unfold utf16
  split_ifs with hbmp
  · cases us with
    | nil =>
        simp only [List.cons_append, List.nil_append, ofUnits]
        rw [if_neg (by omega), Char.ofNat_toNat]
        rfl
    | cons u us =>
        show ofUnits (c.toNat :: u :: us) = _
        rw [ofUnits, if_neg (by omega), if_neg (by omega), Char.ofNat_toNat]
  · show ofUnits (_ :: _ :: us) = _
    have hval : 0x10000 + (0xD800 + (c.toNat - 0x10000) / 1024 - 0xD800) * 1024 +
        (0xDC00 + (c.toNat - 0x10000) % 1024 - 0xDC00) = c.toNat := by omega
    rw [ofUnits, if_pos (by omega), if_pos (by omega), hval, Char.ofNat_toNat]

/-- Reading back a string. -/
theorem readString_quote (s rest : List Char) :
    readString (s.flatMap escape ++ '"' :: rest) = some (s, rest) := by
  have hunits : readUnits (s.flatMap escape ++ '"' :: rest) = some (s.flatMap utf16, rest) := by
    induction s with
    | nil => rw [List.flatMap_nil, List.nil_append, readUnits, List.flatMap_nil]
    | cons c s ih =>
        rw [List.flatMap_cons, List.append_assoc, readUnits_escape, ih]
        rfl
  have hchars : ofUnits (s.flatMap utf16) = some s := by
    clear hunits
    induction s with
    | nil => rfl
    | cons c s ih =>
        rw [List.flatMap_cons, ofUnits_utf16, ih]
        rfl
  rw [readString, hunits]
  simp [hchars]

/-! ## Numbers -/

/-- The text does not go on with a number. -/
def NoNumber (cs : List Char) : Prop := ∀ c ∈ cs.head?, isNumberChar c = false

theorem span_append {p : Char → Bool} {as rest : List Char} (h : ∀ c ∈ as, p c = true)
    (hrest : ∀ c ∈ rest.head?, p c = false) : (as ++ rest).span p = (as, rest) := by
  have htake : rest.takeWhile p = [] := by
    cases rest with
    | nil => rfl
    | cons c rest => simp [hrest c rfl]
  have hdrop : rest.dropWhile p = rest := by
    cases rest with
    | nil => rfl
    | cons c rest => simp [hrest c rfl]
  rw [List.span_eq_takeWhile_dropWhile, List.takeWhile_append_of_pos h,
    List.dropWhile_append_of_pos h, htake, hdrop, List.append_nil]

theorem isNatLiteral_toDigits (n : Nat) : isNatLiteral (Nat.toDigits 10 n) = true := by
  have hpos : ∀ n, 0 < n → (Nat.toDigits 10 n).head? ≠ some '0' := by
    intro n
    induction n using Nat.strongRecOn with
    | ind n ih =>
        intro hn
        by_cases hlt : n < 10
        · rw [Nat.toDigits_of_lt_base hlt]
          have hall : ∀ m < 10, 0 < m → [Nat.digitChar m].head? ≠ some '0' := by decide
          exact hall n hlt hn
        · rw [Nat.toDigits_of_base_le (by decide) (by omega), List.head?_append,
            Option.or_of_isSome]
          · exact ih (n / 10) (by omega) (by omega)
          · rw [List.isSome_head?]
            exact Nat.toDigits_ne_nil
  rcases Nat.eq_zero_or_pos n with rfl | hn
  · rfl
  · have hall : (Nat.toDigits 10 n).all Char.isDigit = true :=
      List.all_eq_true.mpr fun c hc ↦ Decimal.isDigit_of_mem_toDigits hc
    simp [isNatLiteral, Nat.toDigits_ne_nil, hpos n hn, hall]

theorem stripMinus_toDigits (n : Nat) : stripMinus (Nat.toDigits 10 n) = Nat.toDigits 10 n := by
  unfold stripMinus
  split
  · rename_i h
    exact absurd h Decimal.toDigits_ne_minus
  · rfl

theorem stripMinus_signed (n : Int) : ∃ k, stripMinus (Decimal.signed n) = Nat.toDigits 10 k := by
  cases n with
  | ofNat k => exact ⟨k, stripMinus_toDigits k⟩
  | negSucc k => exact ⟨k + 1, rfl⟩

theorem isIntLiteral_signed (n : Int) : isIntLiteral (Decimal.signed n) = true := by
  obtain ⟨k, hk⟩ := stripMinus_signed n
  rw [isIntLiteral, hk]
  exact isNatLiteral_toDigits k

theorem isNumberChar_of_isDigit {c : Char} (h : c.isDigit = true) : isNumberChar c = true := by
  simp [isNumberChar, h]

theorem isNumberChar_signed {n : Int} {c : Char} (h : c ∈ Decimal.signed n) :
    isNumberChar c = true := by
  cases n with
  | ofNat k => exact isNumberChar_of_isDigit (Decimal.isDigit_of_mem_toDigits h)
  | negSucc k =>
      rcases List.mem_cons.mp h with rfl | h
      · rfl
      · exact isNumberChar_of_isDigit (Decimal.isDigit_of_mem_toDigits h)

/-- The text of a float is no integer. -/
theorem not_isIntLiteral {cs : List Char} (h : isFloatLiteral cs = true) :
    isIntLiteral cs = false := by
  rw [Bool.eq_false_iff]
  intro hint
  have hall : ∀ c ∈ stripMinus cs, c.isDigit = true := by
    simp only [isIntLiteral, isNatLiteral, Bool.or_eq_true, Bool.and_eq_true, decide_eq_true_eq,
      List.all_eq_true] at hint
    rcases hint with hzero | ⟨-, hdigits⟩
    · rw [hzero]
      decide
    · exact hdigits
  have hspan : (stripMinus cs ++ []).span Char.isDigit = (stripMinus cs, []) :=
    span_append hall nofun
  rw [List.append_nil] at hspan
  rw [isFloatLiteral, hspan] at h
  simp [isFraction] at h

/-- Reading back an integer. -/
theorem readNumber_signed (text : FloatText) (n : Int) {rest : List Char} (h : NoNumber rest) :
    readNumber text (Decimal.signed n ++ rest) = some (.int n, rest) := by
  rw [readNumber, span_append (fun c hc ↦ isNumberChar_signed hc) h]
  simp [isIntLiteral_signed]

/-- Reading back a finite float. -/
theorem readNumber_fin (text : JsonText) (q : ℚ) {rest : List Char} (h : NoNumber rest) :
    readNumber text.toFloatText ((text.str (.fin q)).toList ++ rest) =
      some (.float (.fin q), rest) := by
  have hfloat := text.literal_fin q
  rw [readNumber, span_append (text.numberChars_fin q) h]
  simp [hfloat, not_isIntLiteral hfloat, text.ofStr_str]

/-- A numeral with one decimal is the text of a float. -/
theorem isFloatLiteral_decimal {cs : List Char} {n : Nat} (h : stripMinus cs = Nat.toDigits 10 n)
    {d : Char} (hd : d.isDigit = true) : isFloatLiteral (cs ++ ['.', d]) = true := by
  have hstrip : stripMinus (cs ++ ['.', d]) = Nat.toDigits 10 n ++ ['.', d] := by
    rw [← h]
    cases cs with
    | nil => exact absurd h.symm Nat.toDigits_ne_nil
    | cons c cs =>
        unfold stripMinus
        split <;> simp_all
  have hspan : (Nat.toDigits 10 n ++ ['.', d]).span Char.isDigit =
      (Nat.toDigits 10 n, ['.', d]) := by
    refine span_append (fun c hc ↦ Decimal.isDigit_of_mem_toDigits hc) ?_
    rintro c ⟨⟩
    rfl
  rw [isFloatLiteral, hstrip, hspan]
  simp [isNatLiteral_toDigits, isFraction, List.span_eq_takeWhile_dropWhile, hd]

/-- The interpreter for closed runs. -/
def JsonText.plain : JsonText where
  toFloatText := .plain
  literal_fin q := by
    show isFloatLiteral (String.ofList (FloatText.plainChars (.fin q))).toList = true
    rw [String.toList_ofList, FloatText.plainChars]
    split_ifs
    · obtain ⟨k, hk⟩ := stripMinus_signed q.num
      exact isFloatLiteral_decimal hk rfl
    · exact isFloatLiteral_decimal (stripMinus_toDigits _) rfl
  numberChars_fin q := by
    show ∀ c ∈ (String.ofList (FloatText.plainChars (.fin q))).toList, isNumberChar c = true
    rw [String.toList_ofList, FloatText.plainChars]
    intro c hc
    split_ifs at hc
    · rcases List.mem_append.mp hc with hc | hc
      · exact isNumberChar_signed hc
      · have htail : ∀ c ∈ ['.', '0'], isNumberChar c = true := by decide
        exact htail c hc
    · rcases List.mem_append.mp hc with hc | hc
      · exact isNumberChar_of_isDigit (Decimal.isDigit_of_mem_toDigits hc)
      · have htail : ∀ c ∈ ['.', '1'], isNumberChar c = true := by decide
        exact htail c hc

/-! ## Values -/

/-- Distinct keys are not merged. -/
theorem ofPairs_of_nodup {kvs : List (String × Value)} (h : (kvs.map Prod.fst).Nodup) :
    ofPairs kvs = kvs := by
  have hfold : ∀ (kvs d : List (String × Value)), ((d ++ kvs).map Prod.fst).Nodup →
      kvs.foldl (fun d kv ↦ setKey d kv.1 kv.2) d = d ++ kvs := by
    intro kvs
    induction kvs with
    | nil => exact fun d _ ↦ (List.append_nil d).symm
    | cons kv kvs ih =>
        intro d hd
        have hnew : d.any (·.1 = kv.1) = false := by
          rw [List.any_eq_false]
          intro p hp hkey
          rw [List.map_append, List.nodup_append] at hd
          exact hd.2.2 p.1 (List.mem_map_of_mem hp) kv.1 List.mem_cons_self
            (of_decide_eq_true hkey)
        rw [List.foldl_cons, setKey, if_neg (by simp [hnew])]
        have hmove : d ++ kv :: kvs = (d ++ [kv]) ++ kvs := by simp
        rw [hmove] at hd ⊢
        exact ih (d ++ [kv]) hd
  exact hfold kvs [] h

theorem not_isSpace_of_isNumberChar {c : Char} (h : isNumberChar c = true) :
    isSpace c = false := by
  rw [Bool.eq_false_iff]
  intro hspace
  simp only [isSpace, Bool.or_eq_true, decide_eq_true_eq] at hspace
  rcases hspace with ((rfl | rfl) | rfl) | rfl <;> cases h

/-- Space in front of a text is skipped. -/
theorem skip_append {space cs : List Char} (hspace : ∀ c ∈ space, isSpace c = true)
    (h : ∀ c ∈ cs.head?, isSpace c = false) : skip (space ++ cs) = cs := by
  rw [skip, List.dropWhile_append_of_pos hspace]
  cases cs with
  | nil => rfl
  | cons c cs => simp [h c rfl]

/-- A text of number characters is read as a number. -/
theorem scan_number (text : FloatText) (fuel : Nat) {literal rest : List Char}
    (hne : literal ≠ []) (hminus : literal ≠ ['-'])
    (hall : ∀ c ∈ literal, isNumberChar c = true) :
    scan text (fuel + 1) (literal ++ rest) = readNumber text (literal ++ rest) := by
  obtain ⟨c, cs, rfl⟩ := List.exists_cons_of_ne_nil hne
  have hc : isNumberChar c = true := hall c List.mem_cons_self
  rw [scan.eq_def]
  dsimp only
  split
  case h_10 => rfl
  case h_9 heq =>
    -- a minus sign is followed by a digit
    obtain ⟨rfl, htail⟩ := List.cons.inj heq
    cases cs with
    | nil => exact absurd rfl hminus
    | cons d cs =>
        obtain ⟨rfl, -⟩ := List.cons.inj htail
        exact absurd (hall 'I' (by simp)) (by decide)
  all_goals
    rename_i heq
    obtain ⟨rfl, -⟩ := List.cons.inj heq
    exact absurd hc (by decide)

/-- A list that is not empty is read item by item. -/
theorem scan_list {text : FloatText} {fuel : Nat} {cs ds es rest : List Char} {c : Char}
    {x : Value} {xs : List Value} (hskip : skip cs = c :: ds) (hc : c ≠ ']')
    (hx : scan text fuel (c :: ds) = some (x, es))
    (hxs : scanItems text fuel (skip es) = some (xs, rest)) :
    scan text (fuel + 1) ('[' :: cs) = some (.list (x :: xs), rest) := by
  rw [scan, hskip]
  split
  · rename_i heq
    exact absurd (List.cons.inj heq).1 hc
  · simp [hx, hxs]

/-- A dictionary that is not empty is read member by member. -/
theorem scan_dict {text : FloatText} {fuel : Nat} {cs ds es rest : List Char} {c : Char}
    {kv : String × Value} {kvs : List (String × Value)} (hskip : skip cs = c :: ds)
    (hc : c ≠ '}') (hkv : scanMember text fuel (c :: ds) = some (kv, es))
    (hkvs : scanMembers text fuel (skip es) = some (kvs, rest)) :
    scan text (fuel + 1) ('{' :: cs) = some (.dict (ofPairs (kv :: kvs)), rest) := by
  rw [scan, hskip]
  split
  · rename_i heq
    exact absurd (List.cons.inj heq).1 hc
  · simp [hkv, hkvs]

section

variable (text : JsonText) {space : List Char}

theorem literal_ne {cs : List Char} (h : isNatLiteral (stripMinus cs) = true) :
    cs ≠ [] ∧ cs ≠ ['-'] := by
  constructor
  · rintro rfl
    cases h
  · rintro rfl
    cases h

theorem floatLiteral_ne {cs : List Char} (h : isFloatLiteral cs = true) :
    cs ≠ [] ∧ cs ≠ ['-'] := by
  constructor
  · rintro rfl
    cases h
  · rintro rfl
    cases h

/-- The text of a number. -/
theorem scan_signed (fuel : Nat) (n : Int) {rest : List Char} (h : NoNumber rest) :
    scan text.toFloatText (fuel + 1) (Decimal.signed n ++ rest) = some (.int n, rest) := by
  obtain ⟨hne, hminus⟩ := literal_ne (isIntLiteral_signed n)
  rw [scan_number _ fuel hne hminus fun c hc ↦ isNumberChar_signed hc]
  exact readNumber_signed _ n h

theorem fin_ne (q : ℚ) : (text.str (.fin q)).toList ≠ [] ∧ (text.str (.fin q)).toList ≠ ['-'] :=
  floatLiteral_ne (text.literal_fin q)

theorem scan_float (fuel : Nat) (x : PyFloat) {rest : List Char} (h : NoNumber rest) :
    scan text.toFloatText (fuel + 1) (dumpsFloat text.toFloatText x ++ rest) =
      some (.float x, rest) := by
  cases x with
  | nan => exact scan.eq_8 ..
  | posInf => exact scan.eq_9 ..
  | negInf => exact scan.eq_10 ..
  | fin q =>
      obtain ⟨hne, hminus⟩ := fin_ne text q
      rw [dumpsFloat, scan_number _ fuel hne hminus (text.numberChars_fin q)]
      exact readNumber_fin text q h

/-- How a value begins. -/
theorem dumps_eq_cons (space : List Char) (x : Value) : ∃ c cs,
    dumps text.toFloatText space x = c :: cs ∧ isSpace c = false ∧ c ≠ ']' := by
  have hnumber : ∀ cs : List Char, cs ≠ [] → (∀ c ∈ cs, isNumberChar c = true) →
      ∃ c ds, cs = c :: ds ∧ isSpace c = false ∧ c ≠ ']' := by
    intro cs hne hall
    obtain ⟨c, ds, rfl⟩ := List.exists_cons_of_ne_nil hne
    have hc := hall c List.mem_cons_self
    refine ⟨c, ds, rfl, not_isSpace_of_isNumberChar hc, ?_⟩
    rintro rfl
    cases hc
  cases x with
  | none => exact ⟨_, _, rfl, rfl, by decide⟩
  | bool b => cases b <;> exact ⟨_, _, rfl, rfl, by decide⟩
  | int n =>
      exact hnumber _ (literal_ne (isIntLiteral_signed n)).1 fun c hc ↦ isNumberChar_signed hc
  | float x =>
      cases x with
      | nan => exact ⟨_, _, rfl, rfl, by decide⟩
      | posInf => exact ⟨_, _, rfl, rfl, by decide⟩
      | negInf => exact ⟨_, _, rfl, rfl, by decide⟩
      | fin q => exact hnumber _ (fin_ne text q).1 (text.numberChars_fin q)
  | str s => exact ⟨_, _, rfl, rfl, by decide⟩
  | list xs => cases xs <;> exact ⟨_, _, rfl, rfl, by decide⟩
  | dict kvs => cases kvs <;> exact ⟨_, _, rfl, rfl, by decide⟩

theorem noNumber_dumpsItems (xs : List Value) (rest : List Char) :
    NoNumber (dumpsItems text.toFloatText space xs ++ rest) := by
  cases xs <;> rintro c ⟨⟩ <;> rfl

theorem noNumber_dumpsMembers (kvs : List (String × Value)) (rest : List Char) :
    NoNumber (dumpsMembers text.toFloatText space kvs ++ rest) := by
  cases kvs with
  | nil =>
      rintro c ⟨⟩
      rfl
  | cons kv kvs =>
      rintro c ⟨⟩
      rfl

/-- Space in front of a value is skipped. -/
theorem skip_dumps (hspace : ∀ c ∈ space, isSpace c = true) (x : Value) (rest : List Char) :
    skip (space ++ (dumps text.toFloatText space x ++ rest)) =
      dumps text.toFloatText space x ++ rest := by
  obtain ⟨c, cs, hx, hc, -⟩ := dumps_eq_cons text space x
  rw [hx]
  apply skip_append hspace
  rintro d ⟨⟩
  exact hc

/-- What follows a value has no space in front. -/
theorem skip_cons {c : Char} {cs : List Char} (h : isSpace c = false) :
    skip (c :: cs) = c :: cs := by
  rw [skip, List.dropWhile_cons_of_neg (by simp [h])]

theorem skip_dumpsItems (xs : List Value) (rest : List Char) :
    skip (dumpsItems text.toFloatText space xs ++ rest) =
      dumpsItems text.toFloatText space xs ++ rest := by
  cases xs <;> exact skip_cons rfl

theorem skip_dumpsMembers (kvs : List (String × Value)) (rest : List Char) :
    skip (dumpsMembers text.toFloatText space kvs ++ rest) =
      dumpsMembers text.toFloatText space kvs ++ rest := by
  rcases kvs with - | ⟨⟨k, x⟩, kvs⟩ <;> exact skip_cons rfl

/-- Reading a member, given how its value is read. -/
theorem scanMember_quote (hspace : ∀ c ∈ space, isSpace c = true) {fuel : Nat} (k : String)
    {x : Value} {rest : List Char}
    (hx : scan text.toFloatText fuel (dumps text.toFloatText space x ++ rest) = some (x, rest)) :
    scanMember text.toFloatText (fuel + 1)
        (quote k.toList ++ ':' :: space ++ dumps text.toFloatText space x ++ rest) =
      some ((k, x), rest) := by
  have htext : quote k.toList ++ ':' :: space ++ dumps text.toFloatText space x ++ rest =
      '"' :: (k.toList.flatMap escape ++ '"' ::
        (':' :: (space ++ (dumps text.toFloatText space x ++ rest)))) := by
    simp [quote]
  rw [htext, scanMember, readString_quote]
  simp [skip_cons (c := ':') rfl, skip_dumps text hspace, hx]

/-- Reading a list, given how its items are read. -/
theorem scan_dumps_list {fuel : Nat} {x : Value} {xs : List Value} {rest : List Char}
    (hx : scan text.toFloatText fuel (dumps text.toFloatText space x ++
      (dumpsItems text.toFloatText space xs ++ rest)) =
        some (x, dumpsItems text.toFloatText space xs ++ rest))
    (hxs : scanItems text.toFloatText fuel (dumpsItems text.toFloatText space xs ++ rest) =
      some (xs, rest)) :
    scan text.toFloatText (fuel + 1) (dumps text.toFloatText space (.list (x :: xs)) ++ rest) =
      some (.list (x :: xs), rest) := by
  obtain ⟨c, cs, hcons, hc, hne⟩ := dumps_eq_cons text space x
  have hskip : skip (dumps text.toFloatText space x ++
      (dumpsItems text.toFloatText space xs ++ rest)) =
      c :: (cs ++ (dumpsItems text.toFloatText space xs ++ rest)) := by
    rw [hcons]
    exact skip_cons hc
  rw [hcons] at hx
  simp only [dumps, List.cons_append, List.append_assoc]
  rw [← skip_dumpsItems] at hxs
  exact scan_list hskip hne hx hxs

/-- Reading a dictionary, given how its members are read. -/
theorem scan_dumps_dict (hspace : ∀ c ∈ space, isSpace c = true) {fuel : Nat} {k : String}
    {x : Value} {kvs : List (String × Value)} {rest : List Char}
    (hkeys : (((k, x) :: kvs).map Prod.fst).Nodup)
    (hx : scan text.toFloatText fuel (dumps text.toFloatText space x ++
      (dumpsMembers text.toFloatText space kvs ++ rest)) =
        some (x, dumpsMembers text.toFloatText space kvs ++ rest))
    (hkvs : scanMembers text.toFloatText (fuel + 1) (dumpsMembers text.toFloatText space kvs ++
      rest) = some (kvs, rest)) :
    scan text.toFloatText (fuel + 2)
      (dumps text.toFloatText space (.dict ((k, x) :: kvs)) ++ rest) =
        some (.dict ((k, x) :: kvs), rest) := by
  have hkv := scanMember_quote text hspace k hx
  rw [← skip_dumpsMembers] at hkvs
  simp only [dumps, List.cons_append, List.append_assoc, quote] at hkv ⊢
  have hdict := scan_dict (skip_cons rfl) (by decide) hkv hkvs
  rwa [ofPairs_of_nodup hkeys] at hdict

mutual

theorem scan_dumps (hspace : ∀ c ∈ space, isSpace c = true) : ∀ (x : Value) (fuel : Nat)
    (rest : List Char), WellKeyed x → NoNumber rest →
    2 * (dumps text.toFloatText space x).length < fuel →
    scan text.toFloatText fuel (dumps text.toFloatText space x ++ rest) = some (x, rest)
  | .none, fuel + 1, rest, _, _, _ => scan.eq_5 ..
  | .bool true, fuel + 1, rest, _, _, _ => scan.eq_6 ..
  | .bool false, fuel + 1, rest, _, _, _ => scan.eq_7 ..
  | .int n, fuel + 1, rest, _, hrest, _ => scan_signed text fuel n hrest
  | .float x, fuel + 1, rest, _, hrest, _ => scan_float text fuel x hrest
  | .str s, fuel + 1, rest, _, _, _ => by
      have htext : dumps text.toFloatText space (.str s) ++ rest =
          '"' :: (s.toList.flatMap escape ++ '"' :: rest) := by
        simp [dumps, quote]
      rw [htext, scan, readString_quote]
      simp
  | .list [], fuel + 1, rest, _, _, _ => by
      show scan _ (fuel + 1) ('[' :: ']' :: rest) = _
      rw [scan, skip_cons rfl]
      rfl
  | .list (x :: xs), fuel + 1, rest, hkeys, hrest, hfuel => by
      simp only [dumps, List.cons_append, List.length_cons, List.length_append] at hfuel
      have hx := scan_dumps hspace x fuel (dumpsItems text.toFloatText space xs ++ rest)
        hkeys.1 (noNumber_dumpsItems text xs rest) (by omega)
      have hxs := scanItems_dumps hspace xs fuel rest hkeys.2 (by omega)
      exact scan_dumps_list text hx hxs
  | .dict [], fuel + 1, rest, _, _, _ => by
      show scan _ (fuel + 1) ('{' :: '}' :: rest) = _
      rw [scan, skip_cons rfl]
      rfl
  | .dict ((k, x) :: kvs), fuel + 2, rest, hkeys, hrest, hfuel => by
      simp only [dumps, List.cons_append, List.length_cons, List.length_append] at hfuel
      have hx := scan_dumps hspace x fuel (dumpsMembers text.toFloatText space kvs ++ rest)
        hkeys.2.1 (noNumber_dumpsMembers text kvs rest) (by omega)
      have hkvs := scanMembers_dumps hspace kvs (fuel + 1) rest hkeys.2.2 (by omega)
      exact scan_dumps_dict text hspace hkeys.1 hx hkvs

theorem scanItems_dumps (hspace : ∀ c ∈ space, isSpace c = true) : ∀ (xs : List Value)
    (fuel : Nat) (rest : List Char), WellKeyedItems xs →
    2 * (dumpsItems text.toFloatText space xs).length < fuel →
    scanItems text.toFloatText fuel (dumpsItems text.toFloatText space xs ++ rest) =
      some (xs, rest)
  | [], fuel + 1, rest, _, _ => scanItems.eq_2 ..
  | x :: xs, fuel + 1, rest, hkeys, hfuel => by
      simp only [dumpsItems, List.cons_append, List.length_cons, List.length_append] at hfuel
      have hx := scan_dumps hspace x fuel (dumpsItems text.toFloatText space xs ++ rest)
        hkeys.1 (noNumber_dumpsItems text xs rest) (by omega)
      have hxs := scanItems_dumps hspace xs fuel rest hkeys.2 (by omega)
      simp only [dumpsItems, List.cons_append, List.append_assoc]
      rw [scanItems, skip_dumps text hspace, hx]
      simp [skip_dumpsItems, hxs]

theorem scanMembers_dumps (hspace : ∀ c ∈ space, isSpace c = true) :
    ∀ (kvs : List (String × Value)) (fuel : Nat) (rest : List Char), WellKeyedMembers kvs →
    2 * (dumpsMembers text.toFloatText space kvs).length < fuel →
    scanMembers text.toFloatText fuel (dumpsMembers text.toFloatText space kvs ++ rest) =
      some (kvs, rest)
  | [], fuel + 1, rest, _, _ => scanMembers.eq_2 ..
  | (k, x) :: kvs, fuel + 2, rest, hkeys, hfuel => by
      simp only [dumpsMembers, List.cons_append, List.length_cons, List.length_append] at hfuel
      have hx := scan_dumps hspace x fuel (dumpsMembers text.toFloatText space kvs ++ rest)
        hkeys.1 (noNumber_dumpsMembers text kvs rest) (by omega)
      have hkvs := scanMembers_dumps hspace kvs (fuel + 1) rest hkeys.2 (by omega)
      have hkv := scanMember_quote text hspace k hx
      have hskip : ∀ cs, skip (space ++ (quote k.toList ++ cs)) = quote k.toList ++ cs := by
        intro cs
        apply skip_append hspace
        rintro c ⟨⟩
        rfl
      simp only [dumpsMembers, List.cons_append, List.append_assoc] at hkv ⊢
      rw [scanMembers, hskip, hkv]
      simp [skip_dumpsMembers, hkvs]

end

/-- **Round trip.**  `json.loads(json.dumps(x)) = x`. -/
theorem loads_dumps (hspace : ∀ c ∈ space, isSpace c = true) {x : Value} (hx : WellKeyed x) :
    loads text.toFloatText (dumps text.toFloatText space x) = some x := by
  have hscan := scan_dumps text hspace x (2 * (dumps text.toFloatText space x).length + 1) []
    hx (fun c hc ↦ by cases hc) (by omega)
  rw [List.append_nil] at hscan
  have hskip : skip (dumps text.toFloatText space x) = dumps text.toFloatText space x := by
    obtain ⟨c, cs, hcons, hc, -⟩ := dumps_eq_cons text space x
    rw [hcons]
    exact skip_cons hc
  rw [loads, hskip, hscan]
  rfl

/-! ## The characters of a text -/

/-- A printable ASCII character. -/
def Printable (c : Char) : Prop := 0x20 ≤ c.toNat ∧ c.toNat < 0x7f

instance (c : Char) : Decidable (Printable c) := inferInstanceAs (Decidable (_ ∧ _))

theorem printable_of_isNumberChar {c : Char} (h : isNumberChar c = true) : Printable c := by
  simp only [isNumberChar, Bool.or_eq_true, decide_eq_true_eq] at h
  rcases h with ((((hdigit | rfl) | rfl) | rfl) | rfl) | rfl
  · obtain ⟨hlow, hhigh⟩ := Char.isDigit_iff_toNat.mp hdigit
    have hlow' : 48 ≤ c.toNat := hlow
    have hhigh' : c.toNat ≤ 57 := hhigh
    exact ⟨by omega, by omega⟩
  all_goals decide

theorem printable_hexDigit {n : Nat} (h : n < 16) : Printable (hexDigit n) := by
  have hall : ∀ m < 16, Printable (hexDigit m) := by decide
  exact hall n h

/-- A string is written in printable characters. -/
theorem printable_quote {s : List Char} : ∀ c ∈ quote s, Printable c := by
  have hunit : ∀ u, ∀ c ∈ escapeUnit u, Printable c := by
    intro u c hc
    simp only [escapeUnit, List.mem_cons, List.not_mem_nil, or_false] at hc
    rcases hc with rfl | rfl | rfl | rfl | rfl | rfl
    · decide
    · decide
    all_goals exact printable_hexDigit (by omega)
  have hescape : ∀ d, ∀ c ∈ escape d, Printable c := by
    intro d c hc
    unfold escape at hc
    split at hc
    · rename_i e he
      rcases List.mem_cons.mp hc with rfl | hc
      · decide
      · rw [List.mem_singleton.mp hc]
        unfold shortEscape at he
        split_ifs at he <;> cases he <;> decide
    · split_ifs at hc with hprint
      · rw [List.mem_singleton.mp hc]
        exact hprint
      · obtain ⟨u, -, hu⟩ := List.mem_flatMap.mp hc
        exact hunit u c hu
  have hchars : ∀ c ∈ s.flatMap escape, Printable c := by
    intro c hc
    obtain ⟨d, -, hd⟩ := List.mem_flatMap.mp hc
    exact hescape d c hd
  rw [quote, List.cons_append, List.forall_mem_cons, List.forall_mem_append]
  exact ⟨by decide, hchars, by decide⟩

theorem printable_dumpsFloat (x : PyFloat) : ∀ c ∈ dumpsFloat text.toFloatText x, Printable c := by
  cases x with
  | nan =>
      show ∀ c ∈ ['N', 'a', 'N'], Printable c
      decide
  | posInf =>
      show ∀ c ∈ ['I', 'n', 'f', 'i', 'n', 'i', 't', 'y'], Printable c
      decide
  | negInf =>
      show ∀ c ∈ ['-', 'I', 'n', 'f', 'i', 'n', 'i', 't', 'y'], Printable c
      decide
  | fin q => exact fun c hc ↦ printable_of_isNumberChar (text.numberChars_fin q c hc)

mutual

/-- The text of a value is printable ASCII. -/
theorem printable_dumps (hspace : ∀ c ∈ space, Printable c) :
    ∀ x : Value, ∀ c ∈ dumps text.toFloatText space x, Printable c
  | .none => by
      show ∀ c ∈ ['n', 'u', 'l', 'l'], Printable c
      decide
  | .bool true => by
      show ∀ c ∈ ['t', 'r', 'u', 'e'], Printable c
      decide
  | .bool false => by
      show ∀ c ∈ ['f', 'a', 'l', 's', 'e'], Printable c
      decide
  | .int n => fun c hc ↦ printable_of_isNumberChar (isNumberChar_signed hc)
  | .float x => printable_dumpsFloat text x
  | .str s => printable_quote
  | .list [] => by
      show ∀ c ∈ ['[', ']'], Printable c
      decide
  | .list (x :: xs) => by
      have hx := printable_dumps hspace x
      have hxs := printable_dumpsItems hspace xs
      simp only [dumps, List.cons_append, List.forall_mem_cons, List.forall_mem_append]
      exact ⟨by decide, hx, hxs⟩
  | .dict [] => by
      show ∀ c ∈ ['{', '}'], Printable c
      decide
  | .dict ((k, x) :: kvs) => by
      have hx := printable_dumps hspace x
      have hkvs := printable_dumpsMembers hspace kvs
      simp only [dumps, List.cons_append, List.forall_mem_cons, List.forall_mem_append]
      exact ⟨by decide, ⟨⟨printable_quote, by decide, hspace⟩, hx⟩, hkvs⟩

theorem printable_dumpsItems (hspace : ∀ c ∈ space, Printable c) :
    ∀ xs : List Value, ∀ c ∈ dumpsItems text.toFloatText space xs, Printable c
  | [] => by
      show ∀ c ∈ [']'], Printable c
      decide
  | x :: xs => by
      have hx := printable_dumps hspace x
      have hxs := printable_dumpsItems hspace xs
      simp only [dumpsItems, List.cons_append, List.forall_mem_cons, List.forall_mem_append]
      exact ⟨by decide, ⟨hspace, hx⟩, hxs⟩

theorem printable_dumpsMembers (hspace : ∀ c ∈ space, Printable c) :
    ∀ kvs : List (String × Value), ∀ c ∈ dumpsMembers text.toFloatText space kvs, Printable c
  | [] => by
      show ∀ c ∈ ['}'], Printable c
      decide
  | (k, x) :: kvs => by
      have hx := printable_dumps hspace x
      have hkvs := printable_dumpsMembers hspace kvs
      simp only [dumpsMembers, List.cons_append, List.forall_mem_cons, List.forall_mem_append]
      exact ⟨by decide, ⟨⟨⟨hspace, printable_quote⟩, by decide, hspace⟩, hx⟩, hkvs⟩

end

end

end DroneComms.Py.Json
