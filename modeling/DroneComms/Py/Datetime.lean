import DroneComms.Py.Calendar
import DroneComms.Py.Rounding

/-!
# Timestamps

`datetime.fromtimestamp`, its text in UTC with milliseconds, and the reading of
that text.  An instant is a number of milliseconds since 1970.  `%Y` writes a year
before 1000 with fewer than four digits, and no such text is read.

A millisecond need not be a binary64 number, so what is read from a text may lie
below the instant that was written and the next text may be one millisecond
earlier (`millis_timestamp`).  An eighth of a second is a binary64 number, so
this ends there.
-/

namespace DroneComms.Py

/-! ## The text of an instant -/

/-- The milliseconds of years 1 to 9999. -/
def minMillis : ℤ := -62135596800000

def maxMillis : ℤ := 253402300799999

/-- The first millisecond of year 1000. -/
def fourDigitMillis : ℤ := -30610224000000

/-- `"%Y-%m-%dT%H:%M:%S."` and three digits, for milliseconds since year 1. -/
def stamp (n : ℕ) : List Char :=
  let d := Date.ofDays (n / 86400000)
  Nat.toDigits 10 d.year ++ '-' :: (Decimal.pad 2 d.month ++ '-' :: (Decimal.pad 2 d.day ++
    'T' :: (Decimal.pad 2 (n / 3600000 % 24) ++ ':' :: (Decimal.pad 2 (n / 60000 % 60) ++
      ':' :: (Decimal.pad 2 (n / 1000 % 60) ++ '.' :: Decimal.pad 3 (n % 1000))))))

/-- The text of an instant in UTC. -/
def isoText (n : ℤ) : List Char := stamp (n - minMillis).toNat ++ ['Z']

/-! ## Reading it -/

/-- Read a number of `w` digits. -/
def number (w : ℕ) (cs : List Char) : Option (ℕ × List Char) :=
  if w ≤ cs.length then (Decimal.digits (cs.take w)).map (·, cs.drop w) else none

/-- Read one character. -/
def expect (c : Char) : List Char → Option (List Char)
  | [] => none
  | d :: cs => if d = c then some cs else none

/-- Read a date and a time of day with milliseconds. -/
def readStamp (cs : List Char) : Option (ℕ × List Char) := do
  let (year, cs) ← number 4 cs
  let cs ← expect '-' cs
  let (month, cs) ← number 2 cs
  let cs ← expect '-' cs
  let (day, cs) ← number 2 cs
  let cs ← expect 'T' cs
  let (hour, cs) ← number 2 cs
  let cs ← expect ':' cs
  let (minute, cs) ← number 2 cs
  let cs ← expect ':' cs
  let (second, cs) ← number 2 cs
  let cs ← expect '.' cs
  let (milli, cs) ← number 3 cs
  let d : Date := ⟨year, month, day⟩
  if d.Valid ∧ hour < 24 ∧ minute < 60 ∧ second < 60 then
    some (((d.toDays * 24 + hour) * 60 + minute) * 60000 + second * 1000 + milli, cs)
  else none

/-- `iso.replace("Z", "+00:00")`. -/
def replaceZ (cs : List Char) : List Char :=
  cs.flatMap fun c ↦ if c = 'Z' then ['+', '0', '0', ':', '0', '0'] else [c]

/-- The instant of a text in UTC with milliseconds. -/
def readIso (cs : List Char) : Option ℤ := do
  let (n, rest) ← readStamp cs
  if rest = ['+', '0', '0', ':', '0', '0'] then some (n + minMillis) else none

theorem number_pad {w n : ℕ} (hw : 0 < w) (h : n < 10 ^ w) (rest : List Char) :
    number w (Decimal.pad w n ++ rest) = some (n, rest) := by
  have hlength := Decimal.length_pad hw h
  rw [number, if_pos (by rw [List.length_append]; omega), List.take_left' hlength,
    List.drop_left' hlength, Decimal.digits_pad]
  rfl

theorem expect_cons (c : Char) (cs : List Char) : expect c (c :: cs) = some cs := if_pos rfl

/-- A written instant is read back, if its year has four digits. -/
theorem readStamp_stamp {n : ℕ} (hfour : 86400000 * 364877 ≤ n) (h : n < 86400000 * dayLimit)
    (rest : List Char) : readStamp (stamp n ++ rest) = some (n, rest) := by
  have hvalid : (Date.ofDays (n / 86400000)).Valid := Date.valid_ofDays (by omega)
  have hday : (Date.ofDays (n / 86400000)).day < 10 ^ 2 := hvalid.day_lt
  have hyear : (Date.ofDays (n / 86400000)).year < 10 ^ 4 := lt_of_le_of_lt hvalid.2.1 (by decide)
  have hthousand : 10 ^ 3 ≤ (Date.ofDays (n / 86400000)).year :=
    yearDay_year_ge.mpr (by omega)
  have hmonth : (Date.ofDays (n / 86400000)).month < 10 ^ 2 :=
    lt_of_le_of_lt hvalid.2.2.2.1 (by decide)
  have hhour : n / 3600000 % 24 < 24 := Nat.mod_lt _ (by decide)
  have hminute : n / 60000 % 60 < 60 := Nat.mod_lt _ (by decide)
  have hsecond : n / 1000 % 60 < 60 := Nat.mod_lt _ (by decide)
  have hmilli : n % 1000 < 10 ^ 3 := Nat.mod_lt _ (by decide)
  have hread : (((n / 86400000 * 24 + n / 3600000 % 24) * 60 + n / 60000 % 60) * 60000 +
      n / 1000 % 60 * 1000 + n % 1000) = n := by omega
  have htwo : ∀ {k m : ℕ}, k < m → m ≤ 10 ^ 2 → k < 10 ^ 2 := lt_of_lt_of_le
  simp only [stamp, ← Decimal.pad_eq_toDigits hthousand, List.append_assoc, List.cons_append]
  refine Option.bind_eq_some_iff.mpr ⟨_, number_pad (by decide) hyear _, ?_⟩
  refine Option.bind_eq_some_iff.mpr ⟨_, expect_cons '-' _, ?_⟩
  refine Option.bind_eq_some_iff.mpr ⟨_, number_pad (by decide) hmonth _, ?_⟩
  refine Option.bind_eq_some_iff.mpr ⟨_, expect_cons '-' _, ?_⟩
  refine Option.bind_eq_some_iff.mpr ⟨_, number_pad (by decide) hday _, ?_⟩
  refine Option.bind_eq_some_iff.mpr ⟨_, expect_cons 'T' _, ?_⟩
  refine Option.bind_eq_some_iff.mpr ⟨_, number_pad (by decide) (htwo hhour (by decide)) _, ?_⟩
  refine Option.bind_eq_some_iff.mpr ⟨_, expect_cons ':' _, ?_⟩
  refine Option.bind_eq_some_iff.mpr ⟨_, number_pad (by decide) (htwo hminute (by decide)) _, ?_⟩
  refine Option.bind_eq_some_iff.mpr ⟨_, expect_cons ':' _, ?_⟩
  refine Option.bind_eq_some_iff.mpr ⟨_, number_pad (by decide) (htwo hsecond (by decide)) _, ?_⟩
  refine Option.bind_eq_some_iff.mpr ⟨_, expect_cons '.' _, ?_⟩
  refine Option.bind_eq_some_iff.mpr ⟨_, number_pad (by decide) hmilli _, ?_⟩
  dsimp only
  rw [if_pos ⟨hvalid, hhour, hminute, hsecond⟩, Date.toDays_ofDays, hread]

/-- The text of an instant has no `Z` before its end. -/
theorem ne_z_of_mem_stamp {n : ℕ} {c : Char} (h : c ∈ stamp n) : c ≠ 'Z' := by
  have hpad : ∀ {w k : ℕ}, 'Z' ∉ Decimal.pad w k := fun hmem ↦
    absurd (Decimal.isDigit_of_mem_pad hmem) (by decide)
  have hdigits : ∀ {k : ℕ}, 'Z' ∉ Nat.toDigits 10 k := fun hmem ↦
    absurd (Decimal.isDigit_of_mem_toDigits hmem) (by decide)
  rintro rfl
  simp [stamp, hpad, hdigits] at h

theorem replaceZ_append (as bs : List Char) : replaceZ (as ++ bs) = replaceZ as ++ replaceZ bs :=
  List.flatMap_append

theorem replaceZ_eq_self {cs : List Char} (h : ∀ c ∈ cs, c ≠ 'Z') : replaceZ cs = cs := by
  induction cs with
  | nil => rfl
  | cons c cs ih =>
      rw [List.forall_mem_cons] at h
      rw [replaceZ, List.flatMap_cons, if_neg h.1]
      exact congrArg (c :: ·) (ih h.2)

theorem replaceZ_isoText (n : ℤ) :
    replaceZ (isoText n) = stamp (n - minMillis).toNat ++ ['+', '0', '0', ':', '0', '0'] := by
  rw [isoText, replaceZ_append, replaceZ_eq_self fun c hc ↦ ne_z_of_mem_stamp hc]
  rfl

/-- **Round trip.**  The text of an instant in years 1000 to 9999 is read back. -/
theorem readIso_isoText {n : ℤ} (hfour : fourDigitMillis ≤ n) (hmax : n ≤ maxMillis) :
    readIso (replaceZ (isoText n)) = some n := by
  unfold fourDigitMillis at hfour
  unfold maxMillis at hmax
  have hge : 86400000 * 364877 ≤ (n - minMillis).toNat := by
    unfold minMillis
    omega
  have hlt : (n - minMillis).toNat < 86400000 * dayLimit := by
    unfold minMillis dayLimit
    omega
  have hback : ((n - minMillis).toNat : ℤ) + minMillis = n := by
    unfold minMillis
    omega
  rw [replaceZ_isoText, readIso, readStamp_stamp hge hlt]
  exact congrArg some hback

/-- A year before 1000 ends within the first four characters. -/
theorem dash_mem_take_isoText {n : ℤ} (hmin : minMillis ≤ n) (hfour : n < fourDigitMillis) :
    '-' ∈ (replaceZ (isoText n)).take 4 := by
  unfold fourDigitMillis at hfour
  have hday : (n - minMillis).toNat / 86400000 < 364877 := by
    unfold minMillis at hmin ⊢
    omega
  have hyear : (Date.ofDays ((n - minMillis).toNat / 86400000)).year < 10 ^ 3 := by
    by_contra hge
    exact absurd (yearDay_year_ge.mp (not_lt.mp hge)) (not_le.mpr hday)
  have hlength := (Nat.length_toDigits_le_iff (b := 10) (by decide) (by decide : 0 < 3)).mpr hyear
  rw [replaceZ_isoText, stamp, List.append_assoc, List.take_append, List.cons_append,
    List.mem_append]
  right
  obtain ⟨k, hk⟩ : ∃ k, 4 - (Nat.toDigits 10
      (Date.ofDays ((n - minMillis).toNat / 86400000)).year).length = k + 1 :=
    Nat.exists_eq_add_one.mpr (by omega)
  rw [hk, List.take_succ_cons]
  exact List.mem_cons_self

/-- So its text is not read. -/
theorem readIso_eq_none {cs : List Char} (h : '-' ∈ cs.take 4) : readIso cs = none := by
  have hdigits : Decimal.digits (cs.take 4) = none := by
    rw [Decimal.digits, if_neg]
    rintro ⟨-, hall⟩
    exact absurd (hall '-' h) (by decide)
  have hnumber : number 4 cs = none := by
    rw [number, hdigits]
    exact ite_self none
  rw [readIso, readStamp, hnumber]
  rfl

/-! ## Floats -/

/-- Seconds in microseconds: the fraction is scaled and rounded. -/
def micros (q : ℚ) : ℤ :=
  truncate q * 1000000 + roundEven (binary64 ((q - truncate q) * 1000000))

/-- `datetime.fromtimestamp`: microseconds since 1970. -/
def fromtimestamp : PyFloat → Except PyError ℤ
  | .nan => .error .valueError
  | .posInf | .negInf => .error .overflowError
  | .fin q =>
      if minMillis * 1000 ≤ micros q ∧ micros q < (maxMillis + 1) * 1000 then .ok (micros q)
      else .error .valueError

/-- `_iso` of `meshsa/cot.py`. -/
def iso (ts : PyFloat) : Except PyError String := do
  let u ← fromtimestamp ts
  .ok (String.ofList (isoText (u / 1000)))

/-- `datetime.timestamp`, from milliseconds. -/
def timestamp (n : ℤ) : PyFloat := .ofRat (n / 1000)

/-- The fraction of a second is smaller than a second. -/
theorem abs_fraction_lt (q : ℚ) : |(q - truncate q) * 1000000| < 2 ^ (20 : ℤ) := by
  rw [abs_mul, abs_of_pos (by norm_num : (0 : ℚ) < 1000000)]
  have hlt := abs_sub_truncate_lt q
  norm_num
  linarith

/-- Scaling rounds to the nearest microsecond, nearly. -/
theorem abs_micros_sub_lt (q : ℚ) : |(micros q : ℚ) - 1000000 * q| < 3 / 5 := by
  have hround := abs_le.mp (abs_roundEven_sub_le (binary64 ((q - truncate q) * 1000000)))
  have hfloat := abs_le.mp (abs_binary64_sub_le ((q - truncate q) * 1000000))
  have hulp : ulp ((q - truncate q) * 1000000) ≤ 1 / 10 :=
    le_trans (ulp_le (by norm_num) (abs_fraction_lt q)) (by norm_num)
  rw [micros, abs_lt]
  push_cast
  constructor <;> linarith [hround.1, hround.2, hfloat.1, hfloat.2]

theorem fromtimestamp_eq_ok {q : ℚ} {u : ℤ} : fromtimestamp (.fin q) = .ok u ↔
    minMillis * 1000 ≤ u ∧ u < (maxMillis + 1) * 1000 ∧ micros q = u := by
  rw [fromtimestamp]
  constructor
  · intro h
    split_ifs at h with hrange
    cases h
    exact ⟨hrange.1, hrange.2, rfl⟩
  · rintro ⟨hmin, hmax, rfl⟩
    exact if_pos ⟨hmin, hmax⟩

theorem abs_fromtimestamp_sub_lt {q : ℚ} {u : ℤ} (h : fromtimestamp (.fin q) = .ok u) :
    |(u : ℚ) - 1000000 * q| < 3 / 5 := by
  rw [← (fromtimestamp_eq_ok.mp h).2.2]
  exact abs_micros_sub_lt q

theorem abs_seconds_lt {n : ℤ} (hmin : minMillis ≤ n) (hmax : n ≤ maxMillis) :
    |(n : ℚ) / 1000| < 2 ^ (38 : ℤ) := by
  have hmin' : ((minMillis : ℤ) : ℚ) ≤ n := by exact_mod_cast hmin
  have hmax' : (n : ℚ) ≤ ((maxMillis : ℤ) : ℚ) := by exact_mod_cast hmax
  norm_num [minMillis, maxMillis] at hmin' hmax'
  rw [abs_lt]
  constructor <;> norm_num <;> linarith

/-- In years 1 to 9999 a timestamp is finite and off by less than 16 microseconds. -/
theorem timestamp_eq {n : ℤ} (hmin : minMillis ≤ n) (hmax : n ≤ maxMillis) :
    timestamp n = .fin (binary64 (n / 1000)) ∧
      |binary64 ((n : ℚ) / 1000) - n / 1000| ≤ 1 / 65536 := by
  have hlt := abs_seconds_lt hmin hmax
  have hulp := ulp_le (by norm_num) hlt
  have herror := abs_binary64_sub_le ((n : ℚ) / 1000)
  norm_num at hulp
  have hbound : |binary64 ((n : ℚ) / 1000) - n / 1000| ≤ 1 / 65536 := by linarith
  refine ⟨PyFloat.ofRat_eq_fin ?_, hbound⟩
  calc |binary64 ((n : ℚ) / 1000)|
      = |binary64 ((n : ℚ) / 1000) - n / 1000 + n / 1000| := by rw [sub_add_cancel]
    _ ≤ |binary64 ((n : ℚ) / 1000) - n / 1000| + |(n : ℚ) / 1000| := abs_add_le _ _
    _ < 2 ^ (39 : ℕ) := by
        norm_num at hlt ⊢
        linarith
    _ ≤ 2 ^ 1024 := pow_le_pow_right₀ (by norm_num) (by norm_num)

/-- An eighth of a second is a float. -/
theorem fromtimestamp_timestamp_of_dvd {n u : ℤ} (hmin : minMillis ≤ n) (hmax : n ≤ maxMillis)
    (hdvd : 125 ∣ n) (h : fromtimestamp (timestamp n) = .ok u) : u = 1000 * n := by
  obtain ⟨j, rfl⟩ := hdvd
  have hexact : binary64 (((125 * j : ℤ) : ℚ) / 1000) = ((125 * j : ℤ) : ℚ) / 1000 := by
    apply binary64_eq_self (m := j * 4096) (by norm_num) (abs_seconds_lt hmin hmax)
    norm_num
    ring
  obtain ⟨hfin, -⟩ := timestamp_eq hmin hmax
  rw [hfin, hexact] at h
  have herror := abs_lt.mp (abs_fromtimestamp_sub_lt h)
  have hcast : (1000000 : ℚ) * (((125 * j : ℤ) : ℚ) / 1000) = ((1000 * (125 * j) : ℤ) : ℚ) := by
    push_cast
    ring
  rw [hcast] at herror
  have hlow : (-1 : ℤ) < u - 1000 * (125 * j) := by
    have : ((-1 : ℤ) : ℚ) < ((u - 1000 * (125 * j) : ℤ) : ℚ) := by
      push_cast at herror ⊢
      linarith [herror.1]
    exact_mod_cast this
  have hhigh : u - 1000 * (125 * j) < 1 := by
    have : ((u - 1000 * (125 * j) : ℤ) : ℚ) < ((1 : ℤ) : ℚ) := by
      push_cast at herror ⊢
      linarith [herror.2]
    exact_mod_cast this
  omega

/-- What is read back from a text and written again is the same text or that of
the millisecond before. -/
theorem fromtimestamp_timestamp {n u : ℤ} (hmin : minMillis ≤ n) (hmax : n ≤ maxMillis)
    (h : fromtimestamp (timestamp n) = .ok u) :
    u / 1000 = n ∨ (u / 1000 = n - 1 ∧ ¬ 125 ∣ n) := by
  by_cases hdvd : 125 ∣ n
  · rw [fromtimestamp_timestamp_of_dvd hmin hmax hdvd h]
    omega
  · obtain ⟨hfin, hfloat⟩ := timestamp_eq hmin hmax
    rw [hfin] at h
    have herror := abs_lt.mp (abs_fromtimestamp_sub_lt h)
    have hfloat' := abs_le.mp hfloat
    have hlow : ((1000 * n - 1000 : ℤ) : ℚ) < (u : ℚ) := by
      push_cast
      linarith [herror.1, hfloat'.1]
    have hhigh : (u : ℚ) < ((1000 * n + 1000 : ℤ) : ℚ) := by
      push_cast
      linarith [herror.2, hfloat'.2]
    have hlow' : 1000 * n - 1000 < u := by exact_mod_cast hlow
    have hhigh' : u < 1000 * n + 1000 := by exact_mod_cast hhigh
    omega

/-! ## Adding the stale window -/

/-- Two minutes later, an instant that leaves room for them is still in range. -/
theorem exists_fromtimestamp_add {n : ℤ} (hmin : minMillis ≤ n)
    (hmax : n + 120000 ≤ maxMillis) :
    ∃ v, fromtimestamp ((timestamp n).add (.fin 120)) = .ok v := by
  obtain ⟨hfin, hfloat⟩ := timestamp_eq hmin (by omega)
  have hlow : ((minMillis : ℤ) : ℚ) ≤ n := by exact_mod_cast hmin
  have hhigh : (n : ℚ) + 120000 ≤ ((maxMillis : ℤ) : ℚ) := by exact_mod_cast hmax
  norm_num [minMillis, maxMillis] at hlow hhigh
  have hfloat' := abs_le.mp hfloat
  have hlt : |binary64 ((n : ℚ) / 1000) + 120| < 2 ^ (38 : ℤ) := by
    rw [abs_lt]
    constructor <;> norm_num <;> linarith [hfloat'.1, hfloat'.2]
  have herror := abs_binary64_sub_le (binary64 ((n : ℚ) / 1000) + 120)
  have hulp := ulp_le (by norm_num) hlt
  norm_num at hulp
  have hsum : |binary64 (binary64 ((n : ℚ) / 1000) + 120) - (binary64 ((n : ℚ) / 1000) + 120)| ≤
      1 / 65536 := by linarith
  have hsum' := abs_le.mp hsum
  have hadd : (timestamp n).add (.fin 120) = .fin (binary64 (binary64 ((n : ℚ) / 1000) + 120)) := by
    rw [hfin]
    apply PyFloat.ofRat_eq_fin
    have hbig : |binary64 (binary64 ((n : ℚ) / 1000) + 120)| < 2 ^ (39 : ℕ) := by
      rw [abs_lt]
      constructor <;> norm_num <;> linarith [hfloat'.1, hfloat'.2, hsum'.1, hsum'.2]
    exact lt_of_lt_of_le hbig (pow_le_pow_right₀ (by norm_num) (by norm_num))
  have hmicros := abs_lt.mp (abs_micros_sub_lt (binary64 (binary64 ((n : ℚ) / 1000) + 120)))
  rw [hadd]
  refine ⟨_, fromtimestamp_eq_ok.mpr ⟨?_, ?_, rfl⟩⟩
  · have h : ((minMillis * 1000 : ℤ) : ℚ) ≤
        micros (binary64 (binary64 ((n : ℚ) / 1000) + 120)) := by
      norm_num [minMillis]
      linarith [hmicros.1, hfloat'.1, hsum'.1]
    exact_mod_cast h
  · have h : (micros (binary64 (binary64 ((n : ℚ) / 1000) + 120)) : ℚ) <
        (((maxMillis + 1) * 1000 : ℤ) : ℚ) := by
      norm_num [maxMillis]
      linarith [hmicros.2, hfloat'.2, hsum'.2]
    exact_mod_cast h

/-- Close to the end of year 9999 the floats are the multiples of `2 ^ (-15)`. -/
theorem ulp_year {q : ℚ} (hlow : 2 ^ (37 : ℤ) ≤ q) (hhigh : q < 2 ^ (38 : ℤ)) :
    ulp q = 1 / 32768 := by
  have hpos : 0 < q := lt_of_lt_of_le (by norm_num) hlow
  have hlog : Int.log 2 |q| = 37 := by
    rw [abs_of_pos hpos]
    have hle := (Int.zpow_le_iff_le_log (b := 2) (by norm_num) hpos).mp hlow
    have hlt := (Int.lt_zpow_iff_log_lt (b := 2) (by norm_num) hpos).mp hhigh
    omega
  rw [ulp, hlog]
  norm_num

/-- An instant that is in range two minutes later leaves room for them. -/
theorem room_of_fromtimestamp_add {q : ℚ} {u v : ℤ} (hu : fromtimestamp (.fin q) = .ok u)
    (hv : fromtimestamp ((PyFloat.fin q).add (.fin 120)) = .ok v) :
    u / 1000 + 120000 ≤ maxMillis := by
  by_contra hroom
  obtain ⟨-, hmax, -⟩ := fromtimestamp_eq_ok.mp hu
  have hmicros := abs_lt.mp (abs_fromtimestamp_sub_lt hu)
  have hlate : ((1000 * (maxMillis + 1 - 120000) : ℤ) : ℚ) ≤ u := by
    have : 1000 * (maxMillis + 1 - 120000) ≤ u := by omega
    exact_mod_cast this
  have hmax' : (u : ℚ) < (((maxMillis + 1) * 1000 : ℤ) : ℚ) := by exact_mod_cast hmax
  norm_num [maxMillis] at hlate hmax'
  have hulp : ulp (q + 120) = 1 / 32768 := by
    apply ulp_year
    · norm_num
      linarith [hmicros.2]
    · norm_num
      linarith [hmicros.1]
  have herror := abs_le.mp (abs_binary64_sub_le (q + 120))
  rw [hulp] at herror
  -- the sum is a multiple of 1/32768 below the end of the year
  have hsum : (PyFloat.fin q).add (.fin 120) = .fin (binary64 (q + 120)) := by
    apply PyFloat.ofRat_eq_fin
    have hbig : |binary64 (q + 120)| < 2 ^ (39 : ℕ) := by
      rw [abs_lt]
      constructor <;> norm_num <;> linarith [herror.1, herror.2, hmicros.1, hmicros.2]
    exact lt_of_lt_of_le hbig (pow_le_pow_right₀ (by norm_num) (by norm_num))
  rw [hsum] at hv
  have hend : binary64 (q + 120) < 253402300800 := by
    have hv' := abs_lt.mp (abs_fromtimestamp_sub_lt hv)
    obtain ⟨-, hvmax, -⟩ := fromtimestamp_eq_ok.mp hv
    have hvmax' : (v : ℚ) ≤ (((maxMillis + 1) * 1000 - 1 : ℤ) : ℚ) := by
      exact_mod_cast Int.le_sub_one_of_lt hvmax
    norm_num [maxMillis] at hvmax'
    linarith [hv'.1]
  have hgrid : binary64 (q + 120) ≤ 253402300800 - 1 / 32768 := by
    have hmul : binary64 (q + 120) = (roundEven ((q + 120) / (1 / 32768)) : ℚ) * (1 / 32768) := by
      rw [binary64, hulp]
    have hlt : (roundEven ((q + 120) / (1 / 32768)) : ℚ) < ((253402300800 * 32768 : ℤ) : ℚ) := by
      rw [hmul] at hend
      push_cast
      linarith
    have hlt' : roundEven ((q + 120) / (1 / 32768)) < 253402300800 * 32768 := by exact_mod_cast hlt
    have hle : (roundEven ((q + 120) / (1 / 32768)) : ℚ) ≤ ((253402300800 * 32768 - 1 : ℤ) : ℚ) := by
      exact_mod_cast Int.le_sub_one_of_lt hlt'
    rw [hmul]
    push_cast at hle
    linarith
  linarith [herror.1, hmicros.2]

/-- What was read from a text is in range again. -/
theorem exists_fromtimestamp_timestamp {n : ℤ} (hmin : 0 ≤ n) (hmax : n ≤ maxMillis) :
    ∃ u, fromtimestamp (timestamp n) = .ok u ∧ 0 ≤ u / 1000 ∧ u / 1000 ≤ n := by
  have hmin' : minMillis ≤ n := le_trans (by decide) hmin
  obtain ⟨hfin, hfloat⟩ := timestamp_eq hmin' hmax
  have hfloat' := abs_le.mp hfloat
  have hmicros := abs_lt.mp (abs_micros_sub_lt (binary64 ((n : ℚ) / 1000)))
  have hlow : (0 : ℚ) ≤ n := by exact_mod_cast hmin
  have hhigh : (n : ℚ) ≤ ((maxMillis : ℤ) : ℚ) := by exact_mod_cast hmax
  norm_num [maxMillis] at hhigh
  have hok : fromtimestamp (timestamp n) = .ok (micros (binary64 ((n : ℚ) / 1000))) := by
    rw [hfin]
    refine fromtimestamp_eq_ok.mpr ⟨?_, ?_, rfl⟩
    · have h : ((minMillis * 1000 : ℤ) : ℚ) ≤ micros (binary64 ((n : ℚ) / 1000)) := by
        norm_num [minMillis]
        linarith [hmicros.1, hfloat'.1]
      exact_mod_cast h
    · have h : (micros (binary64 ((n : ℚ) / 1000)) : ℚ) < (((maxMillis + 1) * 1000 : ℤ) : ℚ) := by
        norm_num [maxMillis]
        linarith [hmicros.2, hfloat'.2]
      exact_mod_cast h
  refine ⟨_, hok, ?_⟩
  rcases fromtimestamp_timestamp hmin' hmax hok with heq | ⟨heq, hdvd⟩
  · omega
  · have hne : n ≠ 0 := by
      rintro rfl
      exact hdvd ⟨0, rfl⟩
    omega

/-! ## Timestamps before year 10000 -/

/-- The end of year 9999 in seconds. -/
def epochEnd : ℚ := 253402300800

/-- Whatever is a microsecond before the end of year 9999 is in range. -/
theorem fromtimestamp_of_le {q : ℚ} (h0 : 0 ≤ q) (h : q ≤ epochEnd - 1 / 1000000) :
    ∃ u, fromtimestamp (.fin q) = .ok u ∧ 0 ≤ u := by
  have hmicros := abs_lt.mp (abs_micros_sub_lt q)
  unfold epochEnd at h
  have hlow : (((-1 : ℤ)) : ℚ) < micros q := by
    push_cast
    linarith [hmicros.1]
  have hhigh : (micros q : ℚ) < (((maxMillis + 1) * 1000 : ℤ) : ℚ) := by
    norm_num [maxMillis]
    linarith [hmicros.2]
  have hlow' : -1 < micros q := by exact_mod_cast hlow
  have hhigh' : micros q < (maxMillis + 1) * 1000 := by exact_mod_cast hhigh
  refine ⟨micros q, fromtimestamp_eq_ok.mpr ⟨?_, hhigh', rfl⟩, by omega⟩
  unfold minMillis
  omega

theorem lt_of_fromtimestamp {q : ℚ} {u : ℤ} (h : fromtimestamp (.fin q) = .ok u) :
    q < epochEnd := by
  have herror := abs_lt.mp (abs_fromtimestamp_sub_lt h)
  obtain ⟨-, hmax, -⟩ := fromtimestamp_eq_ok.mp h
  have hmax' : (u : ℚ) ≤ (((maxMillis + 1) * 1000 - 1 : ℤ) : ℚ) := by
    exact_mod_cast Int.le_sub_one_of_lt hmax
  norm_num [maxMillis] at hmax'
  unfold epochEnd
  linarith [herror.1]

/-- A float of the last centuries is a multiple of `2 ^ (-15)`. -/
theorem exists_grid {q : ℚ} (hlow : 2 ^ (37 : ℤ) ≤ q) (hhigh : q < 2 ^ (38 : ℤ))
    (hq : binary64 q = q) : ∃ m : ℤ, q = m / 32768 := by
  refine ⟨roundEven (q / (1 / 32768)), ?_⟩
  calc q = binary64 q := hq.symm
    _ = roundEven (q / (1 / 32768)) * (1 / 32768) := by rw [binary64, ulp_year hlow hhigh]
    _ = _ := by ring

theorem grid_le {m : ℤ} (h : (m : ℚ) / 32768 < epochEnd) :
    (m : ℚ) / 32768 ≤ epochEnd - 1 / 1000000 := by
  unfold epochEnd at h ⊢
  have hlt : (m : ℚ) < ((253402300800 * 32768 : ℤ) : ℚ) := by
    push_cast
    linarith
  have hlt' : m < 253402300800 * 32768 := by exact_mod_cast hlt
  have hle : (m : ℚ) ≤ ((253402300800 * 32768 - 1 : ℤ) : ℚ) := by
    exact_mod_cast Int.le_sub_one_of_lt hlt'
  push_cast at hle
  linarith

/-- A timestamp before year 10000 is in range. -/
theorem exists_fromtimestamp {q : ℚ} (h0 : 0 ≤ q) (hq : binary64 q = q) (h : q < epochEnd) :
    ∃ u, fromtimestamp (.fin q) = .ok u ∧ 0 ≤ u := by
  rcases lt_or_ge q (2 ^ (37 : ℤ)) with hsmall | hlarge
  · apply fromtimestamp_of_le h0
    norm_num [epochEnd] at hsmall ⊢
    linarith
  · have hhigh : q < 2 ^ (38 : ℤ) := by
      norm_num [epochEnd] at h ⊢
      linarith
    obtain ⟨m, rfl⟩ := exists_grid hlarge hhigh hq
    exact fromtimestamp_of_le h0 (grid_le h)

/-- Two minutes later it is in range if that is before year 10000, too. -/
theorem exists_fromtimestamp_add_iff {q : ℚ} (h0 : 0 ≤ q) (hq : binary64 q = q)
    (h : q < epochEnd) :
    (∃ v, fromtimestamp ((PyFloat.fin q).add (.fin 120)) = .ok v) ↔ q + 120 < epochEnd := by
  have hend : epochEnd = 253402300800 := rfl
  have habs : |q + 120| < 2 ^ (38 : ℤ) := by
    rw [abs_of_nonneg (by linarith)]
    norm_num
    linarith
  have herror := abs_binary64_sub_le (q + 120)
  have hulp := ulp_le (by norm_num) habs
  norm_num at hulp
  have hsum := abs_le.mp (le_trans herror (by linarith : ulp (q + 120) / 2 ≤ 1 / 65536))
  have hadd : (PyFloat.fin q).add (.fin 120) = .fin (binary64 (q + 120)) := by
    apply PyFloat.ofRat_eq_fin
    have hbig : |binary64 (q + 120)| < 2 ^ (39 : ℕ) := by
      rw [abs_lt]
      constructor <;> norm_num <;> linarith [hsum.1, hsum.2]
    exact lt_of_lt_of_le hbig (pow_le_pow_right₀ (by norm_num) (by norm_num))
  rw [hadd]
  rcases lt_or_ge q (2 ^ (37 : ℤ)) with hsmall | hlarge
  · -- far from the end
    norm_num at hsmall
    refine iff_of_true ?_ (by linarith)
    obtain ⟨v, hv, -⟩ := fromtimestamp_of_le (q := binary64 (q + 120)) (by linarith [hsum.1])
      (by linarith [hsum.2])
    exact ⟨v, hv⟩
  · -- the sum is exact
    have hhigh : q < 2 ^ (38 : ℤ) := by
      norm_num
      linarith
    obtain ⟨m, rfl⟩ := exists_grid hlarge hhigh hq
    have hgrid : (m : ℚ) / 32768 + 120 = ((m + 120 * 32768 : ℤ) : ℚ) / 32768 := by
      push_cast
      ring
    have hexact : binary64 ((m : ℚ) / 32768 + 120) = (m : ℚ) / 32768 + 120 := by
      apply binary64_eq_self (m := m + 120 * 32768) (by norm_num) habs
      rw [hgrid]
      norm_num
      ring
    rw [hexact]
    constructor
    · rintro ⟨v, hv⟩
      exact lt_of_fromtimestamp hv
    · intro hlt
      have hle := hgrid ▸ grid_le (hgrid ▸ hlt)
      obtain ⟨v, hv, -⟩ := fromtimestamp_of_le (by linarith) hle
      exact ⟨v, hv⟩

/-! ## The text of a float -/

theorem fromtimestamp_bounds {x : PyFloat} {u : ℤ} (h : fromtimestamp x = .ok u) :
    minMillis ≤ u / 1000 ∧ u / 1000 ≤ maxMillis := by
  cases x with
  | fin q =>
      obtain ⟨hmin, hmax, -⟩ := fromtimestamp_eq_ok.mp h
      omega
  | nan => cases h
  | posInf => cases h
  | negInf => cases h

/-- An instant from 1970 on has a year of four digits. -/
theorem fourDigitMillis_le {u : ℤ} (h : 0 ≤ u) : fourDigitMillis ≤ u / 1000 :=
  le_trans (by decide) (Int.ediv_nonneg h (by decide))

/-- A text is that of an instant in range. -/
theorem iso_eq_ok {x : PyFloat} {s : String} : iso x = .ok s ↔
    ∃ u, fromtimestamp x = .ok u ∧ s = String.ofList (isoText (u / 1000)) := by
  rw [iso]
  constructor
  · intro h
    obtain ⟨u, hu, h⟩ := bind_eq_ok.mp h
    cases h
    exact ⟨u, hu, rfl⟩
  · rintro ⟨u, hu, rfl⟩
    rw [hu]
    rfl

/-- The text of an instant is printable. -/
theorem isoText_printable {n : ℤ} : ∀ c ∈ isoText n, 32 ≤ c.toNat ∧ c.toNat < 127 := by
  have hpad : ∀ w k, ∀ c ∈ Decimal.pad w k, 32 ≤ c.toNat ∧ c.toNat < 127 := by
    intro w k c hc
    have hdigit := Char.isDigit_iff_toNat.mp (Decimal.isDigit_of_mem_pad hc)
    have hcodes : '0'.toNat = 48 ∧ '9'.toNat = 57 := by decide
    omega
  have hyear : ∀ k, ∀ c ∈ Nat.toDigits 10 k, 32 ≤ c.toNat ∧ c.toNat < 127 := by
    intro k c hc
    exact hpad 0 k c (List.mem_append_right _ hc)
  intro c hc
  simp only [isoText, stamp, List.mem_append, List.mem_cons, List.not_mem_nil, or_false] at hc
  rcases hc with (hc | rfl | hc | rfl | hc | rfl | hc | rfl | hc | rfl | hc | rfl | hc) | rfl
  all_goals first
    | exact hyear _ c hc
    | exact hpad _ _ c hc
    | decide

end DroneComms.Py
