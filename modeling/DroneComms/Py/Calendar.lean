import Mathlib.Tactic

/-!
# The Gregorian calendar

Days counted from 1 January of year 1, as `datetime` counts them, and the date
of a day.  A cycle of 400 years has 146097 days, one of 100 years 36524 and one
of 4 years 1461; the last year of a cycle takes the day that is left over.
-/

namespace DroneComms.Py

structure Date where
  year : ℕ
  month : ℕ
  day : ℕ
deriving DecidableEq, Repr

def isLeap (year : ℕ) : Bool := year % 4 = 0 && (year % 100 ≠ 0 || year % 400 = 0)

def daysBeforeYear (year : ℕ) : ℕ :=
  365 * (year - 1) + (year - 1) / 4 - (year - 1) / 100 + (year - 1) / 400

/-- Days of a year before one of its months, or before the end of the year. -/
def daysBeforeMonth (leap : Bool) (month : ℕ) : ℕ :=
  [0, 31, 59, 90, 120, 151, 181, 212, 243, 273, 304, 334, 365].getD (month - 1) 0 +
    if leap && 2 < month then 1 else 0

/-- The year of a day and the days of that year before it. -/
def yearDay (n : ℕ) : ℕ × ℕ :=
  let r400 := n % 146097
  let n100 := min (r400 / 36524) 3
  let r100 := r400 - 36524 * n100
  let n4 := r100 / 1461
  let r4 := r100 % 1461
  let n1 := min (r4 / 365) 3
  (400 * (n / 146097) + 100 * n100 + 4 * n4 + n1 + 1, r4 - 365 * n1)

/-- The month of a day of a year. -/
def monthOf (leap : Bool) (n : ℕ) : ℕ :=
  (List.range 12).countP fun m ↦ daysBeforeMonth leap (m + 1) ≤ n

namespace Date

/-- The date of a day. -/
def ofDays (n : ℕ) : Date :=
  let (year, rest) := yearDay n
  let month := monthOf (isLeap year) rest
  ⟨year, month, rest - daysBeforeMonth (isLeap year) month + 1⟩

/-- The day of a date. -/
def toDays (d : Date) : ℕ :=
  daysBeforeYear d.year + daysBeforeMonth (isLeap d.year) d.month + (d.day - 1)

/-- The date exists. -/
def Valid (d : Date) : Prop :=
  1 ≤ d.year ∧ d.year ≤ 9999 ∧ 1 ≤ d.month ∧ d.month ≤ 12 ∧ 1 ≤ d.day ∧
    daysBeforeMonth (isLeap d.year) d.month + d.day ≤ daysBeforeMonth (isLeap d.year) (d.month + 1)

instance (d : Date) : Decidable d.Valid := inferInstanceAs (Decidable (_ ∧ _))

end Date

/-- The days after the last one of year 9999. -/
def dayLimit : ℕ := 3652059

/-- The cycles before a day: 400, 100, 4 years and single years. -/
theorem yearDay_cycles (n : ℕ) : ∃ a b c e, (yearDay n).1 = 400 * a + 100 * b + 4 * c + e + 1 ∧
    n = 146097 * a + 36524 * b + 1461 * c + 365 * e + (yearDay n).2 ∧ b ≤ 3 ∧ c ≤ 24 ∧ e ≤ 3 ∧
      (yearDay n).2 ≤ 365 ∧ ((yearDay n).2 = 365 → e = 3 ∧ (c ≠ 24 ∨ b = 3)) := by
  refine ⟨n / 146097, min (n % 146097 / 36524) 3, _, _, rfl, ?_, ?_⟩
  · simp only [yearDay]
    omega
  · simp only [yearDay]
    omega

theorem daysBeforeYear_cycles {a b c e : ℕ} (hb : b ≤ 3) (hc : c ≤ 24) (he : e ≤ 3) :
    daysBeforeYear (400 * a + 100 * b + 4 * c + e + 1) =
      146097 * a + 36524 * b + 1461 * c + 365 * e := by
  have h4 : (400 * a + 100 * b + 4 * c + e) / 4 = 100 * a + 25 * b + c := by omega
  have h100 : (400 * a + 100 * b + 4 * c + e) / 100 = 4 * a + b := by omega
  have h400 : (400 * a + 100 * b + 4 * c + e) / 400 = a := by omega
  rw [daysBeforeYear, Nat.add_sub_cancel, h4, h100, h400]
  omega

/-- A year and a rest that account for the day. -/
theorem daysBeforeYear_yearDay (n : ℕ) :
    daysBeforeYear (yearDay n).1 + (yearDay n).2 = n := by
  obtain ⟨a, b, c, e, hyear, hn, hb, hc, he, -⟩ := yearDay_cycles n
  rw [hyear, daysBeforeYear_cycles hb hc he]
  exact hn.symm

/-- The rest is a day of the year. -/
theorem yearDay_lt (n : ℕ) :
    (yearDay n).2 < 365 + if isLeap (yearDay n).1 then 1 else 0 := by
  obtain ⟨a, b, c, e, hyear, -, hb, hc, he, hle, hlast⟩ := yearDay_cycles n
  by_cases hleap : isLeap (yearDay n).1 = true
  · rw [if_pos hleap]
    omega
  · rw [if_neg hleap]
    have hne : (yearDay n).2 ≠ 365 := by
      intro h365
      obtain ⟨rfl, hcentury⟩ := hlast h365
      apply hleap
      rw [hyear, isLeap]
      simp only [Bool.and_eq_true, Bool.or_eq_true, decide_eq_true_eq]
      omega
    omega

theorem yearDay_year_le {n : ℕ} (h : n < dayLimit) : 1 ≤ (yearDay n).1 ∧ (yearDay n).1 ≤ 9999 := by
  unfold dayLimit at h
  simp only [yearDay]
  omega

/-- Year 1000 begins 364877 days after year 1. -/
theorem yearDay_year_ge {n : ℕ} : 1000 ≤ (yearDay n).1 ↔ 364877 ≤ n := by
  simp only [yearDay]
  omega

/-- How far along a range a property holds that is not regained. -/
theorem lt_countP_range_iff {p : ℕ → Bool} {n : ℕ}
    (hp : ∀ i j, i ≤ j → j < n → p j = true → p i = true) :
    ∀ m < n, m < (List.range n).countP p ↔ p m = true := by
  induction n with
  | zero => exact fun m hm ↦ absurd hm (Nat.not_lt_zero m)
  | succ n ih =>
      have ih' := ih fun i j hij hj ↦ hp i j hij (Nat.lt_succ_of_lt hj)
      have hle : (List.range n).countP p ≤ n :=
        List.countP_le_length.trans_eq List.length_range
      intro m hm
      rw [List.range_succ, List.countP_append, List.countP_singleton]
      by_cases hn : p n = true
      · -- all that come before hold too
        have hall : n ≤ (List.range n).countP p := by
          by_contra hlt
          rw [not_le] at hlt
          exact lt_irrefl _ ((ih' _ hlt).mpr (hp _ n hlt.le (Nat.lt_succ_self n) hn))
        have hm' : p m = true := hp m n (Nat.le_of_lt_succ hm) (Nat.lt_succ_self n) hn
        rw [if_pos hn]
        exact iff_of_true (by omega) hm'
      · rw [if_neg hn, Nat.add_zero]
        rcases Nat.lt_succ_iff_lt_or_eq.mp hm with hlt | rfl
        · exact ih' m hlt
        · exact iff_of_false (by omega) hn

theorem daysBeforeMonth_mono (leap : Bool) {i j : ℕ} (hij : i ≤ j) (hj : j < 12) :
    daysBeforeMonth leap (i + 1) ≤ daysBeforeMonth leap (j + 1) := by
  have h : ∀ (leap : Bool) (j : Fin 12), ∀ i ≤ j,
      daysBeforeMonth leap (i + 1) ≤ daysBeforeMonth leap (j + 1) := by decide
  exact h leap ⟨j, hj⟩ ⟨i, by omega⟩ hij

/-- The months up to the one of a day have begun. -/
theorem lt_monthOf_iff (leap : Bool) (n : ℕ) {m : ℕ} (hm : m < 12) :
    m < monthOf leap n ↔ daysBeforeMonth leap (m + 1) ≤ n := by
  rw [monthOf, lt_countP_range_iff _ m hm, decide_eq_true_eq]
  intro i j hij hj hn
  exact decide_eq_true ((daysBeforeMonth_mono leap hij hj).trans (of_decide_eq_true hn))

/-- The month of a day of a year contains it. -/
theorem monthOf_spec (leap : Bool) {n : ℕ} (h : n < 365 + if leap then 1 else 0) :
    1 ≤ monthOf leap n ∧ monthOf leap n ≤ 12 ∧ daysBeforeMonth leap (monthOf leap n) ≤ n ∧
      n < daysBeforeMonth leap (monthOf leap n + 1) := by
  have hone : 0 < monthOf leap n :=
    (lt_monthOf_iff leap n (by simp)).mpr (by cases leap <;> exact Nat.zero_le n)
  have htwelve : monthOf leap n ≤ 12 := List.countP_le_length.trans_eq List.length_range
  refine ⟨hone, htwelve, ?_, ?_⟩
  · obtain ⟨k, hk⟩ := Nat.exists_eq_add_one.mpr hone
    rw [hk]
    exact (lt_monthOf_iff leap n (by omega)).mp (by omega)
  · rcases htwelve.lt_or_eq with hlt | heq
    · exact not_le.mp (mt (lt_monthOf_iff leap n hlt).mpr (lt_irrefl _))
    · rw [heq]
      cases leap <;> exact h

namespace Date

theorem month_ofDays (n : ℕ) :
    1 ≤ (ofDays n).month ∧ (ofDays n).month ≤ 12 ∧
      daysBeforeMonth (isLeap (yearDay n).1) (ofDays n).month ≤ (yearDay n).2 ∧
      (yearDay n).2 < daysBeforeMonth (isLeap (yearDay n).1) ((ofDays n).month + 1) :=
  monthOf_spec (isLeap (yearDay n).1) (yearDay_lt n)

/-- The date of a day has that day. -/
@[simp] theorem toDays_ofDays (n : ℕ) : (ofDays n).toDays = n := by
  obtain ⟨-, -, hle, -⟩ := month_ofDays n
  have hyear := daysBeforeYear_yearDay n
  have hday : (ofDays n).day = (yearDay n).2 - daysBeforeMonth (isLeap (yearDay n).1)
      (ofDays n).month + 1 := rfl
  have hyear' : (ofDays n).year = (yearDay n).1 := rfl
  rw [toDays, hday, hyear']
  omega

/-- The date of a day before year 10000 exists. -/
theorem valid_ofDays {n : ℕ} (h : n < dayLimit) : (ofDays n).Valid := by
  obtain ⟨hone, htwelve, hle, hlt⟩ := month_ofDays n
  obtain ⟨hmin, hmax⟩ := yearDay_year_le h
  have hday : (ofDays n).day = (yearDay n).2 - daysBeforeMonth (isLeap (yearDay n).1)
      (ofDays n).month + 1 := rfl
  have hyear : (ofDays n).year = (yearDay n).1 := rfl
  refine ⟨hmin, hmax, hone, htwelve, ?_, ?_⟩
  · omega
  · rw [hyear, hday]
    omega

theorem Valid.day_lt {d : Date} (h : d.Valid) : d.day < 100 := by
  obtain ⟨-, -, hone, htwelve, -, hle⟩ := h
  have hmonth : ∀ (leap : Bool) (m : Fin 13),
      daysBeforeMonth leap (m + 1) ≤ daysBeforeMonth leap m + 31 := by decide
  have hm := hmonth (isLeap d.year) ⟨d.month, by omega⟩
  dsimp only at hm
  omega

end Date

end DroneComms.Py
