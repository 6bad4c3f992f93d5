import CrudScaffold.Calendar
import CrudScaffold.Proofs.Text.Padded
import Mathlib.Data.String.Basic
import Mathlib.Order.Monotone.Basic

/-!
# The order of days and moments

Days are numbered in the order of year, month and day, because months and years begin after the last day of the ones
before them (`Date.ordinal_lt_iff`).  So the seconds of moments are in the order of what a clock shows
(`Moment.seconds_lt_iff`), and the stamps of moments in years of four digits are in this order too
(`Moment.stamp_lt_iff`).
-/

namespace CrudScaffold

/-- What comes in the same order is equal in the same cases. -/
private theorem eq_iff_of_lt_iff {α β : Type} [LinearOrder α] [LinearOrder β] {a a' : α} {b b' : β}
    (h : a < a' ↔ b < b') (h' : a' < a ↔ b' < b) : a = a' ↔ b = b' := by
  rw [← not_iff_not, ← ne_eq, ← ne_eq, ← lt_or_lt_iff_ne, ← lt_or_lt_iff_ne, h, h']

/-! ### Days -/

namespace Date

variable {d d' : Date} {year year' month month' : Nat}

/-- A day that is in the calendar. -/
def IsDay (d : Date) : Prop :=
  check d.year d.month d.day = .ok d

theorem isDay_iff : d.IsDay ↔ (0 < d.year ∧ d.year ≤ 9999) ∧ (0 < d.month ∧ d.month ≤ 12) ∧
    0 < d.day ∧ d.day ≤ daysInMonth d.year d.month := by
  unfold IsDay check
  split
  · simp only [reduceCtorEq, false_iff]
    omega
  split
  · simp only [reduceCtorEq, false_iff]
    omega
  split
  · simp only [reduceCtorEq, false_iff]
    omega
  · simp only [true_iff]
    omega

/-- The number of days in the first months of a year. -/
def daysOfMonths (year months : Nat) : Nat :=
  (List.range months).foldl (fun days m => days + daysInMonth year (m + 1)) 0

/-- The number of days in the years before this one. -/
def daysBefore (year : Nat) : Nat :=
  (year - 1) * 365 + (year - 1) / 4 - (year - 1) / 100 + (year - 1) / 400

theorem ordinal_eq (d : Date) : d.ordinal = daysBefore d.year + daysOfMonths d.year (d.month - 1) + d.day := rfl

theorem daysOfMonths_succ (year months : Nat) :
    daysOfMonths year (months + 1) = daysOfMonths year months + daysInMonth year (months + 1) := by
  rw [daysOfMonths, List.range_succ, List.foldl_append]
  rfl

theorem daysOfMonths_twelve (year : Nat) : daysOfMonths year 12 = if isLeap year then 366 else 365 := by
  have hfebruary : daysInMonth year 2 = if isLeap year then 29 else 28 := rfl
  have hmonths : daysOfMonths year 12 = 31 + daysInMonth year 2 + 306 := rfl
  rw [hmonths, hfebruary]
  split <;> rfl

/-- A year is as long as its months together: a leap day is counted with every year that has one. -/
theorem daysBefore_succ (h : 0 < year) : daysBefore (year + 1) = daysBefore year + daysOfMonths year 12 := by
  obtain ⟨n, rfl⟩ : ∃ n, year = n + 1 := ⟨year - 1, by omega⟩
  have hfour : (n + 1) % 100 = 0 → (n + 1) % 4 = 0 := by omega
  have hhundred : (n + 1) % 400 = 0 → (n + 1) % 100 = 0 := by omega
  have hless : n / 100 ≤ n / 4 := by omega
  rw [daysOfMonths_twelve, daysBefore, daysBefore, Nat.add_sub_cancel, Nat.add_sub_cancel, Nat.succ_div, Nat.succ_div,
    Nat.succ_div]
  simp only [Nat.dvd_iff_mod_eq_zero, isLeap]
  by_cases h4 : (n + 1) % 4 = 0
  · by_cases h100 : (n + 1) % 100 = 0
    · by_cases h400 : (n + 1) % 400 = 0
      · simp [h4, h100, h400]
        omega
      · simp [h4, h100, h400]
        omega
    · have h400 := mt hhundred h100
      simp [h4, h100, h400]
      omega
  · have h100 := mt hfour h4
    have h400 := mt hhundred h100
    simp [h4, h100, h400]
    omega

/-- A later month begins after the last day of an earlier one. -/
theorem daysOfMonths_le (hpos : 0 < month) (h : month < month') :
    daysOfMonths year (month - 1) + daysInMonth year month ≤ daysOfMonths year (month' - 1) := by
  have hmono : Monotone (daysOfMonths year) := monotone_nat_of_le_succ fun months => by
    rw [daysOfMonths_succ]
    exact Nat.le_add_right _ _
  have hend := daysOfMonths_succ year (month - 1)
  rw [Nat.sub_add_cancel hpos] at hend
  rw [← hend]
  exact hmono (Nat.le_sub_one_of_lt h)

/-- A later year begins after the last day of an earlier one. -/
theorem daysBefore_le (hpos : 0 < year) (h : year < year') :
    daysBefore year + daysOfMonths year 12 ≤ daysBefore year' := by
  rw [← daysBefore_succ hpos]
  induction year', h using Nat.le_induction with
  | base => exact Nat.le_refl _
  | succ year' hle ih =>
    rw [daysBefore_succ (Nat.lt_of_lt_of_le (Nat.succ_pos _) hle)]
    exact Nat.le_add_right_of_le ih

/-- Year, month and day, the one that counts most first. -/
def units (d : Date) : List Nat :=
  [d.year, d.month, d.day]

theorem units_inj : d.units = d'.units ↔ d = d' := by
  obtain ⟨year, month, day⟩ := d
  obtain ⟨year', month', day'⟩ := d'
  simp [units]

private theorem ordinal_lt (h : d.IsDay) (h' : d'.IsDay) (hlt : d.units < d'.units) : d.ordinal < d'.ordinal := by
  obtain ⟨⟨hyear, -⟩, ⟨hmonth, hmonths⟩, -, hday⟩ := isDay_iff.1 h
  obtain ⟨-, -, hday', -⟩ := isDay_iff.1 h'
  rw [ordinal_eq, ordinal_eq]
  simp only [units, List.cons_lt_cons_iff, List.lt_irrefl, and_false, or_false] at hlt
  rcases hlt with hlt | ⟨heq, hlt | ⟨heq', hlt⟩⟩
  · -- the month ends with its year at the latest
    have hbefore : d.month < 13 := Nat.lt_succ_of_le hmonths
    have hend : daysOfMonths d.year (d.month - 1) + daysInMonth d.year d.month ≤ daysOfMonths d.year 12 :=
      daysOfMonths_le hmonth hbefore
    have hstart := daysBefore_le hyear hlt
    omega
  · have hstart : daysOfMonths d.year (d.month - 1) + daysInMonth d.year d.month ≤
        daysOfMonths d.year (d'.month - 1) := daysOfMonths_le hmonth hlt
    rw [← heq]
    omega
  · rw [← heq, ← heq']
    omega

theorem ordinal_lt_iff (h : d.IsDay) (h' : d'.IsDay) : d.ordinal < d'.ordinal ↔ d.units < d'.units := by
  refine ⟨fun hlt => ?_, ordinal_lt h h'⟩
  rcases lt_trichotomy d.units d'.units with hunits | hunits | hunits
  · exact hunits
  · rw [units_inj.1 hunits] at hlt
    exact absurd hlt (Nat.lt_irrefl _)
  · exact absurd hlt (Nat.lt_asymm (ordinal_lt h' h hunits))

theorem ordinal_inj (h : d.IsDay) (h' : d'.IsDay) : d.ordinal = d'.ordinal ↔ d = d' := by
  rw [eq_iff_of_lt_iff (ordinal_lt_iff h h') (ordinal_lt_iff h' h), units_inj]

end Date

/-! ### Moments -/

namespace Moment

variable {m m' : Moment}

/-- A moment of a day in the calendar. -/
structure IsInstant (m : Moment) : Prop where
  day : m.date.IsDay
  time : check m.date m.hour m.minute m.second m.microsecond = .ok m
  fraction : m.microsecond < 1000000

theorem IsInstant.time_lt (h : m.IsInstant) : m.hour < 24 ∧ m.minute < 60 ∧ m.second < 60 := by
  have htime := h.time
  unfold check at htime
  split at htime
  · cases htime
  split at htime
  · cases htime
  split at htime
  · cases htime
  · omega

/-- Whole seconds since the start of the first day of year 1. -/
def seconds (m : Moment) : Nat :=
  m.microseconds / 1000000

theorem IsInstant.seconds_eq (h : m.IsInstant) :
    m.seconds = ((m.date.ordinal * 24 + m.hour) * 60 + m.minute) * 60 + m.second := by
  have := h.fraction
  rw [seconds, microseconds]
  omega

/-- A moment is in an earlier second than another one that is a second or more after it. -/
theorem seconds_lt_of_microseconds (h : m.microseconds + 1000000 ≤ m'.microseconds) : m.seconds < m'.seconds := by
  unfold seconds
  omega

/-- What a clock shows of a moment, up to the second. -/
def units (m : Moment) : List Nat :=
  m.date.units ++ [m.hour, m.minute, m.second]

theorem units_inj : m.units = m'.units ↔
    m.date = m'.date ∧ m.hour = m'.hour ∧ m.minute = m'.minute ∧ m.second = m'.second := by
  rw [← Date.units_inj]
  simp [units, Date.units, and_assoc]

/-- The seconds come in the order of what a clock shows. -/
theorem seconds_lt_iff (h : m.IsInstant) (h' : m'.IsInstant) : m.seconds < m'.seconds ↔ m.units < m'.units := by
  have hlength : m.date.units.length = m'.date.units.length := rfl
  obtain ⟨hhour, hminute, hsecond⟩ := h.time_lt
  obtain ⟨hhour', hminute', hsecond'⟩ := h'.time_lt
  rw [h.seconds_eq, h'.seconds_eq, units, units, Text.append_lt_append_iff hlength,
    ← Date.ordinal_lt_iff h.day h'.day, Date.units_inj, ← Date.ordinal_inj h.day h'.day]
  simp only [List.cons_lt_cons_iff, List.lt_irrefl, and_false, or_false]
  omega

theorem seconds_inj (h : m.IsInstant) (h' : m'.IsInstant) : m.seconds = m'.seconds ↔
    m.date = m'.date ∧ m.hour = m'.hour ∧ m.minute = m'.minute ∧ m.second = m'.second := by
  rw [eq_iff_of_lt_iff (seconds_lt_iff h h') (seconds_lt_iff h' h), units_inj]

/-! ### Stamps -/

open Text (padded)

private theorem toList_stamp (hyear : 1000 ≤ m.date.year) : m.stamp.toList = (padded 4 m.date.year).toList ++
    '_' :: ((padded 2 m.date.month).toList ++ '_' :: ((padded 2 m.date.day).toList ++
      '_' :: ((padded 2 m.hour).toList ++ ((padded 2 m.minute).toList ++ (padded 2 m.second).toList)))) := by
  have hdigits : 4 ≤ (Nat.toDigits 10 m.date.year).length := by
    by_contra hless
    have := (Nat.length_toDigits_le_iff (b := 10) (k := 3) (by decide) (by decide)).1 (Nat.le_of_not_lt hless)
    omega
  have hsame : (padded 1 m.date.year).toList = (padded 4 m.date.year).toList := by
    rw [Text.padded_of_le_length hdigits, Text.padded_of_le_length (Nat.le_trans (by decide) hdigits)]
  simp [stamp, hsame]

private theorem IsInstant.bounds (h : m.IsInstant) : m.date.year < 10 ^ 4 ∧ m.date.month < 10 ^ 2 ∧
    m.date.day < 10 ^ 2 ∧ m.hour < 10 ^ 2 ∧ m.minute < 10 ^ 2 ∧ m.second < 10 ^ 2 := by
  obtain ⟨⟨-, hyear⟩, ⟨-, hmonth⟩, -, hday⟩ := Date.isDay_iff.1 h.day
  obtain ⟨hhour, hminute, hsecond⟩ := h.time_lt
  have hlongest : Date.daysInMonth m.date.year m.date.month ≤ 31 := by
    unfold Date.daysInMonth
    split
    · split <;> decide
    · split <;> decide
  omega

section FourDigits

variable (h : m.IsInstant) (h' : m'.IsInstant) (hyear : 1000 ≤ m.date.year) (hyear' : 1000 ≤ m'.date.year)

include h hyear

theorem length_stamp : m.stamp.toList.length = 17 := by
  obtain ⟨hy, hmonth, hday, hhour, hminute, hsecond⟩ := h.bounds
  have htwo {n : Nat} (hn : n < 10 ^ 2) : (padded 2 n).toList.length = 2 := Text.length_padded (by decide) hn
  simp only [toList_stamp hyear, List.length_append, List.length_cons, Text.length_padded (by decide) hy, htwo hmonth,
    htwo hday, htwo hhour, htwo hminute, htwo hsecond]

include h' hyear'

/-- Stamps come in the order of the seconds that they were made in. -/
theorem stamp_lt_iff : m.stamp < m'.stamp ↔ m.seconds < m'.seconds := by
  obtain ⟨hy, hmonth, hday, hhour, hminute, hsecond⟩ := h.bounds
  obtain ⟨hy', hmonth', hday', hhour', hminute', hsecond'⟩ := h'.bounds
  have hbreak {us vs : List Char} : '_' :: us < '_' :: vs ↔ us < vs := List.cons_lt_cons_self
  have htwo {n n' : Nat} (hn : n < 10 ^ 2) (hn' : n' < 10 ^ 2) {us vs : List Char} :
      (padded 2 n).toList ++ us < (padded 2 n').toList ++ vs ↔ n < n' ∨ n = n' ∧ us < vs :=
    Text.padded_append_lt_iff (by decide) hn hn'
  rw [seconds_lt_iff h h', String.lt_iff, toList_stamp hyear, toList_stamp hyear',
    Text.padded_append_lt_iff (by decide) hy hy', hbreak, htwo hmonth hmonth', hbreak, htwo hday hday', hbreak,
    htwo hhour hhour', htwo hminute hminute', Text.padded_lt_padded_iff (by decide) hsecond hsecond']
  simp [units, Date.units, List.cons_lt_cons_iff]

theorem stamp_inj : m.stamp = m'.stamp ↔ m.seconds = m'.seconds :=
  eq_iff_of_lt_iff (stamp_lt_iff h h' hyear hyear') (stamp_lt_iff h' h hyear' hyear)

end FourDigits

end Moment

end CrudScaffold
