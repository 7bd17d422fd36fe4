import HubConsole.Time.Calendar
import Mathlib.Tactic.ByContra
import Mathlib.Tactic.SplitIfs

namespace HubConsole.Time

/-- The days of an era before one of its years. -/
def yearStart (year : Int) : Int := 365 * year + year / 4 - year / 100

/-- The year of an era that a day falls into. -/
def yearOf (day : Int) : Int := (day - day / 1460 + day / 36524 - day / 146096) / 365

/-- A day of an era lies in the year it falls into, and on its last day only if that ends with a leap day.
The centuries are told apart as only within one of them are all years that 4 divides leap years. -/
theorem yearOf_bounds (day : Int) (h0 : 0 ≤ day) (h1 : day ≤ 146096) :
    0 ≤ yearOf day ∧ yearOf day ≤ 399 ∧ yearStart (yearOf day) ≤ day ∧
      day ≤ yearStart (yearOf day) + 365 ∧
      (day = yearStart (yearOf day) + 365 → (yearOf day + 1) % 4 = 0 ∧
        ((yearOf day + 1) % 100 ≠ 0 ∨ (yearOf day + 1) % 400 = 0)) := by
  obtain ⟨y, hy⟩ : ∃ y, y = yearOf day := ⟨_, rfl⟩
  rw [← hy]
  unfold yearOf at hy
  unfold yearStart
  have hbounds : 0 ≤ y ∧ y ≤ 399 := by omega
  refine ⟨hbounds.1, hbounds.2, ?_⟩
  have hdays : day / 36524 = 0 ∨ day / 36524 = 1 ∨ day / 36524 = 2 ∨ day / 36524 = 3 ∨ day / 36524 = 4 := by
    omega
  have hyears : y / 100 = 0 ∨ y / 100 = 1 ∨ y / 100 = 2 ∨ y / 100 = 3 := by omega
  have hinside : 0 ≤ day - (365 * y + y / 4 - y / 100) ∧ day - (365 * y + y / 4 - y / 100) ≤ 365 := by
    rcases hdays with hday | hday | hday | hday | hday <;>
      rcases hyears with hyear | hyear | hyear | hyear <;> omega
  refine ⟨by omega, by omega, fun hlast => ?_⟩
  have hquarter : y % 4 = 3 := by
    by_contra hne
    have hle : day / 1460 ≤ y / 4 := by omega
    have hera : day / 146096 = 0 := by omega
    omega
  refine ⟨by omega, ?_⟩
  by_contra hcommon
  have hcentury : y = 99 ∨ y = 199 ∨ y = 299 := by omega
  rcases hcentury with hcentury | hcentury | hcentury <;> omega

/-- The month, counted from March, that a day of a year falls into. -/
def monthOf (day : Int) : Int := (5 * day + 2) / 153

/-- The days of a year before one of its months. -/
def monthStart (month : Int) : Int := (153 * month + 2) / 5

theorem monthOf_bounds (day : Int) (h0 : 0 ≤ day) (h1 : day ≤ 365) :
    0 ≤ monthOf day ∧ monthOf day ≤ 11 ∧ monthStart (monthOf day) ≤ day ∧
      day < monthStart (monthOf day + 1) := by
  unfold monthOf monthStart
  omega

/-- A date of an era, a year of it and a day of that year. -/
def Date.ofParts (era year day : Int) : Date :=
  { year := year + era * 400 + (if monthOf day ≥ 10 then 1 else 0)
    month := (if monthOf day ≥ 10 then monthOf day - 9 else monthOf day + 3).toNat
    day := (day - monthStart (monthOf day) + 1).toNat }

/-- Every day number falls into an era, a year and a day. -/
theorem exists_parts (n : Int) :
    ∃ era year day, 0 ≤ year ∧ year ≤ 399 ∧ 0 ≤ day ∧ day ≤ 365 ∧
      (day = 365 → (year + 1) % 4 = 0 ∧ ((year + 1) % 100 ≠ 0 ∨ (year + 1) % 400 = 0)) ∧
      n = era * 146097 + (yearStart year + day) - 719468 ∧
      Date.ofDayNumber n = Date.ofParts era year day := by
  let era := (n + 719468) / 146097
  let rest := n + 719468 - era * 146097
  obtain ⟨hlow, hhigh, hstart, hend, hleap⟩ := yearOf_bounds rest (by omega) (by omega)
  refine ⟨era, yearOf rest, rest - yearStart (yearOf rest), hlow, hhigh, by omega, by omega, ?_, by omega,
    rfl⟩
  exact fun h => hleap (by omega)

theorem dayNumber_ofDayNumber (n : Int) : (Date.ofDayNumber n).dayNumber = n := by
  obtain ⟨era, year, day, hy0, hy1, hd0, hd1, -, hn, hdate⟩ := exists_parts n
  obtain ⟨hm0, hm1, hstart, -⟩ := monthOf_bounds day hd0 hd1
  rw [hdate]
  unfold Date.ofParts Date.dayNumber
  generalize monthOf day = month at *
  unfold monthStart at *
  unfold yearStart at hn
  dsimp only
  split_ifs <;> omega

theorem isLeapYear_next (era year : Int) (hfour : (year + 1) % 4 = 0)
    (hcentury : (year + 1) % 100 ≠ 0 ∨ (year + 1) % 400 = 0) :
    isLeapYear (year + era * 400 + 1) = true := by
  simp only [isLeapYear, Bool.and_eq_true, Bool.or_eq_true, decide_eq_true_eq]
  omega

/-- The days of a month, counted from March, in a year that starts in March. -/
theorem day_le_daysInMonth (era year day : Int) (h0 : 0 ≤ day) (h1 : day ≤ 365)
    (hleap : day = 365 → (year + 1) % 4 = 0 ∧ ((year + 1) % 100 ≠ 0 ∨ (year + 1) % 400 = 0)) :
    (Date.ofParts era year day).day ≤
      daysInMonth (Date.ofParts era year day).year (Date.ofParts era year day).month := by
  obtain ⟨hm0, hm1, hstart, hend⟩ := monthOf_bounds day h0 h1
  unfold Date.ofParts
  generalize monthOf day = month at *
  unfold monthStart at *
  by_cases hlast : day = 365
  · obtain ⟨hfour, hcentury⟩ := hleap hlast
    have hmonth : month = 11 := by omega
    subst hmonth hlast
    simp [daysInMonth, isLeapYear_next era year hfour hcentury]
  · have hmonths : month = 0 ∨ month = 1 ∨ month = 2 ∨ month = 3 ∨ month = 4 ∨ month = 5 ∨ month = 6 ∨
        month = 7 ∨ month = 8 ∨ month = 9 ∨ month = 10 ∨ month = 11 := by omega
    rcases hmonths with h | h | h | h | h | h | h | h | h | h | h | h <;> subst h <;>
      simp only [daysInMonth] <;> split_ifs <;> omega

/-- Which years, from March on, the days of the calendar fall into. -/
theorem years_of_bounds (n era year day : Int) (hy0 : 0 ≤ year) (hy1 : year ≤ 399) (hd0 : 0 ≤ day)
    (hd1 : day ≤ 365) (hn : n = era * 146097 + (yearStart year + day) - 719468)
    (hfirst : (Date.mk firstYear 1 1).dayNumber ≤ n) (hlast : n ≤ (Date.mk lastYear 12 31).dayNumber) :
    firstYear - 1 ≤ year + era * 400 ∧ (year + era * 400 = firstYear - 1 → 306 ≤ day) ∧
      year + era * 400 ≤ lastYear ∧ (year + era * 400 = lastYear → day ≤ 305) := by
  have hlow : (Date.mk firstYear 1 1).dayNumber = -96465292 := by decide
  have hhigh : (Date.mk lastYear 12 31).dayNumber = 95026236 := by decide
  rw [hlow] at hfirst
  rw [hhigh] at hlast
  unfold yearStart at hn
  unfold firstYear lastYear
  have heras : era = -656 ∨ (-655 ≤ era ∧ era ≤ 654) ∨ era = 655 := by omega
  rcases heras with hera | hera | hera <;> omega

/-- The date of a day number is a day of the calendar, as far as the years reach. -/
theorem isValid_ofDayNumber (n : Int) (hfirst : (Date.mk firstYear 1 1).dayNumber ≤ n)
    (hlast : n ≤ (Date.mk lastYear 12 31).dayNumber) : (Date.ofDayNumber n).isValid = true := by
  obtain ⟨era, year, day, hy0, hy1, hd0, hd1, hleap, hn, hdate⟩ := exists_parts n
  obtain ⟨hm0, hm1, hstart, hend⟩ := monthOf_bounds day hd0 hd1
  have hday := day_le_daysInMonth era year day hd0 hd1 hleap
  have hyears := years_of_bounds n era year day hy0 hy1 hd0 hd1 hn hfirst hlast
  have hjanuary : monthOf day ≥ 10 ↔ 306 ≤ day := by
    unfold monthOf
    omega
  rw [hdate]
  simp only [Date.isValid, Bool.and_eq_true, decide_eq_true_eq]
  refine ⟨⟨⟨⟨⟨?_, ?_⟩, ?_⟩, ?_⟩, ?_⟩, hday⟩ <;> dsimp only [Date.ofParts]
  · split_ifs <;> omega
  · split_ifs <;> omega
  · split_ifs <;> omega
  · split_ifs <;> omega
  · omega

end HubConsole.Time
