import LayeredConfig.Time.Calendar
import Mathlib.Data.Int.Basic

namespace LayeredConfig.Time

def daysBefore (year : Int) : Int := 365 * year + year / 4 - year / 100

def yearOf (day : Int) : Int := (day - day / 1460 + day / 36524 - day / 146096) / 365

theorem yearOf_bounds {day : Int} (h0 : 0 ≤ day) (h1 : day < 146097) :
    0 ≤ yearOf day ∧ yearOf day ≤ 399 := by
  unfold yearOf
  omega

theorem yearOf_century {day : Int} (h0 : 0 ≤ day) (h1 : day < 146096) :
    yearOf day / 100 = day / 36524 ∧
      day / 1460 - 1 ≤ yearOf day / 4 ∧ yearOf day / 4 ≤ day / 1460 := by
  -- But for the last day of a cycle, centuries are equally long and have a leap day in each four
  -- years.
  have hlast : day / 146096 = 0 := by omega
  have hyear : yearOf day = (day - day / 1460 + day / 36524) / 365 := by
    rw [yearOf, hlast, Int.sub_zero]
  generalize yearOf day = year at hyear ⊢
  have hcentury : day / 36524 = 0 ∨ day / 36524 = 1 ∨ day / 36524 = 2 ∨ day / 36524 = 3 := by omega
  have hfirst : 25 * (day / 36524) ≤ day / 1460 := by omega
  have hfinal : day / 1460 ≤ 25 * (day / 36524) + 25 := by omega
  have hge : 100 * (day / 36524) ≤ year := by omega
  have hlt : year < 100 * (day / 36524) + 100 := by omega
  exact ⟨by omega, by omega, by omega⟩

theorem dayOfYear_bounds {day : Int} (h0 : 0 ≤ day) (h1 : day < 146097) :
    0 ≤ day - daysBefore (yearOf day) ∧ day - daysBefore (yearOf day) ≤ 365 ∧
      (day - daysBefore (yearOf day) = 365 → isLeapYear (yearOf day + 1) = true) := by
  -- A year has at most 366 days, and the last of them only where February has a leap day.
  by_cases hlast : day = 146096
  · subst hlast
    decide
  obtain ⟨hcentury, hlow, hhigh⟩ := yearOf_century h0 (by omega)
  have hyear : 365 * yearOf day ≤ day - day / 1460 + day / 36524 ∧
      day - day / 1460 + day / 36524 ≤ 365 * yearOf day + 364 := by
    have : day / 146096 = 0 := by omega
    unfold yearOf
    omega
  simp only [isLeapYear, daysBefore]
  generalize yearOf day = year at *
  refine ⟨by omega, by omega, fun h => ?_⟩
  have hquarter : year / 4 = day / 1460 - 1 := by omega
  have hfew : day / 1460 ≤ 100 := by omega
  have hlastYear : 4 * (day / 1460) - 1 ≤ year := by omega
  have hfour : (year + 1) % 4 = 0 := by omega
  simp only [Bool.and_eq_true, Bool.or_eq_true, beq_iff_eq, bne_iff_ne]
  refine ⟨hfour, ?_⟩
  omega

def monthOf (day : Int) : Int := (5 * day + 2) / 153

def daysBeforeMonth (month : Int) : Int := (153 * month + 2) / 5

theorem monthOf_bounds {day : Int} (h0 : 0 ≤ day) (h1 : day ≤ 365) :
    0 ≤ monthOf day ∧ monthOf day ≤ 11 := by
  unfold monthOf
  omega

theorem dayOfMonth_bounds (day : Int) :
    0 ≤ day - daysBeforeMonth (monthOf day) ∧ day - daysBeforeMonth (monthOf day) ≤ 30 ∧
    (monthOf day = 11 → daysBeforeMonth (monthOf day) = 337) ∧
    (monthOf day = 1 ∨ monthOf day = 3 ∨ monthOf day = 6 ∨ monthOf day = 8 →
      day - daysBeforeMonth (monthOf day) ≤ 29) := by
  unfold daysBeforeMonth monthOf
  omega

theorem isLeapYear_add_cycles (year cycles : Int) :
    isLeapYear (year + cycles * 400) = isLeapYear year := by
  have h4 : (year + cycles * 400) % 4 = year % 4 := by omega
  have h100 : (year + cycles * 400) % 100 = year % 100 := by omega
  have h400 : (year + cycles * 400) % 400 = year % 400 := by omega
  rw [isLeapYear, h4, h100, h400, isLeapYear]

structure Parts where
  cycle : Int
  year : Int
  day : Int

namespace Parts

def Proper (p : Parts) : Prop :=
  (0 ≤ p.year ∧ p.year ≤ 399) ∧ (0 ≤ p.day ∧ p.day ≤ 365) ∧
    (p.day = 365 → isLeapYear (p.year + 1) = true)

def ofDays (days : Int) : Parts :=
  let day := days + 719468 - (days + 719468) / 146097 * 146097
  ⟨(days + 719468) / 146097, yearOf day, day - daysBefore (yearOf day)⟩

def toDays (p : Parts) : Int := p.cycle * 146097 + (daysBefore p.year + p.day) - 719468

def month (p : Parts) : Int := if monthOf p.day < 10 then monthOf p.day + 3 else monthOf p.day - 9

def date (p : Parts) : Date :=
  ⟨p.year + p.cycle * 400 + if p.month ≤ 2 then 1 else 0, p.month.toNat,
    (p.day - daysBeforeMonth (monthOf p.day) + 1).toNat⟩

theorem date_ofDays (days : Int) : Date.ofDays days = (ofDays days).date := by
  simp (disch := decide) only [Date.ofDays, Int.fdiv_eq_ediv_of_nonneg]
  rfl

theorem toDays_ofDays (days : Int) : (ofDays days).toDays = days := by
  simp only [toDays, ofDays]
  omega

theorem proper_ofDays (days : Int) : (ofDays days).Proper := by
  obtain ⟨h0, h1⟩ : 0 ≤ days + 719468 - (days + 719468) / 146097 * 146097 ∧
      days + 719468 - (days + 719468) / 146097 * 146097 < 146097 := by omega
  obtain ⟨hlow, hhigh, hleap⟩ := dayOfYear_bounds h0 h1
  exact ⟨yearOf_bounds h0 h1, ⟨hlow, hhigh⟩, hleap⟩

variable {p : Parts}

theorem month_cases (p : Parts) :
    (monthOf p.day < 10 ∧ p.month = monthOf p.day + 3) ∨
      (10 ≤ monthOf p.day ∧ p.month = monthOf p.day - 9) := by
  unfold month
  split <;> omega

theorem Proper.month_bounds (h : p.Proper) : 1 ≤ p.month ∧ p.month ≤ 12 := by
  have hmonth := monthOf_bounds h.2.1.1 h.2.1.2
  have hcases := p.month_cases
  omega

theorem Proper.day_le (h : p.Proper) :
    (p.day - daysBeforeMonth (monthOf p.day) + 1).toNat ≤
      daysInMonth p.date.year p.month.toNat := by
  have hcases := p.month_cases
  have hmonth := monthOf_bounds h.2.1.1 h.2.1.2
  obtain ⟨-, hlong, hfebruary, hshort⟩ := dayOfMonth_bounds p.day
  unfold daysInMonth
  split
  · have hyear : p.date.year = p.year + 1 + p.cycle * 400 := by
      have : p.month ≤ 2 := by omega
      simp only [date, if_pos this]
      omega
    have hbefore := hfebruary (by omega)
    have hlast := h.2.1.2
    rw [hyear, isLeapYear_add_cycles]
    split
    · omega
    · next hcommon =>
      have : p.day ≠ 365 := fun heq => hcommon (h.2.2 heq)
      omega
  · split
    · have := hshort (by omega)
      omega
    · omega

theorem Proper.isValid_date (h : p.Proper) : p.date.isValid = true := by
  have hmonth := h.month_bounds
  have hday := (dayOfMonth_bounds p.day).1
  simp only [Date.isValid, Bool.and_eq_true, decide_eq_true_eq]
  refine ⟨⟨⟨?_, ?_⟩, ?_⟩, h.day_le⟩
  all_goals
    simp only [date]
    omega

theorem Proper.toDays_date (h : p.Proper) : p.date.toDays = p.toDays := by
  have hmonth := h.month_bounds
  have hcases := p.month_cases
  have hbounds := monthOf_bounds h.2.1.1 h.2.1.2
  have hmonthOf : (if p.month.toNat ≤ 2 then (p.month.toNat : Int) + 9
      else (p.month.toNat : Int) - 3) = monthOf p.day := by
    split <;> omega
  have hyear : (if p.month.toNat ≤ 2 then p.date.year - 1 else p.date.year) =
      p.year + p.cycle * 400 := by
    have hnat : p.month.toNat ≤ 2 ↔ p.month ≤ 2 := by omega
    simp only [date, hnat]
    split <;> omega
  have hday : (p.date.day : Int) = p.day - daysBeforeMonth (monthOf p.day) + 1 :=
    Int.toNat_of_nonneg (by have := (dayOfMonth_bounds p.day).1; omega)
  have hdate : p.date.month = p.month.toNat := rfl
  simp (disch := decide) only [Date.toDays, hdate, hyear, hmonthOf, hday,
    Int.fdiv_eq_ediv_of_nonneg]
  have hcycle : (p.year + p.cycle * 400) / 400 = p.cycle := by
    have := h.1
    omega
  have hback : p.year + p.cycle * 400 - p.cycle * 400 = p.year := Int.add_sub_cancel ..
  rw [hcycle, hback, toDays, daysBefore, daysBeforeMonth]
  omega

end Parts

theorem Date.isValid_ofDays (days : Int) : (ofDays days).isValid = true := by
  rw [Parts.date_ofDays]
  exact (Parts.proper_ofDays days).isValid_date

theorem Date.toDays_ofDays (days : Int) : (ofDays days).toDays = days := by
  rw [Parts.date_ofDays, (Parts.proper_ofDays days).toDays_date, Parts.toDays_ofDays]

end LayeredConfig.Time
