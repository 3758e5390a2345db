import BuildFarm.Time.Calendar
import Mathlib.Tactic.IntervalCases

namespace BuildFarm

namespace Date

/-- How many days of four hundred years are over when the year starts. -/
def yearStart (y : Int) : Int :=
  365 * y + y / 4 - y / 100

/-- A day of four hundred years without the leap days before it. -/
def withoutLeaps (day : Int) : Int :=
  day - day / 1460 + day / 36524 - day / 146096

theorem withoutLeaps_mono {a b : Int} (h : a ≤ b) : withoutLeaps a ≤ withoutLeaps b := by
  unfold withoutLeaps
  omega

/-- On its first day a year is 365 days for each year before it away, and never earlier. -/
theorem withoutLeaps_yearStart {y : Int} (h : 1 ≤ y) (hy : y ≤ 399) :
    365 * y ≤ withoutLeaps (yearStart y) ∧ withoutLeaps (yearStart y - 1) < 365 * y := by
  have hall : ∀ n : Fin 399, 365 * ((n : Int) + 1) ≤ withoutLeaps (yearStart (n + 1)) ∧
      withoutLeaps (yearStart (n + 1) - 1) < 365 * ((n : Int) + 1) := by
    decide +kernel
  have hn := hall ⟨(y - 1).toNat,by omega⟩
  have hy : ((y - 1).toNat : Int) + 1 = y := by omega
  simpa only [hy] using hn

/-- A day lies in the year that is worked out for it. -/
theorem year_bounds {day : Int} (h : 0 ≤ day) (hd : day < 146097) {y : Int}
    (hy : y = withoutLeaps day / 365) :
    0 ≤ y ∧ y ≤ 399 ∧ yearStart y ≤ day ∧ (day < yearStart (y + 1) ∨ y = 399) := by
  have hrange : 0 ≤ y ∧ y ≤ 399 := by
    unfold withoutLeaps at hy
    omega
  obtain ⟨hlow,hhigh⟩ := hrange
  refine ⟨hlow,hhigh,?_,?_⟩
  · by_contra hlt
    by_cases h1 : 1 ≤ y
    · have hs := (withoutLeaps_yearStart h1 hhigh).2
      have hm := withoutLeaps_mono (show day ≤ yearStart y - 1 by omega)
      omega
    · obtain rfl : y = 0 := by omega
      exact hlt h
  · by_contra hge
    have hs := (withoutLeaps_yearStart (show 1 ≤ y + 1 by omega) (by omega)).1
    have hm := withoutLeaps_mono (show yearStart (y + 1) ≤ day by omega)
    omega

/-- A day of the year from March on, as a month and a day of it. -/
theorem month_bounds {day : Int} (h : 0 ≤ day) (hd : day ≤ 365) {month : Int}
    (hm : month = (5 * day + 2) / 153) :
    0 ≤ month ∧ month ≤ 11 ∧ 0 ≤ day - (153 * month + 2) / 5 ∧
    day - (153 * month + 2) / 5 < (if month = 11 then 29 else
      if month = 1 ∨ month = 3 ∨ month = 6 ∨ month = 8 then 30 else 31) ∧
    (month = 11 → day - (153 * month + 2) / 5 = 28 → day = 365) ∧
    (10 ≤ month ↔ 306 ≤ day) := by
  have hr : 0 ≤ month ∧ month ≤ 11 := by omega
  obtain ⟨h0,h11⟩ := hr
  interval_cases month <;> simp <;> omega

/-- The parts that a date is made of: four hundred years, a year of them and a day of that year,
counted from March, and the month and the day of the month. -/
structure Parts (n : Int) (d : Date) (era year day month : Int) : Prop where
  days : n + 719468 = era * 146097 + yearStart year + day
  year_low : 0 ≤ year
  year_high : year ≤ 399
  day_low : 0 ≤ day
  day_high : day ≤ 365
  leap : day = 365 → isLeapYear (year + era * 400 + 1) = true
  month_eq : month = (5 * day + 2) / 153
  date : d = ⟨if month < 10 then year + era * 400 else year + era * 400 + 1,
    (if month < 10 then month + 3 else month - 9).toNat,
    (day - (153 * month + 2) / 5 + 1).toNat⟩

/-- A year has 366 days at most, and only a leap year has so many. -/
theorem dayOfYear_bounds {day y : Int} (hd : day < 146097)
    (hend : day < yearStart (y + 1) ∨ y = 399) (era : Int) :
    day - yearStart y ≤ 365 ∧
      (day - yearStart y = 365 → isLeapYear (y + era * 400 + 1) = true) := by
  unfold yearStart at *
  refine ⟨by omega,?_⟩
  intro hlast
  simp only [isLeapYear,Bool.and_eq_true,Bool.or_eq_true,decide_eq_true_eq]
  omega

theorem ofDays_parts (n : Int) : ∃ era year day month, Parts n (ofDays n) era year day month := by
  have hday : 0 ≤ (n + 719468) % 146097 ∧ (n + 719468) % 146097 < 146097 := by omega
  obtain ⟨hlow,hhigh,hstart,hend⟩ := year_bounds hday.1 hday.2 rfl
  obtain ⟨hlong,hleap⟩ := dayOfYear_bounds hday.2 hend ((n + 719468) / 146097)
  refine ⟨(n + 719468) / 146097,withoutLeaps ((n + 719468) % 146097) / 365,
    (n + 719468) % 146097 - yearStart (withoutLeaps ((n + 719468) % 146097) / 365),_,
    by omega,hlow,hhigh,by omega,hlong,hleap,rfl,?_⟩
  obtain ⟨h0,h11,_⟩ := month_bounds (Int.sub_nonneg.mpr hstart) hlong rfl
  unfold withoutLeaps yearStart at *
  simp only [ofDays,Date.mk.injEq,and_true]
  generalize (5 * ((n + 719468) % 146097 - _) + 2) / 153 = month at *
  split <;> omega

namespace Parts

variable {n era year day month : Int} {d : Date}

theorem toDays (h : Parts n d era year day month) : d.toDays = n := by
  obtain ⟨h0,h11,hfirst,_⟩ := month_bounds h.day_low h.day_high h.month_eq
  have hdays := h.days
  have hl := h.year_low
  have hh := h.year_high
  rw [h.date]
  unfold yearStart at hdays
  unfold Date.toDays
  dsimp only
  split <;> omega

theorem isValid (h : Parts n d era year day month) (hlow : -96465292 ≤ n) (hhigh : n ≤ 95026236) :
    d.isValid = true := by
  obtain ⟨h0,h11,hfirst,hlast,hend,hjan⟩ := month_bounds h.day_low h.day_high h.month_eq
  have hdays := h.days
  have hl := h.year_low
  have hh := h.year_high
  have hleap := fun hm hd => h.leap (hend hm hd)
  unfold yearStart at hdays
  have hyear : leastYear ≤ (if month < 10 then year + era * 400 else year + era * 400 + 1) ∧
      (if month < 10 then year + era * 400 else year + era * 400 + 1) ≤ greatestYear := by
    unfold leastYear greatestYear
    split <;> omega
  rw [h.date]
  simp only [Date.isValid,Bool.and_eq_true,decide_eq_true_eq]
  refine ⟨⟨⟨⟨hyear,?_⟩,?_⟩,?_⟩,?_⟩
  · split <;> omega
  · split <;> omega
  · omega
  · generalize day - (153 * month + 2) / 5 = dayOfMonth at *
    by_cases hf : month = 11
    · subst hf
      by_cases hd : dayOfMonth = 28
      · simp [monthLength,hleap rfl hd,hd]
      · have hshort : dayOfMonth < 28 := by simp at hlast; omega
        simp [monthLength]
        split <;> omega
    · clear hyear hleap hend hjan hdays
      interval_cases month <;> simp [monthLength] at hlast hf ⊢ <;> omega

end Parts

/-- The date of a day gives the day back. -/
theorem toDays_ofDays (n : Int) : (ofDays n).toDays = n := by
  obtain ⟨era,year,day,month,h⟩ := ofDays_parts n
  exact h.toDays

end Date

end BuildFarm
