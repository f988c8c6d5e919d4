import Mathlib.Tactic.IntervalCases
import ChatRelay.Time.Instant

/-! Day numbers and dates are inverse, and the date of every day an instant can
fall on exists within the supported years. -/
namespace ChatRelay.Time

theorem daysInMonth_le (y : Int) (m : Nat) : daysInMonth y m ≤ 31 := by
  unfold daysInMonth
  split <;> (try split) <;> omega

namespace Date

/-- The year of the era, counted from March, that day `doe` of the era falls in. -/
def yearOfEra (doe : Nat) : Nat := (doe - doe / 1460 + doe / 36524 - doe / 146096) / 365

/-- The days of the era before year `yoe` of it. -/
def daysBefore (yoe : Nat) : Nat := 365 * yoe + yoe / 4 - yoe / 100

theorem ofDays_spec (z : Int) : ∃ (era : Int) (doe yoe doy mp : Nat),
    z + 719468 = era * 146097 + doe ∧ doe < 146097 ∧ yoe = yearOfEra doe ∧ doy = doe - daysBefore yoe ∧
    mp = (5 * doy + 2) / 153 ∧
    let month := if mp < 10 then mp + 3 else mp - 9
    ofDays z = ⟨if month ≤ 2 then (yoe : Int) + era * 400 + 1 else (yoe : Int) + era * 400, month,
      doy - (153 * mp + 2) / 5 + 1⟩ :=
  ⟨(z + 719468) / 146097, (z + 719468 - (z + 719468) / 146097 * 146097).toNat, _, _, _, by omega, by omega,
    rfl, rfl, rfl, rfl⟩

/-- Within an era: the year is one of 400, the days before it do not pass the
day, the day of the year is at most 365, and it is 365 only in a leap year. -/
theorem yearOfEra_spec {doe yoe : Nat} (h : doe < 146097) (hy : yoe = yearOfEra doe) :
    yoe ≤ 399 ∧ daysBefore yoe ≤ doe ∧ doe - daysBefore yoe ≤ 365 ∧
      (doe - daysBefore yoe = 365 → (yoe + 1) % 4 = 0 ∧ ((yoe + 1) % 100 ≠ 0 ∨ yoe = 399)) := by
  unfold daysBefore
  unfold yearOfEra at hy
  by_cases last : doe = 146096
  · subst last
    omega
  -- split the day into centuries, four-year cycles and the rest
  obtain ⟨C, hC⟩ : ∃ C, C = doe / 36524 := ⟨_, rfl⟩
  obtain ⟨Q, hQ⟩ : ∃ Q, Q = doe % 36524 / 1461 := ⟨_, rfl⟩
  obtain ⟨r, hr⟩ : ∃ r, r = doe % 36524 % 1461 := ⟨_, rfl⟩
  have century : C ≤ 3 := by omega
  have split : doe = 36524 * C + 1461 * Q + r := by omega
  -- a century's last cycle is a day short
  have short : Q ≤ 24 ∧ (Q = 24 → r < 1460) := by omega
  have year : yoe = 100 * C + 4 * Q + min (r / 365) 3 := by
    interval_cases C <;> omega
  have quarter : yoe / 4 = 25 * C + Q := by omega
  have hundred : yoe / 100 = C := by omega
  omega

theorem toDays_ofDays (z : Int) : (ofDays z).toDays = z := by
  obtain ⟨era, doe, yoe, doy, mp, shifted, within, hyoe, hdoy, hmp, date⟩ := ofDays_spec z
  obtain ⟨years, before, ends, -⟩ := yearOfEra_spec within hyoe
  unfold daysBefore at hdoy before ends
  rw [date]
  -- the year counted from March lies in the era, and the month is one of twelve
  have era_year : ((yoe : Int) + era * 400) / 400 = era := by omega
  have month : mp ≤ 11 := by omega
  simp only [toDays]
  -- March to December stay in the year counted from March, January and February
  -- move to the next; either way the year's era is `era` again
  split_ifs <;> simp only [add_sub_cancel_right, era_year] <;> omega

theorem isLeapYear_iff (y : Int) : isLeapYear y = true ↔ y % 4 = 0 ∧ (y % 100 ≠ 0 ∨ y % 400 = 0) := by
  simp [isLeapYear]

/-- The date of every day exists in the calendar. -/
theorem ofDays_month_day (z : Int) :
    1 ≤ (ofDays z).month ∧ (ofDays z).month ≤ 12 ∧ 1 ≤ (ofDays z).day ∧
      (ofDays z).day ≤ daysInMonth (ofDays z).year (ofDays z).month := by
  obtain ⟨era, doe, yoe, doy, mp, shifted, within, hyoe, hdoy, hmp, date⟩ := ofDays_spec z
  obtain ⟨years, before, ends, leap⟩ := yearOfEra_spec within hyoe
  rw [← hdoy] at ends leap
  rw [date]
  by_cases february : mp = 11
  · subst february
    -- February 29 is the year's last day counted from March, and only leap years have it
    have start : 337 ≤ doy := by omega
    norm_num [daysInMonth]
    split_ifs with leapYear
    · omega
    · have short : doy ≠ 365 := fun last => by
        obtain ⟨four, century⟩ := leap last
        exact leapYear ((isLeapYear_iff _).mpr (by omega))
      omega
  · have month : mp ≤ 10 := by omega
    interval_cases mp <;> norm_num [daysInMonth] <;> omega

/-- The day numbers of instants' dates lie within the supported years. -/
theorem ofDays_year (z : Int) (lo : Instant.minSeconds / 86400 ≤ z) (hi : z ≤ Instant.maxSeconds / 86400) :
    minYear ≤ (ofDays z).year ∧ (ofDays z).year ≤ maxYear := by
  obtain ⟨era, doe, yoe, doy, mp, shifted, within, hyoe, hdoy, hmp, date⟩ := ofDays_spec z
  obtain ⟨years, before, ends, -⟩ := yearOfEra_spec within hyoe
  unfold daysBefore at hdoy before ends
  rw [date]
  simp only [Instant.minSeconds, Instant.maxSeconds, minYear, maxYear] at lo hi ⊢
  -- the first and last supported days fall in eras -656 and 655
  constructor
  · rcases lt_trichotomy era (-656) with early | rfl | late <;> split_ifs <;> omega
  · rcases lt_trichotomy era 655 with early | rfl | late <;> split_ifs <;> omega

end Date

namespace Instant

/-- The date of a valid instant passes the date check. -/
theorem date_isValid (t : Instant) (valid : t.isValid = true) : t.date.isValid = true := by
  simp only [isValid, Bool.and_eq_true, decide_eq_true_eq] at valid
  obtain ⟨⟨⟨lo, hi⟩, -⟩, -⟩ := valid
  obtain ⟨first, last⟩ := Date.ofDays_year t.day (Int.ediv_le_ediv (by decide) lo) (Int.ediv_le_ediv (by decide) hi)
  obtain ⟨m1, m12, d1, dmax⟩ := Date.ofDays_month_day t.day
  simp [date, Date.isValid, first, last, m1, m12, d1, dmax]

end Instant

end ChatRelay.Time
