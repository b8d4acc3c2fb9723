import CodeMetrics.Proofs.Figures
import CodeMetrics.Report.Date

/-!
# Dates that can be written

Dates have years of four digits, and times are not bounded by that. From 1970 on the last day with a
date is the one before the year 10000; what has a date fits the machine integers on the way to it.

Results:
1. `Date.year_ofDays`: the year of a day, by its place in an era.
2. `Date.hasYear_ofDays_iff`: the days from 1970 on that have a date.
3. `Report.exists_dateText_iff`: the times from 1970 on that have a date.
-/

namespace CodeMetrics

namespace Date

/-! ## Days -/

/-- The year of an era that a day is in; it begins in March. -/
def yearOfEra (day : Nat) : Nat := (day - day / 1460 + day / 36524 - day / 146096) / 365

/-- The place of a day in that year. -/
def dayOfYear (day : Nat) : Nat :=
  day - (365 * yearOfEra day + yearOfEra day / 4 - yearOfEra day / 100)

/-- The month of a day of the year; January and February belong to the next year. -/
def monthOf (dayOfYear : Nat) : Nat :=
  if (5 * dayOfYear + 2) / 153 < 10 then (5 * dayOfYear + 2) / 153 + 3
  else (5 * dayOfYear + 2) / 153 - 9

theorem year_ofDays {days : Int} {era day : Nat} (inside : day < 146097)
    (place : days + epochDay = 146097 * era + day) :
    (ofDays days).year =
      400 * era + yearOfEra day + if monthOf (dayOfYear day) ≤ 2 then 1 else 0 := by
  have eraOf : (days + epochDay).fdiv 146097 = era := by
    rw [place, Int.fdiv_eq_ediv_of_nonneg _ (by decide)]
    omega
  have dayOf : ((days + epochDay).fmod 146097).toNat = day := by
    rw [place, Int.fmod_eq_emod_of_nonneg _ (by decide)]
    omega
  rw [ofDays, eraOf, dayOf]
  show (if monthOf (dayOfYear day) ≤ 2 then (yearOfEra day + era * 400 + 1 : Int)
    else yearOfEra day + era * 400) = _
  split_ifs <;> omega

theorem yearOfEra_lt {day : Nat} (inside : day < 146097) : yearOfEra day < 400 := by
  rw [yearOfEra]
  omega

theorem yearOfEra_eq_last_iff {day : Nat} (inside : day < 146097) :
    yearOfEra day = 399 ↔ 145731 ≤ day := by
  rw [yearOfEra]
  omega

/-- The last year of an era begins in it and ends with February of the next one. -/
theorem month_of_last {day : Nat} (inside : day < 146097) (last : yearOfEra day = 399) :
    monthOf (dayOfYear day) ≤ 2 ↔ 146037 ≤ day := by
  have behind := (yearOfEra_eq_last_iff inside).1 last
  rw [dayOfYear, last, monthOf]
  split_ifs <;> omega

/-- The last day that has a date. -/
def lastDay : Int := 2932896

/-- From 1970 on, a day has a date if and only if it is not behind the last one. -/
theorem hasYear_ofDays_iff {days : Int} (nonneg : 0 ≤ days) :
    (ofDays days).hasYear = true ↔ days ≤ lastDay := by
  obtain ⟨era, day, inside, place⟩ : ∃ era day : Nat,
      day < 146097 ∧ days + epochDay = 146097 * era + day := by
    rw [epochDay]
    exact ⟨((days + 719468) / 146097).toNat, ((days + 719468) % 146097).toNat, by omega, by omega⟩
  have year := year_ofDays inside place
  have yearInside := yearOfEra_lt inside
  have lastYear := yearOfEra_eq_last_iff inside
  rw [hasYear, Bool.and_eq_true, decide_eq_true_eq, decide_eq_true_eq, year]
  rw [epochDay] at place
  rw [lastDay]
  -- Only the last year of its era tells the last day from the next one.
  by_cases last : yearOfEra day = 399
  · have month := month_of_last inside last
    have behind := lastYear.1 last
    split_ifs with next
    · have late := month.1 next
      omega
    · have early := mt month.2 next
      omega
  · split_ifs <;> omega

example : ofDays lastDay = ⟨9999, 12, 31⟩ := by decide

/-! ## The texts of dates -/

theorem isBare_of_mem_padded {width n : Nat} {c : Char} (member : c ∈ padded width n) :
    IsBare c := by
  rcases List.mem_append.1 member with zero | digit
  · exact Number.isBare_of_mem_zeros zero
  · exact Number.isBare_of_mem_digitsOf digit

theorem bareText_text (yearWidth : Nat) (date : Date) : BareText (date.text yearWidth) := by
  intro c member
  rw [text, String.toList_ofList] at member
  simp only [List.mem_append, List.mem_cons] at member
  rcases member with (digit | rfl | digit) | rfl | digit
  · exact isBare_of_mem_padded digit
  · decide
  · exact isBare_of_mem_padded digit
  · decide
  · exact isBare_of_mem_padded digit

end Date

/-! ## Times -/

namespace Report

/-- The first second of the year 10000. -/
def yearTenThousand : Int := 253402300800

theorem hasYear_of_time_iff {time : Int} (nonneg : 0 ≤ time) :
    (Date.ofDays (time.fdiv 86400)).hasYear = true ↔ time < yearTenThousand := by
  have days : time.fdiv 86400 = time / 86400 := Int.fdiv_eq_ediv_of_nonneg time (by decide)
  rw [days, Date.hasYear_ofDays_iff (by omega), Date.lastDay, yearTenThousand]
  omega

theorem fitsBits_iff {bits : Nat} {n : Int} :
    fitsBits bits n = true ↔ -(2 ^ (bits - 1) : Int) ≤ n ∧ n < 2 ^ (bits - 1) := by
  rw [fitsBits]
  simp

/-- A time that has a date is shown by it. -/
theorem dateText_eq {time : Int} (nonneg : 0 ≤ time) (dated : time < yearTenThousand) :
    dateText time = .ok ((Date.ofDays (time.fdiv 86400)).text 1) := by
  have hasYear := (hasYear_of_time_iff nonneg).2 dated
  have year := Bool.and_eq_true_iff.1 hasYear
  have seconds : fitsBits 64 time = true := fitsBits_iff.2 (by
    rw [yearTenThousand] at dated
    omega)
  have years : fitsBits 32 ((Date.ofDays (time.fdiv 86400)).year - 1900) = true :=
    fitsBits_iff.2 (by
      have first := of_decide_eq_true year.1
      have last := of_decide_eq_true year.2
      omega)
  rw [dateText, seconds]
  dsimp only
  rw [years, hasYear]
  rfl

theorem date_of_dateText {time : Int} {text : String} (written : dateText time = .ok text) :
    (Date.ofDays (time.fdiv 86400)).hasYear = true ∧
      text = (Date.ofDays (time.fdiv 86400)).text 1 := by
  rw [dateText] at written
  dsimp only at written
  split at written
  · cases written
  · split at written
    · cases written
    · split at written
      · next hasYear =>
        cases written
        exact ⟨hasYear, rfl⟩
      · cases written

/-- From 1970 on, a time has a date if and only if it is before the year 10000. -/
theorem exists_dateText_iff {time : Int} (nonneg : 0 ≤ time) :
    (∃ text, dateText time = .ok text) ↔ time < yearTenThousand :=
  ⟨fun ⟨_, written⟩ => (hasYear_of_time_iff nonneg).1 (date_of_dateText written).1,
    fun dated => ⟨_, dateText_eq nonneg dated⟩⟩

theorem bareText_of_dateText {time : Int} {text : String} (written : dateText time = .ok text) :
    BareText text :=
  (date_of_dateText written).2 ▸ Date.bareText_text 1 _

end Report

end CodeMetrics
