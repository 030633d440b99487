import ClusterOperator.Instant.Basic

/-!
# The calendar

The date that lies a number of days after the start of 1970 exists, and it lies that number of days
after the start of 1970. Years are counted from March and taken apart into eras of 400 years,
centuries, cycles of four years and single years. The last of these in each larger one may be a day
longer or shorter than the others.
-/

namespace ClusterOperator.CivilDate

/-- The date of a day of a year that starts in March. -/
def ofMarchYear (year : Int) (dayOfYear : Nat) : CivilDate :=
  let monthFromMarch := (5 * dayOfYear + 2) / 153
  let day := dayOfYear - (153 * monthFromMarch + 2) / 5 + 1
  let month := if monthFromMarch < 10 then monthFromMarch + 3 else monthFromMarch - 9
  ⟨if month ≤ 2 then year + 1 else year, month, day⟩

/-- A day of an era is the day `left` of a year, in a cycle, in a century of it. -/
structure InEra (century cycle year left : Nat) : Prop where
  century_le : century ≤ 3
  cycle_le : cycle ≤ 24
  year_le : year ≤ 3
  left_le : left ≤ 365
  /-- A leap day ends the last year of a cycle; only the last century has one in the last cycle. -/
  leapDay : left = 365 → year = 3 ∧ (cycle = 24 → century = 3)

theorem exists_inEra {day : Nat} (within : day < 146097) :
    ∃ century cycle year left, InEra century cycle year left ∧
      day = 36524 * century + 1461 * cycle + 365 * year + left := by
  let century := min 3 (day / 36524)
  let ofCentury := day - 36524 * century
  let cycle := ofCentury / 1461
  let ofCycle := ofCentury - 1461 * cycle
  let year := min 3 (ofCycle / 365)
  refine ⟨century, cycle, year, ofCycle - 365 * year, ?_, ?_⟩
  · constructor <;> omega
  · omega

variable {century cycle year left : Nat}

namespace InEra

theorem ofCentury_le (inEra : InEra century cycle year left) :
    1461 * cycle + 365 * year + left ≤ 36524 ∧
      (1461 * cycle + 365 * year + left = 36524 → century = 3) := by
  rcases inEra with ⟨_, _, _, _, _⟩
  omega

/-- The days at the ends of the centuries, without the one at the end of the era. -/
theorem centuries (inEra : InEra century cycle year left) {day : Nat}
    (isDay : day = 36524 * century + 1461 * cycle + 365 * year + left) :
    day / 36524 = century + day / 146096 := by
  have ofCentury := inEra.ofCentury_le
  have last := inEra.century_le
  omega

/-- The days at the ends of the cycles of four years. -/
theorem cycles {day : Nat}
    (isDay : day = 36524 * century + 1461 * cycle + 365 * year + left) :
    day / 1460 =
      25 * century + cycle + (24 * century + cycle + 365 * year + left) / 1460 := by
  omega

/-- The year of a day of an era. -/
theorem yearOfEra (inEra : InEra century cycle year left) {day : Nat}
    (isDay : day = 36524 * century + 1461 * cycle + 365 * year + left) :
    (day - day / 1460 + day / 36524 - day / 146096) / 365 = 100 * century + 4 * cycle + year := by
  obtain ⟨ahead, isAhead⟩ : ∃ ahead, ahead = (24 * century + cycle + 365 * year + left) / 1460 :=
    ⟨_, rfl⟩
  have inYear : ahead ≤ 365 * year + left ∧ (365 * year + left - ahead) / 365 = year := by
    rcases inEra with ⟨_, _, _, _, _⟩
    omega
  have days : day - day / 1460 + day / 36524 - day / 146096 =
      365 * (100 * century + 4 * cycle) + (365 * year + left - ahead) := by
    rw [inEra.centuries isDay, cycles isDay, ← isAhead]
    omega
  rw [days, Nat.mul_add_div (by decide), inYear.2]

/-- The days of an era that lie before a year of it. -/
theorem daysBefore (inEra : InEra century cycle year left) {yearOfEra : Nat}
    (isYear : yearOfEra = 100 * century + 4 * cycle + year) :
    365 * yearOfEra + yearOfEra / 4 - yearOfEra / 100 =
      36524 * century + 1461 * cycle + 365 * year := by
  rcases inEra with ⟨_, _, _, _, _⟩
  omega

theorem ofDays (inEra : InEra century cycle year left) (era : Int) {day : Nat}
    (isDay : day = 36524 * century + 1461 * cycle + 365 * year + left) :
    CivilDate.ofDays (era * 146097 + day - 719468) =
      ofMarchYear (era * 400 + (100 * century + 4 * cycle + year : Nat)) left := by
  have within : day < 146097 := by
    have ofCentury := inEra.ofCentury_le
    have last := inEra.century_le
    omega
  have shifted : era * 146097 + day - 719468 + 719468 = era * 146097 + day := by omega
  have isEra : (era * 146097 + day : Int).fdiv 146097 = era := by
    rw [Int.fdiv_eq_ediv_of_nonneg _ (by decide)]
    omega
  have ofEra : (era * 146097 + day - era * 146097 : Int).toNat = day := by omega
  have ofYear : day - (36524 * century + 1461 * cycle + 365 * year) = left := by omega
  unfold CivilDate.ofDays
  simp only [shifted, isEra, ofEra, inEra.yearOfEra isDay, inEra.daysBefore rfl, ofYear]
  rfl

end InEra

/-- The month and the day of a date that exists. -/
theorem le_of_of? {year : Int} {month day : Nat} {date : CivilDate}
    (isDate : of? year month day = some date) : 1 ≤ month ∧ month ≤ 12 ∧ 1 ≤ day ∧ day ≤ 31 := by
  unfold of? at isDate
  split at isDate
  · rename_i within
    unfold monthLength at within
    grind
  · cases isDate

/-- Every day of a year from March on has a date. The last one may be a leap day. -/
theorem of?_ofMarchYear {year : Int} {dayOfYear : Nat} (within : dayOfYear ≤ 365)
    (leapDay : dayOfYear = 365 → isLeapYear (year + 1)) :
    let date := ofMarchYear year dayOfYear
    of? date.year date.month date.day = some date := by
  obtain ⟨month, isMonth⟩ : ∃ month, (5 * dayOfYear + 2) / 153 = month := ⟨_, rfl⟩
  have lastMonth : month ≤ 11 := by omega
  unfold ofMarchYear
  rw [isMonth]
  refine if_pos ⟨Nat.le_add_left .., ?_⟩
  dsimp only
  -- The eleventh month from March is February.
  match month, lastMonth with
  | 0, _ | 1, _ | 2, _ | 3, _ | 4, _ | 5, _ | 6, _ | 7, _ | 8, _ | 9, _ | 10, _ =>
      simp only [Nat.reduceLT, Nat.reduceAdd, Nat.reduceSub, Nat.reduceLeDiff, ↓reduceIte,
        monthLength]
      omega
  | 11, _ =>
      simp only [Nat.reduceLT, Nat.reduceSub, Nat.reduceLeDiff, ↓reduceIte, monthLength]
      split
      · omega
      · rename_i common
        have noLeapDay : dayOfYear ≠ 365 := mt leapDay common
        omega

theorem toDays_ofMarchYear {era : Int} {yearOfEra dayOfYear : Nat} (inEra : yearOfEra < 400)
    (within : dayOfYear ≤ 365) :
    toDays (ofMarchYear (era * 400 + yearOfEra) dayOfYear) =
      era * 146097 + (365 * yearOfEra + yearOfEra / 4 - yearOfEra / 100 + dayOfYear : Nat) -
        719468 := by
  obtain ⟨year, isYear⟩ : ∃ year : Int, year = era * 400 + yearOfEra := ⟨_, rfl⟩
  obtain ⟨month, isMonth⟩ : ∃ month, (5 * dayOfYear + 2) / 153 = month := ⟨_, rfl⟩
  have sameYear (month : Nat) :
      (if month ≤ 2 then (if month ≤ 2 then year + 1 else year) - 1
        else if month ≤ 2 then year + 1 else year) = year := by
    split <;> omega
  have isEra : year.fdiv 400 = era := by
    rw [Int.fdiv_eq_ediv_of_nonneg _ (by decide)]
    omega
  have sameMonth : ((if month < 10 then month + 3 else month - 9) + 9) % 12 = month := by
    split <;> omega
  have sameDay : (153 * month + 2 : Int) / 5 +
      (dayOfYear - (153 * month + 2) / 5 + 1 : Nat) - 1 = dayOfYear := by
    omega
  unfold ofMarchYear toDays
  simp only [isMonth, ← isYear, sameYear, isEra, sameMonth, sameDay]
  omega

/-- A year that ends with a leap day in February is a leap year. -/
theorem InEra.isLeapYear (inEra : InEra century cycle year left) (era : Int) (leap : left = 365) :
    isLeapYear (era * 400 + (100 * century + 4 * cycle + year : Nat) + 1) := by
  rcases inEra with ⟨_, _, _, _, leapDay⟩
  rcases leapDay leap with ⟨rfl, last⟩
  simp only [CivilDate.isLeapYear, Bool.and_eq_true, Bool.or_eq_true, decide_eq_true_eq]
  omega

/-- A day, taken apart into its era and the parts of that. -/
theorem exists_ofDays (days : Int) :
    ∃ (era : Int) (century cycle year left : Nat), InEra century cycle year left ∧
      days =
        era * 146097 + (36524 * century + 1461 * cycle + 365 * year + left : Nat) - 719468 := by
  let era := (days + 719468) / 146097
  have within : (days + 719468 - era * 146097).toNat < 146097 := by omega
  rcases exists_inEra within with ⟨century, cycle, year, left, inEra, isDay⟩
  refine ⟨era, century, cycle, year, left, inEra, ?_⟩
  omega

/-- The date of every day exists. -/
theorem of?_ofDays (days : Int) :
    of? (ofDays days).year (ofDays days).month (ofDays days).day = some (ofDays days) := by
  rcases exists_ofDays days with ⟨era, century, cycle, year, left, inEra, rfl⟩
  rw [inEra.ofDays era rfl]
  exact of?_ofMarchYear inEra.left_le (inEra.isLeapYear era)

/-- The date of a day lies on that day. -/
theorem toDays_ofDays (days : Int) : toDays (ofDays days) = days := by
  rcases exists_ofDays days with ⟨era, century, cycle, year, left, inEra, rfl⟩
  have isYear : 100 * century + 4 * cycle + year < 400 := by
    rcases inEra with ⟨_, _, _, _, _⟩
    omega
  rw [inEra.ofDays era rfl, toDays_ofMarchYear isYear inEra.left_le, inEra.daysBefore rfl]

end ClusterOperator.CivilDate
