import SemanticLayer.Calendar.Date

/-!
# Days by number and days by date

`Civil.dayNumber` and `Civil.ofDayNumber` are inverse to each other: every number is that of a valid
date (`Civil.isValid_ofDayNumber`, `Civil.dayNumber_ofDayNumber`), and every valid date is found
again from its number (`Civil.ofDayNumber_dayNumber`).

The way from the number to the date divides the days of an era of 400 years by numbers that are
nearly, but not quite, the lengths of four years, of a century and of the era. What makes it exact
is said about an `EraDay`, which splits a day of an era into whole centuries, whole spans of four
years, whole years and days: on such a sum the quotients are those parts
(`EraDay.IsValid.yearOfEra_eq`), and every day of an era is such a sum
(`EraDay.exists_number_eq`). Months follow one formula within a year that starts in March, and only
there are the twelve cases looked at.
-/

namespace SemanticLayer.Calendar

/-! ### Days of an era -/

/-- A day of an era of 400 years, which start in March. -/
structure EraDay where
  /-- The whole centuries before the day. -/
  century : Int
  /-- The whole spans of four years before the day, within its century. -/
  span : Int
  /-- The whole years before the day, within its span. -/
  year : Int
  /-- The days before the day, within its year. -/
  day : Int

namespace EraDay

/-- The parts are within their bounds. A year with a leap day is the last of its span, and the last
span of a century has none, except in the last century. -/
structure IsValid (e : EraDay) : Prop where
  century : 0 ≤ e.century ∧ e.century ≤ 3
  span : 0 ≤ e.span ∧ e.span ≤ 24
  year : 0 ≤ e.year ∧ e.year ≤ 3
  day : 0 ≤ e.day ∧ e.day ≤ 365
  leap : e.day = 365 → e.year = 3 ∧ (e.span = 24 → e.century = 3)

/-- The number of days of the era before the day. -/
def number (e : EraDay) : Int :=
  36524 * e.century + 1461 * e.span + 365 * e.year + e.day

/-- The number of years of the era before the day. -/
def yearOfEra (e : EraDay) : Int :=
  100 * e.century + 4 * e.span + e.year

theorem IsValid.number_bounds {e : EraDay} (h : e.IsValid) :
    0 ≤ e.number ∧ e.number < 146097 := by
  obtain ⟨hcentury, hspan, hyear, hday, hleap⟩ := h
  unfold number
  omega

/-- Every day of an era has its parts. -/
theorem exists_number_eq {n : Int} (hlow : 0 ≤ n) (hhigh : n < 146097) :
    ∃ e : EraDay, e.IsValid ∧ e.number = n := by
  -- the last century and the last year of a span are one day longer, so the quotients are cut
  obtain ⟨c, hc⟩ : ∃ c, c = min 3 (n / 36524) := ⟨_, rfl⟩
  obtain ⟨s, hs⟩ : ∃ s, s = (n - 36524 * c) / 1461 := ⟨_, rfl⟩
  obtain ⟨y, hy⟩ : ∃ y, y = min 3 ((n - 36524 * c - 1461 * s) / 365) := ⟨_, rfl⟩
  refine ⟨⟨c, s, y, n - 36524 * c - 1461 * s - 365 * y⟩, ?_, ?_⟩
  · constructor <;> simp only <;> omega
  · simp only [number]
    omega

/-- Division by the length of a short century, put right on the last day of the era. -/
theorem century_eq {century rest : Int} (hcentury : 0 ≤ century ∧ century ≤ 3)
    (hrest : 0 ≤ rest ∧ rest ≤ 36524) (hlast : rest = 36524 → century = 3) :
    (36524 * century + rest) / 36524 - (36524 * century + rest) / 146096 = century := by
  by_cases h : rest = 36524
  · rw [h, hlast h]
    decide
  · have hshort : (36524 * century + rest) / 36524 = century := by omega
    have hera : (36524 * century + rest) / 146096 = 0 := by omega
    rw [hshort, hera, Int.sub_zero]

/-- The days that the spans before a day have too many are never more than its own. -/
theorem carry_bounds {before day : Int} (hbefore : 0 ≤ before ∧ before < 1460)
    (hday : 0 ≤ day ∧ day ≤ 365) (hleap : day = 365 → 1095 ≤ before) :
    0 ≤ day - (before + day) / 1460 ∧ day - (before + day) / 1460 < 365 := by
  omega

/-- **The year of a day of an era.** The quotients of the number of a day put together the years
before it. -/
theorem IsValid.yearOfEra_eq {e : EraDay} (h : e.IsValid) :
    (e.number - e.number / 1460 + e.number / 36524 - e.number / 146096) / 365 = e.yearOfEra := by
  obtain ⟨hcentury, hspan, hyear, hday, hleap⟩ := h
  have hcenturies : e.number / 36524 - e.number / 146096 = e.century := by
    have hsplit : e.number = 36524 * e.century + (1461 * e.span + 365 * e.year + e.day) := by
      unfold number
      omega
    rw [hsplit]
    exact century_eq hcentury (by omega) (by omega)
  have hspans : e.number / 1460 =
      25 * e.century + e.span + (24 * e.century + e.span + 365 * e.year + e.day) / 1460 := by
    unfold number
    omega
  have hcarry : 0 ≤ e.day - (24 * e.century + e.span + 365 * e.year + e.day) / 1460 ∧
      e.day - (24 * e.century + e.span + 365 * e.year + e.day) / 1460 < 365 :=
    carry_bounds (by omega) hday (by omega)
  have hdays : e.number - e.number / 1460 + e.number / 36524 - e.number / 146096 =
      e.day - (24 * e.century + e.span + 365 * e.year + e.day) / 1460 + 365 * e.yearOfEra := by
    have hnumber : e.number = 36524 * e.century + 1461 * e.span + 365 * e.year + e.day := rfl
    have hyears : e.yearOfEra = 100 * e.century + 4 * e.span + e.year := rfl
    generalize (24 * e.century + e.span + 365 * e.year + e.day) / 1460 = carry at hspans
    generalize e.number / 1460 = spans at hspans
    omega
  rw [hdays, Int.add_mul_ediv_left _ _ (by decide), Int.ediv_eq_zero_of_lt hcarry.1 hcarry.2,
    Int.zero_add]

/-- The days of an era before the year of a day. -/
theorem IsValid.number_sub_years {e : EraDay} (h : e.IsValid) :
    e.number - (365 * e.yearOfEra + e.yearOfEra / 4 - e.yearOfEra / 100) = e.day := by
  obtain ⟨hcentury, hspan, hyear, hday, -⟩ := h
  unfold number yearOfEra
  omega

end EraDay

/-! ### Months from March -/

namespace Civil

/-- The days of a year from March before one of its months, counted from March. -/
def daysBefore (month : Int) : Int :=
  (153 * month + 2) / 5

/-- The days before a year from March, counted from the year 0. -/
def yearsBefore (year : Int) : Int :=
  365 * year + year / 4 - year / 100 + year / 400

/-- A date by its year and its month from March. -/
def fromMarch (year month day : Int) : Civil :=
  if month < 10 then ⟨year, (month + 3).toNat, day.toNat⟩
  else ⟨year + 1, (month - 9).toNat, day.toNat⟩

/-- The month of a year from March in which a day lies. -/
theorem month_eq_iff {month day : Int} :
    (5 * day + 2) / 153 = month ↔ daysBefore month ≤ day ∧ day < daysBefore (month + 1) := by
  unfold daysBefore
  omega

/-- Every date has a year and a month from March. -/
theorem exists_fromMarch_eq (date : Civil) (hone : 1 ≤ date.month) (htwelve : date.month ≤ 12) :
    ∃ year month, 0 ≤ month ∧ month ≤ 11 ∧ fromMarch year month date.day = date := by
  obtain ⟨year, month, day⟩ := date
  simp only at hone htwelve
  by_cases hearly : month ≤ 2
  · refine ⟨year - 1, month + 9, by omega, by omega, ?_⟩
    have hlast : ¬(month : Int) + 9 < 10 := by omega
    simp only [fromMarch, hlast, if_false, Civil.mk.injEq]
    omega
  · refine ⟨year, month - 3, by omega, by omega, ?_⟩
    have hbefore : (month : Int) - 3 < 10 := by omega
    simp only [fromMarch, hbefore, if_true, Civil.mk.injEq, true_and]
    omega

theorem month_fromMarch (year day : Int) {month : Int} (hlow : 0 ≤ month) (hhigh : month ≤ 11) :
    1 ≤ (fromMarch year month day).month ∧ (fromMarch year month day).month ≤ 12 := by
  unfold fromMarch
  split
  · show 1 ≤ (month + 3).toNat ∧ (month + 3).toNat ≤ 12
    omega
  · show 1 ≤ (month - 9).toNat ∧ (month - 9).toNat ≤ 12
    omega

theorem day_fromMarch (year month day : Int) : (fromMarch year month day).day = day.toNat := by
  unfold fromMarch
  split <;> rfl

theorem dayNumber_fromMarch (year : Int) {month : Int} (hlow : 0 ≤ month) (hhigh : month ≤ 11)
    (day : Nat) :
    (fromMarch year month day).dayNumber =
      yearsBefore year + daysBefore month + day - 719469 := by
  unfold fromMarch yearsBefore daysBefore
  split
  · have hmonth : (((month + 3).toNat : Int) + 9) % 12 = month := by omega
    have hlate : ¬(month + 3).toNat ≤ 2 := by omega
    simp only [dayNumber, hmonth, hlate, if_false]
    omega
  · have hmonth : (((month - 9).toNat : Int) + 9) % 12 = month := by omega
    have hearly : (month - 9).toNat ≤ 2 := by omega
    simp only [dayNumber, hmonth, hearly, if_true]
    omega

/-- The months before February have the lengths that the formula gives. -/
theorem daysInMonth_fromMarch (year day : Int) {month : Int} (hlow : 0 ≤ month)
    (hhigh : month ≤ 10) :
    (daysInMonth (fromMarch year month day).year (fromMarch year month day).month : Int) =
      daysBefore (month + 1) - daysBefore month := by
  obtain rfl | rfl | rfl | rfl | rfl | rfl | rfl | rfl | rfl | rfl | rfl :
      month = 0 ∨ month = 1 ∨ month = 2 ∨ month = 3 ∨ month = 4 ∨ month = 5 ∨ month = 6 ∨
        month = 7 ∨ month = 8 ∨ month = 9 ∨ month = 10 := by omega
  all_goals rfl

theorem daysInMonth_fromMarch_last (year day : Int) :
    daysInMonth (fromMarch year 11 day).year (fromMarch year 11 day).month =
      if isLeapYear (year + 1) then 29 else 28 :=
  rfl

/-- The days of a month are those from its first to the first of the next one; February has as many
as are left of a year of 365 or 366 days. -/
theorem day_le_daysInMonth_iff {year month : Int} {day : Nat} (hlow : 0 ≤ month)
    (hhigh : month ≤ 11)
    (hfirst : 1 ≤ day) :
    day ≤ daysInMonth (fromMarch year month day).year (fromMarch year month day).month ↔
      daysBefore month + day - 1 < daysBefore (month + 1) ∧
        daysBefore month + day - 1 < if isLeapYear (year + 1) then 366 else 365 := by
  by_cases hlast : month = 11
  · subst hlast
    have hbefore : daysBefore 11 = 337 := rfl
    have hafter : daysBefore (11 + 1) = 367 := rfl
    rw [daysInMonth_fromMarch_last, hbefore, hafter]
    split <;> omega
  · have hlength := daysInMonth_fromMarch year day hlow (by omega)
    have hshort : daysBefore (month + 1) ≤ 337 := by
      unfold daysBefore
      omega
    split <;> omega

/-! ### Dates of days of an era -/

/-- The years before a leap year end a span, and if this is the last span of a century, then they
end an era. -/
theorem isLeapYear_succ_iff (year : Int) :
    isLeapYear (year + 1) = true ↔
      year % 4 = 3 ∧ (year % 100 / 4 = 24 → year % 400 / 100 = 3) := by
  simp only [isLeapYear, Bool.and_eq_true, Bool.or_eq_true, beq_iff_eq, bne_iff_ne]
  omega

/-- The year of a day has 366 days exactly if the year in which it ends is a leap year. -/
theorem isLeapYear_iff_eraDay (era : Int) {e : EraDay} (h : e.IsValid) :
    isLeapYear (e.yearOfEra + 400 * era + 1) = true ↔
      e.year = 3 ∧ (e.span = 24 → e.century = 3) := by
  obtain ⟨hcentury, hspan, hyear, -, -⟩ := h
  rw [isLeapYear_succ_iff, EraDay.yearOfEra]
  omega

/-- The days before the year of a day. -/
theorem yearsBefore_eraDay (era : Int) {e : EraDay} (h : e.IsValid) :
    yearsBefore (e.yearOfEra + 400 * era) = 146097 * era + (e.number - e.day) := by
  obtain ⟨hcentury, hspan, hyear, -, -⟩ := h
  simp only [yearsBefore, EraDay.yearOfEra, EraDay.number]
  omega

/-- The date of a number goes by the parts of its day within the era, and by the month in which the
day lies. -/
theorem ofDayNumber_eq_fromMarch (era : Int) {e : EraDay} (h : e.IsValid) {month : Int}
    (hlow : daysBefore month ≤ e.day) (hhigh : e.day < daysBefore (month + 1)) :
    ofDayNumber (146097 * era + e.number - 719468) =
      fromMarch (e.yearOfEra + 400 * era) month (e.day - daysBefore month + 1) := by
  have hbounds := h.number_bounds
  have hera : (146097 * era + e.number - 719468 + 719468) / 146097 = era := by omega
  have hday : (146097 * era + e.number - 719468 + 719468) % 146097 = e.number := by omega
  have hmonth := month_eq_iff.2 ⟨hlow, hhigh⟩
  simp only [ofDayNumber, hera, hday, h.yearOfEra_eq, h.number_sub_years, hmonth]
  rfl

/-- A number is split into an era, a day of it, and the month in which this day lies. -/
theorem exists_eraDay (number : Int) :
    ∃ era : Int, ∃ e : EraDay, e.IsValid ∧ number = 146097 * era + e.number - 719468 ∧
      ∃ month : Int, 0 ≤ month ∧ month ≤ 11 ∧ daysBefore month ≤ e.day ∧
        e.day < daysBefore (month + 1) := by
  obtain ⟨e, he, hnumber⟩ := EraDay.exists_number_eq (n := (number + 719468) % 146097) (by omega)
    (by omega)
  have hday := he.day
  exact ⟨(number + 719468) / 146097, e, he, by omega, (5 * e.day + 2) / 153, by omega, by omega,
    month_eq_iff.1 rfl⟩

/-! ### The two ways -/

theorem isValid_ofDayNumber (number : Int) : (ofDayNumber number).IsValid := by
  obtain ⟨era, e, he, rfl, month, hlow, hhigh, hfirst, hlast⟩ := exists_eraDay number
  rw [ofDayNumber_eq_fromMarch era he hfirst hlast]
  obtain ⟨day, hday⟩ : ∃ day : Nat, (day : Int) = e.day - daysBefore month + 1 :=
    ⟨(e.day - daysBefore month + 1).toNat, by omega⟩
  rw [← hday]
  obtain ⟨hone, htwelve⟩ := month_fromMarch (e.yearOfEra + 400 * era) day hlow hhigh
  refine ⟨hone, htwelve, ?_, ?_⟩
  · rw [day_fromMarch]
    omega
  · rw [day_fromMarch, Int.toNat_natCast, day_le_daysInMonth_iff hlow hhigh (by omega)]
    refine ⟨by omega, ?_⟩
    have hyear := isLeapYear_iff_eraDay era he
    have hlong := he.day
    have hleap := he.leap
    split
    · omega
    · next hcommon =>
      rw [hyear] at hcommon
      omega

theorem dayNumber_ofDayNumber (number : Int) : (ofDayNumber number).dayNumber = number := by
  obtain ⟨era, e, he, rfl, month, hlow, hhigh, hfirst, hlast⟩ := exists_eraDay number
  obtain ⟨day, hday⟩ : ∃ day : Nat, (day : Int) = e.day - daysBefore month + 1 :=
    ⟨(e.day - daysBefore month + 1).toNat, by omega⟩
  rw [ofDayNumber_eq_fromMarch era he hfirst hlast, ← hday, dayNumber_fromMarch _ hlow hhigh,
    yearsBefore_eraDay era he]
  omega

theorem ofDayNumber_dayNumber {date : Civil} (h : date.IsValid) :
    ofDayNumber date.dayNumber = date := by
  obtain ⟨hone, htwelve, hfirst, hlast⟩ := h
  obtain ⟨year, month, hlow, hhigh, hdate⟩ := date.exists_fromMarch_eq hone htwelve
  rw [← hdate, day_fromMarch, Int.toNat_natCast, day_le_daysInMonth_iff hlow hhigh hfirst] at hlast
  obtain ⟨hmonth, hyear⟩ := hlast
  -- the day of its era on which the date falls
  obtain ⟨e, he⟩ : ∃ e : EraDay, e = ⟨year % 400 / 100, year % 100 / 4, year % 4,
    daysBefore month + date.day - 1⟩ := ⟨_, rfl⟩
  have hday : e.day = daysBefore month + date.day - 1 := by rw [he]
  have hsplit : e.yearOfEra + 400 * (year / 400) = year := by
    simp only [he, EraDay.yearOfEra]
    omega
  have hzero : 0 ≤ daysBefore month := by
    unfold daysBefore
    omega
  have hvalid : e.IsValid := by
    subst he
    split at hyear
    · next hleap =>
      have hend := (isLeapYear_succ_iff year).1 hleap
      constructor <;> simp only <;> omega
    · constructor <;> simp only <;> omega
  have hyears := yearsBefore_eraDay (year / 400) hvalid
  rw [hsplit] at hyears
  have hnumber := dayNumber_fromMarch year hlow hhigh date.day
  rw [hdate] at hnumber
  have hback := ofDayNumber_eq_fromMarch (year / 400) hvalid
    (show daysBefore month ≤ e.day by omega) (by omega)
  have hdayOfMonth : e.day - daysBefore month + 1 = date.day := by omega
  have hdayNumber : date.dayNumber = 146097 * (year / 400) + e.number - 719468 := by omega
  rw [hdayNumber, hback, hsplit, hdayOfMonth, hdate]

/-! ### Months -/

/-- The months from the January of the year 0 to that of a date. -/
def monthCount (date : Civil) : Int :=
  12 * date.year + (date.month - 1)

/-- The first day of the month to which a number of months lead from the January of the year 0. -/
def firstOfMonth (count : Int) : Civil :=
  ⟨count / 12, (count % 12).toNat + 1, 1⟩

@[simp] theorem monthCount_firstOfMonth (count : Int) :
    (firstOfMonth count).monthCount = count := by
  simp only [monthCount, firstOfMonth]
  omega

theorem isValid_firstOfMonth (count : Int) : (firstOfMonth count).IsValid := by
  have hlength (year : Int) (month : Nat) : 1 ≤ daysInMonth year month := by
    unfold daysInMonth
    split <;> split <;> decide
  refine ⟨?_, ?_, Nat.le_refl 1, hlength _ _⟩
  · show 1 ≤ (count % 12).toNat + 1
    omega
  · show (count % 12).toNat + 1 ≤ 12
    omega

theorem firstOfMonth_monthCount {date : Civil} (h : date.IsValid) :
    firstOfMonth date.monthCount = { date with day := 1 } := by
  obtain ⟨year, month, day⟩ := date
  obtain ⟨hone, htwelve, -, -⟩ := h
  simp only at hone htwelve
  simp only [firstOfMonth, monthCount, Civil.mk.injEq, and_true]
  omega

/-- A day is as far from the first of its month as its number in the month says. -/
theorem dayNumber_eq_firstOfMonth {date : Civil} (h : date.IsValid) :
    date.dayNumber = (firstOfMonth date.monthCount).dayNumber + date.day - 1 := by
  rw [firstOfMonth_monthCount h]
  simp only [dayNumber]
  omega

theorem firstOfMonth_eq_fromMarch (count : Int) :
    firstOfMonth count = fromMarch ((count - 2) / 12) ((count - 2) % 12) (1 : Nat) := by
  unfold firstOfMonth fromMarch
  split
  · simp only [Civil.mk.injEq]
    omega
  · simp only [Civil.mk.injEq]
    omega

/-- A year from March is a day longer if it ends in a leap year. -/
theorem yearsBefore_succ (year : Int) :
    yearsBefore (year + 1) = yearsBefore year + if isLeapYear (year + 1) then 366 else 365 := by
  unfold yearsBefore
  split
  · next hleap =>
    obtain ⟨hspan, hcentury⟩ := (isLeapYear_succ_iff year).1 hleap
    by_cases hlast : year % 100 / 4 = 24
    · have hera := hcentury hlast
      omega
    · omega
  · next hcommon =>
    rw [isLeapYear_succ_iff] at hcommon
    omega

/-- **Months follow each other.** -/
theorem dayNumber_firstOfMonth_succ (count : Int) :
    (firstOfMonth (count + 1)).dayNumber = (firstOfMonth count).dayNumber +
      daysInMonth (firstOfMonth count).year (firstOfMonth count).month := by
  obtain ⟨year, hyear⟩ : ∃ year, year = (count - 2) / 12 := ⟨_, rfl⟩
  obtain ⟨month, hmonth⟩ : ∃ month, month = (count - 2) % 12 := ⟨_, rfl⟩
  have hlow : 0 ≤ month := by omega
  have hhigh : month ≤ 11 := by omega
  rw [firstOfMonth_eq_fromMarch count, ← hyear, ← hmonth, dayNumber_fromMarch _ hlow hhigh,
    firstOfMonth_eq_fromMarch]
  by_cases hlast : month = 11
  · have hnext : (count + 1 - 2) / 12 = year + 1 := by omega
    have hmarch : (count + 1 - 2) % 12 = 0 := by omega
    have hbefore : daysBefore 11 = 337 := rfl
    have hzero : daysBefore 0 = 0 := rfl
    rw [hnext, hmarch, hlast, daysInMonth_fromMarch_last,
      dayNumber_fromMarch _ (by decide) (by decide), yearsBefore_succ, hbefore, hzero]
    split <;> omega
  · have hsame : (count + 1 - 2) / 12 = year := by omega
    have hnext : (count + 1 - 2) % 12 = month + 1 := by omega
    rw [hsame, hnext, daysInMonth_fromMarch _ _ hlow (by omega),
      dayNumber_fromMarch _ (by omega) (by omega)]
    omega

end Civil

namespace Date

theorem isValid_civil (date : Date) : date.civil.IsValid :=
  Civil.isValid_ofDayNumber date.number

theorem dayNumber_civil (date : Date) : date.civil.dayNumber = date.number :=
  Civil.dayNumber_ofDayNumber date.number

end Date

end SemanticLayer.Calendar
