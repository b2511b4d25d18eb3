import Mathlib
import SemanticLayer.Proofs.Calendar.Instant

/-!
# Milliseconds from 1970

A whole number of milliseconds has a timestamp exactly if it lies between two bounds
(`Timestamp.exists_ofEpochMilli?_iff`), and later milliseconds have later timestamps
(`Timestamp.ofEpochMilli?_lt`).

That the timestamp is the right one is said without the formula that numbers days: the calendar is
gone through day by day (`Civil.tomorrow`), from the first of January 1970 to the date of the
timestamp, or from there to 1970 (`Civil.IsDaysFrom`). The rest is told by the clock
(`Timestamp.LiesAt`). The formula counts the same days, because tomorrow has the next number
(`Civil.dayNumber_tomorrow`) and dates with the same number are the same.
-/

namespace SemanticLayer.Calendar

/-! ### Days one by one -/

namespace Civil

/-- The day after a date. -/
def tomorrow (date : Civil) : Civil :=
  if date.day < daysInMonth date.year date.month then { date with day := date.day + 1 }
  else if date.month < 12 then ⟨date.year, date.month + 1, 1⟩
  else ⟨date.year + 1, 1, 1⟩

/-- It is this number of days from a date to another one, counted one by one; a negative number
counts from the other one. -/
def IsDaysFrom (first last : Civil) : Int → Prop
  | .ofNat days => tomorrow^[days] first = last
  | .negSucc days => tomorrow^[days + 1] last = first

/-- The last day of a month is followed by the first day of the next one. -/
theorem tomorrow_of_last {date : Civil} (h : date.IsValid)
    (hlast : ¬date.day < daysInMonth date.year date.month) :
    date.tomorrow = firstOfMonth (date.monthCount + 1) := by
  obtain ⟨year, month, day⟩ := date
  obtain ⟨hone, htwelve, -, -⟩ := h
  simp only at hone htwelve
  simp only [tomorrow, if_neg hlast, firstOfMonth, monthCount]
  split
  · next hmonth =>
    rw [Civil.mk.injEq]
    omega
  · next hmonth =>
    rw [Civil.mk.injEq]
    omega

theorem isValid_tomorrow {date : Civil} (h : date.IsValid) : date.tomorrow.IsValid := by
  by_cases hlast : date.day < daysInMonth date.year date.month
  · obtain ⟨hone, htwelve, hfirst, -⟩ := h
    rw [tomorrow, if_pos hlast]
    exact ⟨hone, htwelve, Nat.le_succ_of_le hfirst, hlast⟩
  · rw [tomorrow_of_last h hlast]
    exact isValid_firstOfMonth _

/-- **Tomorrow has the next number.** -/
theorem dayNumber_tomorrow {date : Civil} (h : date.IsValid) :
    date.tomorrow.dayNumber = date.dayNumber + 1 := by
  by_cases hlast : date.day < daysInMonth date.year date.month
  · rw [tomorrow, if_pos hlast]
    simp only [dayNumber]
    omega
  · have hday := h.2.2.2
    rw [tomorrow_of_last h hlast, dayNumber_firstOfMonth_succ, dayNumber_eq_firstOfMonth h,
      firstOfMonth_monthCount h]
    show _ + (daysInMonth date.year date.month : Int) = _
    omega

theorem isValid_iterate_tomorrow {date : Civil} (h : date.IsValid) (days : Nat) :
    (tomorrow^[days] date).IsValid := by
  induction days with
  | zero => exact h
  | succ days ih =>
    rw [Function.iterate_succ_apply']
    exact isValid_tomorrow ih

theorem dayNumber_iterate_tomorrow {date : Civil} (h : date.IsValid) (days : Nat) :
    (tomorrow^[days] date).dayNumber = date.dayNumber + days := by
  induction days with
  | zero => exact (Int.add_zero _).symm
  | succ days ih =>
    rw [Function.iterate_succ_apply', dayNumber_tomorrow (isValid_iterate_tomorrow h days), ih]
    omega

theorem eq_of_dayNumber_eq {first last : Civil} (hfirst : first.IsValid) (hlast : last.IsValid)
    (h : first.dayNumber = last.dayNumber) : first = last := by
  rw [← ofDayNumber_dayNumber hfirst, h, ofDayNumber_dayNumber hlast]

theorem iterate_tomorrow_eq_iff {first last : Civil} (hfirst : first.IsValid)
    (hlast : last.IsValid) (days : Nat) :
    tomorrow^[days] first = last ↔ last.dayNumber = first.dayNumber + days := by
  rw [← dayNumber_iterate_tomorrow hfirst]
  constructor
  · rintro rfl
    rfl
  · exact fun h ↦ eq_of_dayNumber_eq (isValid_iterate_tomorrow hfirst days) hlast h.symm

/-- **Days are counted by their numbers.** -/
theorem isDaysFrom_iff {first last : Civil} (hfirst : first.IsValid) (hlast : last.IsValid)
    (days : Int) : IsDaysFrom first last days ↔ last.dayNumber = first.dayNumber + days := by
  cases days with
  | ofNat days => exact iterate_tomorrow_eq_iff hfirst hlast days
  | negSucc days =>
    rw [IsDaysFrom, iterate_tomorrow_eq_iff hlast hfirst]
    omega

end Civil

/-! ### Milliseconds -/

/-- The first millisecond that has a timestamp, with which the first supported day begins. -/
def earliestMilli : Int := -8334601228800000

/-- The last millisecond that has a timestamp, with which the last supported day ends. -/
def latestMilli : Int := 8210266876799999

namespace Timestamp

/-- A timestamp lies exactly this number of milliseconds after the start of 1970, or before it if
the number is negative. Days are counted by the calendar, and the rest by the clock. -/
def LiesAt (t : Timestamp) (count : Int) : Prop :=
  ∃ days, Civil.IsDaysFrom ⟨1970, 1, 1⟩ t.date.civil days ∧ t.nano < 1000000000 ∧
    1000000 * count = 1000000000 * (86400 * days + t.second) + t.nano

/-- A day has the number of days to it from the start of 1970. -/
theorem isDaysFrom_epoch (date : Date) :
    Civil.IsDaysFrom ⟨1970, 1, 1⟩ date.civil date.number := by
  rw [Civil.isDaysFrom_iff (by decide) date.isValid_civil, date.dayNumber_civil]
  exact (Int.zero_add _).symm

theorem liesAt_of_ofEpochMilli? {count : Int} {t : Timestamp} (h : ofEpochMilli? count = some t) :
    t.LiesAt count := by
  obtain ⟨hnano, -, hcount⟩ := ofEpochMilli?_eq_some h
  exact ⟨t.date.number, isDaysFrom_epoch t.date, hnano, hcount⟩

/-- **Later milliseconds** have later timestamps. -/
theorem ofEpochMilli?_lt {count later : Int} {t t' : Timestamp} (h : ofEpochMilli? count = some t)
    (h' : ofEpochMilli? later = some t') (hlt : count < later) : t < t' := by
  obtain ⟨hnano, -, hcount⟩ := ofEpochMilli?_eq_some h
  obtain ⟨hnano', -, hcount'⟩ := ofEpochMilli?_eq_some h'
  rw [lt_iff]
  omega

/-- **The milliseconds that have a timestamp** are those of the supported days. -/
theorem exists_ofEpochMilli?_iff {count : Int} :
    (∃ t, ofEpochMilli? count = some t) ↔ earliestMilli ≤ count ∧ count ≤ latestMilli := by
  have hdays : (firstDay ≤ count / 86400000 ∧ count / 86400000 ≤ lastDay) ↔
      earliestMilli ≤ count ∧ count ≤ latestMilli := by
    unfold firstDay lastDay earliestMilli latestMilli
    omega
  rw [← hdays, ofEpochMilli?, Date.ofNumber?]
  split
  · next hrange => exact iff_of_true ⟨_, rfl⟩ hrange
  · next hrange =>
    refine iff_of_false ?_ hrange
    rintro ⟨t, ht⟩
    cases ht

/-- Both ends of the interval, and the millisecond before 1970. -/
example : (ofEpochMilli? earliestMilli).map wire = some "-262143-01-01T00:00:00.000" ∧
    (ofEpochMilli? latestMilli).map wire = some "+262142-12-31T23:59:59.999" ∧
    (ofEpochMilli? (-1)).map wire = some "1969-12-31T23:59:59.999" := by
  decide +kernel

end Timestamp

end SemanticLayer.Calendar
