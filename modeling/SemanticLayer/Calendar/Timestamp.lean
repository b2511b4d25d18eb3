import SemanticLayer.Calendar.Date

/-!
# Timestamps

A timestamp is a date and a time of day without a zone, to the nanosecond. A leap second is held
as an overlong last second of its minute: the nanoseconds then run from one thousand million to
two.

Whole seconds and whole milliseconds are also counted from the start of 1970, as if no leap second
existed. These counts are the only arithmetic on timestamps: moving by an offset, finding a bucket
and naming the last millisecond before an instant all go through them.

## The wire form

Timestamps cross the interface as `YYYY-MM-DDTHH:MM:SS` with a fraction of a fixed number of
places, cut and not rounded. A leap second is written as second 60. A year outside the four-digit
range carries its sign.
-/

namespace SemanticLayer.Calendar

/-! ### The type -/

/-- A date and a time of day. -/
structure Timestamp where
  /-- The day. -/
  date : Date
  /-- The second of the day, a leap second counting as the second before it. -/
  second : Nat
  /-- The nanosecond of the second; past the first thousand million during a leap second. -/
  nano : Nat
  /-- The second lies within the day. -/
  second_lt : second < 86400
  /-- The nanosecond lies within the second or the leap second after it. -/
  nano_lt : nano < 2000000000
  /-- Only the last second of a minute is followed by a leap second. -/
  leap : 1000000000 ≤ nano → second % 60 = 59
  deriving DecidableEq

namespace Timestamp

/-- The start of a day. -/
def midnight (date : Date) : Timestamp :=
  ⟨date, 0, 0, by decide, by decide, by decide⟩

/-- The time `hour:minute:second` of a day with a fraction; second 60 is a leap second. None when
a part is out of range. -/
def ofClock? (date : Date) (hour minute second fraction : Nat) : Option Timestamp :=
  if h : hour < 24 ∧ minute < 60 ∧ second ≤ 60 ∧ fraction < 1000000000 then
    if leap : second = 60 then
      some ⟨date, 3600 * hour + 60 * minute + 59, 1000000000 + fraction, by omega, by omega,
        by omega⟩
    else
      some ⟨date, 3600 * hour + 60 * minute + second, fraction, by omega, by omega, by omega⟩
  else none

/-- Earlier or equal, a leap second falling between its second and the next minute. -/
protected def le (a b : Timestamp) : Prop :=
  a.date.number < b.date.number ∨ (a.date.number = b.date.number ∧
    (a.second < b.second ∨ (a.second = b.second ∧ a.nano ≤ b.nano)))

instance : LE Timestamp := ⟨Timestamp.le⟩

instance (a b : Timestamp) : Decidable (a ≤ b) := by
  change Decidable (Timestamp.le a b)
  unfold Timestamp.le
  infer_instance

/-! ### Counting from 1970 -/

/-- The whole seconds from the start of 1970, leap seconds not counted. -/
def epochSecond (t : Timestamp) : Int :=
  86400 * t.date.number + t.second

/-- The timestamp a whole number of seconds after the start of 1970. -/
def ofEpochSecond? (count : Int) : Option Timestamp :=
  (Date.ofNumber? (count / 86400)).map fun date ↦
    ⟨date, (count % 86400).toNat, 0, by omega, by decide, by omega⟩

/-- The timestamp a whole number of milliseconds after the start of 1970. -/
def ofEpochMilli? (count : Int) : Option Timestamp :=
  (Date.ofNumber? (count / 86400000)).map fun date ↦
    ⟨date, (count % 86400000 / 1000).toNat, 1000000 * (count % 1000).toNat, by omega, by omega,
      by omega⟩

/-- The timestamp moved back by whole minutes, with its fraction and leap second. -/
def minusMinutes? (t : Timestamp) (minutes : Int) : Option Timestamp :=
  let count := t.epochSecond - 60 * minutes
  (Date.ofNumber? (count / 86400)).map fun date ↦
    ⟨date, (count % 86400).toNat, t.nano, by omega, t.nano_lt, by
      have := t.leap
      simp only [count, epochSecond]
      omega⟩

/-- The last millisecond of a day; none on the last supported day, whose end is not supported. -/
def endOfDay? (date : Date) : Option Timestamp := do
  let next ← Date.ofNumber? (date.number + 1)
  ofEpochMilli? (86400000 * next.number - 1)

/-- The millisecond before a whole second. -/
def milliBefore? (t : Timestamp) : Option Timestamp :=
  ofEpochMilli? (1000 * t.epochSecond - 1)

/-! ### The written form -/

/-- A number in decimal, filled up with zeros on the left to a width. -/
def padded (width n : Nat) : List Char :=
  let digits := Nat.toDigits 10 n
  List.replicate (width - digits.length) '0' ++ digits

/-- A year: four digits, or more with a sign outside the years 0 to 9999. -/
def renderYear (year : Int) : List Char :=
  if 0 ≤ year ∧ year ≤ 9999 then padded 4 year.toNat
  else (if year < 0 then '-' else '+') :: padded 4 year.natAbs

/-- A date as `YYYY-MM-DD`. -/
def renderDate (date : Date) : List Char :=
  let civil := date.civil
  renderYear civil.year ++ '-' :: padded 2 civil.month ++ '-' :: padded 2 civil.day

/-- A timestamp with the first `places` of the nine digits of its fraction. -/
def renderPlaces (places : Nat) (t : Timestamp) : List Char :=
  let second := t.second % 60 + t.nano / 1000000000
  let fraction := t.nano % 1000000000 / Nat.pow 10 (9 - places)
  renderDate t.date ++ 'T' :: padded 2 (t.second / 3600) ++ ':' :: padded 2 (t.second / 60 % 60) ++
    ':' :: padded 2 second ++ '.' :: padded places fraction

/-- The wire form, to the millisecond. -/
def wire (t : Timestamp) : String :=
  String.ofList (t.renderPlaces 3)

end Timestamp

/-- The pattern of the wire form, in the letters of `strftime`. -/
def wirePattern : String := "%Y-%m-%dT%H:%M:%S%.3f"

end SemanticLayer.Calendar
