import SemanticLayer.Calendar.Timestamp

/-!
# Granularities and their buckets

A granularity divides time into buckets. A bucket is known by its start: `bucketStart?` finds the
start of the bucket that holds a timestamp, and `nextBucket?` the start of the bucket after the one
that starts at a given timestamp. Weeks start on Monday. Seconds to weeks have a fixed length;
months, quarters and years follow the calendar.

Either start may lie outside the supported years, which is the only way these functions fail.
-/

namespace SemanticLayer.Calendar

/-- A named unit of time. -/
inductive Granularity where
  | second
  | minute
  | hour
  | day
  | week
  | month
  | quarter
  | year
  deriving DecidableEq, Repr

namespace Granularity

/-- Every granularity, from the finest to the coarsest. -/
def all : List Granularity :=
  [second, minute, hour, day, week, month, quarter, year]

/-- The name of a granularity in queries and in SQL. -/
def name : Granularity → String
  | second => "second"
  | minute => "minute"
  | hour => "hour"
  | day => "day"
  | week => "week"
  | month => "month"
  | quarter => "quarter"
  | year => "year"

/-- The granularity with exactly this name. -/
def ofName? (name : String) : Option Granularity :=
  all.find? (·.name == name)

/-! ### Buckets -/

/-- The midnight that starts the day a number of months after the first month of a year. -/
def monthStart? (year months : Int) : Option Timestamp :=
  let count := 12 * year + months
  (Date.ofCivil? ⟨count / 12, (count % 12).toNat + 1, 1⟩).map Timestamp.midnight

/-- The start of the bucket that holds a timestamp. -/
def bucketStart? (g : Granularity) (t : Timestamp) : Option Timestamp :=
  let civil := t.date.civil
  let index : Int := civil.month - 1
  match g with
  | second => Timestamp.ofEpochSecond? t.epochSecond
  | minute => Timestamp.ofEpochSecond? (t.epochSecond / 60 * 60)
  | hour => Timestamp.ofEpochSecond? (t.epochSecond / 3600 * 3600)
  | day => some (Timestamp.midnight t.date)
  | week => (Date.ofNumber? (t.date.number - t.date.daysFromMonday)).map Timestamp.midnight
  | month => monthStart? civil.year index
  | quarter => monthStart? civil.year (index / 3 * 3)
  | year => monthStart? civil.year 0

/-- The start of the bucket after the one that starts at `start`. -/
def nextBucket? (g : Granularity) (start : Timestamp) : Option Timestamp :=
  let civil := start.date.civil
  let index : Int := civil.month - 1
  match g with
  | second => Timestamp.ofEpochSecond? (start.epochSecond + 1)
  | minute => Timestamp.ofEpochSecond? (start.epochSecond + 60)
  | hour => Timestamp.ofEpochSecond? (start.epochSecond + 3600)
  | day => Timestamp.ofEpochSecond? (start.epochSecond + 86400)
  | week => Timestamp.ofEpochSecond? (start.epochSecond + 604800)
  | month => monthStart? civil.year (index + 1)
  | quarter => monthStart? civil.year (index + 3)
  | year => monthStart? civil.year (index + 12)

end Granularity

end SemanticLayer.Calendar
