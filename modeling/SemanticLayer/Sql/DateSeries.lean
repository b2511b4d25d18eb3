import SemanticLayer.Calendar.Reader
import SemanticLayer.Sql.Error
import SemanticLayer.Sql.Quoting

/-!
# Series of buckets

A range of dates is expanded into one range per bucket of a granularity, so that empty buckets can
be filled in. The first bucket is the one that holds the first bound; a bare date as the last bound
covers the whole of that day. Each bucket is given by its start and its last millisecond, in the
wire form.

The list of ranges then becomes the rows of a subquery, in one of two layouts.
-/

namespace SemanticLayer.Sql

open Calendar (Granularity Timestamp Date)

/-- The bounds of a bucket, both included, in the wire form. -/
structure TimeRange where
  /-- The start. -/
  first : String
  /-- The last millisecond. -/
  last : String
  deriving DecidableEq, Repr

/-! ### Expanding a range -/

/-- The bucket that starts at `start`, and the start of the next one. -/
def bucketAt? (g : Granularity) (start : Timestamp) : Option (TimeRange × Timestamp) := do
  let next ← g.nextBucket? start
  let last ← next.milliBefore?
  return (⟨start.wire, last.wire⟩, next)

/-- The buckets from the one that starts at `start` to the one that holds `final`, after those
already `found`, in reverse; at most `room` of them. -/
def bucketsFrom (g : Granularity) (final : Timestamp) :
    Nat → List TimeRange → Timestamp → Except RangeFault (List TimeRange)
  | room, found, start =>
    if start ≤ final then
      match room with
      | 0 => .error (.tooLong g)
      | room + 1 =>
        match bucketAt? g start with
        | none => .error .outOfRange
        | some (range, next) => bucketsFrom g final room (range :: found) next
    else .ok found.reverse

/-- The instant that a last bound stands for: the end of a day for a bare date. -/
def finalInstant (last : String) : Except RangeFault Timestamp :=
  match Date.parse? last with
  | some date =>
    match Timestamp.endOfDay? date with
    | some t => .ok t
    | none => .error .outOfRange
  | none =>
    match Timestamp.parse? last with
    | some t => .ok t
    | none => .error (.unreadable last)

/-- The buckets of a granularity that cover a range. -/
def bucketsOf (g : Granularity) (first last : String) : Except RangeFault (List TimeRange) := do
  let start ← (Timestamp.parse? first).elim (.error (.unreadable first)) .ok
  let final ← finalInstant last
  if start ≤ final then
    match g.bucketStart? start with
    | none => .error .outOfRange
    | some start => bucketsFrom g final maxSeriesLength [] start
  else .error (.reversed first last)

/-- The series of a granularity that covers a range. -/
def timeSeries (g : Granularity) (first last : String) : Except SqlError (List TimeRange) :=
  (bucketsOf g first last).mapError .invalidDateRange

/-! ### Rows of a subquery -/

/-- A range as a branch of a union. -/
def TimeRange.branch (range : TimeRange) : String :=
  "SELECT " ++ quoteString range.first ++ " f, " ++ quoteString range.last ++ " t"

/-- A range as a tuple. -/
def TimeRange.tuple (range : TimeRange) : String :=
  "(" ++ quoteString range.first ++ ", " ++ quoteString range.last ++ ")"

/-- Ranges as the branches of a union; there must be one. -/
def unionRows (ranges : List TimeRange) : Except SqlError String :=
  if ranges.isEmpty then .error .emptySeries
  else .ok (" UNION ALL ".intercalate (ranges.map TimeRange.branch))

/-- Ranges as tuples; there must be one. -/
def tupleRows (ranges : List TimeRange) : Except SqlError String :=
  if ranges.isEmpty then .error .emptySeries
  else .ok (", ".intercalate (ranges.map TimeRange.tuple))

end SemanticLayer.Sql
