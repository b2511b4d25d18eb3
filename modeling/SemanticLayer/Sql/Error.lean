import SemanticLayer.Calendar.Granularity
import SemanticLayer.Query.Operator

/-!
# Errors of the SQL side

What can be wrong with a request for SQL text, as causes; `SqlError.message` gives each its
wording.
-/

namespace SemanticLayer.Sql

open Calendar (Granularity)
open Query (FilterOperator)

/-- The largest number of buckets in a series. -/
def maxSeriesLength : Nat := 50000

/-- Why two bounds make no series. -/
inductive RangeFault where
  /-- A bound is no timestamp. -/
  | unreadable (bound : String)
  /-- The first bound lies after the last. -/
  | reversed (first last : String)
  /-- The series has too many buckets. -/
  | tooLong (granularity : Granularity)
  /-- A bucket or the end of the last day lies outside the supported years. -/
  | outOfRange
  deriving DecidableEq, Repr

/-- Why an operator cannot take the values it was given. -/
inductive ArityFault where
  /-- There is no value. -/
  | noValue
  /-- There is not exactly one value. -/
  | notOne (count : Nat)
  /-- There are not exactly two values. -/
  | notPair (count : Nat)
  deriving DecidableEq, Repr

/-- An error of the SQL side. -/
inductive SqlError where
  /-- No granularity has this name. -/
  | unknownGranularity (name : String)
  /-- No dialect has this name, given in lower case. -/
  | unknownDialect (name : String)
  /-- The text is no timezone. -/
  | invalidTimezone (timezone : String)
  /-- A series of no ranges has no SQL. -/
  | emptySeries
  /-- Two bounds make no series. -/
  | invalidDateRange (fault : RangeFault)
  /-- A filter has the wrong number of values. -/
  | invalidFilter (operator : FilterOperator) (fault : ArityFault)
  /-- A statement refers to a parameter that was never allocated. -/
  | unknownParameter (index : Nat)
  deriving DecidableEq, Repr

/-- The wording of a fault of a range. -/
def RangeFault.message : RangeFault → String
  | unreadable bound => "cannot parse '" ++ bound ++ "'"
  | reversed first last => "'" ++ first ++ "' is after '" ++ last ++ "'"
  | tooLong granularity =>
    "series by " ++ granularity.name ++ " exceeds " ++ maxSeriesLength.repr ++ " buckets"
  | outOfRange => "date out of range"

/-- The wording of a fault of a number of values. -/
def ArityFault.message : ArityFault → String
  | noValue => "at least one value required"
  | notOne count => "exactly one value required, got " ++ count.repr
  | notPair count => "a [from, to] pair required, got " ++ count.repr ++ " values"

/-- The wording of an error. -/
def SqlError.message : SqlError → String
  | unknownGranularity name =>
    "Unknown granularity '" ++ name ++ "'. Expected one of: " ++
      ", ".intercalate (Granularity.all.map Granularity.name)
  | unknownDialect name => "Unknown dialect '" ++ name ++ "'"
  | invalidTimezone timezone => "Invalid timezone '" ++ timezone ++ "'"
  | emptySeries => "Date series requires at least one time range"
  | invalidDateRange fault => "Invalid date range: " ++ fault.message
  | invalidFilter operator fault =>
    "Invalid '" ++ operator.name ++ "' filter: " ++ fault.message
  | unknownParameter index => "Parameter marker $" ++ index.repr ++ "$ was never allocated"

end SemanticLayer.Sql
