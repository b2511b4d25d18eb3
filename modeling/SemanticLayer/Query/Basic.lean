import SemanticLayer.Query.Member
import SemanticLayer.Query.Operator

/-!
# Queries

A query after its names have been resolved: which members it asks for, how it filters, orders and
limits, and over which time. The parts are read and written as they come; nothing here checks that
they fit together.
-/

namespace SemanticLayer.Query

/-! ### Time dimensions -/

/-- The range of a time dimension. -/
inductive DateRange where
  /-- A range named by words, such as the last week. -/
  | relative (words : String)
  /-- A range with two bounds. -/
  | bounded (first last : String)
  deriving DecidableEq, Repr

/-- A range as it is shown in messages. -/
def DateRange.display : DateRange → String
  | relative words => "'" ++ words ++ "'"
  | bounded first last => "['" ++ first ++ "', '" ++ last ++ "']"

/-- A time dimension of a query. -/
structure TimeDimension where
  /-- The member that holds the time. -/
  dimension : Option Member
  /-- The granularity that is asked for. -/
  granularity : Option String
  /-- The range that is asked for. -/
  dateRange : Option DateRange
  deriving DecidableEq, Repr

/-- A time dimension as it is shown in messages. -/
def TimeDimension.display (td : TimeDimension) : String :=
  (match td.dimension with
    | some dimension => dimension.path
    | none => "<no dimension>") ++
  (match td.granularity with
    | some granularity => " by " ++ granularity
    | none => "") ++
  (match td.dateRange with
    | some range => " over " ++ range.display
    | none => "")

/-! ### Other parts -/

/-- An entry of the order of a query. -/
structure Order where
  /-- The member to sort by. -/
  id : Member
  /-- Whether larger values come first. -/
  desc : Bool
  deriving DecidableEq, Repr

/-- A filter on one member. -/
structure Filter where
  /-- The filtered member. -/
  member : Member
  /-- The comparison. -/
  operator : FilterOperator
  /-- What is compared with. -/
  values : List String
  deriving DecidableEq, Repr

/-- A query. -/
structure Definition where
  /-- The measures that are asked for. -/
  measures : List Member
  /-- The dimensions that are asked for without a granularity. -/
  dimensions : List Member
  /-- The time dimensions that are asked for. -/
  timeDimensions : List TimeDimension
  /-- The segments that restrict the result. -/
  segments : List Member
  /-- The filters that restrict the result. -/
  filters : List Filter
  /-- The order of the result. -/
  order : List Order
  /-- The largest number of rows. -/
  limit : Option UInt64
  /-- The number of rows to skip. -/
  offset : Option UInt64
  /-- The timezone of the query. -/
  timezone : Option String
  deriving DecidableEq, Repr

/-- Whether a query asks for a member as a plain dimension. -/
def Definition.hasDimension (query : Definition) (member : Member) : Bool :=
  query.dimensions.contains member

/-! ### Modes and shapes -/

/-- Which derived member a result carries. -/
inductive Mode where
  /-- None. -/
  | regular
  /-- The range that the result was computed for. -/
  | compareDateRange
  /-- The time bucket, under a key that all blended queries share. -/
  | blending
  deriving DecidableEq, Repr

namespace Mode

/-- The name of a mode in requests. -/
def name : Mode → String
  | regular => "regular"
  | compareDateRange => "compareDateRangeQuery"
  | blending => "blendingQuery"

/-- The mode of a name; the regular mode has a second one. -/
def ofName? : String → Option Mode
  | "regular" => some regular
  | "regularQuery" => some regular
  | "compareDateRangeQuery" => some compareDateRange
  | "blendingQuery" => some blending
  | _ => none

end Mode

/-- The shape of a response. -/
inductive Shape where
  /-- A list of objects with members as keys. -/
  | vanilla
  /-- The members once, and rows of values in their order. -/
  | compact
  deriving DecidableEq, Repr

namespace Shape

/-- The name of a shape in requests. -/
def name : Shape → String
  | vanilla => "default"
  | compact => "compact"

/-- The shape with exactly this name. -/
def ofName? : String → Option Shape
  | "default" => some vanilla
  | "compact" => some compact
  | _ => none

end Shape

end SemanticLayer.Query
