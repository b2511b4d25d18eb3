import SemanticLayer.Query.Basic

/-!
# Errors of a response

Why a result cannot be turned into a response. Every error ends the whole response; there are no
partial ones. `ResponseError.message` gives each cause its wording.
-/

namespace SemanticLayer.Response

open Query (Member TimeDimension)

/-- A mode that adds a derived member. -/
inductive DerivedMode where
  | compareDateRange
  | blending
  deriving DecidableEq, Repr

/-- What a derived mode is called in messages. -/
def DerivedMode.label : DerivedMode → String
  | compareDateRange => "compare date range"
  | blending => "blending"

/-- Why a text is no request. -/
inductive RequestFault where
  /-- It is no well-formed document. -/
  | malformed
  /-- It is a document, but neither a request nor a list of requests. -/
  | unrecognized
  deriving DecidableEq, Repr

/-- An error of a response. -/
inductive ResponseError where
  /-- A column stands for no member, or for one that is not visible. -/
  | hiddenMember (column : String) (member : Option Member)
  /-- A derived mode needs a time dimension. -/
  | noTimeDimension (mode : DerivedMode)
  /-- A derived mode needs a single time dimension. -/
  | manyTimeDimensions (mode : DerivedMode) (count : Nat)
  /-- The range to compare is not given. -/
  | noDateRange (dimension : TimeDimension)
  /-- The range to compare has no bounds. -/
  | relativeDateRange (words : String)
  /-- The granularity to blend by is not given. -/
  | noGranularity (dimension : TimeDimension)
  /-- The dimension to blend by is not given. -/
  | noDimension (dimension : TimeDimension)
  /-- The member to blend by is not among the columns. -/
  | noBlendingColumn (member : Member)
  /-- A row has other columns than the first. -/
  | inconsistentRow (row : Nat) (column : String)
  /-- A text is no request. -/
  | invalidRequest (fault : RequestFault)
  deriving DecidableEq, Repr

/-- The wording of an error. What makes a text malformed is not part of it. -/
def ResponseError.message : ResponseError → String
  | hiddenMember column _ =>
    "You requested hidden member: '" ++ column ++ "'. Please make it visible using " ++
      "`shown: true`. Please note primaryKey fields are `shown: false` by default."
  | noTimeDimension mode =>
    "QueryTimeDimension should be specified for the " ++ mode.label ++ " query."
  | manyTimeDimensions mode count =>
    "Exactly one QueryTimeDimension is supported for the " ++ mode.label ++ " query, got " ++
      count.repr ++ "."
  | noDateRange dimension =>
    "Inconsistent QueryTimeDimension configuration for the compare date range query, " ++
      "dateRange required: " ++ dimension.display
  | relativeDateRange words =>
    "Inconsistent dateRange configuration for the compare date range query: " ++ words
  | noGranularity dimension =>
    "Inconsistent QueryTimeDimension configuration for the blending query, " ++
      "granularity required: " ++ dimension.display
  | noDimension dimension =>
    "Inconsistent QueryTimeDimension configuration for the blending query, " ++
      "dimension required: " ++ dimension.display
  | noBlendingColumn member =>
    "Blending time dimension '" ++ member.path ++ "' is not among the result columns."
  | inconsistentRow row column =>
    "Row " ++ row.repr ++ " does not have the columns of the first row (column '" ++ column ++
      "')."
  | invalidRequest .malformed => "Invalid transform request"
  | invalidRequest .unrecognized =>
    "Invalid transform request: data did not match any variant of untagged enum TransformInput"

end SemanticLayer.Response
