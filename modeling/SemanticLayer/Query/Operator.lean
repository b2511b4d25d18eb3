/-!
# Filter operators

The comparisons that a filter on a single member may make.
-/

namespace SemanticLayer.Query

/-- An operator of a filter. -/
inductive FilterOperator where
  | equals
  | notEquals
  | isIn
  | notIn
  | contains
  | notContains
  | startsWith
  | notStartsWith
  | endsWith
  | notEndsWith
  | gt
  | gte
  | lt
  | lte
  | isSet
  | notSet
  | inDateRange
  | notInDateRange
  | onTheDate
  | beforeDate
  | beforeOrOnDate
  | afterDate
  | afterOrOnDate
  deriving DecidableEq, Repr

namespace FilterOperator

/-- Every operator. -/
def all : List FilterOperator :=
  [equals, notEquals, isIn, notIn, contains, notContains, startsWith, notStartsWith, endsWith,
   notEndsWith, gt, gte, lt, lte, isSet, notSet, inDateRange, notInDateRange, onTheDate,
   beforeDate, beforeOrOnDate, afterDate, afterOrOnDate]

/-- The name of an operator in queries. -/
def name : FilterOperator → String
  | equals => "equals"
  | notEquals => "notEquals"
  | isIn => "in"
  | notIn => "notIn"
  | contains => "contains"
  | notContains => "notContains"
  | startsWith => "startsWith"
  | notStartsWith => "notStartsWith"
  | endsWith => "endsWith"
  | notEndsWith => "notEndsWith"
  | gt => "gt"
  | gte => "gte"
  | lt => "lt"
  | lte => "lte"
  | isSet => "set"
  | notSet => "notSet"
  | inDateRange => "inDateRange"
  | notInDateRange => "notInDateRange"
  | onTheDate => "onTheDate"
  | beforeDate => "beforeDate"
  | beforeOrOnDate => "beforeOrOnDate"
  | afterDate => "afterDate"
  | afterOrOnDate => "afterOrOnDate"

/-- The operator with exactly this name. -/
def ofName? (name : String) : Option FilterOperator :=
  all.find? (·.name == name)

theorem ofName?_name (operator : FilterOperator) : ofName? operator.name = some operator := by
  cases operator <;> decide

end FilterOperator

/-- Where the wildcards of a pattern stand. -/
inductive MatchKind where
  | contains
  | startsWith
  | endsWith
  | equals
  deriving DecidableEq, Repr

namespace MatchKind

/-- Every kind of match. -/
def all : List MatchKind :=
  [contains, startsWith, endsWith, equals]

/-- The name of a kind of match. -/
def name : MatchKind → String
  | contains => "contains"
  | startsWith => "startsWith"
  | endsWith => "endsWith"
  | equals => "equals"

/-- The kind of match with exactly this name. -/
def ofName? (name : String) : Option MatchKind :=
  all.find? (·.name == name)

end MatchKind

end SemanticLayer.Query
