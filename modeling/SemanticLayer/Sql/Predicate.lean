import SemanticLayer.Query.Annotations
import SemanticLayer.Sql.Parameter

/-!
# Predicates of filters

A filter on one column becomes a predicate. Its values become parameters, cast by the declared type
of the member and never by their look. The number of values is checked before the first of them is
allocated.

Compilation allocates parameters, also where it fails later on: `Compile` keeps what was allocated
before an error. A negated comparison also holds for a column without a value.
-/

namespace SemanticLayer.Sql

open Query (FilterOperator MatchKind SemanticType)

/-- A computation that allocates parameters and may fail. Parameters outlive a failure. -/
abbrev Compile := ExceptT SqlError (StateM Parameters)

/-- A filter on a column whose expression has been rendered. -/
structure Condition where
  /-- The expression of the column. -/
  column : String
  /-- The declared type of the member. -/
  type : SemanticType
  /-- The comparison. -/
  operator : FilterOperator
  /-- What is compared with. -/
  values : List String
  deriving DecidableEq, Repr

/-- The cast of parameters that are compared with members of a type. -/
def ParameterCast.ofType : SemanticType → ParameterCast
  | .boolean => .boolean
  | .number => .number
  | _ => .untyped

/-! ### Parameters -/

/-- Allocates a parameter. -/
def allocate (value : String) : Compile String :=
  modifyGet (Parameters.allocate · value)

/-- Allocates a parameter and casts it to the type of a member. -/
def castedParameter (dialect : Dialect) (type : SemanticType) (value : String) : Compile String :=
  (dialect.castParameter · (.ofType type)) <$> allocate value

/-- Allocates a parameter that is a timestamp in the wire form. -/
def timestampParameter (dialect : Dialect) (value : String) : Compile String :=
  dialect.castTimestampLiteral <$> allocate value

/-- The match of a column against a pattern with an allocated value. -/
def matchPredicate (dialect : Dialect) (column : String) (negated : Bool) (kind : MatchKind)
    (value : String) : Compile String :=
  dialect.like column negated kind <$> allocate value

/-! ### Arity -/

/-- The values, of which there must be one. -/
def someValues (condition : Condition) : Compile (List String) :=
  if condition.values.isEmpty then throw (.invalidFilter condition.operator .noValue)
  else pure condition.values

/-- The only value. -/
def onlyValue (condition : Condition) : Compile String :=
  match condition.values with
  | [value] => pure value
  | values => throw (.invalidFilter condition.operator (.notOne values.length))

/-- The two values. -/
def valuePair (condition : Condition) : Compile (String × String) :=
  match condition.values with
  | [first, last] => pure (first, last)
  | values => throw (.invalidFilter condition.operator (.notPair values.length))

/-! ### Texts -/

/-- A predicate, or the column having no value. -/
def orNull (predicate column : String) : String :=
  "(" ++ predicate ++ " OR " ++ column ++ " IS NULL)"

/-- The comparison of a column with the only parameter or with a list of them. -/
def equalityText (column : String) (negated : Bool) (parameters : List String) : String :=
  let comparison := match parameters with
    | [parameter] => (if negated then " <> " else " = ") ++ parameter
    | parameters =>
      (if negated then " NOT IN (" else " IN (") ++ ", ".intercalate parameters ++ ")"
  if negated then orNull (column ++ comparison) column else column ++ comparison

/-- Matches of a column: all of them if they are negated, otherwise any of them. -/
def patternsText (column : String) (negated : Bool) (predicates : List String) : String :=
  if negated then orNull (" AND ".intercalate predicates) column
  else match predicates with
    | [predicate] => predicate
    | predicates => "(" ++ " OR ".intercalate predicates ++ ")"

/-- The comparison of a column with a parameter by a sign. -/
def comparisonText (column sign parameter : String) : String :=
  column ++ " " ++ sign ++ " " ++ parameter

/-- Whether a column has a value. -/
def presenceText (column : String) (present : Bool) : String :=
  column ++ (if present then " IS NOT NULL" else " IS NULL")

/-- The position of a column relative to two parameters. -/
def rangeText (column : String) (inside : Bool) (first last : String) : String :=
  if inside then "(" ++ column ++ " >= " ++ first ++ " AND " ++ column ++ " <= " ++ last ++ ")"
  else "(" ++ column ++ " < " ++ first ++ " OR " ++ column ++ " > " ++ last ++ ")"

/-! ### Predicates -/

/-- The comparison of a column with one value or with a list of them. -/
def equality (dialect : Dialect) (condition : Condition) (negated : Bool) : Compile String := do
  let values ← someValues condition
  let parameters ← values.mapM (castedParameter dialect condition.type)
  return equalityText condition.column negated parameters

/-- The match of a column against a pattern for each value. -/
def patterns (dialect : Dialect) (condition : Condition) (kind : MatchKind) (negated : Bool) :
    Compile String := do
  let values ← someValues condition
  let predicates ← values.mapM (matchPredicate dialect condition.column negated kind)
  return patternsText condition.column negated predicates

/-- The comparison of a column with the only value by a sign. -/
def comparison (dialect : Dialect) (condition : Condition) (sign : String) : Compile String := do
  let parameter ← castedParameter dialect condition.type (← onlyValue condition)
  return comparisonText condition.column sign parameter

/-- The comparison of a column with the only value, a timestamp, by a sign. -/
def dateComparison (dialect : Dialect) (condition : Condition) (sign : String) :
    Compile String := do
  let parameter ← timestampParameter dialect (← onlyValue condition)
  return comparisonText condition.column sign parameter

/-- The position of a column relative to a range of timestamps. -/
def rangePredicate (dialect : Dialect) (condition : Condition) (inside : Bool) :
    Compile String := do
  let (first, last) ← valuePair condition
  let first ← timestampParameter dialect first
  let last ← timestampParameter dialect last
  return rangeText condition.column inside first last

/-- The predicate of a condition. -/
def Condition.compile (dialect : Dialect) (condition : Condition) : Compile String :=
  match condition.operator with
  | .equals | .isIn => equality dialect condition false
  | .notEquals | .notIn => equality dialect condition true
  | .contains => patterns dialect condition .contains false
  | .notContains => patterns dialect condition .contains true
  | .startsWith => patterns dialect condition .startsWith false
  | .notStartsWith => patterns dialect condition .startsWith true
  | .endsWith => patterns dialect condition .endsWith false
  | .notEndsWith => patterns dialect condition .endsWith true
  | .gt => comparison dialect condition ">"
  | .gte => comparison dialect condition ">="
  | .lt => comparison dialect condition "<"
  | .lte => comparison dialect condition "<="
  | .isSet => pure (presenceText condition.column true)
  | .notSet => pure (presenceText condition.column false)
  | .inDateRange | .onTheDate => rangePredicate dialect condition true
  | .notInDateRange => rangePredicate dialect condition false
  | .beforeDate => dateComparison dialect condition "<"
  | .beforeOrOnDate => dateComparison dialect condition "<="
  | .afterDate => dateComparison dialect condition ">"
  | .afterOrOnDate => dateComparison dialect condition ">="

/-- The predicates of conditions, all of which must hold; none if there are no conditions. -/
def compileAll (dialect : Dialect) (conditions : List Condition) : Compile (Option String) := do
  let predicates ← conditions.mapM (Condition.compile dialect)
  return if predicates.isEmpty then none else some (" AND ".intercalate predicates)

end SemanticLayer.Sql
