import SemanticLayer.Sql.DateSeries
import SemanticLayer.Sql.Timezone
import SemanticLayer.Text.Casing

/-!
# Dialects

Everything in which the supported engines differ: a closed set of primitives, each of which gives
the SQL text for one purpose in one dialect. Arguments are expressions that have already been
rendered; they are inserted as they are, and only names, string literals and timezones are quoted
or checked here.

The two dialects agree on identifiers, on indicators, on the unix time and on the pattern of
timestamps. They differ in placeholders, timezones, casts, concatenation and the layout of a
series.
-/

namespace SemanticLayer.Sql

open Calendar (Granularity)
open Query (MatchKind)

/-- A supported engine. -/
inductive Dialect where
  /-- The default. -/
  | vertica
  | postgres
  deriving DecidableEq, Repr

/-- The cast of a parameter to the type of the member it is compared with. -/
inductive ParameterCast where
  | untyped
  | boolean
  | number
  deriving DecidableEq, Repr

/-- The texts before and after the value in a pattern. -/
def wildcards : MatchKind → String × String
  | .contains => ("%", "%")
  | .startsWith => ("", "%")
  | .endsWith => ("%", "")
  | .equals => ("", "")

namespace Dialect

/-! ### Names -/

/-- Every dialect. -/
def all : List Dialect :=
  [vertica, postgres]

/-- The name of a dialect. -/
def name : Dialect → String
  | vertica => "vertica"
  | postgres => "postgres"

/-- The dialect with exactly this name; one has a second, longer name. -/
def ofName? : String → Option Dialect
  | "vertica" => some vertica
  | "postgres" => some postgres
  | "postgresql" => some postgres
  | _ => none

/-- The dialect with this name, in capitals or not. -/
def parse (text : String) : Except SqlError Dialect :=
  let name := Text.lowercase text
  match ofName? name with
  | some dialect => .ok dialect
  | none => .error (.unknownDialect name)

/-! ### Time -/

/-- The start of the bucket that holds a date. -/
def truncate (dialect : Dialect) (g : Granularity) (date : String) : String :=
  let function := match dialect with
    | vertica => "DATE_TRUNC"
    | postgres => "date_trunc"
  function ++ "('" ++ g.name ++ "', " ++ date ++ ")"

/-- The start of the bucket of a granularity that is given by name. -/
def truncateNamed (dialect : Dialect) (granularity date : String) : Except SqlError String :=
  match Granularity.ofName? granularity with
  | some g => .ok (dialect.truncate g date)
  | none => .error (.unknownGranularity granularity)

/-- A timestamp moved into a timezone. -/
def convertTimezone (dialect : Dialect) (field timezone : String) : Except SqlError String := do
  let timezone ← Timezone.check timezone
  match dialect with
  | vertica => return field ++ " AT TIMEZONE '" ++ timezone ++ "'"
  | postgres => return "(" ++ field ++ "::timestamptz AT TIME ZONE '" ++ timezone ++ "')"

/-- A timestamp read from its wire form. -/
def castTimestampLiteral : Dialect → String → String
  | vertica, value => "TO_TIMESTAMP(" ++ value ++ ", 'YYYY-MM-DD\"T\"HH24:MI:SS.MS')"
  | postgres, value => value ++ "::timestamptz"

/-- A date and time without a timezone. -/
def castDateTime : Dialect → String → String
  | vertica, value => value ++ "::TIMESTAMP"
  | postgres, value => value ++ "::timestamp"

/-- The pattern of the timestamps that `castTimestampLiteral` reads. -/
def timestampPattern (_ : Dialect) : String :=
  Calendar.wirePattern

/-- A subquery with one row for each range, in order. -/
def dateSeries (dialect : Dialect) (ranges : List TimeRange) : Except SqlError String := do
  match dialect with
  | vertica =>
    return "SELECT dates.f::TIMESTAMP date_from, dates.t::TIMESTAMP date_to FROM (" ++
      (← unionRows ranges) ++ ") AS dates"
  | postgres =>
    return "SELECT dates.f::timestamp AS date_from, dates.t::timestamp AS date_to FROM (VALUES " ++
      (← tupleRows ranges) ++ ") AS dates (f, t)"

/-- The seconds since the start of 1970. -/
def unixTime (_ : Dialect) : String :=
  "EXTRACT(EPOCH FROM NOW())"

/-! ### Names and strings -/

/-- A quoted identifier. -/
def identifier (_ : Dialect) (name : String) : String :=
  quoteIdentifier name

/-- The concatenation of strings. One dialect has an operator, the other a function of two
arguments, which nests to the left. -/
def concat : Dialect → List String → String
  | _, [] => "''"
  | vertica, first :: rest =>
    rest.foldl (fun joined part ↦ "CONCAT(" ++ joined ++ ", " ++ part ++ ")") first
  | postgres, [single] => single
  | postgres, parts => "(" ++ " || ".intercalate parts ++ ")"

/-- A predicate as the number one or zero. -/
def indicator (_ : Dialect) (predicate : String) : String :=
  "CASE WHEN " ++ predicate ++ " THEN 1 ELSE 0 END"

/-! ### Parameters -/

/-- The placeholder of the parameter at a position, counted from one. -/
def placeholder : Dialect → Nat → String
  | vertica, _ => "?"
  | postgres, position => "$" ++ position.repr

/-- The pattern of a kind of match around a parameter. -/
def pattern (dialect : Dialect) (kind : MatchKind) (parameter : String) : String :=
  let (before, after) := wildcards kind
  let wildcard (text : String) := if text.isEmpty then [] else [quoteString text]
  dialect.concat (wildcard before ++ [parameter] ++ wildcard after)

/-- The match of a column against a pattern, ignoring case. -/
def like (dialect : Dialect) (column : String) (negated : Bool) (kind : MatchKind)
    (parameter : String) : String :=
  column ++ (if negated then " NOT" else "") ++ " ILIKE " ++ dialect.pattern kind parameter

/-- A parameter cast to the type of the member it is compared with. -/
def castParameter : Dialect → String → ParameterCast → String
  | _, parameter, .untyped => parameter
  | vertica, parameter, .boolean => "CAST(" ++ parameter ++ " AS BOOLEAN)"
  | vertica, parameter, .number => "CAST(" ++ parameter ++ " AS DOUBLE PRECISION)"
  | postgres, parameter, .boolean => parameter ++ "::boolean"
  | postgres, parameter, .number => parameter ++ "::numeric"

end Dialect

end SemanticLayer.Sql
