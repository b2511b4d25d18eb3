import SemanticLayer.Response.Members

/-!
# Rows of a response

A row of a result is shaped in one of two ways: as the list of its values in the order of the
members, or as a map from members to values. The first goes by the resolved members and reads the
columns that they name; the second goes by the columns of the row itself.
-/

namespace SemanticLayer.Response

open Query

/-- The value of a column for a type; a column that is not there reads as null. -/
def columnValue (row : RawRow) (column : String) (type : SemanticType) : WireValue :=
  ((row.get? column).getD .null).coerce type

/-- The value of a member, given the label of the range. -/
def Source.value (label : Option String) (row : RawRow) : Source → WireValue
  | column name type => columnValue row name type
  | blending name type => columnValue row name type
  | rangeLabel => (label.map WireValue.string).getD .null

/-- The values of a row, in the order of the members. -/
def compactRow (members : MemberMap) (mode : Mode) (tds : List TimeDimension) (row : RawRow) :
    Except ResponseError (List WireValue) := do
  let label ← match mode with
    | .compareDateRange => some <$> rangeLabel tds
    | _ => pure none
  return members.toList.map fun entry ↦ entry.2.value label row

namespace Context

/-- Adds the values of columns. -/
def columnValues (context : Context) :
    WireRow → List (String × RawValue) → Except ResponseError WireRow
  | values, [] => .ok values
  | values, (column, raw) :: rest => do
    let (member, details) ← context.visibleMember column
    columnValues context (context.insertNamed values member (raw.coerce details.type)) rest

/-- Adds the value of the member of a derived mode. -/
def addDerivedValue (context : Context) (values : WireRow) : Except ResponseError WireRow :=
  match context.mode with
  | .regular => .ok values
  | .compareDateRange => do
    let label ← rangeLabel context.query.timeDimensions
    return values.insert rangeLabelName (.string label)
  | .blending => do
    let key ← blendingKey context.query.timeDimensions
    let member ← blendingMember context.query.timeDimensions
    match values.get? member.path with
    | some value => .ok (values.insert key value)
    | none => .error (.noBlendingColumn member)

/-- The values of a row, by member. -/
def vanillaRow (context : Context) (row : RawRow) : Except ResponseError WireRow := do
  let values ← context.columnValues .empty row.toList
  context.addDerivedValue values

end Context

end SemanticLayer.Response
