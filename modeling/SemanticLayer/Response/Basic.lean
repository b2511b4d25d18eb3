import SemanticLayer.Response.Rows

/-!
# Responses

A response is the rows of a result in one of two shapes. Either every row is shaped, in order, or
there is no response: the mode is checked first, then the members of the first row, then each row
in turn, which must have exactly the columns of the first.
-/

namespace SemanticLayer.Response

open Json
open Query

/-- What a response consists of: a result as its reader sees it. -/
inductive Body where
  /-- The members, and the values of each row in their order. -/
  | compact (members : List String) (rows : List (List WireValue))
  /-- The values of each row by member. -/
  | vanilla (rows : List WireRow)
  deriving DecidableEq

namespace Body

/-- The number of rows. -/
def rowCount : Body → Nat
  | compact _ rows => rows.length
  | vanilla rows => rows.length

/-- A response as a document. -/
def toJson : Body → Value
  | compact members rows =>
    .object [("members", .strings members),
      ("dataset", .array (rows.map fun row ↦ .array (row.map WireValue.toJson)))]
  | vanilla rows => .array (rows.map WireRow.toJson)

end Body

namespace Context

/-- A row has exactly the given columns. A column too many that stands for no visible member is an
error of its own. -/
def checkColumns (context : Context) (columns : List String) (index : Nat) (row : RawRow) :
    Except ResponseError Unit :=
  match row.keys.find? (!columns.contains ·) with
  | some column => do
    let _ ← context.visibleMember column
    .error (.inconsistentRow index column)
  | none =>
    match columns.find? (!row.contains ·) with
    | some column => .error (.inconsistentRow index column)
    | none => .ok ()

/-- Shapes rows one after another, from the one at `index` on, checking the columns of each. -/
def shapeRows {α : Type} (context : Context) (columns : List String)
    (shape : RawRow → Except ResponseError α) : Nat → List RawRow → Except ResponseError (List α)
  | _, [] => .ok []
  | index, row :: rows => do
    context.checkColumns columns index row
    let shaped ← shape row
    let rest ← shapeRows context columns shape (index + 1) rows
    return shaped :: rest

/-- The response to a result in a shape. -/
def respond (context : Context) (shape : Shape) (rows : List RawRow) :
    Except ResponseError Body := do
  checkMode context.mode context.query
  let members ← context.members rows
  let columns := (rows.head?.map OrderedMap.keys).getD []
  match shape with
  | .compact =>
    let rows ← context.shapeRows columns
      (compactRow members context.mode context.query.timeDimensions) 0 rows
    return .compact members.keys rows
  | .vanilla =>
    let rows ← context.shapeRows columns context.vanillaRow 0 rows
    return .vanilla rows

end Context

end SemanticLayer.Response
