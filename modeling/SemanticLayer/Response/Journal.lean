import SemanticLayer.Response.Request

/-!
# What a response logs

Responding is a pure function of the request, and so is what is logged on the way: a warning for
each time that cannot be read, in the rows up to the first one that fails, and on success a summary
if the options ask for one. A map by member warns once for each column, a list of values once for
each member.
-/

namespace SemanticLayer.Response

open Query

/-- An entry of the log. -/
inductive Event where
  /-- A time was passed through because it could not be read. -/
  | unreadableTime
  /-- A response was given: its mode and shape, the columns of the first row, and the rows. -/
  | responded (mode : Mode) (shape : Shape) (columns rows : Nat)
  deriving DecidableEq, Repr

/-- Whether a source reads an unreadable time from a row. -/
def Source.isUnreadable (row : RawRow) : Source → Bool
  | column name type => ((row.get? name).getD .null).isUnreadable type
  | blending name type => ((row.get? name).getD .null).isUnreadable type
  | rangeLabel => false

/-- Whether a column holds an unreadable time. -/
def Context.isUnreadable (context : Context) (column : String) (raw : RawValue) : Bool :=
  match context.visibleMember column with
  | .ok (_, details) => raw.isUnreadable details.type
  | .error _ => false

/-- The number of warnings of a row. -/
def Context.unreadableCount (context : Context) (shape : Shape) (members : MemberMap)
    (row : RawRow) : Nat :=
  match shape with
  | .compact => members.toList.countP fun entry ↦ entry.2.isUnreadable row
  | .vanilla => row.toList.countP fun entry ↦ context.isUnreadable entry.1 entry.2

/-- The rows before the first whose columns differ. -/
def Context.consistentRows (context : Context) (columns : List String) (rows : List RawRow) :
    List RawRow :=
  rows.takeWhile fun row ↦ (context.checkColumns columns 0 row).isOk

/-- The warnings of a request. -/
def Options.warnings (options : Options) (request : Request) : List Event :=
  let context := request.context
  let shape := request.shape.getD options.shape
  match checkMode context.mode context.query, context.members request.rows with
  | .ok _, .ok members =>
    let columns := (request.rows.head?.map OrderedMap.keys).getD []
    let rows := context.consistentRows columns request.rows
    rows.flatMap fun row ↦
      List.replicate (context.unreadableCount shape members row) .unreadableTime
  | _, _ => []

/-- Everything that responding to a request logs, in order. -/
def Options.journal (options : Options) (request : Request) : List Event :=
  let summary := match options.respond request with
    | .ok response =>
      if options.logsSummaries then
        [.responded request.context.mode (request.shape.getD options.shape)
          ((request.rows.head?.map OrderedMap.size).getD 0) response.rowCount]
      else []
    | .error _ => []
  options.warnings request ++ summary

/-- Everything that responding to a list of requests logs, up to the first error. -/
def Options.journalAll (options : Options) : List Request → List Event
  | [] => []
  | request :: requests =>
    options.journal request ++
      if (options.respond request).isOk then journalAll options requests else []

/-- Everything that responding to a batch logs. -/
def Options.journalBatch (options : Options) : Batch Request → List Event
  | .one request => options.journal request
  | .many requests => options.journalAll requests

end SemanticLayer.Response
