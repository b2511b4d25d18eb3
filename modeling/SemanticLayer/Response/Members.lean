import SemanticLayer.Response.Derived
import SemanticLayer.Response.Value

/-!
# Members of a response

The columns of a result are known by alias, the members of a response by path. The first row fixes
the columns; each stands for a member, which must be visible. A member with a granularity is also
given under its name without one, unless the query asks for that name as a plain dimension. A
derived mode adds its member last.
-/

namespace SemanticLayer.Response

open Query

/-- What is known of a result apart from its rows and the shape of the response. -/
structure Context where
  /-- The derived member to add. -/
  mode : Mode
  /-- The query that was run. -/
  query : Definition
  /-- The visible members. -/
  annotations : Annotations
  /-- The members of the columns. -/
  aliases : AliasMap

/-- Where the value of a member comes from. -/
inductive Source where
  /-- A column, coerced by a type. -/
  | column (name : String) (type : SemanticType)
  /-- The label of the range of the query. -/
  | rangeLabel
  /-- The column of the member that is blended by, coerced by a type. -/
  | blending (name : String) (type : SemanticType)
  deriving DecidableEq, Repr

/-- The column that a value is read from, if it is read from one. -/
def Source.column? : Source → Option String
  | column name _ => some name
  | rangeLabel => none
  | blending name _ => some name

/-- The members of a response, in order, with their sources. -/
abbrev MemberMap := OrderedMap Source

namespace Context

/-- The visible member that a column stands for, and its details. -/
def visibleMember (context : Context) (column : String) :
    Except ResponseError (Member × MemberDetails) :=
  match context.aliases.get? column with
  | none => .error (.hiddenMember column none)
  | some member =>
    match context.annotations.get? member.path with
    | none => .error (.hiddenMember column (some member))
    | some details => .ok (member, details)

/-- The name without granularity under which a member is also given. -/
def plainName? (context : Context) (member : Member) : Option Member :=
  member.withoutGranularity?.filter fun plain ↦ !context.query.hasDimension plain

/-- The names under which a member is given. -/
def namesOf (context : Context) (member : Member) : List String :=
  member.path :: ((context.plainName? member).map Member.path).toList

/-- Adds the value of a column under the names of its member. -/
def insertNamed {α : Type} (context : Context) (map : OrderedMap α) (member : Member)
    (value : α) : OrderedMap α :=
  map.insertList ((context.namesOf member).map (·, value))

/-- Adds the members of columns. -/
def columnMembers (context : Context) :
    MemberMap → List String → Except ResponseError MemberMap
  | members, [] => .ok members
  | members, column :: rest => do
    let (member, details) ← context.visibleMember column
    columnMembers context (context.insertNamed members member (.column column details.type)) rest

/-- Adds the member of a derived mode. -/
def addDerived (context : Context) (members : MemberMap) : Except ResponseError MemberMap :=
  match context.mode with
  | .regular => .ok members
  | .compareDateRange => .ok (members.insert rangeLabelName .rangeLabel)
  | .blending => do
    let key ← blendingKey context.query.timeDimensions
    let member ← blendingMember context.query.timeDimensions
    match members.get? member.path with
    | some (.column name type) => .ok (members.insert key (.blending name type))
    | _ => .error (.noBlendingColumn member)

/-- The members of a result; none if it has no rows. -/
def members (context : Context) (rows : List RawRow) : Except ResponseError MemberMap :=
  match rows with
  | [] => .ok .empty
  | first :: _ => do
    let members ← context.columnMembers .empty first.keys
    context.addDerived members

end Context

end SemanticLayer.Response
