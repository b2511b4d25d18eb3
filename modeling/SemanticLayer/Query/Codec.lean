import SemanticLayer.Json.Decode
import SemanticLayer.Query.Annotations
import SemanticLayer.Query.Basic

/-!
# Queries and annotations as documents

How the parts of a query and the annotations of a result are read from documents and written to
them. Fields are named in camel case. Fields without a value are left out when a record is written,
lists are always written.
-/

namespace SemanticLayer.Query

open Json

/-! ### Members and ranges -/

/-- A member is written as its path. -/
def Member.toJson (member : Member) : Value :=
  .string member.path

/-- Reads a member from its path. -/
def Member.decoder : Decoder Member :=
  fun depth tree ↦ (Decoder.string depth tree).map Member.mk

/-- A range is written as its words, or as the list of its bounds. -/
def DateRange.toJson : DateRange → Value
  | relative words => .string words
  | bounded first last => .strings [first, last]

/-- Reads a range from its words or its bounds. -/
def DateRange.decoder : Decoder DateRange :=
  Decoder.legible fun
    | _, .string words => words.map relative
    | _ + 1, .array [.string first, .string last] => do return bounded (← first) (← last)
    | _, _ => none

/-! ### Names -/

/-- A semantic type is written as its name. -/
def SemanticType.toJson (type : SemanticType) : Value :=
  .string type.name

/-- Reads a semantic type from any name. -/
def SemanticType.decoder : Decoder SemanticType :=
  Decoder.named fun name ↦ some (SemanticType.ofName name)

/-- An operator is written as its name. -/
def FilterOperator.toJson (operator : FilterOperator) : Value :=
  .string operator.name

/-- Reads an operator from its name. -/
def FilterOperator.decoder : Decoder FilterOperator :=
  Decoder.named FilterOperator.ofName?

/-- A kind of match is written as its name. -/
def MatchKind.toJson (kind : MatchKind) : Value :=
  .string kind.name

/-- Reads a kind of match from its name. -/
def MatchKind.decoder : Decoder MatchKind :=
  Decoder.named MatchKind.ofName?

/-- A mode is written as its name. -/
def Mode.toJson (mode : Mode) : Value :=
  .string mode.name

/-- Reads a mode from one of its names. -/
def Mode.decoder : Decoder Mode :=
  Decoder.named Mode.ofName?

/-- A shape is written as its name. -/
def Shape.toJson (shape : Shape) : Value :=
  .string shape.name

/-- Reads a shape from its name. -/
def Shape.decoder : Decoder Shape :=
  Decoder.named Shape.ofName?

/-! ### Records -/

/-- A time dimension as an object of the fields that have a value. -/
def TimeDimension.toJson (td : TimeDimension) : Value :=
  .object (Value.entry? "dimension" Member.toJson td.dimension ++
    Value.entry? "granularity" .string td.granularity ++
    Value.entry? "dateRange" DateRange.toJson td.dateRange)

/-- Reads a time dimension. -/
def TimeDimension.decoder : Decoder TimeDimension :=
  Decoder.record ["dimension", "granularity", "dateRange"] fun depth present ↦ do
    let dimension ← Decoder.optional Member.decoder depth present "dimension"
    let granularity ← Decoder.optional Decoder.string depth present "granularity"
    let dateRange ← Decoder.optional DateRange.decoder depth present "dateRange"
    return ⟨dimension, granularity, dateRange⟩

/-- An entry of an order as an object. -/
def Order.toJson (order : Order) : Value :=
  .object [("id", order.id.toJson), ("desc", .bool order.desc)]

/-- Reads an entry of an order, ascending unless it says otherwise. -/
def Order.decoder : Decoder Order :=
  Decoder.record ["id", "desc"] fun depth present ↦ do
    let id ← Decoder.required Member.decoder depth present "id"
    let desc ← Decoder.defaulted Decoder.bool false depth present "desc"
    return ⟨id, desc⟩

/-- A filter as an object. -/
def Filter.toJson (filter : Filter) : Value :=
  .object [("member", filter.member.toJson), ("operator", filter.operator.toJson),
    ("values", .strings filter.values)]

/-- Reads a filter, without values unless it gives some. -/
def Filter.decoder : Decoder Filter :=
  Decoder.record ["member", "operator", "values"] fun depth present ↦ do
    let member ← Decoder.required Member.decoder depth present "member"
    let operator ← Decoder.required FilterOperator.decoder depth present "operator"
    let values ← Decoder.defaulted (Decoder.list Decoder.string) [] depth present "values"
    return ⟨member, operator, values⟩

/-- An unsigned number as a number. -/
def unsignedToJson (n : UInt64) : Value :=
  .number (Number.ofUInt64 n)

/-- A query as an object. -/
def Definition.toJson (query : Definition) : Value :=
  .object ([("measures", .array (query.measures.map Member.toJson)),
    ("dimensions", .array (query.dimensions.map Member.toJson)),
    ("timeDimensions", .array (query.timeDimensions.map TimeDimension.toJson)),
    ("segments", .array (query.segments.map Member.toJson)),
    ("filters", .array (query.filters.map Filter.toJson)),
    ("order", .array (query.order.map Order.toJson))] ++
    Value.entry? "limit" unsignedToJson query.limit ++
    Value.entry? "offset" unsignedToJson query.offset ++
    Value.entry? "timezone" .string query.timezone)

/-- Reads a query; every part of it may be absent. -/
def Definition.decoder : Decoder Definition :=
  Decoder.record ["measures", "dimensions", "timeDimensions", "segments", "filters", "order",
      "limit", "offset", "timezone"] fun depth present ↦ do
    let members := Decoder.list Member.decoder
    let measures ← Decoder.defaulted members [] depth present "measures"
    let dimensions ← Decoder.defaulted members [] depth present "dimensions"
    let timeDimensions ←
      Decoder.defaulted (Decoder.list TimeDimension.decoder) [] depth present "timeDimensions"
    let segments ← Decoder.defaulted members [] depth present "segments"
    let filters ← Decoder.defaulted (Decoder.list Filter.decoder) [] depth present "filters"
    let order ← Decoder.defaulted (Decoder.list Order.decoder) [] depth present "order"
    let limit ← Decoder.optional Decoder.unsigned depth present "limit"
    let offset ← Decoder.optional Decoder.unsigned depth present "offset"
    let timezone ← Decoder.optional Decoder.string depth present "timezone"
    return ⟨measures, dimensions, timeDimensions, segments, filters, order, limit, offset,
      timezone⟩

/-! ### Annotations -/

/-- The details of a member as an object. -/
def MemberDetails.toJson (entry : MemberDetails) : Value :=
  .object (("type", entry.type.toJson) ::
    (Value.entry? "title" .string entry.title ++
      Value.entry? "shortTitle" .string entry.shortTitle ++
      Value.entry? "description" .string entry.description ++
      Value.entry? "format" .string entry.format ++
      Value.entry? "meta" id entry.extra))

/-- Reads the details of a member, of which only the type is required. -/
def MemberDetails.decoder : Decoder MemberDetails :=
  Decoder.record ["type", "title", "shortTitle", "description", "format", "meta"]
    fun depth present ↦ do
      let type ← Decoder.required SemanticType.decoder depth present "type"
      let title ← Decoder.optional Decoder.string depth present "title"
      let shortTitle ← Decoder.optional Decoder.string depth present "shortTitle"
      let description ← Decoder.optional Decoder.string depth present "description"
      let format ← Decoder.optional Decoder.string depth present "format"
      let extra ← Decoder.optional Decoder.value depth present "meta"
      return ⟨type, title, shortTitle, description, format, extra⟩

/-- Annotations as an object, sorted by path. -/
def Annotations.toJson (annotations : Annotations) : Value :=
  .object (annotations.toList.foldl
    (fun sorted entry ↦ insertSorted entry.1 entry.2.toJson sorted) [])

/-- Reads annotations; the last of several for one member counts. -/
def Annotations.decoder : Decoder Annotations :=
  fun depth tree ↦ (Decoder.entries MemberDetails.decoder depth tree).map OrderedMap.ofList

/-- Reads the members of aliases; the last of several for one alias counts. -/
def AliasMap.decoder : Decoder AliasMap :=
  fun depth tree ↦ (Decoder.entries Member.decoder depth tree).map OrderedMap.ofList

end SemanticLayer.Query
