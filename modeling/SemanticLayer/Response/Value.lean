import SemanticLayer.Calendar.Reader
import SemanticLayer.Json.Decode
import SemanticLayer.Query.Annotations

/-!
# Values of results and responses

A raw value is what a database hands over; a wire value is what a response carries. Coercion turns
the one into the other by the semantic type of the member: times become texts in the wire form,
and everything else passes through unchanged.

A time that cannot be read also passes through. `RawValue.isUnreadable` says when that happens, so
that it can be reported.
-/

namespace SemanticLayer.Response

open Calendar (Timestamp)
open Json
open Query (SemanticType)

/-! ### Wire values -/

/-- A value of a response. -/
inductive WireValue where
  | null
  | bool (value : Bool)
  | number (value : Number)
  | string (value : String)
  deriving DecidableEq

/-- A wire value as a document. -/
def WireValue.toJson : WireValue → Value
  | null => .null
  | bool value => .bool value
  | number value => .number value
  | string value => .string value

/-- Reads a wire value; lists and objects are none. -/
def WireValue.decoder : Decoder WireValue
  | _, .null => some null
  | _, .bool value => some (bool value)
  | _, .number value => value.map number
  | _, .string value => value.map string
  | _, _ => none

/-! ### Raw values -/

/-- A value of a result. -/
inductive RawValue where
  | null
  | bool (value : Bool)
  | number (value : Number)
  | string (value : String)
  /-- A timestamp of the database's own. -/
  | timestamp (value : Timestamp)
  deriving DecidableEq

namespace RawValue

/-- The value of the field that marks a timestamp, which must occur once. -/
def dateField? : List (Option String × Tree) → Option String
  | [] => none
  | (key, value) :: entries =>
    if key = some "$date" then
      if entries.any (·.1 = some "$date") then none
      else match value with
        | .string text => text
        | _ => none
    else dateField? entries

/-- Reads a raw value. A timestamp is an object with its text under `$date`; other keys of the
object are skipped, but must be legible. -/
def decoder : Decoder RawValue :=
  Decoder.legible fun
    | _, .null => some null
    | _, .bool value => some (bool value)
    | _, .number value => value.map number
    | _, .string value => value.map string
    | _, .object entries => (dateField? entries).bind fun text ↦
        (Timestamp.parse? text).map timestamp
    | _, .array _ => none

/-! ### Coercion -/

/-- Whether a value counts as present where a time is expected: not null, false, zero or empty. -/
def isTruthy : RawValue → Bool
  | null => false
  | bool value => value
  | number value => !value.isZero
  | string value => !value.isEmpty
  | timestamp _ => true

/-- The time that a value stands for: a text that can be read, or milliseconds from 1970. -/
def time? : RawValue → Option Timestamp
  | string text => Timestamp.parse? text
  | number value => Timestamp.ofEpochMilli? value.toSigned
  | timestamp value => some value
  | null => none
  | bool _ => none

/-- The value as it is passed through. -/
def toWire : RawValue → WireValue
  | null => .null
  | bool value => .bool value
  | number value => .number value
  | string value => .string value
  | timestamp value => .string value.wire

/-- Whether the value is to be read as a time for members of a type. -/
def isTimed (raw : RawValue) (type : SemanticType) : Bool :=
  type == .time && raw.isTruthy

/-- The wire value for a member of a type. -/
def coerce (raw : RawValue) (type : SemanticType) : WireValue :=
  match raw.isTimed type, raw.time? with
  | true, some time => .string time.wire
  | _, _ => raw.toWire

/-- Whether the value should have been a time but could not be read as one. -/
def isUnreadable (raw : RawValue) (type : SemanticType) : Bool :=
  raw.isTimed type && raw.time?.isNone

end RawValue

/-! ### Rows -/

/-- A row of a result, by alias. -/
abbrev RawRow := OrderedMap RawValue

/-- A row of a response, by member. -/
abbrev WireRow := OrderedMap WireValue

/-- Reads a row from an object; a repeated alias keeps its first place and its last value. -/
def RawRow.decoder : Decoder RawRow :=
  fun depth tree ↦ (Decoder.entries RawValue.decoder depth tree).map OrderedMap.ofList

/-- A row as an object. -/
def WireRow.toJson (row : WireRow) : Value :=
  .object (row.toList.map fun entry ↦ (entry.1, entry.2.toJson))

end SemanticLayer.Response
