import SemanticLayer.Json.Decode
import SemanticLayer.Sql.Dialect

/-!
# Dialects and ranges as documents

How dialects, granularities and ranges of time are read from documents and written to them.
Dialects and granularities are known by their names, which are written in lower case; a range is a
record of its two ends, and neither may be absent.
-/

namespace SemanticLayer

open Json

/-- A granularity is written as its name. -/
def Calendar.Granularity.toJson (granularity : Calendar.Granularity) : Value :=
  .string granularity.name

/-- Reads a granularity from its name. -/
def Calendar.Granularity.decoder : Decoder Calendar.Granularity :=
  Decoder.named Calendar.Granularity.ofName?

namespace Sql

/-- A dialect is written as its name. -/
def Dialect.toJson (dialect : Dialect) : Value :=
  .string dialect.name

/-- Reads a dialect from one of its names. -/
def Dialect.decoder : Decoder Dialect :=
  Decoder.named Dialect.ofName?

/-- A range of time as an object. -/
def TimeRange.toJson (range : TimeRange) : Value :=
  .object [("from", .string range.first), ("to", .string range.last)]

/-- Reads a range of time. -/
def TimeRange.decoder : Decoder TimeRange :=
  Decoder.record ["from", "to"] fun depth present ↦ do
    let first ← Decoder.required Decoder.string depth present "from"
    let last ← Decoder.required Decoder.string depth present "to"
    return ⟨first, last⟩

end Sql

end SemanticLayer
