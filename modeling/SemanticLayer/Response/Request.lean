import SemanticLayer.Query.Codec
import SemanticLayer.Response.Basic

/-!
# Requests

A request hands over a result with everything that is needed to respond to it. Requests come one at
a time or as a list, and are answered in kind; the first error of a list is the answer to all of it.

A request may name the shape of its response. Otherwise the options decide.
-/

namespace SemanticLayer.Response

open Json
open Query

/-- A result to respond to. -/
structure Request where
  /-- What is known of the result. -/
  context : Context
  /-- The rows of the result. -/
  rows : List RawRow
  /-- The shape of the response, if the request names one. -/
  shape : Option Shape

/-- Reads a request. -/
def Request.decoder : Decoder Request :=
  Decoder.record ["aliasToMemberNameMap", "annotation", "data", "query", "queryType", "resType"]
    fun depth present ↦ do
      let aliases ← Decoder.required AliasMap.decoder depth present "aliasToMemberNameMap"
      let annotations ← Decoder.required Annotations.decoder depth present "annotation"
      let rows ← Decoder.defaulted (Decoder.list RawRow.decoder) [] depth present "data"
      let query ← Decoder.required Definition.decoder depth present "query"
      let mode ← Decoder.defaulted Mode.decoder .regular depth present "queryType"
      let shape ← Decoder.optional Shape.decoder depth present "resType"
      return ⟨⟨mode, query, annotations, aliases⟩, rows, shape⟩

/-- One thing or a list of them. -/
inductive Batch (α : Type) where
  | one (item : α)
  | many (items : List α)

namespace Batch

/-- Reads a request, or a list of requests if the document is not one request. -/
def decoder : Decoder (Batch Request) :=
  fun depth tree ↦
    ((Request.decoder depth tree).map one).or
      ((Decoder.list Request.decoder depth tree).map many)

/-- The requests of a text. The whole document must be legible before it is asked what it is. -/
def ofText (text : String) : Except ResponseError (Batch Request) :=
  match Tree.front? text.toList with
  | none => .error (.invalidRequest .malformed)
  | some (tree, rest) =>
    if tree.isLegible Tree.depthLimit then
      match decoder Tree.depthLimit tree with
      | none => .error (.invalidRequest .unrecognized)
      | some batch =>
        if (Tree.skipSpace rest).isEmpty then .ok batch else .error (.invalidRequest .malformed)
    else .error (.invalidRequest .malformed)

/-- Responses as a document. -/
def toJson : Batch Body → Value
  | one response => response.toJson
  | many responses => .array (responses.map Body.toJson)

end Batch

/-! ### Responding -/

/-- How requests are responded to. -/
structure Options where
  /-- The shape of responses to requests that name none. -/
  shape : Shape
  /-- Whether a summary of each response is logged. -/
  logsSummaries : Bool
  deriving DecidableEq, Repr

/-- Responses are maps by member, and no summaries are logged. -/
def Options.default : Options := ⟨.vanilla, false⟩

namespace Options

/-- The response to a request. -/
def respond (options : Options) (request : Request) : Except ResponseError Body :=
  request.context.respond (request.shape.getD options.shape) request.rows

/-- The responses to a list of requests. -/
def respondAll (options : Options) (requests : List Request) :
    Except ResponseError (List Body) :=
  requests.mapM options.respond

/-- The responses to a batch. -/
def respondBatch (options : Options) : Batch Request → Except ResponseError (Batch Body)
  | .one request => .one <$> options.respond request
  | .many requests => .many <$> options.respondAll requests

end Options

/-- The responses to the requests of a text, as a text. -/
def respondText (text : String) : Except ResponseError String := do
  let batch ← Batch.ofText text
  let responses ← Options.default.respondBatch batch
  return responses.toJson.render

end SemanticLayer.Response
