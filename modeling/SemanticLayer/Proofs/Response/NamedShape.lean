import SemanticLayer.Proofs.Response.Batch

/-!
# Shapes that requests name

A response has the shape that its request names, else that of the options, and nothing else in the
options changes a response (`Options.respondBatch_eq`). So any options respond as the default ones
do once every request names a shape (`Request.withShape`), and a text in which each does is
responded to alike whatever the shape of the options (`respondWithShape_of_named`).
-/

namespace SemanticLayer.Response

open Query (Shape)

namespace Request

/-- The request with a shape for when it names none. -/
def withShape (shape : Shape) (request : Request) : Request :=
  { request with shape := some (request.shape.getD shape) }

theorem withShape_of_isSome {request : Request} (h : request.shape.isSome = true) (shape : Shape) :
    request.withShape shape = request := by
  obtain ⟨context, rows, named⟩ := request
  obtain ⟨named, rfl⟩ := Option.isSome_iff_exists.1 h
  rfl

end Request

namespace Batch

/-- The requests of a batch. -/
def toList {α : Type} : Batch α → List α
  | one item => [item]
  | many items => items

theorem map_eq_self {α : Type} {f : α → α} {batch : Batch α}
    (h : ∀ item ∈ batch.toList, f item = item) : batch.map f = batch := by
  cases batch with
  | one item => exact congrArg one (h item List.mem_cons_self)
  | many items => exact congrArg many ((List.map_congr_left h).trans (List.map_id items))

/-- The response to a batch, as a text. -/
def answer (batch : Batch Request) : Except ResponseError String :=
  (Options.default.respondBatch batch).map fun responses ↦ responses.toJson.render

end Batch

/-- All that options decide is the shape of the responses to requests that name none. -/
theorem Options.respondBatch_eq (options : Options) (batch : Batch Request) :
    options.respondBatch batch =
      Options.default.respondBatch (batch.map (·.withShape options.shape)) := by
  cases batch with
  | one request => rfl
  | many requests =>
    have hall : options.respondAll requests =
        Options.default.respondAll (requests.map (·.withShape options.shape)) :=
      mapM_eq_of_forall₂ (List.forall₂_map_right_iff.2 (List.forall₂_same.2 fun _ _ ↦ rfl))
    rw [respondBatch, hall]
    rfl

/-- The response to the requests of a text, with a shape for those that name none. -/
def respondWithShape (shape : Shape) (text : String) : Except ResponseError String :=
  Batch.ofText text >>= fun batch ↦ (batch.map (·.withShape shape)).answer

theorem respondText_eq (text : String) : respondText text = Batch.ofText text >>= Batch.answer := by
  rw [respondText]
  cases Batch.ofText text with
  | error error => rfl
  | ok batch =>
    show (Options.default.respondBatch batch >>= _) = Batch.answer batch
    rw [Batch.answer]
    cases Options.default.respondBatch batch <;> rfl

/-- Requests that name their shapes are responded to in these. -/
theorem respondWithShape_of_named {text : String}
    (h : ∀ batch, Batch.ofText text = .ok batch →
      ∀ request ∈ batch.toList, request.shape.isSome = true) (shape : Shape) :
    respondWithShape shape text = respondText text := by
  rw [respondWithShape, respondText_eq]
  cases hbatch : Batch.ofText text with
  | error error => rfl
  | ok batch =>
    have hsame : batch.map (·.withShape shape) = batch :=
      Batch.map_eq_self fun request hrequest ↦
        Request.withShape_of_isSome (h batch hbatch request hrequest) shape
    show (batch.map (·.withShape shape)).answer = batch.answer
    rw [hsame]

/-- Shapes may as well be set in the requests. -/
theorem respondWithShape_of_ofText {text other : String} {shape : Shape}
    (h : Batch.ofText other = (Batch.ofText text).map (Batch.map (·.withShape shape))) :
    respondWithShape shape text = respondText other := by
  rw [respondText_eq, h, respondWithShape]
  cases Batch.ofText text <;> rfl

end SemanticLayer.Response
