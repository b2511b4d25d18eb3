import SemanticLayer.Proofs.Json.Grammar
import SemanticLayer.Proofs.Query.Codec
import SemanticLayer.Proofs.Response.Outcome
import SemanticLayer.Proofs.Sequence
import SemanticLayer.Response.Request

/-!
# Lists of requests

A list of request texts is answered like its texts one by one: with the list of the answers, or with
the first error among them (`respondText_listText`). Three things have to be seen.

* The texts are read in the list as they are read alone. That holds of the documents
  (`Json.Tree.front?_listText`) and of what is decoded from them, one level deeper
  (`Request.isStable_decoder`).
* The list is not taken for a single request. A request may be written as the list of its fields,
  but the first of them is a map of strings, and no request is (`Request.decoder_array`).
* Answers are written in the list as they are written alone (`Json.Value.render_array`).

One error comes before all others. A text may hold something illegible in a field that no request
has: a lone surrogate, or a number that is too large. A reader of requests would skip it, but the
whole list must be legible before it is read, so one such text makes all of it malformed.
-/

namespace SemanticLayer.Json.Value

theorem renderItems_eq (items : List Value) :
    renderItems items = ",".intercalate (items.map render) := by
  induction items with
  | nil => rfl
  | cons item items ih =>
    cases items with
    | nil => rw [renderItems, List.map_cons, List.map_nil, String.intercalate_singleton]
    | cons next items =>
      simp only [List.map_cons] at ih ⊢
      rw [renderItems, ih, String.intercalate_cons_cons]
      exact List.cons_ne_nil _ _

/-- A list is written as the texts of its items between brackets. -/
theorem render_array (items : List Value) : (array items).render = listText (items.map render) := by
  rw [render, renderItems_eq, listText]

end SemanticLayer.Json.Value

namespace SemanticLayer.Response

open Json
open Query

/-- Changes everything in a batch. -/
def Batch.map {α β : Type} (f : α → β) : Batch α → Batch β
  | one item => .one (f item)
  | many items => .many (items.map f)

/-- The requests of a text are decided by its document. -/
theorem Batch.ofText_of_parse? {text : String} {tree : Tree} (h : Tree.parse? text = some tree) :
    Batch.ofText text =
      if tree.isLegible Tree.depthLimit then
        match Batch.decoder Tree.depthLimit tree with
        | none => .error (.invalidRequest .unrecognized)
        | some batch => .ok batch
      else .error (.invalidRequest .malformed) := by
  obtain ⟨rest, hfront, hblank⟩ := Tree.parse?_eq_some_iff.1 h
  cases hlegible : tree.isLegible Tree.depthLimit <;>
    cases hdecoder : Batch.decoder Tree.depthLimit tree <;>
      simp [Batch.ofText, hfront, hblank, hlegible, hdecoder]

theorem Batch.ofText_eq_ok_iff {text : String} {tree : Tree} {batch : Batch Request}
    (h : Tree.parse? text = some tree) :
    Batch.ofText text = .ok batch ↔
      tree.isLegible Tree.depthLimit = true ∧ Batch.decoder Tree.depthLimit tree = some batch := by
  rw [Batch.ofText_of_parse? h]
  by_cases hlegible : tree.isLegible Tree.depthLimit = true
  · rw [if_pos hlegible]
    cases Batch.decoder Tree.depthLimit tree with
    | none => simp [hlegible]
    | some found => simp [hlegible]
  · rw [if_neg hlegible]
    simp [hlegible]

/-! ### Requests at any depth -/

theorem RawValue.isStable_decoder : RawValue.decoder.IsStable :=
  Decoder.IsStable.legible fun _ tree _ ↦ by cases tree <;> rfl

theorem RawRow.isStable_decoder : RawRow.decoder.IsStable :=
  RawValue.isStable_decoder.entries.map OrderedMap.ofList

/-- A request is read alike wherever it stands. -/
theorem Request.isStable_decoder : Request.decoder.IsStable :=
  Decoder.isStable_record fun hfit ↦ by
    simp only [AliasMap.isStable_decoder.required hfit, Annotations.isStable_decoder.required hfit,
      RawRow.isStable_decoder.list.defaulted [] hfit, Definition.isStable_decoder.required hfit,
      Mode.isStable_decoder.defaulted .regular hfit, Shape.isStable_decoder.optional hfit]

/-! ### A list of requests is not a request -/

/-- The members of aliases are strings. -/
theorem AliasMap.string_of_decoder {depth : Nat} {tree : Tree} {aliases : AliasMap}
    (h : AliasMap.decoder depth tree = some aliases) :
    ∃ entries, tree = .object entries ∧ ∀ entry ∈ entries, ∃ value, entry.2 = .string value := by
  obtain ⟨pairs, hpairs, -⟩ := Option.map_eq_some_iff.1 h
  cases tree with
  | object entries =>
    cases depth with
    | zero => cases hpairs
    | succ depth =>
      refine ⟨entries, rfl, fun entry hentry ↦ ?_⟩
      obtain ⟨pair, -, hpair⟩ := exists_related_of_mem (mapM_eq_some_iff.1 hpairs) hentry
      obtain ⟨key, -, hpair⟩ := Option.bind_eq_some_iff.1 hpair
      obtain ⟨member, hmember, -⟩ := Option.bind_eq_some_iff.1 hpair
      obtain ⟨key, value⟩ := entry
      cases value with
      | string value => exact ⟨value, rfl⟩
      | _ => cases hmember
  | _ => cases depth <;> cases hpairs

/-- A request has a map of strings for its aliases. -/
theorem Request.aliases_of_decoder {depth : Nat} {tree : Tree} {request : Request}
    (h : Request.decoder depth tree = some request) :
    ∃ inner present value aliases,
      Decoder.fields ["aliasToMemberNameMap", "annotation", "data", "query", "queryType", "resType"]
        depth tree = some (inner, present) ∧
      present.lookup "aliasToMemberNameMap" = some value ∧
      AliasMap.decoder inner value = some aliases := by
  obtain ⟨⟨inner, present⟩, hfields, hbuild⟩ := Option.bind_eq_some_iff.1 h
  obtain ⟨aliases, haliases, -⟩ := Option.bind_eq_some_iff.1 hbuild
  obtain ⟨value, hvalue, hdecoder⟩ := Option.bind_eq_some_iff.1 haliases
  exact ⟨inner, present, value, aliases, hfields, hvalue, hdecoder⟩

/-- What is a request is no map of strings. -/
theorem AliasMap.decoder_of_request {depth other : Nat} {tree : Tree} {request : Request}
    (h : Request.decoder depth tree = some request) : AliasMap.decoder other tree = none := by
  rw [Option.eq_none_iff_forall_ne_some]
  intro aliases haliases
  obtain ⟨entries, rfl, hstrings⟩ := AliasMap.string_of_decoder haliases
  obtain ⟨inner, present, value, found, hfields, hvalue, hfound⟩ := Request.aliases_of_decoder h
  cases depth with
  | zero => cases hfields
  | succ depth =>
    obtain ⟨known, hknown, hpair⟩ := Option.map_eq_some_iff.1 hfields
    cases hpair
    have hmem := Decoder.mem_of_mem_knownFields hknown (Decoder.mem_of_lookup hvalue)
    -- the aliases of the request are an object, and would have to be a string
    obtain ⟨text, htext⟩ := hstrings _ hmem
    obtain ⟨inside, hinside, -⟩ := AliasMap.string_of_decoder hfound
    cases hinside.symm.trans htext

/-- **A list of requests is not a request.** -/
theorem Request.decoder_array {depth : Nat} {trees : List Tree}
    (h : ∀ tree ∈ trees, ∃ request, Request.decoder depth tree = some request) :
    Request.decoder (depth + 1) (.array trees) = none := by
  rw [Option.eq_none_iff_forall_ne_some]
  intro request hrequest
  obtain ⟨inner, present, value, aliases, hfields, hvalue, haliases⟩ :=
    Request.aliases_of_decoder hrequest
  rw [Decoder.fields] at hfields
  split at hfields
  · cases hfields
    cases trees with
    | nil => cases hvalue
    | cons tree trees =>
      -- the first field of the list is its first request
      cases hvalue
      obtain ⟨request, hdecoder⟩ := h _ List.mem_cons_self
      rw [AliasMap.decoder_of_request hdecoder] at haliases
      cases haliases
  · cases hfields

/-- Requests that are read one by one are read as a list. -/
theorem Batch.decoder_array {depth : Nat} {trees : List Tree} {requests : List Request}
    (h : List.Forall₂ (fun tree request ↦ Request.decoder depth tree = some request)
      trees requests) :
    Batch.decoder (depth + 1) (.array trees) = some (.many requests) := by
  have hone : Request.decoder (depth + 1) (.array trees) = none := by
    refine Request.decoder_array fun tree htree ↦ ?_
    obtain ⟨request, -, hrequest⟩ := exists_related_of_mem h htree
    exact ⟨request, hrequest⟩
  have hmany : Decoder.list Request.decoder (depth + 1) (.array trees) = some requests :=
    mapM_eq_some_iff.2 h
  rw [Batch.decoder, hone, hmany]
  rfl

/-- What is read as a list of requests is a list of documents that are read as requests. -/
theorem Batch.exists_array {depth : Nat} {tree : Tree} {requests : List Request}
    (h : Batch.decoder (depth + 1) tree = some (.many requests)) :
    ∃ trees, tree = .array trees ∧
      List.Forall₂ (fun tree request ↦ Request.decoder depth tree = some request)
        trees requests := by
  have hlist : Decoder.list Request.decoder (depth + 1) tree = some requests := by
    rw [Batch.decoder] at h
    cases hone : Request.decoder (depth + 1) tree with
    | some request =>
      rw [hone] at h
      cases h
    | none =>
      rw [hone, Option.map_none, Option.none_or] at h
      obtain ⟨requests', hlist, heq⟩ := Option.map_eq_some_iff.1 h
      cases heq
      exact hlist
  cases tree with
  | array trees => exact ⟨trees, rfl, mapM_eq_some_iff.1 hlist⟩
  | _ => cases hlist

/-! ### One text -/

/-- Whether a text is that of a single request which may still stand in a list: an object that is
read as a request, whatever it holds in other fields, and that nests less deep than it might. -/
def isRequestText (text : String) : Bool :=
  match Tree.parse? text with
  | some (.object entries) =>
    (Request.decoder Tree.depthLimit (.object entries)).isSome &&
      (Tree.object entries).depth < Tree.depthLimit
  | _ => false

/-- Whether everything in the document of a text can be told: no string has a lone surrogate, and no
number is too large. -/
def isLegibleText (text : String) : Bool :=
  (Tree.parse? text).any (Tree.isLegible Tree.depthLimit)

/-- A text is that of a request, with its document. -/
structure ReadsAs (text : String) (tree : Tree) (request : Request) : Prop where
  parse : Tree.parse? text = some tree
  object : ∃ entries, tree = .object entries
  decoder : Request.decoder Tree.depthLimit tree = some request
  depth : tree.depth < Tree.depthLimit

theorem exists_readsAs {text : String} (h : isRequestText text = true) :
    ∃ tree request, ReadsAs text tree request := by
  unfold isRequestText at h
  split at h
  · next entries hparse =>
    rw [Bool.and_eq_true, Option.isSome_iff_exists, decide_eq_true_eq] at h
    obtain ⟨⟨request, hrequest⟩, hdepth⟩ := h
    exact ⟨_, request, hparse, ⟨entries, rfl⟩, hrequest, hdepth⟩
  · cases h

/-- The answer to a request, as a text. -/
def Request.answer (request : Request) : Except ResponseError String :=
  (Options.default.respond request).map fun body ↦ body.toJson.render

namespace ReadsAs

variable {text : String} {tree : Tree} {request : Request}

/-- The request is read alike as an item of a list. -/
theorem decoder_item (h : ReadsAs text tree request) :
    Request.decoder (Tree.depthLimit - 1) tree = some request :=
  (Request.isStable_decoder (Tree.depthLimit - 1) tree (Nat.le_pred_of_lt h.depth)).symm.trans
    h.decoder

theorem isLegibleText_eq (h : ReadsAs text tree request) :
    isLegibleText text = tree.isLegible Tree.depthLimit := by
  rw [isLegibleText, h.parse, Option.any_some]

theorem isLegible_item (h : ReadsAs text tree request) :
    tree.isLegible Tree.depthLimit = tree.isLegible (Tree.depthLimit - 1) :=
  Tree.isLegible_succ (Nat.le_pred_of_lt h.depth)

theorem respondText_of_legible (h : ReadsAs text tree request)
    (hlegible : tree.isLegible Tree.depthLimit = true) : respondText text = request.answer := by
  obtain ⟨rest, hfront, hblank⟩ := Tree.parse?_eq_some_iff.1 h.parse
  have hdecoder : Batch.decoder Tree.depthLimit tree = some (.one request) := by
    rw [Batch.decoder, h.decoder]
    rfl
  have htext : Batch.ofText text = .ok (.one request) := by
    simp only [Batch.ofText, hfront, hlegible, hdecoder, hblank, List.isEmpty_nil, if_true]
  rw [respondText, htext, Request.answer]
  show (Batch.one <$> Options.default.respond request >>= _) = _
  cases Options.default.respond request <;> rfl

theorem respondText_of_illegible (h : ReadsAs text tree request)
    (hlegible : tree.isLegible Tree.depthLimit = false) :
    respondText text = .error (.invalidRequest .malformed) := by
  obtain ⟨rest, hfront, -⟩ := Tree.parse?_eq_some_iff.1 h.parse
  have htext : Batch.ofText text = .error (.invalidRequest .malformed) := by
    simp only [Batch.ofText, hfront, hlegible, Bool.false_eq_true, if_false]
  rw [respondText, htext]
  rfl

end ReadsAs

/-- What is wrong with a result is not that its request could not be read. -/
theorem Context.FirstFault.ne_invalid {context : Context} {rows : List RawRow}
    {error : ResponseError} (h : context.FirstFault rows error) (fault : RequestFault) :
    error ≠ .invalidRequest fault := by
  rintro rfl
  cases h with
  | mode hfault => cases hfault
  | row _ _ _ hfault => cases hfault

theorem Request.answer_ne_invalid (request : Request) (fault : RequestFault) :
    request.answer ≠ .error (.invalidRequest fault) := by
  intro h
  rw [Request.answer, Options.respond] at h
  cases hrespond : request.context.respond (request.shape.getD Options.default.shape)
      request.rows with
  | ok body =>
    rw [hrespond] at h
    cases h
  | error error =>
    rw [hrespond] at h
    exact (Context.firstFault_of_respond hrespond).ne_invalid fault (Except.error.inj h)

/-- A text that is read as a request has a malformed answer exactly if it is not legible. -/
theorem ReadsAs.isLegibleText_iff {text : String} {tree : Tree} {request : Request}
    (h : ReadsAs text tree request) :
    isLegibleText text = true ↔ respondText text ≠ .error (.invalidRequest .malformed) := by
  rw [h.isLegibleText_eq]
  constructor
  · intro hlegible
    rw [h.respondText_of_legible hlegible]
    exact request.answer_ne_invalid _
  · intro hanswer
    by_contra hlegible
    exact hanswer (h.respondText_of_illegible (Bool.not_eq_true _ ▸ hlegible))

/-! ### A list of texts -/

section Reads

variable {texts : List String} {reads : List (Tree × Request)}

theorem front?_of_reads
    (h : List.Forall₂ (fun text read ↦ ReadsAs text read.1 read.2) texts reads) :
    Tree.front? (listText texts).toList = some (.array (reads.map Prod.fst), []) := by
  exact Tree.front?_listText (List.forall₂_map_right_iff.2 (h.imp fun _ _ hread ↦ hread.parse))

theorem exists_text_of_read
    (h : List.Forall₂ (fun text read ↦ ReadsAs text read.1 read.2) texts reads)
    {read : Tree × Request} (hread : read ∈ reads) :
    ∃ text ∈ texts, ReadsAs text read.1 read.2 :=
  exists_related_of_mem h.flip hread

/-- The list of the documents is read as the list of their requests. -/
theorem decoder_of_reads
    (h : List.Forall₂ (fun text read ↦ ReadsAs text read.1 read.2) texts reads) :
    Batch.decoder Tree.depthLimit (.array (reads.map Prod.fst)) =
      some (.many (reads.map Prod.snd)) := by
  refine Batch.decoder_array ?_
  rw [List.forall₂_map_left_iff, List.forall₂_map_right_iff, List.forall₂_same]
  intro read hread
  obtain ⟨text, -, htext⟩ := exists_text_of_read h hread
  exact htext.decoder_item

/-- The list is legible if all of its texts are. -/
theorem isLegible_of_reads
    (h : List.Forall₂ (fun text read ↦ ReadsAs text read.1 read.2) texts reads) :
    (Tree.array (reads.map Prod.fst)).isLegible Tree.depthLimit = true ↔
      ∀ text ∈ texts, isLegibleText text = true := by
  show Tree.areLegible (Tree.depthLimit - 1) _ = true ↔ _
  rw [Tree.areLegible_iff, List.forall_mem_map]
  constructor
  · intro hall text htext
    obtain ⟨read, hread, hreadsAs⟩ := exists_related_of_mem h htext
    rw [hreadsAs.isLegibleText_eq, hreadsAs.isLegible_item]
    exact hall read hread
  · intro hall read hread
    obtain ⟨text, htext, hreadsAs⟩ := exists_text_of_read h hread
    rw [← hreadsAs.isLegible_item, ← hreadsAs.isLegibleText_eq]
    exact hall text htext

theorem ofText_of_reads
    (h : List.Forall₂ (fun text read ↦ ReadsAs text read.1 read.2) texts reads) :
    Batch.ofText (listText texts) =
      if (Tree.array (reads.map Prod.fst)).isLegible Tree.depthLimit then
        .ok (.many (reads.map Prod.snd))
      else .error (.invalidRequest .malformed) := by
  simp only [Batch.ofText, front?_of_reads h, decoder_of_reads h]
  rfl

end Reads

/-! ### The answers -/

/-- Requests that are answered one by one give the answer to their list. -/
theorem mapM_answer (requests : List Request) :
    requests.mapM Request.answer = (Options.default.respondAll requests).map
      (List.map fun body ↦ body.toJson.render) := by
  unfold Options.respondAll
  induction requests with
  | nil => rfl
  | cons request requests ih =>
    rw [List.mapM_cons, List.mapM_cons, ih, Request.answer]
    cases Options.default.respond request with
    | error error => rfl
    | ok body => cases requests.mapM Options.default.respond <;> rfl

theorem respondText_of_many {text : String} {requests : List Request}
    (h : Batch.ofText text = .ok (.many requests)) :
    respondText text = (requests.mapM Request.answer).map listText := by
  rw [respondText, h, mapM_answer]
  show (Batch.many <$> Options.default.respondAll requests >>= _) = _
  cases Options.default.respondAll requests with
  | error error => rfl
  | ok bodies =>
    show Except.ok (Value.array (bodies.map Body.toJson)).render = _
    rw [Value.render_array, List.map_map]
    rfl

/-- **A list of requests is answered like its requests one by one.** Let each of several texts be
that of a single request. Their list is never read as a single request. A text is answered with
anything but a malformed request exactly if it is legible throughout. If all of them are, then the
list is answered with the list of their answers, or with the first error among them. If one of them
is not, then the answer to the list is a malformed request. -/
theorem respondText_listText {texts : List String}
    (h : ∀ text ∈ texts, isRequestText text = true) :
    (∀ request, Batch.ofText (listText texts) ≠ .ok (.one request)) ∧
    (∀ text ∈ texts, isLegibleText text = true ↔
      respondText text ≠ .error (.invalidRequest .malformed)) ∧
    ((∀ text ∈ texts, isLegibleText text = true) →
      respondText (listText texts) = (texts.mapM respondText).map listText) ∧
    ((∃ text ∈ texts, isLegibleText text = false) →
      respondText (listText texts) = .error (.invalidRequest .malformed)) := by
  obtain ⟨reads, hreads⟩ : ∃ reads : List (Tree × Request),
      List.Forall₂ (fun text read ↦ ReadsAs text read.1 read.2) texts reads :=
    exists_forall₂ fun text htext ↦ by
      obtain ⟨tree, request, hread⟩ := exists_readsAs (h text htext)
      exact ⟨(tree, request), hread⟩
  have htext := ofText_of_reads hreads
  have hlegible := isLegible_of_reads hreads
  refine ⟨fun request hone ↦ ?_, fun text hmem ↦ ?_, fun hall ↦ ?_, fun hsome ↦ ?_⟩
  · rw [htext] at hone
    split at hone <;> cases hone
  · obtain ⟨read, -, hreadsAs⟩ := exists_related_of_mem hreads hmem
    exact hreadsAs.isLegibleText_iff
  · rw [if_pos (hlegible.2 hall)] at htext
    have hanswers : texts.mapM respondText = (reads.map Prod.snd).mapM Request.answer := by
      refine mapM_eq_of_forall₂ (List.forall₂_map_right_iff.2 ?_)
      refine ((List.forall₂_and_left texts reads).2 ⟨hall, hreads⟩).imp fun text read hread ↦ ?_
      exact hread.2.respondText_of_legible (hread.2.isLegibleText_eq ▸ hread.1)
    rw [respondText_of_many htext, hanswers]
  · obtain ⟨text, hmem, hillegible⟩ := hsome
    have hnot : ¬(Tree.array (reads.map Prod.fst)).isLegible Tree.depthLimit = true := fun hall ↦ by
      rw [hlegible.1 hall text hmem] at hillegible
      cases hillegible
    rw [if_neg hnot] at htext
    rw [respondText, htext]
    rfl

/-- A request with one visible column. -/
def visibleRequest : String :=
  "\x7b\"aliasToMemberNameMap\":\x7b\"n\":\"N\"\x7d," ++
    "\"annotation\":\x7b\"N\":\x7b\"type\":\"number\"\x7d\x7d," ++
    "\"data\":[\x7b\"n\":5\x7d],\"query\":\x7b\x7d\x7d"

/-- A request with one hidden column. -/
def hiddenRequest : String :=
  "\x7b\"aliasToMemberNameMap\":\x7b\x7d,\"annotation\":\x7b\x7d," ++
    "\"data\":[\x7b\"a\":1\x7d],\"query\":\x7b\x7d\x7d"

/-- A request with a lone surrogate in a field that no request has. -/
def surrogateRequest : String :=
  "\x7b\"aliasToMemberNameMap\":\x7b\x7d,\"annotation\":\x7b\x7d,\"query\":\x7b\x7d," ++
    "\"x\":\"\\ud800\"\x7d"

theorem isRequestText_hiddenRequest : isRequestText hiddenRequest = true := by
  decide +kernel

theorem isRequestText_surrogateRequest : isRequestText surrogateRequest = true := by
  decide +kernel

theorem respondText_hiddenRequest :
    respondText hiddenRequest = .error (.hiddenMember "a" none) := by
  decide +kernel

/-- A visible and a hidden column together give the error of the hidden one, and a request that is
not legible makes the list malformed. -/
theorem respondText_of_hiddenRequest :
    (∀ text ∈ [visibleRequest, hiddenRequest], isRequestText text = true) ∧
    respondText (listText [visibleRequest, hiddenRequest]) = .error (.hiddenMember "a" none) ∧
    respondText (listText [hiddenRequest, surrogateRequest]) =
      .error (.invalidRequest .malformed) := by
  have hvisible : isRequestText visibleRequest = true := by decide +kernel
  have hanswer : respondText visibleRequest = .ok "[\x7b\"N\":5\x7d]" := by decide +kernel
  have hillegible : isLegibleText surrogateRequest = false := by decide +kernel
  have hfirst : ∀ text ∈ [visibleRequest, hiddenRequest], isRequestText text = true := by
    simp [hvisible, isRequestText_hiddenRequest]
  have hsecond : ∀ text ∈ [hiddenRequest, surrogateRequest], isRequestText text = true := by
    simp [isRequestText_hiddenRequest, isRequestText_surrogateRequest]
  have hlegible : ∀ text ∈ [visibleRequest, hiddenRequest], isLegibleText text = true := by
    intro text htext
    rw [(respondText_listText hfirst).2.1 text htext]
    revert text
    simp [hanswer, respondText_hiddenRequest]
  refine ⟨hfirst, ?_, ?_⟩
  · rw [(respondText_listText hfirst).2.2.1 hlegible, List.mapM_cons, hanswer, List.mapM_cons,
      respondText_hiddenRequest]
    rfl
  · exact (respondText_listText hsecond).2.2.2 ⟨surrogateRequest, by simp, hillegible⟩

/-- A list is not always answered with the first error among the answers to its texts: the hidden
column comes first, but the text after it is not legible. -/
theorem answers_not_in_order : ¬∀ texts : List String,
    (∀ text ∈ texts, isRequestText text = true) →
      respondText (listText texts) = (texts.mapM respondText).map listText := by
  intro h
  have hlist : respondText (listText [hiddenRequest, surrogateRequest]) =
      .error (.invalidRequest .malformed) := by decide +kernel
  have heq := h [hiddenRequest, surrogateRequest]
    (by simp [isRequestText_hiddenRequest, isRequestText_surrogateRequest])
  rw [hlist, List.mapM_cons, respondText_hiddenRequest] at heq
  cases heq

end SemanticLayer.Response
