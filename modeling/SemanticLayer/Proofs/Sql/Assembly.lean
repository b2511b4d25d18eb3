import SemanticLayer.Proofs.Sql.Session

/-!
# Statements assembled from a session

The fragments that a session returned are put together to a statement: any of them, in any order,
any number of times, with any text between them. The statement resolves
(`resolve_assembly`), and it does so part by part: every part keeps its own text around its
placeholders, and brings along exactly the values of its own call. Values of calls that failed, or
whose fragments are not used, do not occur.

All that is asked is that the dollar sign is kept for markers: neither the columns of the calls nor
the text between fragments may have one. Markers may then stand next to each other or next to
digits without being taken for something else.
-/

namespace SemanticLayer.Sql

/-- A part of a statement. -/
inductive Part where
  /-- Text between fragments. -/
  | glue (text : String)
  /-- A text that was the answer to a call. -/
  | fragment (call : Call) (text : String)

namespace Part

/-- The text that a part adds to the statement. -/
def text : Part → String
  | glue text => text
  | fragment _ text => text

/-- The values that belong to a part: those that its call took. -/
def taken : Part → List String
  | glue _ => []
  | fragment call _ => call.taken

/-- A part may be used after a session: it is a fragment that the session returned, or text without
dollar signs. -/
def Of (answers : List (Call × Answer)) : Part → Prop
  | glue text => '$' ∉ text.toList
  | fragment call text => (call, .ok (some text)) ∈ answers

instance (answers : List (Call × Answer)) : (part : Part) → Decidable (part.Of answers)
  | glue text => inferInstanceAs (Decidable ('$' ∉ text.toList))
  | fragment call text => inferInstanceAs (Decidable ((call, .ok (some text)) ∈ answers))

/-- A part that may be used is bound to its values. -/
theorem Of.bound {dialect : Dialect} {calls : List Call} {part : Part}
    (h : part.Of (session dialect calls []).1) (hcalls : ∀ call ∈ calls, call.Plain) :
    Bound (session dialect calls []).2 part.text part.taken := by
  cases part with
  | glue text => exact ⟨[], Marked.plain h, rfl⟩
  | fragment call text => exact bound_of_mem_session (hcalls call (mem_of_mem_session h)) h

/-- A part is read as a template: the template has no dollar signs but those of its markers, its
text is that of the part, and its slots have the values of the part, in order. -/
structure ReadAs (parameters : Parameters) (part : Part) (template : Template) : Prop where
  plain : template.Plain
  marked : template.marked = part.text
  values : template.slots.map (parameters[·]?) = part.taken.map some

end Part

/-- Parts that are bound to their values are read as templates, one for each. -/
theorem exists_templates {parameters : Parameters} {parts : List Part}
    (h : ∀ part ∈ parts, Bound parameters part.text part.taken) :
    ∃ templates, List.Forall₂ (Part.ReadAs parameters) parts templates := by
  induction parts with
  | nil => exact ⟨[], .nil⟩
  | cons part parts ih =>
    obtain ⟨⟨slots, ⟨template, hplain, hmarked, rfl⟩, hvalues⟩, hparts⟩ :=
      List.forall_mem_cons.1 h
    obtain ⟨templates, htemplates⟩ := ih hparts
    exact ⟨template :: templates, .cons ⟨hplain, hmarked, hvalues⟩ htemplates⟩

/-- The templates of parts, one after another, are a template of the statement. -/
theorem resolve_of_forall₂_readAs (dialect : Dialect) {parameters : Parameters}
    {parts : List Part} {templates : List Template}
    (h : List.Forall₂ (Part.ReadAs parameters) parts templates) :
    parameters.resolve dialect (String.join (parts.map Part.text)) =
      .ok ⟨Template.placed dialect 1 templates.flatten, parts.flatMap Part.taken⟩ := by
  -- what makes a template resolve is kept by putting templates together
  have hread : Template.Plain templates.flatten ∧
      Template.marked templates.flatten = String.join (parts.map Part.text) ∧
      (Template.slots templates.flatten).map (parameters[·]?) =
        (parts.flatMap Part.taken).map some := by
    induction h with
    | nil => exact ⟨fun text h ↦ absurd h List.not_mem_nil, rfl, rfl⟩
    | @cons part template parts templates hpart hparts ih =>
      obtain ⟨hplain, hmarked, hvalues⟩ := ih
      refine ⟨hpart.plain.append hplain, ?_, ?_⟩
      · rw [List.flatten_cons, Template.marked_append, hpart.marked, hmarked, List.map_cons,
          String.join_cons]
      · rw [List.flatten_cons, Template.slots_append, List.map_append, hpart.values, hvalues,
          List.flatMap_cons, List.map_append]
  obtain ⟨hplain, hmarked, hvalues⟩ := hread
  rw [← hmarked]
  exact resolve_marked dialect hplain hvalues

/-- **Parameter discipline.** A statement assembled from the fragments of a session resolves. Each
part is read as a template of its own, with the values of the part's own call in its slots. The
slots of all parts become placeholders, numbered as they occur in the statement, all other text
stays, and the values are those of the parts in the same order. -/
theorem resolve_assembly (dialect : Dialect) {calls : List Call}
    (hcalls : ∀ call ∈ calls, call.Plain) {parts : List Part}
    (hparts : ∀ part ∈ parts, part.Of (session dialect calls []).1) :
    ∃ templates,
      List.Forall₂ (Part.ReadAs (session dialect calls []).2) parts templates ∧
      (session dialect calls []).2.resolve dialect (String.join (parts.map Part.text)) =
        .ok ⟨Template.placed dialect 1 templates.flatten, parts.flatMap Part.taken⟩ := by
  obtain ⟨templates, htemplates⟩ := exists_templates fun part h ↦ (hparts part h).bound hcalls
  exact ⟨templates, htemplates, resolve_of_forall₂_readAs dialect htemplates⟩

/-- Calls of which the first fails, after it has left two values behind. -/
def interruptedCalls : List Call :=
  [.filters [⟨"status", .string, .isIn, ["new", "done"]⟩,
    ⟨"created_at", .time, .inDateRange, ["2021-01-01"]⟩],
    .filter ⟨"amount", .number, .gt, ["10"]⟩,
    .filter ⟨"name", .string, .notContains, ["a", "b"]⟩]

/-- A statement that uses the last fragment first, and the other one twice. -/
def regroupedParts : List Part :=
  [.glue "SELECT 1 WHERE ",
    .fragment (.filter ⟨"name", .string, .notContains, ["a", "b"]⟩)
      "(name NOT ILIKE ('%' || $3$ || '%') AND name NOT ILIKE ('%' || $4$ || '%') OR name IS NULL)",
    .glue " AND ",
    .fragment (.filter ⟨"amount", .number, .gt, ["10"]⟩) "amount > $2$::numeric",
    .glue " OR ",
    .fragment (.filter ⟨"amount", .number, .gt, ["10"]⟩) "amount > $2$::numeric"]

/-- The values that the failed call left behind do not occur, and a value that is used twice is
passed twice. -/
theorem resolve_assembly_of_interruptedCalls :
    (∀ call ∈ interruptedCalls, call.Plain) ∧
    (∀ part ∈ regroupedParts, part.Of (session .postgres interruptedCalls []).1) ∧
    ∃ templates,
      List.Forall₂ (Part.ReadAs (session .postgres interruptedCalls []).2) regroupedParts
        templates ∧
      (session .postgres interruptedCalls []).2.resolve .postgres
          (String.join (regroupedParts.map Part.text)) =
        .ok ⟨Template.placed .postgres 1 templates.flatten, ["a", "b", "10", "10"]⟩ := by
  have hcalls : ∀ call ∈ interruptedCalls, call.Plain := by decide
  have hparts : ∀ part ∈ regroupedParts,
      part.Of (session .postgres interruptedCalls []).1 := by decide
  exact ⟨hcalls, hparts, resolve_assembly .postgres hcalls hparts⟩

end SemanticLayer.Sql
