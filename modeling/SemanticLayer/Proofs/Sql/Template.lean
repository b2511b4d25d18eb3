import SemanticLayer.Sql.Parameter

/-!
# Statements as templates

A statement that is being put together is text with markers in it. A **template** says which part
is which: tokens of text, and slots that name a parameter. `Template.marked` is the statement with
its markers, `Template.placed` the statement with placeholders instead, numbered as they occur.

The scan for markers finds the slots again as long as no text between them has a dollar sign of
its own (`Template.Plain`). Nothing else is asked of the text: it may be empty, or consist of
digits, so that markers stand next to each other or next to what could belong to them. What makes
the scan exact is that every dollar sign opens or closes a marker, from the left
(`pieces_text_append`, `pieces_marker_append`).

The main statement is `resolve_marked`: if every slot names a value, the statement resolves to the
template with placeholders, and to the values of its slots in order.
-/

namespace SemanticLayer.Sql

/-- A part of a template. -/
inductive Token where
  /-- Text that stands for itself. -/
  | text (text : String)
  /-- The place of the parameter at an index. -/
  | slot (index : Nat)
  deriving DecidableEq, Repr

/-- A statement with slots for its parameters. -/
abbrev Template := List Token

namespace Template

/-- The statement with a marker in each slot. -/
def marked : Template → String
  | [] => ""
  | .text text :: rest => text ++ marked rest
  | .slot index :: rest => marker index ++ marked rest

/-- The statement with a placeholder in each slot, of which the first is at `position`. -/
def placed (dialect : Dialect) (position : Nat) : Template → String
  | [] => ""
  | .text text :: rest => text ++ placed dialect position rest
  | .slot _ :: rest => dialect.placeholder position ++ placed dialect (position + 1) rest

/-- The parameters of the slots, in order. -/
def slots : Template → List Nat
  | [] => []
  | .text _ :: rest => slots rest
  | .slot index :: rest => index :: slots rest

/-- No text outside the slots has a dollar sign. -/
def Plain (template : Template) : Prop :=
  ∀ text, .text text ∈ template → '$' ∉ text.toList

/-! ### Composition -/

theorem marked_append (first rest : Template) :
    marked (first ++ rest) = first.marked ++ rest.marked := by
  induction first with
  | nil => rw [List.nil_append, marked, String.empty_append]
  | cons token first ih =>
    cases token with
    | text text => rw [List.cons_append, marked, ih, marked, String.append_assoc]
    | slot index => rw [List.cons_append, marked, ih, marked, String.append_assoc]

theorem slots_append (first rest : Template) :
    slots (first ++ rest) = first.slots ++ rest.slots := by
  induction first with
  | nil => rfl
  | cons token first ih =>
    cases token with
    | text text => exact ih
    | slot index => exact congrArg (index :: ·) ih

theorem Plain.append {first rest : Template} (hfirst : first.Plain) (hrest : rest.Plain) :
    Plain (first ++ rest) := by
  intro text htext
  rcases List.mem_append.1 htext with h | h
  · exact hfirst text h
  · exact hrest text h

end Template

/-! ### The scan for markers -/

theorem isDecimalDigit_dollar : Text.isDecimalDigit '$' = false := by
  decide

/-- The digits of an index are decimal digits. -/
theorem isDigit_of_mem_repr {index : Nat} {c : Char} (h : c ∈ index.repr.toList) :
    c.isDigit = true := by
  rw [Nat.toList_repr] at h
  exact Nat.isDigit_of_mem_toDigits (by decide) (by decide) h

/-- Digits that a dollar sign ends are the tail of a marker, whatever follows. -/
theorem markerTail?_append {digits : List Char} (hne : digits ≠ [])
    (hdigits : ∀ c ∈ digits, Text.isDecimalDigit c = true) (rest : List Char) :
    markerTail? (digits ++ '$' :: rest) = some (digits, rest) := by
  have hdollar : ¬Text.isDecimalDigit '$' = true := by
    rw [isDecimalDigit_dollar]
    exact Bool.false_ne_true
  have htake : (digits ++ '$' :: rest).takeWhile Text.isDecimalDigit = digits := by
    rw [List.takeWhile_append_of_pos hdigits, List.takeWhile_cons_of_neg hdollar, List.append_nil]
  have hdrop : (digits ++ '$' :: rest).dropWhile Text.isDecimalDigit = '$' :: rest := by
    rw [List.dropWhile_append_of_pos hdigits, List.dropWhile_cons_of_neg hdollar]
  obtain ⟨c, cs, rfl⟩ := List.exists_cons_of_ne_nil hne
  simp only [markerTail?, htake, hdrop]

/-- The tail of a marker is found whole. -/
theorem markerTail?_repr (index : Nat) (rest : List Char) :
    markerTail? (index.repr.toList ++ '$' :: rest) = some (index.repr.toList, rest) := by
  refine markerTail?_append (fun hnil ↦ ?_)
    (fun c hc ↦ Text.isDecimalDigit_of_isDigit (isDigit_of_mem_repr hc)) rest
  -- the sign alone would be text, but an index has at least one digit
  have hlen := Nat.length_repr_pos (n := index)
  rw [← String.length_toList, hnil] at hlen
  exact absurd hlen (Nat.lt_irrefl 0)

theorem pieces_char_cons {c : Char} (h : c ≠ '$') (text : List Char) :
    pieces (c :: text) = .char c :: pieces text := by
  rw [pieces, if_neg h]

/-- A dollar sign with the tail of a marker behind it is a marker. -/
theorem pieces_dollar_of_some {text digits rest : List Char}
    (h : markerTail? text = some (digits, rest)) :
    pieces ('$' :: text) = .marker digits :: pieces rest := by
  rw [pieces, if_pos rfl]
  -- the scan splits on the tail together with an equation for it, which a rewrite would break
  split
  · next found =>
    obtain ⟨rfl, rfl⟩ := Prod.mk.inj (Option.some.inj (found.symm.trans h))
    rfl
  · next found => cases found.symm.trans h

/-- Any other dollar sign is a character. -/
theorem pieces_dollar_of_none {text : List Char} (h : markerTail? text = none) :
    pieces ('$' :: text) = .char '$' :: pieces text := by
  rw [pieces, if_pos rfl]
  split
  · next found => cases found.symm.trans h
  · rfl

/-- A marker is found where it stands, whatever follows it. -/
theorem pieces_marker_append (index : Nat) (rest : List Char) :
    pieces ((marker index).toList ++ rest) = .marker index.repr.toList :: pieces rest := by
  have htext : (marker index).toList ++ rest = '$' :: (index.repr.toList ++ '$' :: rest) := by
    simp [marker]
  rw [htext, pieces_dollar_of_some (markerTail?_repr index rest)]

/-- Text without a dollar sign belongs to no marker. -/
theorem pieces_text_append {text : List Char} (h : '$' ∉ text) (rest : List Char) :
    pieces (text ++ rest) = text.map .char ++ pieces rest := by
  induction text with
  | nil => rfl
  | cons c text ih =>
    have hc : c ≠ '$' := fun heq ↦ h (heq ▸ List.mem_cons_self)
    rw [List.cons_append, pieces_char_cons hc, ih fun hmem ↦ h (List.mem_cons_of_mem c hmem),
      List.map_cons, List.cons_append]

/-! ### Resolution -/

/-- The digits of a marker name the index that it was made from. -/
theorem value?_repr (parameters : Parameters) (index : Nat) :
    parameters.value? index.repr.toList = parameters[index]? := by
  have hall : index.repr.toList.all Char.isDigit = true :=
    List.all_eq_true.2 fun c hc ↦ isDigit_of_mem_repr hc
  rw [Parameters.value?, markerIndex?, if_pos hall, Option.bind_some, Nat.toList_repr,
    Nat.ofDigitChars_toDigits (by decide) (by decide)]

theorem resolvePieces_text_append {dialect : Dialect} {parameters : Parameters} {position : Nat}
    {rest : List Piece} {sql : List Char} {values : List String}
    (h : resolvePieces dialect parameters position rest = .ok (sql, values)) (text : List Char) :
    resolvePieces dialect parameters position (text.map .char ++ rest) =
      .ok (text ++ sql, values) := by
  induction text with
  | nil => exact h
  | cons c text ih =>
    rw [List.map_cons, List.cons_append, resolvePieces, ih]
    rfl

theorem resolvePieces_marker_cons {dialect : Dialect} {parameters : Parameters} {position : Nat}
    {digits : List Char} {value : String} {rest : List Piece} {sql : List Char}
    {values : List String} (hvalue : parameters.value? digits = some value)
    (h : resolvePieces dialect parameters (position + 1) rest = .ok (sql, values)) :
    resolvePieces dialect parameters position (.marker digits :: rest) =
      .ok ((dialect.placeholder position).toList ++ sql, value :: values) := by
  rw [resolvePieces, hvalue]
  show (resolvePieces dialect parameters (position + 1) rest >>= _) = _
  rw [h]
  rfl

/-- Pieces of a plain template resolve to the template with placeholders. -/
theorem resolvePieces_marked (dialect : Dialect) {parameters : Parameters} {template : Template} :
    ∀ {position : Nat} {values : List String}, template.Plain →
      template.slots.map (parameters[·]?) = values.map some →
        resolvePieces dialect parameters position (pieces template.marked.toList) =
          .ok ((template.placed dialect position).toList, values) := by
  induction template with
  | nil =>
    intro position values _ hvalues
    rw [List.map_eq_nil_iff.1 hvalues.symm, Template.marked, Template.placed, String.toList_empty,
      pieces, resolvePieces]
  | cons token template ih =>
    intro position values hplain hvalues
    have hrest : Template.Plain template := fun text h ↦ hplain text (List.mem_cons_of_mem _ h)
    cases token with
    | text text =>
      rw [Template.marked, String.toList_append,
        pieces_text_append (hplain text List.mem_cons_self), Template.placed, String.toList_append]
      exact resolvePieces_text_append (ih hrest hvalues) text.toList
    | slot index =>
      -- the slot takes the first value, and the others belong to the rest of the template
      obtain ⟨value, values, rfl⟩ : ∃ value rest, values = value :: rest := by
        cases values with
        | nil => cases hvalues
        | cons value rest => exact ⟨value, rest, rfl⟩
      obtain ⟨hvalue, hvalues⟩ := List.cons.inj hvalues
      rw [Template.marked, String.toList_append, pieces_marker_append, Template.placed,
        String.toList_append]
      exact resolvePieces_marker_cons ((value?_repr parameters index).trans hvalue)
        (ih hrest hvalues)

/-- **A plain template resolves.** If each slot names a value, the statement becomes the template
with placeholders, and the values are those of the slots in order. -/
theorem resolve_marked (dialect : Dialect) {parameters : Parameters} {template : Template}
    {values : List String} (hplain : template.Plain)
    (hvalues : template.slots.map (parameters[·]?) = values.map some) :
    parameters.resolve dialect template.marked = .ok ⟨template.placed dialect 1, values⟩ := by
  rw [Parameters.resolve, resolvePieces_marked dialect hplain hvalues]
  show Except.ok _ = _
  rw [String.ofList_toList]

end SemanticLayer.Sql
