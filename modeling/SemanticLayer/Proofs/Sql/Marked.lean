import SemanticLayer.Proofs.Sql.Layout

/-!
# Texts with markers

A text is **marked** with parameters if it has a plain template with these slots. This is the
property by which a text is followed through the compiler. It is compositional: text without
dollar signs has no slots, and the slots of two texts follow each other. Besides, a marker is
marked with its own parameter (`Marked.marker`).

`Condition.marked_text` is where this leads: if the expression of the column has no dollar sign,
the predicate is marked with exactly the parameters that were allocated for it, each once and in
the order of the values.
-/

namespace SemanticLayer.Sql

/-- A text consists of markers of these parameters, in this order, and of text without dollar
signs between them. -/
def Marked (text : String) (slots : List Nat) : Prop :=
  ∃ template : Template, template.Plain ∧ template.marked = text ∧ template.slots = slots

namespace Marked

theorem plain {text : String} (h : '$' ∉ text.toList) : Marked text [] := by
  refine ⟨[.text text], ?_, ?_, rfl⟩
  · intro other hother
    cases List.mem_singleton.1 hother
    exact h
  · rw [Template.marked, Template.marked, String.append_empty]

theorem marker (index : Nat) : Marked (marker index) [index] := by
  refine ⟨[.slot index], ?_, ?_, rfl⟩
  · intro text htext
    cases List.mem_singleton.1 htext
  · rw [Template.marked, Template.marked, String.append_empty]

theorem append {first rest : String} {slots₁ slots₂ : List Nat} (hfirst : Marked first slots₁)
    (hrest : Marked rest slots₂) : Marked (first ++ rest) (slots₁ ++ slots₂) := by
  obtain ⟨template₁, hplain₁, rfl, rfl⟩ := hfirst
  obtain ⟨template₂, hplain₂, rfl, rfl⟩ := hrest
  exact ⟨template₁ ++ template₂, hplain₁.append hplain₂, Template.marked_append _ _,
    Template.slots_append _ _⟩

/-- The slots of a text go through it from the front. -/
theorem compositional :
    Compositional (fun column ↦ Marked (column ++ " ")) Marked Marked :=
  compositional_of_append plain append

/-- A column without a dollar sign has no slots, also together with the blank behind it. -/
theorem column {column : String} (h : '$' ∉ column.toList) : Marked (column ++ " ") [] :=
  compositional.followed (plain h) (by decide)

end Marked

/-! ### Conditions -/

theorem flatten_map_singleton (indices : List Nat) :
    (indices.map fun index ↦ [index]).flatten = indices := by
  rw [← List.flatMap_def, List.flatMap_singleton']

/-- The slots of a predicate on a column without slots are its parameters, each once. -/
theorem Form.found_slots {form : Form} {parameters : List Nat} {values : List String}
    (hfits : form.fault? values = none) (hlength : parameters.length = (form.taken values).length) :
    form.found [] (parameters.map fun index ↦ [index]) = parameters := by
  cases form with
  | equality negated =>
    rw [found, flatten_map_singleton, List.nil_append, ite_self, List.append_nil]
  | pattern kind negated =>
    simp only [found, List.nil_append, List.map_id', flatten_map_singleton, ite_self,
      List.append_nil]
  | comparison sign | dateComparison sign =>
    have hone : values.length = 1 := by
      simpa only [fault?, ite_eq_left_iff, reduceCtorEq, imp_false, not_not] using hfits
    obtain ⟨parameter, rfl⟩ := List.length_eq_one_iff.1 (hlength.trans hone)
    rfl
  | presence present => exact (List.eq_nil_of_length_eq_zero hlength).symm
  | range inside =>
    have htwo : values.length = 2 := by
      simpa only [fault?, ite_eq_left_iff, reduceCtorEq, imp_false, not_not] using hfits
    obtain ⟨lower, upper, rfl⟩ := List.length_eq_two.1 (hlength.trans htwo)
    rfl

namespace Condition

/-- The slots of a condition whose column has none are the parameters that it allocates. -/
theorem found_slots {condition : Condition} (hfits : condition.fault? = none) (first : Nat) :
    condition.found (fun _ ↦ []) (fun index ↦ [index]) first =
      List.range' first condition.taken.length := by
  refine Form.found_slots (Option.map_eq_none_iff.1 hfits) ?_
  rw [List.length_range', taken_eq_form]

/-- **A predicate is marked with its parameters**, each once and in the order of the values. -/
theorem marked_text {condition : Condition} (hfits : condition.fault? = none)
    (hcolumn : '$' ∉ condition.column.toList) (dialect : Dialect) (first : Nat) :
    Marked (condition.text dialect first) (List.range' first condition.taken.length) := by
  have htext := Marked.compositional.condition (fun _ ↦ []) (fun index ↦ [index]) Marked.marker
    hfits (Marked.column hcolumn) dialect first
  rwa [found_slots hfits] at htext

/-- The slots of conditions whose columns have none are the parameters of each in turn. -/
theorem flatten_foundAll_slots {conditions : List Condition}
    (hfits : ∀ condition ∈ conditions, condition.fault? = none) (first : Nat) :
    (foundAll (fun _ ↦ []) (fun index ↦ [index]) first conditions).flatten =
      List.range' first (conditions.flatMap taken).length := by
  induction conditions generalizing first with
  | nil => rfl
  | cons condition conditions ih =>
    obtain ⟨hfit, hfits⟩ := List.forall_mem_cons.1 hfits
    rw [foundAll, List.flatten_cons, found_slots hfit, ih hfits, List.range'_append_1,
      List.flatMap_cons, List.length_append]

/-- The predicates of several conditions are marked with the parameters of each in turn. -/
theorem marked_texts {conditions : List Condition}
    (hfits : ∀ condition ∈ conditions, condition.fault? = none)
    (hcolumns : ∀ condition ∈ conditions, '$' ∉ condition.column.toList) (dialect : Dialect)
    (first : Nat) :
    ∃ slots, List.Forall₂ Marked (texts dialect first conditions) slots ∧
      slots.flatten = List.range' first (conditions.flatMap taken).length :=
  ⟨_, Marked.compositional.conditions (fun _ ↦ []) (fun index ↦ [index]) Marked.marker hfits
    (fun condition hmem ↦ Marked.column (hcolumns condition hmem)) dialect first,
    flatten_foundAll_slots hfits first⟩

end Condition

end SemanticLayer.Sql
