import SemanticLayer.Proofs.Sql.Outline
import SemanticLayer.Proofs.Sql.Session

/-!
# Conjunctions keep their predicates

Several predicates are joined by `AND`, and they get no parentheses for it. So each of them has to
stand on its own: an `OR` in it would bind less tightly than the `AND` around it, and an `AND` in
it would make two predicates of one. What is needed of a predicate is that it is closed, and for
this each form puts exactly those texts into parentheses that hold a connective.

The column is inserted as it is, and is closed by assumption. Everything else is made of markers,
calls, casts and words, which are closed whatever the dialect. So being closed goes through every
layout (`closed_compositional`), with texts in parentheses only having to balance, and
`split?_compileAll` reads the joined text again.
-/

namespace SemanticLayer.Sql

open Compile Sentence

/-! ### Texts -/

theorem inert_of_isDigit {c : Char} (h : c.isDigit = true) : (Symbol.char c).IsInert := by
  have hall : ∀ n : Fin 10, (Symbol.char (Char.ofNat (48 + n))).IsInert := by decide
  obtain ⟨hlower, hupper⟩ : 48 ≤ c.toNat ∧ c.toNat ≤ 57 := by
    simpa [Char.isDigit, UInt32.le_iff_toNat_le] using h
  have hdigit := hall ⟨c.toNat - 48, by omega⟩
  rwa [Nat.add_sub_cancel' hlower, Char.ofNat_toNat] at hdigit

theorem closed_marker (index : Nat) : Closed (ofText (marker index)) := by
  refine closed_of_inert (List.forall_mem_map.2 fun c hc ↦ ?_)
  have hchars : c = '$' ∨ c ∈ index.repr.toList := by
    simpa [marker, or_comm, or_assoc] using hc
  rcases hchars with rfl | hdigit
  · decide
  · exact inert_of_isDigit (isDigit_of_mem_repr hdigit)

/-- **Every layout is closed** if its column and its parameters are. In parentheses it is enough
that texts balance. -/
theorem closed_compositional :
    Compositional (fun column (_ : List Unit) ↦ Closed (ofText column))
      (fun text _ ↦ Balanced (ofText text)) (fun text _ ↦ Closed (ofText text)) where
  inner_of_outer h := h.balanced
  empty := by decide
  join hfirst hglue hrest := by
    rw [ofText_append, ofText_append]
    exact hfirst.append (hglue.2.2.append hrest)
  word h := h.2
  blank hfirst hrest := by
    rw [ofText_append, ofText_append]
    exact hfirst.blank hrest
  columnBlank hcolumn hrest := by
    rw [ofText_append, ofText_append]
    exact hcolumn.blank hrest
  call hname hargument := by
    rw [ofText_append, ofText_parenthesized]
    exact hname.2.append hargument.parenthesized (apart_of_head (by decide) _ _)
  cast hparameter htype := by
    rw [ofText_append]
    exact hparameter.append htype.2 (by rw [ofText_append]; exact apart_of_head (by decide) _ _)

/-! ### Conditions -/

namespace Condition

theorem closed_texts {conditions : List Condition}
    (hfits : ∀ condition ∈ conditions, condition.fault? = none)
    (hcolumns : ∀ condition ∈ conditions, Closed (ofText condition.column)) (dialect : Dialect)
    (first : Nat) : ∀ text ∈ texts dialect first conditions, Closed (ofText text) := by
  have hclosed := closed_compositional.conditions (fun _ ↦ []) (fun _ ↦ []) closed_marker hfits
    hcolumns dialect first
  intro text hmem
  obtain ⟨-, -, hclosed⟩ := exists_related_of_mem hclosed hmem
  exact hclosed

end Condition

/-- Conditions that are compiled one after another give their predicates in order. -/
theorem session_map_filter_of_fits (dialect : Dialect) {conditions : List Condition}
    (hfits : ∀ condition ∈ conditions, condition.fault? = none) (parameters : Parameters) :
    (session dialect (conditions.map .filter) parameters).1.map Prod.snd =
        (Condition.texts dialect parameters.length conditions).map (.ok ∘ some) ∧
      (session dialect (conditions.map .filter) parameters).2 =
        parameters ++ conditions.flatMap Condition.taken := by
  induction conditions generalizing parameters with
  | nil => exact ⟨rfl, (List.append_nil _).symm⟩
  | cons condition conditions ih =>
    obtain ⟨hfit, hfits⟩ := List.forall_mem_cons.1 hfits
    have hcall : outcome ((Call.filter condition).compile dialect) parameters =
        (.ok (some (condition.text dialect parameters.length)), parameters ++ condition.taken) :=
      outcome_map_of_ok (Condition.outcome_compile_of_fits hfit dialect parameters) some
    obtain ⟨hanswers, hafter⟩ := ih hfits (parameters ++ condition.taken)
    rw [List.length_append] at hanswers
    rw [List.map_cons, session, hcall, List.flatMap_cons, ← List.append_assoc]
    exact ⟨congrArg (List.cons _) hanswers, hafter⟩

/-- **Conjunctions keep their predicates.** If the columns of conditions are closed and all of the
conditions together have a text, then this text balances and has no `OR` outside of parentheses and
quotes, and split at its `AND`s it is, in order, what the conditions give when they are compiled
one after another from the same parameters. -/
theorem split?_compileAll (dialect : Dialect) {conditions : List Condition}
    (hcolumns : ∀ condition ∈ conditions, Closed (ofText condition.column))
    {parameters after : Parameters} {text : String}
    (h : outcome (compileAll dialect conditions) parameters = (.ok (some text), after)) :
    Omits .or (ofText text) ∧ ∃ fragments : List String,
      split? .and (ofText text) = some (fragments.map ofText) ∧
      (session dialect (conditions.map .filter) parameters).1.map Prod.snd =
        fragments.map (.ok ∘ some) ∧
      (session dialect (conditions.map .filter) parameters).2 = after := by
  rcases Condition.fits_or_first_fault conditions with
    hfits | ⟨before, condition, others, error, rfl, hbefore, herror⟩
  · rw [outcome_compileAll_of_fits dialect hfits] at h
    obtain ⟨htext, rfl⟩ := Prod.mk.inj h
    obtain ⟨hanswers, hafter⟩ := session_map_filter_of_fits dialect hfits parameters
    have hclosed := Condition.closed_texts hfits hcolumns dialect parameters.length
    generalize Condition.texts dialect parameters.length conditions = fragments at *
    have hnonempty : fragments.map ofText ≠ [] := by
      rintro hempty
      rw [List.map_eq_nil_iff.1 hempty] at htext
      cases htext
    have hjoined : ofText text = Connective.and.join (fragments.map ofText) := by
      rw [← intercalate_of_conjunction (Except.ok.inj htext), ofText_intercalate]
      rfl
    have homits (connective : Connective) :
        ∀ sentence ∈ fragments.map ofText, Omits connective sentence :=
      List.forall_mem_map.2 fun fragment hmem ↦ hclosed fragment hmem connective
    rw [hjoined]
    exact ⟨Omits.join (by decide) (homits .or), fragments,
      split?_join hnonempty (homits .and), hanswers, hafter⟩
  · rw [outcome_compileAll_of_fault dialect hbefore herror] at h
    cases (Prod.mk.inj h).1

/-- Conditions on columns that hold connectives and parentheses in quotes, with negations of which
the text holds both connectives. -/
def nestedConditions : List Condition :=
  [⟨"\"this or that (\"", .string, .notContains, ["a", "b"]⟩,
    ⟨"COALESCE(opened, ')')", .time, .notInDateRange, ["2021-01-01", "2021-01-02"]⟩,
    ⟨"ORDER_ID", .number, .notIn, ["1", "2"]⟩]

/-- What they are together. -/
def nestedText : String :=
  "(\"this or that (\" NOT ILIKE ('%' || $1$ || '%') AND " ++
    "\"this or that (\" NOT ILIKE ('%' || $2$ || '%') OR \"this or that (\" IS NULL) AND " ++
    "(COALESCE(opened, ')') < $3$::timestamptz OR COALESCE(opened, ')') > $4$::timestamptz) AND " ++
    "(ORDER_ID NOT IN ($5$::numeric, $6$::numeric) OR ORDER_ID IS NULL)"

/-- Of all the connectives in the text, only the two between the predicates count. -/
theorem split?_of_nestedConditions :
    (∀ condition ∈ nestedConditions, Closed (ofText condition.column)) ∧
    outcome (compileAll .postgres nestedConditions) ["x"] =
      (.ok (some nestedText), ["x", "a", "b", "2021-01-01", "2021-01-02", "1", "2"]) ∧
    Omits .or (ofText nestedText) ∧ ∃ fragments : List String,
      split? .and (ofText nestedText) = some (fragments.map ofText) ∧
      (session .postgres (nestedConditions.map .filter) ["x"]).1.map Prod.snd =
        fragments.map (.ok ∘ some) ∧
      (session .postgres (nestedConditions.map .filter) ["x"]).2 =
        ["x", "a", "b", "2021-01-01", "2021-01-02", "1", "2"] := by
  have hcolumns : ∀ condition ∈ nestedConditions, Closed (ofText condition.column) := by decide
  have houtcome : outcome (compileAll .postgres nestedConditions) ["x"] =
      (.ok (some nestedText), ["x", "a", "b", "2021-01-01", "2021-01-02", "1", "2"]) := by
    decide +kernel
  exact ⟨hcolumns, houtcome, split?_compileAll .postgres hcolumns houtcome⟩

end SemanticLayer.Sql
