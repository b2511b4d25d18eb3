import SemanticLayer.Proofs.Sql.Compilation
import SemanticLayer.Proofs.Sql.Outline

/-!
# Layouts of predicates

What a predicate looks like depends on its form and on the dialect, but which parts it is made of,
and in which order, depends on the form alone: the column, the parameters, and text of the dialect
around them (`Form.found`). Parts may be anything that is found in a text, such as the markers in
it.

A property of texts, and of what is found in them, is followed through the layout of every form
from the inside out, and for this it has to be known how it behaves in the few ways in which texts
are put together (`Compositional`). Texts in parentheses may be joined as they are; texts that stand
beside others are joined by a blank, called by a name or cast. So there are two sides to such a
property, an inner and an outer one, and a third for columns, which come from elsewhere and are
always followed by a blank. `Compositional.text` is where this leads.
-/

namespace SemanticLayer.Sql

open Query (MatchKind SemanticType)
open Sentence

/-! ### Properties of texts -/

/-- Neither of the signs that markers and placeholders are made with. -/
def IsPlain (text : String) : Prop :=
  '$' ∉ text.toList ∧ '?' ∉ text.toList

instance (text : String) : Decidable (IsPlain text) :=
  inferInstanceAs (Decidable (_ ∧ _))

/-- Nothing at the front of a text could belong to a marker or a placeholder before it. -/
def Stops : List Char → Prop
  | [] => True
  | c :: _ => c ≠ '$' ∧ Text.isDecimalDigit c = false

instance : (text : List Char) → Decidable (Stops text)
  | [] => inferInstanceAs (Decidable True)
  | _ :: _ => inferInstanceAs (Decidable (_ ∧ _))

/-- Text of a dialect that may stand beside other text. -/
def IsWord (text : String) : Prop :=
  IsPlain text ∧ Closed (ofText text)

instance (text : String) : Decidable (IsWord text) :=
  inferInstanceAs (Decidable (_ ∧ _))

/-- Text of a dialect that may stand in parentheses, behind other text and in front of more. -/
def IsGlue (text : String) : Prop :=
  IsPlain text ∧ (text ≠ "" ∧ Stops text.toList) ∧ Balanced (ofText text)

instance (text : String) : Decidable (IsGlue text) :=
  inferInstanceAs (Decidable (_ ∧ _ ∧ _))

/-- A property of columns, of texts in parentheses and of texts beside others, each with what is
found in them, which goes through everything that is done with texts. -/
structure Compositional {α : Type} (column inner outer : String → List α → Prop) : Prop where
  inner_of_outer : ∀ {text found}, outer text found → inner text found
  empty : inner "" []
  /-- Texts are never put together without text of the dialect between them. -/
  join : ∀ {first glue rest found found'}, inner first found → IsGlue glue → inner rest found' →
    inner (first ++ (glue ++ rest)) (found ++ found')
  word : ∀ {text}, IsWord text → outer text []
  blank : ∀ {first rest found found'}, outer first found → outer rest found' →
    outer (first ++ (" " ++ rest)) (found ++ found')
  columnBlank : ∀ {text rest found found'}, column text found → outer rest found' →
    outer (text ++ (" " ++ rest)) (found ++ found')
  /-- Parentheses behind a name, or behind none. -/
  call : ∀ {name argument found}, IsWord name → inner argument found →
    outer (name ++ ("(" ++ argument ++ ")")) found
  /-- A type behind a colon. -/
  cast : ∀ {parameter type found}, outer parameter found → IsWord (":" ++ type) →
    outer (parameter ++ (":" ++ type)) found

/-- A property that goes through all texts from the front needs no sides. -/
theorem compositional_of_append {α : Type} {holds : String → List α → Prop}
    (plain : ∀ {text}, '$' ∉ text.toList → holds text [])
    (append : ∀ {first rest found found'}, holds first found → holds rest found' →
      holds (first ++ rest) (found ++ found')) :
    Compositional (fun column ↦ holds (column ++ " ")) holds holds where
  inner_of_outer h := h
  empty := plain (by decide)
  join hfirst hglue hrest := append hfirst (append (plain hglue.1.1) hrest)
  word h := plain h.1.1
  blank hfirst hrest := append hfirst (append (plain (by decide)) hrest)
  columnBlank hcolumn hrest := by
    rw [← String.append_assoc]
    exact append hcolumn hrest
  call hname hargument := by
    have hopen : '$' ∉ ("(" : String).toList := by decide
    have hclose : '$' ∉ (")" : String).toList := by decide
    have htext := append (plain hname.1.1) (append (append (plain hopen) hargument) (plain hclose))
    rwa [List.append_nil] at htext
  cast hparameter htype := by
    have htext := append hparameter (plain htype.1.1)
    rwa [List.append_nil] at htext

namespace Compositional

variable {α : Type} {column inner outer : String → List α → Prop}
  (compositional : Compositional column inner outer)

include compositional

/-! ### Texts -/

/-- Text behind which there is text of the dialect. -/
theorem followed {text rest : String} {found : List α} (hrest : inner rest found)
    (h : IsGlue text) : inner (rest ++ text) found := by
  have hjoined := compositional.join hrest h compositional.empty
  rwa [String.append_empty, List.append_nil] at hjoined

theorem parenthesized {text : String} {found : List α} (h : inner text found) :
    outer ("(" ++ text ++ ")") found := by
  have hcall := compositional.call (show IsWord "" by decide) h
  rwa [String.empty_append] at hcall

/-- A call with more text behind the argument. -/
theorem callWith (name behind : String) (hname : IsWord name) (hbehind : IsGlue behind)
    {argument : String} {found : List α} (h : inner argument found) :
    outer (name ++ "(" ++ argument ++ (behind ++ ")")) found := by
  have htext : name ++ "(" ++ argument ++ (behind ++ ")") =
      name ++ ("(" ++ (argument ++ behind) ++ ")") := by
    simp only [String.append_assoc]
  rw [htext]
  exact compositional.call hname (compositional.followed h hbehind)

/-- Texts may be joined by text of the dialect. -/
theorem intercalate (separator : String) (hseparator : IsGlue separator) {texts : List String}
    {found : List (List α)} (h : List.Forall₂ inner texts found) :
    inner (separator.intercalate texts) found.flatten := by
  induction h with
  | nil =>
    rw [String.intercalate_nil]
    exact compositional.empty
  | @cons text found₁ texts found htext hrest ih =>
    cases hrest with
    | nil =>
      rw [String.intercalate_singleton, List.flatten_cons, List.flatten_nil, List.append_nil]
      exact htext
    | cons =>
      rw [String.intercalate_cons_cons, List.flatten_cons, String.append_assoc]
      exact compositional.join htext hseparator ih

/-- Texts that stand beside others may be joined as well. -/
theorem intercalate_outer (separator : String) (hseparator : IsGlue separator)
    {texts : List String} {found : List (List α)} (h : List.Forall₂ outer texts found) :
    inner (separator.intercalate texts) found.flatten :=
  compositional.intercalate separator hseparator
    (h.imp fun _ _ htext ↦ compositional.inner_of_outer htext)

/-! ### Dialects -/

theorem castParameter {parameter : String} {found : List α} (h : outer parameter found)
    (dialect : Dialect) (cast : ParameterCast) :
    outer (dialect.castParameter parameter cast) found := by
  have hinner := compositional.inner_of_outer h
  cases cast with
  | untyped => exact h
  | boolean =>
    cases dialect with
    | vertica => exact compositional.callWith "CAST" " AS BOOLEAN" (by decide) (by decide) hinner
    | postgres => exact compositional.cast h (show IsWord (":" ++ ":boolean") by decide)
  | number =>
    cases dialect with
    | vertica =>
      exact compositional.callWith "CAST" " AS DOUBLE PRECISION" (by decide) (by decide) hinner
    | postgres => exact compositional.cast h (show IsWord (":" ++ ":numeric") by decide)

theorem castTimestampLiteral {parameter : String} {found : List α} (h : outer parameter found)
    (dialect : Dialect) : outer (dialect.castTimestampLiteral parameter) found := by
  cases dialect with
  | vertica =>
    exact compositional.callWith "TO_TIMESTAMP" ", 'YYYY-MM-DD\"T\"HH24:MI:SS.MS'" (by decide)
      (by decide) (compositional.inner_of_outer h)
  | postgres => exact compositional.cast h (show IsWord (":" ++ ":timestamptz") by decide)

theorem concat {parts : List String} {found : List (List α)} (h : List.Forall₂ outer parts found)
    (dialect : Dialect) : outer (dialect.concat parts) found.flatten := by
  cases h with
  | nil => cases dialect <;> exact compositional.word (by decide)
  | @cons part found₁ parts found hpart hparts =>
    cases dialect with
    | vertica =>
      -- the calls nest to the left, so what has been joined grows from part to part
      show outer (parts.foldl _ part) (found₁ ++ found.flatten)
      induction hparts generalizing part found₁ with
      | nil =>
        rw [List.flatten_nil, List.append_nil]
        exact hpart
      | @cons next found₂ parts found hnext hparts ih =>
        have htext : "CONCAT(" ++ part ++ ", " ++ next ++ ")" =
            "CONCAT" ++ ("(" ++ (part ++ (", " ++ next)) ++ ")") := by
          show "CONCAT" ++ "(" ++ part ++ ", " ++ next ++ ")" = _
          simp only [String.append_assoc]
        have hjoined : outer ("CONCAT(" ++ part ++ ", " ++ next ++ ")") (found₁ ++ found₂) :=
          htext ▸ compositional.call (show IsWord "CONCAT" by decide)
            (compositional.join (compositional.inner_of_outer hpart) (by decide)
              (compositional.inner_of_outer hnext))
        rw [List.foldl_cons, List.flatten_cons, ← List.append_assoc]
        exact ih hjoined
    | postgres =>
      cases hparts with
      | nil =>
        rw [List.flatten_cons, List.flatten_nil, List.append_nil]
        exact hpart
      | cons hnext hparts =>
        exact compositional.parenthesized (compositional.intercalate_outer " || " (by decide)
          (.cons hpart (.cons hnext hparts)))

/-- A parameter is found among the wildcards of a pattern. -/
theorem pattern {parameter : String} {found : List α} (h : outer parameter found)
    (dialect : Dialect) (kind : MatchKind) : outer (dialect.pattern kind parameter) found := by
  have hwildcard : outer (quoteString "%") [] := compositional.word (by decide)
  have hfound : ∀ parts others, List.Forall₂ outer parts others → others.flatten = found →
      outer (dialect.concat parts) found :=
    fun parts others hparts hflatten ↦ hflatten ▸ compositional.concat hparts dialect
  cases kind with
  | contains =>
    exact hfound [quoteString "%", parameter, quoteString "%"] [[], found, []]
      (.cons hwildcard (.cons h (.cons hwildcard .nil))) (by simp)
  | startsWith =>
    exact hfound [parameter, quoteString "%"] [found, []] (.cons h (.cons hwildcard .nil))
      (by simp)
  | endsWith =>
    exact hfound [quoteString "%", parameter] [[], found] (.cons hwildcard (.cons h .nil))
      (by simp)
  | equals => exact hfound [parameter] [found] (.cons h .nil) (by simp)

/-! ### Predicates -/

section Column

variable {text : String} {inColumn : List α} (hcolumn : column text inColumn)

include hcolumn

/-- A column, a word and more text. -/
theorem operation (word : String) (hword : IsWord word) {rest : String} {found : List α}
    (hrest : outer rest found) :
    outer (text ++ (" " ++ (word ++ (" " ++ rest)))) (inColumn ++ found) :=
  compositional.columnBlank hcolumn (compositional.blank (compositional.word hword) hrest)

/-- A column and a word. -/
theorem state (word : String) (hword : IsWord word) : outer (text ++ (" " ++ word)) inColumn := by
  have htext := compositional.columnBlank hcolumn (compositional.word hword)
  rwa [List.append_nil] at htext

theorem orNull {predicate : String} {found : List α} (h : inner predicate found) :
    outer (orNull predicate text) (found ++ inColumn) := by
  have hnull : inner (text ++ (" " ++ "IS NULL")) inColumn :=
    compositional.inner_of_outer (compositional.state hcolumn "IS NULL" (by decide))
  have htext : Sql.orNull predicate text =
      "(" ++ (predicate ++ (" OR " ++ (text ++ (" " ++ "IS NULL")))) ++ ")" := by
    show "(" ++ predicate ++ " OR " ++ text ++ (" IS NULL" ++ ")") =
      "(" ++ (predicate ++ (" OR " ++ (text ++ " IS NULL"))) ++ ")"
    simp only [String.append_assoc]
  rw [htext]
  exact compositional.parenthesized (compositional.join h (by decide) hnull)

theorem like {parameter : String} {found : List α} (h : outer parameter found) (dialect : Dialect)
    (negated : Bool) (kind : MatchKind) :
    outer (dialect.like text negated kind parameter) (inColumn ++ found) := by
  have hpattern := compositional.pattern h dialect kind
  rw [Dialect.like, String.append_assoc, String.append_assoc]
  cases negated with
  | true => exact compositional.operation hcolumn "NOT ILIKE" (by decide) hpattern
  | false => exact compositional.operation hcolumn "ILIKE" (by decide) hpattern

theorem equalityText {parameters : List String} {found : List (List α)}
    (h : List.Forall₂ outer parameters found) (negated : Bool) :
    outer (equalityText text negated parameters)
      (inColumn ++ found.flatten ++ if negated then inColumn else []) := by
  have hlist := compositional.parenthesized
    (compositional.intercalate_outer ", " (by decide) h)
  have hlisted : ∀ word : String, IsWord word →
      outer (text ++ (" " ++ word ++ " (" ++ ", ".intercalate parameters ++ ")"))
        (inColumn ++ found.flatten) := by
    intro word hword
    have htext : " " ++ word ++ " (" ++ ", ".intercalate parameters ++ ")" =
        " " ++ (word ++ (" " ++ ("(" ++ ", ".intercalate parameters ++ ")"))) := by
      show " " ++ word ++ (" " ++ "(") ++ ", ".intercalate parameters ++ ")" = _
      simp only [String.append_assoc]
    rw [htext]
    exact compositional.operation hcolumn word hword hlist
  have hsingle : ∀ (sign parameter : String) (found₁ : List α), IsWord sign →
      outer parameter found₁ →
        outer (text ++ (" " ++ sign ++ " " ++ parameter)) (inColumn ++ found₁) := by
    intro sign parameter found₁ hsign hparameter
    rw [String.append_assoc, String.append_assoc]
    exact compositional.operation hcolumn sign hsign hparameter
  cases negated with
  | false =>
    rw [if_neg Bool.false_ne_true, List.append_nil]
    match parameters, h with
    | [], _ => exact hlisted "IN" (by decide)
    | [parameter], .cons hparameter .nil =>
      rw [List.flatten_cons, List.flatten_nil, List.append_nil]
      exact hsingle "=" _ _ (by decide) hparameter
    | first :: second :: rest, _ => exact hlisted "IN" (by decide)
  | true =>
    rw [if_pos rfl]
    refine compositional.orNull hcolumn (compositional.inner_of_outer ?_)
    match parameters, h with
    | [], _ => exact hlisted "NOT IN" (by decide)
    | [parameter], .cons hparameter .nil =>
      rw [List.flatten_cons, List.flatten_nil, List.append_nil]
      exact hsingle "<>" _ _ (by decide) hparameter
    | first :: second :: rest, _ => exact hlisted "NOT IN" (by decide)

theorem patternsText {predicates : List String} {found : List (List α)}
    (h : List.Forall₂ outer predicates found) (negated : Bool) :
    outer (patternsText text negated predicates)
      (found.flatten ++ if negated then inColumn else []) := by
  cases negated with
  | true =>
    exact compositional.orNull hcolumn (compositional.intercalate_outer " AND " (by decide) h)
  | false =>
    rw [if_neg Bool.false_ne_true, List.append_nil]
    have hany := compositional.parenthesized
      (compositional.intercalate_outer " OR " (by decide) h)
    match predicates, h with
    | [], _ => exact hany
    | [predicate], .cons hpredicate .nil =>
      rw [List.flatten_cons, List.flatten_nil, List.append_nil]
      exact hpredicate
    | first :: second :: rest, _ => exact hany

theorem comparisonText {parameter : String} {found : List α} (h : outer parameter found)
    (sign : Sign) : outer (comparisonText text sign.text parameter) (inColumn ++ found) := by
  rw [Sql.comparisonText, String.append_assoc, String.append_assoc, String.append_assoc]
  exact compositional.operation hcolumn sign.text (by cases sign <;> decide) h

theorem rangeText {first last : String} {found₁ found₂ : List α} (hfirst : outer first found₁)
    (hlast : outer last found₂) (inside : Bool) :
    outer (rangeText text inside first last) (inColumn ++ found₁ ++ (inColumn ++ found₂)) := by
  have hbetween : ∀ lower middle upper : String, IsWord lower → IsGlue middle → IsWord upper →
      outer ("(" ++ text ++ (" " ++ lower ++ " ") ++ first ++ middle ++ text ++
        (" " ++ upper ++ " ") ++ last ++ ")") (inColumn ++ found₁ ++ (inColumn ++ found₂)) := by
    intro lower middle upper hlower hmiddle hupper
    have hfront :=
      compositional.inner_of_outer (compositional.operation hcolumn lower hlower hfirst)
    have hrest :=
      compositional.inner_of_outer (compositional.operation hcolumn upper hupper hlast)
    have htext := compositional.parenthesized (compositional.join hfront hmiddle hrest)
    simpa only [String.append_assoc] using htext
  cases inside with
  | true => exact hbetween ">=" " AND " "<=" (by decide) (by decide) (by decide)
  | false => exact hbetween "<" " OR " ">" (by decide) (by decide) (by decide)

theorem presenceText (present : Bool) : outer (presenceText text present) inColumn := by
  cases present with
  | true => exact compositional.state hcolumn "IS NOT NULL" (by decide)
  | false => exact compositional.state hcolumn "IS NULL" (by decide)

end Column

end Compositional

/-! ### Forms -/

namespace Form

/-- What is found in a predicate, given what is found in its column and in its parameters. The
dialect does not matter. -/
def found {α : Type} (inColumn : List α) (inParameters : List (List α)) : Form → List α
  | equality negated => inColumn ++ inParameters.flatten ++ if negated then inColumn else []
  | pattern _ negated =>
    (inParameters.map (inColumn ++ ·)).flatten ++ if negated then inColumn else []
  | comparison _ => inColumn ++ inParameters.headD []
  | dateComparison _ => inColumn ++ inParameters.headD []
  | presence _ => inColumn
  | range _ => inColumn ++ inParameters.headD [] ++ (inColumn ++ inParameters.getD 1 [])

/-- Whether values fit is a matter of their number. -/
theorem fault?_eq_of_length_eq {values others : List String} (h : values.length = others.length)
    (form : Form) : form.fault? values = form.fault? others := by
  have hempty : values.isEmpty = others.isEmpty := by
    rw [Bool.eq_iff_iff, List.isEmpty_iff_length_eq_zero, List.isEmpty_iff_length_eq_zero, h]
  cases form <;> simp only [fault?, hempty, h]

/-- There are as many markers as values are taken, so the markers fit where the values do. -/
theorem fault?_markers {form : Form} {values : List String} (hfits : form.fault? values = none)
    (first : Nat) : form.fault? (markers first (form.taken values).length) = none := by
  cases form with
  | presence present => rfl
  | _ =>
    have hlength : (markers first values.length).length = values.length := by simp [markers]
    exact (fault?_eq_of_length_eq hlength _).trans hfits

end Form

/-- **What is found in a predicate** with given parameters. -/
theorem Compositional.text {α : Type} {column inner outer : String → List α → Prop}
    (compositional : Compositional column inner outer) {form : Form} {text : String}
    {inColumn : List α} (hcolumn : column text inColumn) {parameters : List String}
    {inParameters : List (List α)} (h : List.Forall₂ outer parameters inParameters)
    (hfits : form.fault? parameters = none) (dialect : Dialect) (type : SemanticType) :
    outer (form.text dialect text type parameters) (form.found inColumn inParameters) := by
  cases form with
  | equality negated =>
    refine compositional.equalityText hcolumn ?_ negated
    exact List.forall₂_map_left_iff.2
      (h.imp fun _ _ hparameter ↦ compositional.castParameter hparameter dialect _)
  | pattern kind negated =>
    refine compositional.patternsText hcolumn ?_ negated
    exact List.forall₂_map_left_iff.2 (List.forall₂_map_right_iff.2
      (h.imp fun _ _ hparameter ↦ compositional.like hcolumn hparameter dialect negated kind))
  | comparison sign =>
    match parameters, h with
    | [], _ => cases hfits
    | [parameter], .cons hparameter .nil =>
      exact compositional.comparisonText hcolumn
        (compositional.castParameter hparameter dialect _) sign
    | _ :: _ :: _, _ => cases hfits
  | dateComparison sign =>
    match parameters, h with
    | [], _ => cases hfits
    | [parameter], .cons hparameter .nil =>
      exact compositional.comparisonText hcolumn
        (compositional.castTimestampLiteral hparameter dialect) sign
    | _ :: _ :: _, _ => cases hfits
  | presence present => exact compositional.presenceText hcolumn present
  | range inside =>
    match parameters, h with
    | [], _ => cases hfits
    | [_], _ => cases hfits
    | [lower, upper], .cons hlower (.cons hupper .nil) =>
      exact compositional.rangeText hcolumn (compositional.castTimestampLiteral hlower dialect)
        (compositional.castTimestampLiteral hupper dialect) inside
    | _ :: _ :: _ :: _, _ => cases hfits

/-! ### Conditions -/

section Conditions

variable {α : Type} (inColumn : String → List α) (inMarker : Nat → List α)

/-- What is found in the predicate of a condition that finds `first` parameters already there. -/
def Condition.found (first : Nat) (condition : Condition) : List α :=
  condition.form.found (inColumn condition.column)
    ((List.range' first condition.taken.length).map inMarker)

/-- What is found in the predicates of conditions of which the first finds `first` parameters
already there. -/
def Condition.foundAll : Nat → List Condition → List (List α)
  | _, [] => []
  | first, condition :: conditions =>
    condition.found inColumn inMarker first ::
      foundAll (first + condition.taken.length) conditions

variable {column inner outer : String → List α → Prop}
  (compositional : Compositional column inner outer)
  (hmarker : ∀ index, outer (marker index) (inMarker index))

include compositional hmarker

/-- Parameters are given to a predicate as their markers. -/
theorem Compositional.condition {condition : Condition} (hfits : condition.fault? = none)
    (hcolumn : column condition.column (inColumn condition.column)) (dialect : Dialect)
    (first : Nat) :
    outer (condition.text dialect first) (condition.found inColumn inMarker first) := by
  have hmarkers : List.Forall₂ outer (markers first condition.taken.length)
      ((List.range' first condition.taken.length).map inMarker) := by
    rw [markers, List.forall₂_map_left_iff, List.forall₂_map_right_iff, List.forall₂_same]
    exact fun index _ ↦ hmarker index
  refine compositional.text hcolumn hmarkers ?_ dialect condition.type
  rw [Condition.taken_eq_form]
  exact Form.fault?_markers (Option.map_eq_none_iff.1 hfits) first

/-- **What is found in the predicates** of several conditions is the same for every dialect. -/
theorem Compositional.conditions {conditions : List Condition}
    (hfits : ∀ condition ∈ conditions, condition.fault? = none)
    (hcolumns : ∀ condition ∈ conditions,
      column condition.column (inColumn condition.column))
    (dialect : Dialect) (first : Nat) :
    List.Forall₂ outer (Condition.texts dialect first conditions)
      (Condition.foundAll inColumn inMarker first conditions) := by
  induction conditions generalizing first with
  | nil => exact .nil
  | cons condition conditions ih =>
    obtain ⟨hfit, hfits⟩ := List.forall_mem_cons.1 hfits
    obtain ⟨hcolumn, hcolumns⟩ := List.forall_mem_cons.1 hcolumns
    exact .cons (compositional.condition inColumn inMarker hmarker hfit hcolumn dialect first)
      (ih hfits hcolumns (first + condition.taken.length))

end Conditions

end SemanticLayer.Sql
