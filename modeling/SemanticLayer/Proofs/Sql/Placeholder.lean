import SemanticLayer.Proofs.Sql.Resolution

/-!
# Placeholders of compiled conditions

Once a statement is resolved, its placeholders are all that is left of its markers, and whoever runs
it counts them. One dialect writes a sign for each of them, which must not occur for another reason.
The other writes a dollar sign and a number, and there the text behind a placeholder matters too: a
digit would make another number of it, and a dollar sign a marker.

So a template has to be **spaced**: a slot is followed by the end of the text, or by a character
that neither belongs to a number nor is a dollar sign, and the text between the slots has none of
the signs (`Template.Spaced`). On a spaced template the placeholders are exactly those of its slots,
and there is no marker left. That predicates are spaced is followed through their layout
(`Spaced.compositional`): whatever a dialect puts behind a parameter begins with a blank, a comma, a
colon or a parenthesis.
-/

namespace SemanticLayer.Sql

open Compile

/-! ### Placeholders in a text -/

/-- The dollar signs of a text, each with the longest run of digits behind it. -/
def dollarTokens : List Char → List (List Char)
  | [] => []
  | c :: text =>
    if c = '$' then (c :: text.takeWhile Text.isDecimalDigit) :: dollarTokens text
    else dollarTokens text

theorem dollarTokens_dollar (text : List Char) :
    dollarTokens ('$' :: text) =
      ('$' :: text.takeWhile Text.isDecimalDigit) :: dollarTokens text :=
  if_pos rfl

theorem dollarTokens_append {text : List Char} (h : '$' ∉ text) (rest : List Char) :
    dollarTokens (text ++ rest) = dollarTokens rest := by
  induction text with
  | nil => rfl
  | cons c text ih =>
    obtain ⟨hc, htext⟩ := not_or.1 (mt List.mem_cons.2 h)
    rw [List.cons_append, dollarTokens, if_neg (Ne.symm hc), ih htext]

/-- Text without dollar signs makes no marker with what follows it. -/
theorem hasMarker_append_iff {text : List Char} (h : '$' ∉ text) (rest : List Char) :
    HasMarker (text ++ rest) ↔ HasMarker rest := by
  induction text with
  | nil => rfl
  | cons c text ih =>
    obtain ⟨hc, htext⟩ := not_or.1 (mt List.mem_cons.2 h)
    rw [List.cons_append, hasMarker_cons_iff, ih htext]
    exact or_iff_right fun hopens ↦ hc hopens.1.symm

/-! ### Stops -/

theorem Stops.append {text rest : List Char} (htext : Stops text) (hrest : Stops rest) :
    Stops (text ++ rest) := by
  cases text with
  | nil => exact hrest
  | cons c text => exact htext

/-- A number ends where what follows stops it. -/
theorem takeWhile_repr_append (number : Nat) {rest : List Char} (h : Stops rest) :
    (number.repr.toList ++ rest).takeWhile Text.isDecimalDigit = number.repr.toList ∧
      (number.repr.toList ++ rest).dropWhile Text.isDecimalDigit = rest := by
  refine takeWhile_dropWhile_append
    (fun _ hc ↦ Text.isDecimalDigit_of_isDigit (isDigit_of_mem_repr hc)) ?_
  cases rest with
  | nil => exact fun _ hc ↦ nomatch hc
  | cons c rest => exact fun _ hc ↦ Option.some.inj hc ▸ h.2

theorem dollar_not_mem_repr (number : Nat) : '$' ∉ number.repr.toList :=
  fun hmem ↦ absurd (isDigit_of_mem_repr hmem) (by decide)

/-- A number behind a dollar sign is no marker where what follows stops it. -/
theorem hasMarker_number_iff (number : Nat) {rest : List Char} (h : Stops rest) :
    HasMarker ('$' :: (number.repr.toList ++ rest)) ↔ HasMarker rest := by
  rw [hasMarker_cons_iff, hasMarker_append_iff (dollar_not_mem_repr number)]
  refine or_iff_right ?_
  rintro ⟨-, digits, after, htail⟩
  obtain ⟨htake, hdrop⟩ := takeWhile_repr_append number h
  simp only [markerTail?, htake, hdrop] at htail
  split at htail
  · exact h.1 rfl
  · cases htail

/-! ### Spaced templates -/

namespace Template

/-- Texts have none of the signs that placeholders are made of, and every slot is followed by
something that stops its number. -/
def Spaced : Template → Prop
  | [] => True
  | .text text :: rest => IsPlain text ∧ Spaced rest
  | .slot _ :: rest => Stops (marked rest).toList ∧ Spaced rest

theorem Spaced.plain {template : Template} (h : template.Spaced) : template.Plain := by
  induction template with
  | nil => exact fun _ hmem ↦ absurd hmem List.not_mem_nil
  | cons token template ih =>
    intro text hmem
    cases token with
    | text first =>
      rcases List.mem_cons.1 hmem with heq | hrest
      · cases heq
        exact h.1.1
      · exact ih h.2 text hrest
    | slot index =>
      rcases List.mem_cons.1 hmem with heq | hrest
      · cases heq
      · exact ih h.2 text hrest

theorem Spaced.append {first rest : Template} (hfirst : first.Spaced) (hrest : rest.Spaced)
    (hstops : Stops rest.marked.toList) : Spaced (first ++ rest) := by
  induction first with
  | nil => exact hrest
  | cons token first ih =>
    cases token with
    | text text => exact ⟨hfirst.1, ih hfirst.2⟩
    | slot index =>
      refine ⟨?_, ih hfirst.2⟩
      show Stops (marked (first ++ rest)).toList
      rw [marked_append, String.toList_append]
      exact hfirst.1.append hstops

variable {template : Template}

/-- What stops a number in front of the markers stops it in front of the placeholders: it is text. -/
theorem stops_placed (dialect : Dialect) (h : Stops template.marked.toList) (position : Nat) :
    Stops (template.placed dialect position).toList := by
  induction template with
  | nil => exact h
  | cons token template ih =>
    cases token with
    | text text =>
      rw [marked, String.toList_append] at h
      rw [placed, String.toList_append]
      rcases htext : text.toList with - | ⟨c, chars⟩
      · rw [htext] at h
        exact ih h
      · rw [htext] at h
        exact h
    | slot index =>
      -- a marker begins with a dollar sign
      simp [marked, marker, Stops] at h

theorem toList_placeholder_vertica (position : Nat) :
    (Dialect.placeholder .vertica position).toList = ['?'] := by
  simp [Dialect.placeholder]

theorem toList_placeholder_postgres (position : Nat) :
    (Dialect.placeholder .postgres position).toList = '$' :: position.repr.toList := by
  simp [Dialect.placeholder]

/-- **Numbered placeholders** are all the dollar signs of a spaced template. -/
theorem dollarTokens_placed (h : template.Spaced) (position : Nat) :
    dollarTokens (template.placed .postgres position).toList =
      (List.range' position template.slots.length).map fun number ↦ '$' :: number.repr.toList := by
  induction template generalizing position with
  | nil => rfl
  | cons token template ih =>
    cases token with
    | text text =>
      rw [placed, String.toList_append, dollarTokens_append h.1.1, slots, ih h.2]
    | slot index =>
      have hstops := stops_placed .postgres h.1 (position + 1)
      rw [placed, String.toList_append, toList_placeholder_postgres, List.cons_append,
        dollarTokens_dollar, (takeWhile_repr_append position hstops).1,
        dollarTokens_append (dollar_not_mem_repr position), ih h.2, slots, List.length_cons,
        List.range'_succ, List.map_cons]

/-- **Signs for placeholders** are as many as there are slots. -/
theorem count_placed (h : template.Spaced) (position : Nat) :
    (template.placed .vertica position).toList.count '?' = template.slots.length := by
  induction template generalizing position with
  | nil => rfl
  | cons token template ih =>
    cases token with
    | text text =>
      rw [placed, String.toList_append, List.count_append, List.count_eq_zero_of_not_mem h.1.2,
        Nat.zero_add, slots, ih h.2]
    | slot index =>
      rw [placed, String.toList_append, toList_placeholder_vertica, List.singleton_append,
        List.count_cons_self, ih h.2, slots, List.length_cons]

/-- **No marker is left** between the placeholders of a spaced template. -/
theorem not_hasMarker_placed (dialect : Dialect) (h : template.Spaced) (position : Nat) :
    ¬HasMarker (template.placed dialect position).toList := by
  induction template generalizing position with
  | nil =>
    rintro ⟨before, digits, after, htext, -⟩
    exact List.append_ne_nil_of_right_ne_nil before (List.cons_ne_nil _ _) htext.symm
  | cons token template ih =>
    cases token with
    | text text =>
      rw [placed, String.toList_append, hasMarker_append_iff h.1.1]
      exact ih h.2 position
    | slot index =>
      have hrest := ih h.2 (position + 1)
      cases dialect with
      | vertica =>
        rw [placed, String.toList_append, toList_placeholder_vertica,
          hasMarker_append_iff (by decide)]
        exact hrest
      | postgres =>
        rw [placed, String.toList_append, toList_placeholder_postgres, List.cons_append,
          hasMarker_number_iff position (stops_placed .postgres h.1 (position + 1))]
        exact hrest

end Template

/-! ### Spaced texts -/

/-- A text consists of markers of these parameters, in this order, and of text between them that
keeps their placeholders apart. -/
def Spaced (text : String) (slots : List Nat) : Prop :=
  ∃ template : Template, template.Spaced ∧ template.marked = text ∧ template.slots = slots

namespace Spaced

theorem plain {text : String} (h : IsPlain text) : Spaced text [] :=
  ⟨[.text text], ⟨h, trivial⟩, by rw [Template.marked, Template.marked, String.append_empty], rfl⟩

theorem marker (index : Nat) : Spaced (marker index) [index] :=
  ⟨[.slot index], ⟨by decide, trivial⟩,
    by rw [Template.marked, Template.marked, String.append_empty], rfl⟩

theorem append {first rest : String} {slots₁ slots₂ : List Nat} (hfirst : Spaced first slots₁)
    (hrest : Spaced rest slots₂) (hstops : Stops rest.toList) :
    Spaced (first ++ rest) (slots₁ ++ slots₂) := by
  obtain ⟨template₁, hspaced₁, rfl, rfl⟩ := hfirst
  obtain ⟨template₂, hspaced₂, rfl, rfl⟩ := hrest
  exact ⟨template₁ ++ template₂, hspaced₁.append hspaced₂ hstops, Template.marked_append _ _,
    Template.slots_append _ _⟩

theorem prepend {text rest : String} {slots : List Nat} (h : IsPlain text)
    (hrest : Spaced rest slots) : Spaced (text ++ rest) slots := by
  obtain ⟨template, hspaced, rfl, rfl⟩ := hrest
  exact ⟨.text text :: template, ⟨h, hspaced⟩, rfl, rfl⟩

/-- The front of a text is enough to stop what is before it. -/
theorem stops_append {front : String} (hne : front ≠ "") (h : Stops front.toList) (rest : String) :
    Stops (front ++ rest).toList := by
  rw [String.toList_append]
  rcases hfront : front.toList with - | ⟨c, chars⟩
  · exact absurd (String.toList_eq_nil_iff.1 hfront) hne
  · rw [hfront] at h
    exact h

/-- **Every layout is spaced** if its column is plain and its parameters are spaced. -/
theorem compositional :
    Compositional (fun column found ↦ IsPlain column ∧ found = []) Spaced Spaced where
  inner_of_outer h := h
  empty := plain (by decide)
  join hfirst hglue hrest :=
    hfirst.append (hrest.prepend hglue.1) (stops_append hglue.2.1.1 hglue.2.1.2 _)
  word h := plain h.1
  blank hfirst hrest :=
    hfirst.append (hrest.prepend (by decide)) (stops_append (by decide) (by decide) _)
  columnBlank hcolumn hrest := by
    obtain ⟨hplain, rfl⟩ := hcolumn
    exact (hrest.prepend (by decide)).prepend hplain
  call hname hargument := by
    have hclosed := hargument.append (plain (by decide)) (show Stops (")" : String).toList by decide)
    rw [List.append_nil] at hclosed
    rw [String.append_assoc]
    exact (hclosed.prepend (by decide)).prepend hname.1
  cast hparameter htype := by
    have htext := hparameter.append (plain htype.1) (stops_append (by decide) (by decide) _)
    rwa [List.append_nil] at htext

end Spaced

/-! ### Compiled conditions -/

/-- Conditions on plain columns have a spaced text, whose slots are the parameters that are
allocated for them. -/
theorem spaced_of_conjunction {conditions : List Condition}
    (hfits : ∀ condition ∈ conditions, condition.fault? = none)
    (hcolumns : ∀ condition ∈ conditions, IsPlain condition.column) {dialect : Dialect}
    {first : Nat} {text : String}
    (h : conjunction (Condition.texts dialect first conditions) = some text) :
    Spaced text (List.range' first (conditions.flatMap Condition.taken).length) := by
  have hpredicates := Spaced.compositional.conditions (fun _ ↦ []) (fun index ↦ [index])
    Spaced.marker hfits (fun condition hmem ↦ ⟨hcolumns condition hmem, rfl⟩) dialect first
  have hjoined := Spaced.compositional.intercalate " AND " (by decide) hpredicates
  rwa [Condition.flatten_foundAll_slots hfits, intercalate_of_conjunction h] at hjoined

/-- **Placeholders match parameters.** If no column has a dollar sign or a question mark and all of
the conditions together have a text, then it resolves, with the values of the conditions. In one
dialect the dollar signs of the statement are, each with all the digits behind it, `$1` up to the
number of its values; in the other there are as many question marks as values. The statement
resolves once more, to itself and without values, whatever has been allocated. -/
theorem placeholders_of_compileAll (dialect : Dialect) {conditions : List Condition}
    (hcolumns : ∀ condition ∈ conditions, IsPlain condition.column)
    {parameters after : Parameters} {text : String}
    (h : outcome (compileAll dialect conditions) parameters = (.ok (some text), after)) :
    ∃ statement, after.resolve dialect text = .ok statement ∧
      statement.parameters = conditions.flatMap Condition.taken ∧
      (dialect = .postgres → dollarTokens statement.sql.toList =
        (List.range' 1 statement.parameters.length).map fun number ↦
          '$' :: number.repr.toList) ∧
      (dialect = .vertica → statement.sql.toList.count '?' = statement.parameters.length) ∧
      ∀ others : Parameters,
        others.resolve dialect statement.sql = .ok ⟨statement.sql, []⟩ := by
  rcases Condition.fits_or_first_fault conditions with
    hfits | ⟨before, condition, rest, error, rfl, hbefore, herror⟩
  · rw [outcome_compileAll_of_fits dialect hfits] at h
    obtain ⟨htext, rfl⟩ := Prod.mk.inj h
    obtain ⟨template, hspaced, rfl, hslots⟩ :=
      spaced_of_conjunction hfits hcolumns (Except.ok.inj htext)
    have hresolve := resolve_marked dialect hspaced.plain
      (hslots ▸ map_getElem?_append parameters (conditions.flatMap Condition.taken))
    have hlength : (conditions.flatMap Condition.taken).length = template.slots.length := by
      rw [hslots, List.length_range']
    refine ⟨_, hresolve, rfl, ?_, ?_, fun others ↦
      resolve_of_not_hasMarker dialect others (Template.not_hasMarker_placed dialect hspaced 1)⟩
    · rintro rfl
      rw [hlength]
      exact Template.dollarTokens_placed hspaced 1
    · rintro rfl
      rw [hlength]
      exact Template.count_placed hspaced 1
  · rw [outcome_compileAll_of_fault dialect hbefore herror] at h
    cases (Prod.mk.inj h).1

/-- Conditions with more than nine values, on columns that begin with digits or end with them. -/
def crowdedConditions : List Condition :=
  [⟨"t.a1", .number, .notIn, ["0", "1", "2", "3", "4", "5", "6", "7", "8"]⟩,
    ⟨"2", .string, .endsWith, ["x", "$1$"]⟩, ⟨"b", .time, .inDateRange, ["2021", "2022"]⟩]

/-- What they are together, if one value has been allocated before. -/
def crowdedText : String :=
  "(t.a1 NOT IN ($1$::numeric, $2$::numeric, $3$::numeric, $4$::numeric, $5$::numeric, " ++
    "$6$::numeric, $7$::numeric, $8$::numeric, $9$::numeric) OR t.a1 IS NULL) AND " ++
    "(2 ILIKE ('%' || $10$) OR 2 ILIKE ('%' || $11$)) AND " ++
    "(b >= $12$::timestamptz AND b <= $13$::timestamptz)"

/-- There are thirteen placeholders, in order, and the marker among the values makes none. -/
theorem placeholders_of_crowdedConditions :
    (∀ condition ∈ crowdedConditions, IsPlain condition.column) ∧
    outcome (compileAll .postgres crowdedConditions) ["v"] =
      (.ok (some crowdedText), "v" :: crowdedConditions.flatMap Condition.taken) ∧
    ∃ statement,
      Parameters.resolve ("v" :: crowdedConditions.flatMap Condition.taken) .postgres crowdedText =
        .ok statement ∧
      statement.parameters = crowdedConditions.flatMap Condition.taken ∧
      (Dialect.postgres = .postgres → dollarTokens statement.sql.toList =
        (List.range' 1 statement.parameters.length).map fun number ↦
          '$' :: number.repr.toList) ∧
      (Dialect.postgres = .vertica →
        statement.sql.toList.count '?' = statement.parameters.length) ∧
      ∀ others : Parameters,
        others.resolve .postgres statement.sql = .ok ⟨statement.sql, []⟩ := by
  have hcolumns : ∀ condition ∈ crowdedConditions, IsPlain condition.column := by decide
  have houtcome : outcome (compileAll .postgres crowdedConditions) ["v"] =
      (.ok (some crowdedText), "v" :: crowdedConditions.flatMap Condition.taken) := by
    decide +kernel
  exact ⟨hcolumns, houtcome, placeholders_of_compileAll .postgres hcolumns houtcome⟩

end SemanticLayer.Sql
