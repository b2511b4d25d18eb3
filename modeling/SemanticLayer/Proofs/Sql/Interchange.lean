import SemanticLayer.Proofs.Sql.Layout
import SemanticLayer.Proofs.Sql.Session

/-!
# Dialects bind the same values

Dialects wrap parameters in different text, but which values a statement binds depends only on the
digits of the markers in it, in their order (`Parameters.bind`), and these are the same in every
dialect.

For a column nothing can be asked here: its expression may hold dollar signs, whole markers and the
beginning of one. So markers are looked for as the scan does it, with the text that actually
follows (`Scans`). That a predicate always goes on with a blank after its column is what saves
this: a blank is neither a dollar sign nor a digit, so the scan is the same before and after it as
if it were the end of the text (`pieces_append_cons`), and no column can take a dollar sign from
what a dialect writes behind it.
-/

namespace SemanticLayer.Sql

open Compile

/-! ### What a statement binds -/

/-- The digits of a marker. -/
def Piece.digits? : Piece → Option (List Char)
  | char _ => none
  | marker digits => some digits

/-- The digits of the markers in a text, in the order of the scan. -/
def markerDigits (text : List Char) : List (List Char) :=
  (pieces text).filterMap Piece.digits?

/-- The value that the digits of a marker stand for, or that there is none. -/
def Parameters.bindOne (parameters : Parameters) (digits : List Char) : Except SqlError String :=
  match parameters.value? digits with
  | none => .error (.unknownParameter (shownIndex digits))
  | some value => .ok value

/-- The values that the digits of markers stand for, up to the first that has none. -/
def Parameters.bind (parameters : Parameters) (digits : List (List Char)) :
    Except SqlError (List String) :=
  digits.mapM parameters.bindOne

theorem map_snd_resolvePieces (dialect : Dialect) (parameters : Parameters) (position : Nat)
    (found : List Piece) :
    Prod.snd <$> resolvePieces dialect parameters position found =
      parameters.bind (found.filterMap Piece.digits?) := by
  induction found generalizing position with
  | nil => rfl
  | cons piece found ih =>
    cases piece with
    | char c =>
      rw [List.filterMap_cons_none rfl, ← ih position, resolvePieces]
      cases resolvePieces dialect parameters position found <;> rfl
    | marker digits =>
      have hdigits : Piece.digits? (.marker digits) = some digits := rfl
      rw [List.filterMap_cons_some hdigits, Parameters.bind, List.mapM_cons,
        ← Parameters.bind, ← ih (position + 1), resolvePieces, Parameters.bindOne]
      rcases parameters.value? digits with - | value
      · rfl
      · cases resolvePieces dialect parameters (position + 1) found <;> rfl

/-- **What a statement binds** depends on its markers alone. -/
theorem map_parameters_resolve (dialect : Dialect) (parameters : Parameters) (text : String) :
    Statement.parameters <$> parameters.resolve dialect text =
      parameters.bind (markerDigits text.toList) := by
  rw [markerDigits, ← map_snd_resolvePieces dialect parameters 1, Parameters.resolve]
  cases resolvePieces dialect parameters 1 (pieces text.toList) <;> rfl

/-! ### The scan at a blank -/

section Stop

variable {stop : Char} (hdollar : stop ≠ '$') (hdigit : Text.isDecimalDigit stop = false)

include hdollar hdigit

/-- The tail of a marker ends before a character that cannot belong to one. -/
theorem markerTail?_append_cons (text rest : List Char) :
    markerTail? (text ++ stop :: rest) =
      (markerTail? text).map fun tail ↦ (tail.1, tail.2 ++ stop :: rest) := by
  have hstop : ¬Text.isDecimalDigit stop = true := by
    rw [hdigit]
    exact Bool.false_ne_true
  have htake : (text ++ stop :: rest).takeWhile Text.isDecimalDigit =
      text.takeWhile Text.isDecimalDigit := by
    rw [List.takeWhile_append, List.takeWhile_cons_of_neg hstop, List.append_nil]
    split
    · next hall => exact (List.takeWhile_prefix _).eq_of_length hall |>.symm
    · rfl
  have hdrop : (text ++ stop :: rest).dropWhile Text.isDecimalDigit =
      text.dropWhile Text.isDecimalDigit ++ stop :: rest := by
    rw [List.dropWhile_append, List.dropWhile_cons_of_neg hstop]
    split
    · next hall => rw [List.isEmpty_iff.1 hall, List.nil_append]
    · rfl
  rw [markerTail?, markerTail?, htake, hdrop]
  rcases text.takeWhile Text.isDecimalDigit with - | ⟨digit, digits⟩
  · rfl
  · rcases text.dropWhile Text.isDecimalDigit with - | ⟨c, after⟩
    · simp [hdollar]
    · by_cases hc : c = '$' <;> simp [hc]

/-- The scan goes on anew behind a character that cannot belong to a marker. -/
theorem pieces_append_cons (text rest : List Char) :
    pieces (text ++ stop :: rest) = pieces text ++ .char stop :: pieces rest := by
  induction text using pieces.induct with
  | case1 => rw [List.nil_append, pieces_char_cons hdollar, pieces, List.nil_append]
  | case2 text digits after htail ih =>
    have hlonger := markerTail?_append_cons hdollar hdigit text rest
    rw [htail] at hlonger
    rw [List.cons_append, pieces_dollar_of_some hlonger, ih, pieces_dollar_of_some htail,
      List.cons_append]
  | case3 text htail ih =>
    have hlonger := markerTail?_append_cons hdollar hdigit text rest
    rw [htail] at hlonger
    rw [List.cons_append, pieces_dollar_of_none hlonger, ih, pieces_dollar_of_none htail,
      List.cons_append]
  | case4 c text hc ih =>
    rw [List.cons_append, pieces_char_cons hc, ih, pieces_char_cons hc, List.cons_append]

end Stop

/-! ### Markers in texts -/

/-- The scan finds these markers in a text, whatever follows it. -/
def Scans (text : String) (found : List (List Char)) : Prop :=
  ∀ rest, markerDigits (text.toList ++ rest) = found ++ markerDigits rest

namespace Scans

theorem plain {text : String} (h : '$' ∉ text.toList) : Scans text [] := by
  intro rest
  have hnone : (text.toList.map Piece.char).filterMap Piece.digits? = [] := by
    rw [List.filterMap_map]
    exact List.filterMap_eq_nil_iff.2 fun c _ ↦ rfl
  rw [markerDigits, pieces_text_append h, List.filterMap_append, hnone]
  rfl

theorem append {first rest : String} {found found' : List (List Char)} (hfirst : Scans first found)
    (hrest : Scans rest found') : Scans (first ++ rest) (found ++ found') := by
  intro text
  rw [String.toList_append, List.append_assoc, hfirst, hrest, List.append_assoc]

theorem compositional : Compositional (fun column ↦ Scans (column ++ " ")) Scans Scans :=
  compositional_of_append plain append

theorem marker (index : Nat) : Scans (marker index) [index.repr.toList] := by
  intro rest
  rw [markerDigits, pieces_marker_append]
  rfl

/-- In any column the scan finds its own markers, if a blank follows. -/
theorem column (column : String) : Scans (column ++ " ") (markerDigits column.toList) := by
  intro rest
  have htext : (column ++ " ").toList ++ rest = column.toList ++ ' ' :: rest := by
    rw [String.toList_append, List.append_assoc]
    rfl
  rw [htext, markerDigits, pieces_append_cons (by decide) (by decide), List.filterMap_append]
  rfl

/-- At the end of a statement the markers of a text are all there are. -/
theorem markerDigits_eq {text : String} {found : List (List Char)} (h : Scans text found) :
    markerDigits text.toList = found := by
  have hend := h []
  rw [List.append_nil] at hend
  rw [hend, markerDigits, pieces, List.filterMap_nil, List.append_nil]

end Scans

/-! ### Two dialects -/

/-- Two answers, in two dialects, bind the same: they fail with the same error, or there is no
text in either, or the texts bind the same values or fail with the same error, whatever has been
allocated when they are used. -/
inductive BindAlike (dialect other : Dialect) : Answer → Answer → Prop where
  | error (error : SqlError) : BindAlike dialect other (.error error) (.error error)
  | none : BindAlike dialect other (.ok none) (.ok none)
  | text {text text' : String}
    (h : ∀ parameters : Parameters,
      Statement.parameters <$> parameters.resolve dialect text =
        Statement.parameters <$> parameters.resolve other text') :
    BindAlike dialect other (.ok (some text)) (.ok (some text'))

/-- Predicates in which the same markers are found, one by one, bind the same together. -/
theorem bindAlike_conjunction (dialect other : Dialect) {predicates predicates' : List String}
    {found : List (List (List Char))} (h : List.Forall₂ Scans predicates found)
    (h' : List.Forall₂ Scans predicates' found) :
    BindAlike dialect other (.ok (conjunction predicates)) (.ok (conjunction predicates')) := by
  have hjoined := Scans.compositional.intercalate " AND " (by decide) h
  have hjoined' := Scans.compositional.intercalate " AND " (by decide) h'
  cases h with
  | nil =>
    cases h'
    exact .none
  | cons =>
    cases h'
    refine .text fun parameters ↦ ?_
    rw [map_parameters_resolve, map_parameters_resolve, hjoined.markerDigits_eq,
      hjoined'.markerDigits_eq]

/-- **Dialects are interchangeable.** From the same parameters, the same conditions leave the same
parameters in any two dialects, and they either fail with the same error or give texts that bind
the same values or fail with the same error. Columns may be any text. -/
theorem outcome_compileAll_bindAlike (dialect other : Dialect) (conditions : List Condition)
    (parameters : Parameters) :
    ∃ answer answer' after,
      outcome (compileAll dialect conditions) parameters = (answer, after) ∧
      outcome (compileAll other conditions) parameters = (answer', after) ∧
      BindAlike dialect other answer answer' := by
  rcases Condition.fits_or_first_fault conditions with
    hfits | ⟨before, condition, after, error, rfl, hbefore, herror⟩
  · refine ⟨_, _, _, outcome_compileAll_of_fits dialect hfits parameters,
      outcome_compileAll_of_fits other hfits parameters, ?_⟩
    have hfound (dialect : Dialect) := Scans.compositional.conditions
      (fun column ↦ markerDigits column.toList) (fun index ↦ [index.repr.toList]) Scans.marker hfits
      (fun condition _ ↦ Scans.column condition.column) dialect parameters.length
    exact bindAlike_conjunction dialect other (hfound dialect) (hfound other)
  · exact ⟨_, _, _, outcome_compileAll_of_fault dialect hbefore herror after parameters,
      outcome_compileAll_of_fault other hbefore herror after parameters, .error error⟩

end SemanticLayer.Sql
