import SemanticLayer.Proofs.Sql.Interchange

/-!
# Quoted identifiers in statements

A name that stands in a statement as a quoted identifier may hold anything, and quoting doubles its
quotes and nothing else. The scan for markers knows nothing of quotes: it looks into the identifier
as into any other text. So an identifier keeps out of the way of parameters exactly if its name has
no marker in it (`columnEquals_outcome`); a marker in the name takes a value of its own, and the
comparison for which the value was meant takes only the last.

That a name has a marker is said of the name, without the scan (`HasMarker`). The scan finds a
marker exactly if there is one (`markerDigits_eq_nil_iff`). A quote cannot belong to a marker, so
it makes no difference to the scan that quotes are doubled (`markerDigits_doubleQuotes`).
-/

namespace SemanticLayer.Sql

open Compile

/-! ### Markers in a text -/

/-- A text has a marker in it: decimal digits between two dollar signs. -/
def HasMarker (text : List Char) : Prop :=
  ∃ before digits after, text = before ++ '$' :: (digits ++ '$' :: after) ∧ digits ≠ [] ∧
    ∀ c ∈ digits, Text.isDecimalDigit c = true

theorem markerTail?_eq_some_iff {text digits rest : List Char} :
    markerTail? text = some (digits, rest) ↔
      text = digits ++ '$' :: rest ∧ digits ≠ [] ∧
        ∀ c ∈ digits, Text.isDecimalDigit c = true := by
  constructor
  · intro h
    have hsplit := List.takeWhile_append_dropWhile (p := Text.isDecimalDigit) (l := text)
    have hall : ∀ c ∈ text.takeWhile Text.isDecimalDigit, Text.isDecimalDigit c = true :=
      List.all_eq_true.1 List.all_takeWhile
    simp only [markerTail?] at h
    split at h
    · next digit digits' after htake hdrop =>
      obtain ⟨rfl, rfl⟩ := Prod.mk.inj (Option.some.inj h)
      rw [hdrop] at hsplit
      exact ⟨hsplit.symm, htake ▸ List.cons_ne_nil _ _, hall⟩
    · cases h
  · rintro ⟨rfl, hne, hdigits⟩
    exact markerTail?_append hne hdigits rest

theorem HasMarker.cons {text : List Char} (h : HasMarker text) (c : Char) :
    HasMarker (c :: text) := by
  obtain ⟨before, digits, after, rfl, hdigits⟩ := h
  exact ⟨c :: before, digits, after, rfl, hdigits⟩

/-- A marker starts at the first character of a text, or it is in the rest. -/
theorem hasMarker_cons_iff {c : Char} {text : List Char} :
    HasMarker (c :: text) ↔
      (c = '$' ∧ ∃ digits rest, markerTail? text = some (digits, rest)) ∨ HasMarker text := by
  constructor
  · rintro ⟨before, digits, after, htext, hdigits⟩
    cases before with
    | nil =>
      obtain ⟨rfl, rfl⟩ := List.cons.inj htext
      exact .inl ⟨rfl, digits, after, markerTail?_eq_some_iff.2 ⟨rfl, hdigits⟩⟩
    | cons first before =>
      obtain ⟨rfl, rfl⟩ := List.cons.inj htext
      exact .inr ⟨before, digits, after, rfl, hdigits⟩
  · rintro (⟨rfl, digits, rest, htail⟩ | h)
    · obtain ⟨rfl, hdigits⟩ := markerTail?_eq_some_iff.1 htail
      exact ⟨[], digits, rest, rfl, hdigits⟩
    · exact h.cons c

/-- Where there is no marker, the scan finds characters only. -/
theorem pieces_of_not_hasMarker {text : List Char} (h : ¬HasMarker text) :
    pieces text = text.map .char := by
  induction text with
  | nil => rw [pieces, List.map_nil]
  | cons c text ih =>
    obtain ⟨hfirst, hrest⟩ := not_or.1 (mt hasMarker_cons_iff.2 h)
    rw [List.map_cons, ← ih hrest]
    by_cases hc : c = '$'
    · subst hc
      refine pieces_dollar_of_none (Option.eq_none_iff_forall_ne_some.2 ?_)
      rintro ⟨digits, rest⟩ htail
      exact hfirst ⟨rfl, digits, rest, htail⟩
    · exact pieces_char_cons hc text

/-- The scan finds no marker exactly if there is none. -/
theorem markerDigits_eq_nil_iff {text : List Char} : markerDigits text = [] ↔ ¬HasMarker text := by
  constructor
  · intro h
    induction text using pieces.induct with
    | case1 =>
      rintro ⟨before, digits, after, htext, -⟩
      exact absurd htext (List.append_ne_nil_of_right_ne_nil _ (List.cons_ne_nil _ _)).symm
    | case2 text digits rest htail _ =>
      rw [markerDigits, pieces_dollar_of_some htail] at h
      cases h
    | case3 text htail ih =>
      rw [markerDigits, pieces_dollar_of_none htail] at h
      rw [hasMarker_cons_iff]
      rintro (⟨-, digits, rest, htail'⟩ | hmarker)
      · cases htail.symm.trans htail'
      · exact ih h hmarker
    | case4 c text hc ih =>
      rw [markerDigits, pieces_char_cons hc] at h
      rw [hasMarker_cons_iff]
      rintro (⟨rfl, -⟩ | hmarker)
      · exact hc rfl
      · exact ih h hmarker
  · intro h
    rw [markerDigits, pieces_of_not_hasMarker h, List.filterMap_map]
    exact List.filterMap_eq_nil_iff.2 fun c _ ↦ rfl

/-! ### Quoting -/

@[simp] theorem markerDigits_nil : markerDigits [] = [] := by
  rw [markerDigits, pieces, List.filterMap_nil]

theorem markerDigits_append_cons {stop : Char} (hdollar : stop ≠ '$')
    (hdigit : Text.isDecimalDigit stop = false) (text rest : List Char) :
    markerDigits (text ++ stop :: rest) = markerDigits text ++ markerDigits rest := by
  rw [markerDigits, pieces_append_cons hdollar hdigit, List.filterMap_append]
  rfl

/-- Doubled quotes make no difference to the scan. The text before the doubled ones is what the scan
has seen since the last quote. -/
theorem markerDigits_doubleQuotes {quote : Char} (hdollar : quote ≠ '$')
    (hdigit : Text.isDecimalDigit quote = false) (before text : List Char) :
    markerDigits (before ++ doubleQuotes quote text) = markerDigits (before ++ text) := by
  induction text generalizing before with
  | nil => rfl
  | cons c text ih =>
    by_cases hc : c = quote
    · subst hc
      have hdoubled : doubleQuotes c (c :: text) = c :: ([] ++ c :: doubleQuotes c text) := by
        simp [doubleQuotes]
      have hstart := ih []
      rw [hdoubled, markerDigits_append_cons hdollar hdigit,
        markerDigits_append_cons hdollar hdigit, markerDigits_append_cons hdollar hdigit]
      rw [List.nil_append, List.nil_append] at hstart
      rw [hstart, markerDigits_nil, List.nil_append]
    · have hplain : doubleQuotes quote (c :: text) = [c] ++ doubleQuotes quote text := by
        simp [doubleQuotes, hc]
      rw [hplain, ← List.append_assoc, ih (before ++ [c]), List.append_assoc]
      rfl

/-- In a quoted identifier the scan finds the markers of the name. -/
theorem markerDigits_identifier (dialect : Dialect) (name : String) :
    markerDigits (dialect.identifier name).toList = markerDigits name.toList := by
  have hquoted : (dialect.identifier name).toList =
      [] ++ '"' :: (doubleQuotes '"' name.toList ++ '"' :: []) := by
    rw [Dialect.identifier, quoteIdentifier, quoted, String.toList_ofList]
    rfl
  have hdoubled : markerDigits (doubleQuotes '"' name.toList) = markerDigits name.toList :=
    markerDigits_doubleQuotes (by decide) (by decide) [] name.toList
  rw [hquoted, markerDigits_append_cons (by decide) (by decide),
    markerDigits_append_cons (by decide) (by decide), hdoubled, markerDigits_nil, List.append_nil,
    List.nil_append]

/-! ### A comparison by hand -/

/-- The statement that compares a column, by its name, with the only value of a compiler. -/
def columnEquals (dialect : Dialect) (name value : String) : Except SqlError Statement := do
  let (answer, parameters) := outcome (allocate value) []
  parameters.resolve dialect (dialect.identifier name ++ " = " ++ (← answer))

variable (dialect : Dialect) (name value : String)

theorem columnEquals_eq_resolve :
    columnEquals dialect name value =
      Parameters.resolve [value] dialect (dialect.identifier name ++ " = " ++ marker 0) :=
  rfl

/-- The statement ends with the marker of the value, after an identifier and a blank. -/
theorem toList_comparison :
    (dialect.identifier name ++ " = " ++ marker 0).toList =
      (dialect.identifier name).toList ++
        ' ' :: (Template.marked [.text "= ", .slot 0]).toList := by
  simp [Template.marked]

/-- Without a marker in its name the identifier stays as it is. -/
theorem columnEquals_of_not_hasMarker (h : ¬HasMarker name.toList) :
    columnEquals dialect name value =
      .ok ⟨dialect.identifier name ++ " = " ++ dialect.placeholder 1, [value]⟩ := by
  have hplain : Template.Plain [.text "= ", .slot 0] := by
    simp [Template.Plain]
  have hidentifier : ¬HasMarker (dialect.identifier name).toList := by
    rwa [← markerDigits_eq_nil_iff, markerDigits_identifier, markerDigits_eq_nil_iff]
  have hslot : resolvePieces dialect [value] 1
      (pieces (Template.marked [.text "= ", .slot 0]).toList) =
        .ok ((Template.placed dialect 1 [.text "= ", .slot 0]).toList, [value]) :=
    resolvePieces_marked dialect hplain rfl
  have htail := resolvePieces_text_append hslot ((dialect.identifier name).toList ++ [' '])
  rw [columnEquals_eq_resolve, Parameters.resolve, toList_comparison,
    pieces_append_cons (by decide) (by decide), pieces_of_not_hasMarker hidentifier]
  rw [List.map_append, List.append_assoc] at htail
  show (resolvePieces dialect [value] 1 (_ ++ ([' '].map Piece.char ++ _)) >>= _) = _
  rw [htail]
  refine congrArg Except.ok (congrArg (Statement.mk · [value]) (String.toList_inj.1 ?_))
  simp [Template.placed]

/-- With one parameter, every marker that can be bound takes that one. -/
theorem bind_singleton {digits : List (List Char)} {values : List String}
    (h : Parameters.bind [value] digits = .ok values) :
    values = List.replicate digits.length value := by
  induction digits generalizing values with
  | nil => exact (Except.ok.inj h).symm
  | cons first digits ih =>
    rw [Parameters.bind, List.mapM_cons, ← Parameters.bind, Parameters.bindOne] at h
    rcases hfirst : Parameters.value? [value] first with - | found
    · rw [hfirst] at h
      cases h
    · obtain ⟨index, -, hfound⟩ := Option.bind_eq_some_iff.1 hfirst
      obtain rfl := List.mem_singleton.1 (List.mem_of_getElem? hfound)
      rw [hfirst] at h
      rcases hrest : Parameters.bind [found] digits with error | rest
      · rw [hrest] at h
        cases h
      · rw [hrest] at h
        rw [← Except.ok.inj h, ih hrest]
        rfl

/-- **Identifiers and parameters.** The statement keeps the identifier as it is and binds the value
once, exactly if the name has no marker in it. Wherever there is a statement, the value is bound
once more for each marker of the name. -/
theorem columnEquals_outcome :
    (columnEquals dialect name value =
        .ok ⟨dialect.identifier name ++ " = " ++ dialect.placeholder 1, [value]⟩ ↔
      ¬HasMarker name.toList) ∧
    ∀ statement, columnEquals dialect name value = .ok statement →
      statement.parameters = List.replicate ((markerDigits name.toList).length + 1) value := by
  have hparameters : ∀ statement, columnEquals dialect name value = .ok statement →
      statement.parameters = List.replicate ((markerDigits name.toList).length + 1) value := by
    intro statement h
    have hbind := map_parameters_resolve dialect [value]
      (dialect.identifier name ++ " = " ++ marker 0)
    rw [← columnEquals_eq_resolve, h, toList_comparison,
      markerDigits_append_cons (by decide) (by decide), markerDigits_identifier] at hbind
    have htail : markerDigits (Template.marked [.text "= ", .slot 0]).toList = [['0']] :=
      ((Scans.plain (by decide)).append
        ((Scans.marker 0).append (Scans.plain (by decide)))).markerDigits_eq
    rw [htail] at hbind
    rw [bind_singleton value hbind.symm, List.length_append, List.length_singleton]
  refine ⟨⟨fun h ↦ ?_, columnEquals_of_not_hasMarker dialect name value⟩, hparameters⟩
  have hlength := congrArg List.length (hparameters _ h)
  rw [List.length_replicate, List.length_singleton] at hlength
  exact markerDigits_eq_nil_iff.1 (List.eq_nil_of_length_eq_zero (by omega))

/-- Dollar signs, digits and quotes in a name are kept where they make no marker. -/
example : columnEquals .postgres "$1 \"0$\" $" "v" = .ok ⟨"\"$1 \"\"0$\"\" $\" = $1", ["v"]⟩ := by
  decide +kernel

/-- A marker in the name takes a value of its own, and the identifier does not stay as it is. -/
theorem columnEquals_of_marker_in_name :
    columnEquals .vertica "a$0$" "v" = .ok ⟨"\"a?\" = ?", ["v", "v"]⟩ ∧
      columnEquals .vertica "a$0$" "v" ≠
        .ok ⟨Dialect.vertica.identifier "a$0$" ++ " = " ++ Dialect.vertica.placeholder 1, ["v"]⟩ ∧
      columnEquals .postgres "a$0$" "v" = .ok ⟨"\"a$1\" = $2", ["v", "v"]⟩ ∧
      columnEquals .postgres "a$1$" "v" = .error (.unknownParameter 1) := by
  decide +kernel

end SemanticLayer.Sql
