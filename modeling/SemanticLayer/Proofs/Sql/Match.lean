import SemanticLayer.Proofs.Sql.Lexical
import SemanticLayer.Proofs.Sql.Truth
import SemanticLayer.Proofs.Sql.Wildcard

/-!
# The truth of matches

The operand of a match is a string expression: a literal, a marker, or a concatenation of such
expressions. `takeString?` finds the value of the one at the front of a text, the value of a
marker being that of its parameter. What the dialects write for a concatenation is read as one
(`reads_concat`), so the operand has the pattern as its value, with the wildcards of the kind around
what is in the parameter (`stringValue?_pattern`).

With that the predicate can be read from its text: `matchPredicate_truth` gives its truth for every
text of the column, and says for which parameters it is the truth that the kind of match promises.
-/

namespace SemanticLayer.Sql.Like

open Compile
open Query (MatchKind)
open Lexical (takeQuoted takeQuoted_eq_some_iff)

/-! ### String expressions -/

/-- What is found between separators up to a closing parenthesis, and what follows this. There is
room for a number of parts. -/
def takeParts? {α : Type} (take? : List Char → Option (α × List Char)) (separator : String) :
    Nat → List Char → Option (List α × List Char)
  | 0, _ => none
  | room + 1, text => do
    let (part, rest) ← take? text
    match rest with
    | ')' :: rest => return ([part], rest)
    | rest =>
      let rest ← rest.dropPrefix? separator.toList
      let (parts, rest) ← takeParts? take? separator room rest
      return (part :: parts, rest)

variable (parameters : Parameters)

/-- The value of the string expression at the front of a text, and what follows this. Expressions
are nested up to a depth. One form of concatenation takes two operands, the other any number. -/
def takeString? : Nat → List Char → Option (List Char × List Char)
  | 0, _ => none
  | depth + 1, text =>
    match text with
    | '\'' :: rest => takeQuoted '\'' rest
    | '$' :: rest => do
      let (digits, rest) ← markerTail? rest
      return ((← parameters.value? digits).toList, rest)
    | '(' :: rest => do
      let (values, rest) ← takeParts? (takeString? depth) " || " text.length rest
      return (values.flatten, rest)
    | text => do
      let rest ← text.dropPrefix? "CONCAT(".toList
      let (values, rest) ← takeParts? (takeString? depth) ", " text.length rest
      match values with
      | [first, second] => return (first ++ second, rest)
      | _ => none

/-- The value of a string expression. -/
def stringValue? (text : List Char) : Option (List Char) :=
  match takeString? parameters (text.length + 1) text with
  | some (value, []) => some value
  | _ => none

/-- An expression has a value, wherever it stands, as long as no quote follows. -/
def Reads (text : String) (value : List Char) : Prop :=
  ∀ (depth : Nat) (rest : List Char), text.length < depth → rest.head? ≠ some '\'' →
    takeString? parameters depth (text.toList ++ rest) = some (value, rest)

variable {parameters}

theorem Reads.stringValue?_eq {text : String} {value : List Char}
    (h : Reads parameters text value) :
    stringValue? parameters text.toList = some value := by
  have htake := h (text.length + 1) [] (Nat.lt_succ_self _) nofun
  rw [List.append_nil] at htake
  rw [stringValue?, String.length_toList, htake]

theorem reads_quoteString (text : String) : Reads parameters (quoteString text) text.toList := by
  intro depth rest hdepth hrest
  obtain ⟨depth, rfl⟩ := Nat.exists_eq_add_of_lt hdepth
  have htext : (quoteString text).toList ++ rest =
      '\'' :: (doubleQuotes '\'' text.toList ++ '\'' :: rest) := by
    rw [quoteString, quoted, String.toList_ofList, List.cons_append, List.append_assoc]
    rfl
  rw [htext]
  exact takeQuoted_eq_some_iff.2 ⟨rfl, hrest⟩

theorem reads_marker {index : Nat} {value : String} (h : parameters[index]? = some value) :
    Reads parameters (marker index) value.toList := by
  intro depth rest hdepth hrest
  obtain ⟨depth, rfl⟩ := Nat.exists_eq_add_of_lt hdepth
  have htext : (marker index).toList ++ rest = '$' :: (index.repr.toList ++ '$' :: rest) := by
    simp [marker]
  rw [htext]
  show (markerTail? _ >>= _) = _
  rw [markerTail?_repr]
  show (parameters.value? _ >>= _) = _
  rw [value?_repr, h]
  rfl

/-! ### Concatenations -/

section

variable {α : Type} {take? : List Char → Option (α × List Char)} {separator : String}
  {text rest : List Char} {part : α} (room : Nat)

theorem takeParts?_last (h : take? text = some (part, ')' :: rest)) :
    takeParts? take? separator (room + 1) text = some ([part], rest) := by
  rw [takeParts?, h]
  rfl

theorem takeParts?_next {c : Char} {tail : List Char} (hseparator : separator.toList = c :: tail)
    (hc : c ≠ ')') (h : take? text = some (part, separator.toList ++ rest)) :
    takeParts? take? separator (room + 1) text =
      (takeParts? take? separator room rest).map fun (parts, rest) ↦ (part :: parts, rest) := by
  have hdrop : (separator.toList ++ rest).dropPrefix? separator.toList = some rest :=
    List.dropPrefix?_eq_some_iff.2 ⟨_, rfl, beq_self_eq_true _⟩
  have hrest : ∀ others, separator.toList ++ rest ≠ ')' :: others := fun others heq ↦ by
    rw [hseparator] at heq
    exact hc (List.cons.inj heq).1
  rw [takeParts?, h]
  show (match separator.toList ++ rest with
    | ')' :: rest => _
    | rest => _) = _
  split
  · next heq => exact absurd heq (hrest _)
  · rw [hdrop]
    show (takeParts? take? separator room rest >>= _) = _
    cases takeParts? take? separator room rest <;> rfl

end

/-- A separator can be told from what it stands between and from the end. -/
def IsSeparator (separator : String) : Prop :=
  ∃ c tail, separator.toList = c :: tail ∧ c ≠ '\'' ∧ c ≠ ')'

/-- Values between separators are read one after another. -/
theorem takeParts?_intercalate {separator : String} (hseparator : IsSeparator separator)
    {parts : List String} {values : List (List Char)}
    (h : List.Forall₂ (Reads parameters) parts values) (hne : parts ≠ []) {depth room : Nat}
    (hdepth : (separator.intercalate parts).length < depth)
    (hroom : (separator.intercalate parts).length < room) (rest : List Char) :
    takeParts? (takeString? parameters depth) separator room
      ((separator.intercalate parts).toList ++ ')' :: rest) = some (values, rest) := by
  obtain ⟨c, tail, hseparator, hquote, hclose⟩ := hseparator
  induction h generalizing room with
  | nil => exact absurd rfl hne
  | @cons part value parts values hpart hparts ih =>
    obtain ⟨room, rfl⟩ := Nat.exists_eq_add_one_of_ne_zero (Nat.ne_zero_of_lt hroom)
    match parts, hparts with
    | [], .nil =>
      rw [String.intercalate_singleton] at hdepth ⊢
      exact takeParts?_last _ (hpart depth (')' :: rest) hdepth (by simp))
    | next :: parts, hparts =>
      rw [String.intercalate_cons_cons] at hdepth hroom ⊢
      simp only [String.length_append] at hdepth hroom
      have hpositive : 0 < separator.length := by
        rw [← String.length_toList, hseparator]
        exact Nat.succ_pos _
      have hroom' : (separator.intercalate (next :: parts)).length < room := by omega
      have hothers := ih (List.cons_ne_nil _ _) (by omega) hroom'
      have hrest : (separator.toList ++ ((separator.intercalate (next :: parts)).toList ++
          ')' :: rest)).head? ≠ some '\'' := by
        rw [hseparator]
        exact fun heq ↦ hquote (Option.some.inj heq)
      rw [String.toList_append, String.toList_append, List.append_assoc, List.append_assoc,
        takeParts?_next room hseparator hclose (hpart depth _ (by omega) hrest), hothers]
      rfl

theorem takeString?_parenthesis (depth : Nat) (text : List Char) :
    takeString? parameters (depth + 1) ('(' :: text) =
      (takeParts? (takeString? parameters depth) " || " (text.length + 1) text).map
        fun (values, rest) ↦ (values.flatten, rest) := by
  show (takeParts? _ " || " _ _ >>= _) = _
  rw [List.length_cons]
  cases takeParts? (takeString? parameters depth) " || " (text.length + 1) text <;> rfl

theorem takeString?_call (depth : Nat) (text : List Char) :
    takeString? parameters (depth + 1) ("CONCAT(".toList ++ text) =
      (takeParts? (takeString? parameters depth) ", " (text.length + 7) text).bind
        fun (values, rest) ↦
          match values with
          | [first, second] => some (first ++ second, rest)
          | _ => none := by
  have hdrop : ("CONCAT(".toList ++ text).dropPrefix? "CONCAT(".toList = some text :=
    List.dropPrefix?_eq_some_iff.2 ⟨_, rfl, beq_self_eq_true _⟩
  show (("CONCAT(".toList ++ text).dropPrefix? "CONCAT(".toList >>= _) = _
  rw [hdrop]
  rfl

/-- One dialect has a function of two operands. -/
theorem Reads.call {first second : String} {value value' : List Char}
    (hfirst : Reads parameters first value) (hsecond : Reads parameters second value') :
    Reads parameters ("CONCAT(" ++ first ++ ", " ++ second ++ ")") (value ++ value') := by
  intro depth rest hdepth hrest
  obtain ⟨depth, rfl⟩ := Nat.exists_eq_add_one_of_ne_zero (Nat.ne_zero_of_lt hdepth)
  have hoperands : first ++ ", " ++ second = ", ".intercalate [first, second] := by
    rw [String.intercalate_cons_cons, String.intercalate_singleton]
  have htext : ("CONCAT(" ++ first ++ ", " ++ second ++ ")").toList ++ rest =
      "CONCAT(".toList ++ ((", ".intercalate [first, second]).toList ++ ')' :: rest) := by
    rw [← hoperands]
    simp [String.toList_append]
  have hlength : (", ".intercalate [first, second]).length < depth := by
    have hname : "CONCAT(".length = 7 := rfl
    rw [← hoperands]
    simp only [String.length_append] at hdepth ⊢
    omega
  have hseparator : IsSeparator ", " := ⟨',', [' '], rfl, by decide, by decide⟩
  rw [htext, takeString?_call, takeParts?_intercalate hseparator
    (.cons hfirst (.cons hsecond .nil)) (List.cons_ne_nil _ _) hlength ?_]
  · rfl
  · rw [List.length_append, String.length_toList]
    omega

/-- The other has an operator, which it puts into parentheses. -/
theorem reads_operands {parts : List String} {values : List (List Char)}
    (h : List.Forall₂ (Reads parameters) parts values) (hne : parts ≠ []) :
    Reads parameters ("(" ++ " || ".intercalate parts ++ ")") values.flatten := by
  intro depth rest hdepth hrest
  obtain ⟨depth, rfl⟩ := Nat.exists_eq_add_one_of_ne_zero (Nat.ne_zero_of_lt hdepth)
  have htext : ("(" ++ " || ".intercalate parts ++ ")").toList ++ rest =
      '(' :: ((" || ".intercalate parts).toList ++ ')' :: rest) := by
    simp [String.toList_append]
  have hlength : (" || ".intercalate parts).length < depth := by
    have hopen : "(".length = 1 := rfl
    simp only [String.length_append] at hdepth
    omega
  have hseparator : IsSeparator " || " := ⟨' ', "|| ".toList, rfl, by decide, by decide⟩
  rw [htext, takeString?_parenthesis, takeParts?_intercalate hseparator h hne hlength ?_]
  · rfl
  · rw [List.length_append, String.length_toList]
    omega

/-- **Concatenations are read as such** in every dialect. -/
theorem reads_concat (dialect : Dialect) {parts : List String} {values : List (List Char)}
    (h : List.Forall₂ (Reads parameters) parts values) :
    Reads parameters (dialect.concat parts) values.flatten := by
  match parts, values, h with
  | [], [], .nil =>
    have hempty : Reads parameters (quoteString "") "".toList := reads_quoteString ""
    cases dialect <;> exact hempty
  | first :: rest, value :: values, .cons hfirst hrest =>
    cases dialect with
    | vertica =>
      -- the calls nest to the left, so the value grows from part to part
      show Reads parameters (rest.foldl _ first) (value ++ values.flatten)
      induction hrest generalizing first value with
      | nil =>
        rw [List.flatten_nil, List.append_nil]
        exact hfirst
      | cons hnext hrest ih =>
        rw [List.foldl_cons, List.flatten_cons, ← List.append_assoc]
        exact ih _ _ (hfirst.call hnext)
    | postgres =>
      match rest, hrest with
      | [], .nil =>
        rw [List.flatten_cons, List.flatten_nil, List.append_nil]
        exact hfirst
      | next :: rest, hrest => exact reads_operands (.cons hfirst hrest) (List.cons_ne_nil _ _)

/-- Quotes in literals and calls in calls. -/
example : stringValue? ["100%"] "CONCAT(CONCAT('it''s (', $0$), ')')".toList =
    some "it's (100%)".toList := by
  decide +kernel

/-- The operand of a match has the pattern as its value. -/
theorem reads_pattern (dialect : Dialect) (kind : MatchKind) {parameter : String}
    {value : List Char} (h : Reads parameters parameter value) :
    Reads parameters (dialect.pattern kind parameter) (surround kind value) := by
  have hwildcard (text : String) : ∃ values : List (List Char), values.flatten = text.toList ∧
      List.Forall₂ (Reads parameters) (if text.isEmpty then [] else [quoteString text]) values := by
    split
    · next hempty =>
      rw [String.isEmpty_iff.1 hempty]
      exact ⟨[], rfl, .nil⟩
    · exact ⟨[text.toList], by simp, .cons (reads_quoteString text) .nil⟩
  obtain ⟨before, hbefore, hreadsBefore⟩ := hwildcard (wildcards kind).1
  obtain ⟨after, hafter, hreadsAfter⟩ := hwildcard (wildcards kind).2
  have hvalue : surround kind value = (before ++ [value] ++ after).flatten := by
    rw [surround, ← hbefore, ← hafter, List.flatten_append, List.flatten_append,
      List.flatten_singleton]
  rw [hvalue]
  exact reads_concat dialect
    (List.rel_append (List.rel_append hreadsBefore (.cons h .nil)) hreadsAfter)

/-! ### Predicates -/

/-- The characters of a sentence in which no column stands for itself. -/
def chars? (sentence : Sentence) : Option (List Char) :=
  sentence.mapM fun
    | .char c => some c
    | .column => none

theorem chars?_ofText (text : String) : chars? (Sentence.ofText text) = some text.toList :=
  mapM_eq_some_iff.2 (List.forall₂_map_left_iff.2 (List.forall₂_same.2 fun _ _ ↦ rfl))

/-- What comparisons mean if patterns are matched, and strings are put together, as engines do. The
other comparisons mean anything. -/
def patternMeaning (folding : CaseFolding) (parameters : Parameters) (other : Meaning String) :
    Meaning String
  | .like, text, operand =>
    ((chars? operand).bind (stringValue? parameters)).any (likes folding · text.toList)
  | comparator, text, operand => other comparator text operand

/-- A match is true of the texts that match the value of its operand, and false of all others. -/
theorem truth?_like (folding : CaseFolding) {operand : String} {pattern : List Char}
    (hclosed : Closed (Sentence.ofText operand))
    (hoperand : stringValue? parameters operand.toList = some pattern) (other : Meaning String)
    (text : String) :
    (Test.comparison .like false (Sentence.ofText operand)).sentence.truth?
      (patternMeaning folding parameters other) (some text) =
        some (.ofBool (likes folding pattern text.toList)) := by
  rw [Sentence.truth?, connected?_of_closed (Test.closed_comparison hclosed _ _)
    (partTruth?_test _ _ _ _)]
  show some (Truth.ofBool (Option.any _ ((chars? (Sentence.ofText operand)).bind _) != false)) = _
  rw [chars?_ofText, Option.bind_some, hoperand, Option.any_some, Bool.bne_false]

/-- **The truth of a match.** The predicate is true exactly for the texts that match the value, as a
pattern, between the wildcards of the kind of match. It is true exactly for the texts that the kind
of match relates to the value itself, ignoring case, if and only if there are no special characters
in the value. -/
theorem matchPredicate_truth (folding : CaseFolding) (dialect : Dialect) (kind : MatchKind)
    (value : String) (parameters : Parameters) :
    ∃ predicate : Sentence,
      (∀ column, outcome (matchPredicate dialect column false kind value) parameters =
        (.ok (predicate.text column), parameters ++ [value])) ∧
      ∀ (later : Parameters) (other : Meaning String),
        let meaning := patternMeaning folding (parameters ++ value :: later) other
        (∀ text : String, predicate.truth? meaning (some text) =
          some (.ofBool (likes folding (surround kind value.toList) text.toList))) ∧
        ((∀ text : String, predicate.truth? meaning (some text) = some .true ↔
          IsPart kind (value.toList.map folding.fold) (text.toList.map folding.fold)) ↔
            IsPlain value.toList) := by
  let operand := dialect.pattern kind (marker parameters.length)
  have hclosed : Closed (Sentence.ofText operand) :=
    @Compositional.pattern _ _ _ _ closed_compositional _ [] (closed_marker _) dialect kind
  refine ⟨(Test.comparison .like false (Sentence.ofText operand)).sentence, fun column ↦ ?_,
    fun later other ↦ ?_⟩
  · rw [outcome_matchPredicate, like_eq_sign, text_comparison]
  have hvalue : (parameters ++ value :: later)[parameters.length]? = some value := by simp
  have hmeaning := truth?_like folding hclosed
    (reads_pattern dialect kind (reads_marker hvalue)).stringValue?_eq other
  refine ⟨hmeaning, ?_⟩
  rw [← forall_likes_iff folding kind value.toList]
  simp only [hmeaning, Option.some.injEq, Truth.ofBool_eq_true_iff]
  constructor
  · intro h text
    rw [← String.toList_ofList (l := text)]
    exact h _
  · exact fun h text ↦ h text.toList

/-- A percent sign in the value matches anything, and a backslash at its end takes the wildcard
behind it away. -/
theorem truth_of_special_values :
    (∃ predicate : Sentence,
      outcome (matchPredicate .postgres "name" false .contains "50%") [] =
        (.ok (predicate.text "name"), ["50%"]) ∧
      predicate.truth? (patternMeaning .ascii ["50%"] fun _ _ _ ↦ false) (some "500") =
        some .true ∧
      ¬ IsPart .contains ("50%".toList.map Char.toLower) ("500".toList.map Char.toLower)) ∧
    ∃ predicate : Sentence,
      outcome (matchPredicate .vertica "path" false .startsWith "C:\\") [] =
        (.ok (predicate.text "path"), ["C:\\"]) ∧
      predicate.truth? (patternMeaning .ascii ["C:\\"] fun _ _ _ ↦ false) (some "C:\\temp") =
        some .false ∧
      IsPart .startsWith ("C:\\".toList.map Char.toLower) ("C:\\temp".toList.map Char.toLower) := by
  refine ⟨⟨.column :: Sentence.ofText " ILIKE ('%' || $0$ || '%')", by decide +kernel,
    by decide +kernel, ?_⟩, ⟨.column :: Sentence.ofText " ILIKE CONCAT($0$, '%')",
    by decide +kernel, by decide +kernel, ?_⟩⟩
  · show ¬ _ <:+: _
    decide
  · show _ <+: _
    decide

end SemanticLayer.Sql.Like
