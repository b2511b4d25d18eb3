import SemanticLayer.Proofs.Sql.Conjunction

/-!
# The truth of predicates

A predicate about a column is true, false or unknown, depending on the value of the column. It is
unknown only because the column has no value: then every comparison is unknown, and only the tests
for a value are not. What a comparison says about a value is left open (`Meaning`), except that it
says yes or no, and that its negation says the opposite.

A sentence is read as engines read it: `OR` joins what `AND` has joined, and what is in parentheses
is read by itself (`Sentence.truth?`). So whether the parentheses are where they have to be is part
of what is proved here. The column is one symbol, and may be any expression.

The main statement is `compile_complementary`: of the predicates of an operator and of its negation,
the one is true exactly where the other is not, also where the column has no value.
-/

namespace SemanticLayer.Sql

open Compile Sentence
open Query (FilterOperator MatchKind SemanticType)

/-! ### Truth values -/

/-- What a predicate is for a row. -/
inductive Truth where
  | true
  | false
  | unknown
  deriving DecidableEq, Repr

namespace Truth

def ofBool : Bool → Truth
  | .true => true
  | .false => false

/-- False if either is, and true if both are. -/
def and : Truth → Truth → Truth
  | false, _ | _, false => false
  | true, true => true
  | _, _ => unknown

/-- True if either is, and false if both are. -/
def or : Truth → Truth → Truth
  | true, _ | _, true => true
  | false, false => false
  | _, _ => unknown

@[simp]
theorem ofBool_true : ofBool .true = true :=
  rfl

@[simp]
theorem ofBool_false : ofBool .false = false :=
  rfl

theorem ofBool_eq_true_iff {b : Bool} : ofBool b = true ↔ b = .true := by
  cases b <;> decide

theorem and_eq_true_iff {first rest : Truth} :
    first.and rest = true ↔ first = true ∧ rest = true := by
  cases first <;> cases rest <;> decide

theorem or_eq_true_iff {first rest : Truth} :
    first.or rest = true ↔ first = true ∨ rest = true := by
  cases first <;> cases rest <;> decide

end Truth

/-- The truth of predicates that are joined. -/
def Connective.combine : Connective → List Truth → Truth
  | and, truths => truths.foldr .and .true
  | or, truths => truths.foldr .or .false

theorem Connective.combine_singleton (connective : Connective) (truth : Truth) :
    connective.combine [truth] = truth := by
  cases connective <;> cases truth <;> rfl

theorem combine_and_eq_true_iff {truths : List Truth} :
    Connective.and.combine truths = .true ↔ ∀ truth ∈ truths, truth = .true := by
  induction truths with
  | nil => exact ⟨fun _ truth h ↦ absurd h List.not_mem_nil, fun _ ↦ rfl⟩
  | cons truth truths ih =>
    rw [List.forall_mem_cons, ← ih]
    exact Truth.and_eq_true_iff

theorem combine_or_eq_true_iff {truths : List Truth} :
    Connective.or.combine truths = .true ↔ ∃ truth ∈ truths, truth = .true := by
  induction truths with
  | nil => exact ⟨fun h ↦ (by cases h), fun ⟨truth, h, _⟩ ↦ absurd h List.not_mem_nil⟩
  | cons truth truths ih =>
    rw [List.exists_mem_cons_iff, ← ih]
    exact Truth.or_eq_true_iff

/-! ### Tests of a column -/

/-- What a value of the column is compared by. -/
inductive Comparator where
  | equals
  | isIn
  | like
  deriving DecidableEq, Repr

/-- A comparator as it is written. -/
def Comparator.sign : Comparator → Bool → String
  | equals, negated => if negated then "<>" else "="
  | isIn, negated => if negated then "NOT IN" else "IN"
  | like, negated => if negated then "NOT ILIKE" else "ILIKE"

/-- What stands between the column and the operand of a comparison. -/
def Comparator.between (comparator : Comparator) (negated : Bool) : Sentence :=
  ofText (" " ++ comparator.sign negated ++ " ")

/-- What comparisons say about the values of a column. Operands are not looked into. -/
abbrev Meaning (V : Type) := Comparator → V → Sentence → Bool

/-- A predicate without connectives. -/
inductive Test where
  /-- A comparison of the column with an operand. -/
  | comparison (comparator : Comparator) (negated : Bool) (operand : Sentence)
  /-- A test whether the column has no value. -/
  | isNull (negated : Bool)
  deriving DecidableEq, Repr

namespace Test

/-- The test as it is written. -/
def sentence : Test → Sentence
  | comparison comparator negated operand =>
    .column :: (comparator.between negated ++ operand)
  | isNull negated => .column :: ofText (if negated then " IS NOT NULL" else " IS NULL")

/-- The comparators with and without negation. -/
def signs : List (Comparator × Bool) :=
  [(.equals, false), (.equals, true), (.isIn, false), (.isIn, true), (.like, false), (.like, true)]

/-- The test that is written in a sentence. -/
def ofSentence? : Sentence → Option Test
  | .column :: rest =>
    if rest = ofText " IS NULL" then some (isNull false)
    else if rest = ofText " IS NOT NULL" then some (isNull true)
    else
      (signs.find? fun (comparator, negated) ↦ (comparator.between negated).isPrefixOf rest).map
        fun (comparator, negated) ↦
          comparison comparator negated (rest.drop (comparator.between negated).length)
  | _ => none

theorem ofSentence?_sentence (test : Test) : ofSentence? test.sentence = some test := by
  cases test with
  | comparison comparator negated operand =>
    cases comparator <;> cases negated <;> rfl
  | isNull negated => cases negated <;> rfl

/-- The truth of a test. A comparison of a column without a value is unknown. -/
def truth {V : Type} (meaning : Meaning V) (value : Option V) : Test → Truth
  | comparison comparator negated operand =>
    match value with
    | none => .unknown
    | some value => .ofBool (meaning comparator value operand != negated)
  | isNull negated => .ofBool (value.isNone != negated)

end Test

/-! ### The truth of sentences -/

/-- What is in parentheses that are around a whole sentence. -/
def inside? : Sentence → Option Sentence
  | .char '(' :: rest => if rest.getLast? = some (.char ')') then some rest.dropLast else none
  | _ => none

theorem inside?_parenthesized (sentence : Sentence) :
    inside? sentence.parenthesized = some sentence := by
  rw [parenthesized, inside?, List.getLast?_concat, List.dropLast_concat]
  exact if_pos rfl

/-- The truth of what a connective joins, part by part. -/
def joined? (connective : Connective) (part? : Sentence → Option Truth) (sentence : Sentence) :
    Option Truth := do
  let sentences ← split? connective sentence
  return connective.combine (← sentences.mapM part?)

theorem joined?_join {connective : Connective} {part? : Sentence → Option Truth}
    {sentences : List Sentence} {truths : List Truth} (hnonempty : sentences ≠ [])
    (homits : ∀ sentence ∈ sentences, Omits connective sentence)
    (h : List.Forall₂ (fun sentence truth ↦ part? sentence = some truth) sentences truths) :
    joined? connective part? (connective.join sentences) = some (connective.combine truths) := by
  rw [joined?, split?_join hnonempty homits]
  show (sentences.mapM part? >>= _) = _
  rw [mapM_eq_some_iff.2 h]
  rfl

/-- A sentence without the connective is its only part. -/
theorem joined?_of_omits {connective : Connective} {part? : Sentence → Option Truth}
    {sentence : Sentence} {truth : Truth} (homits : Omits connective sentence)
    (h : part? sentence = some truth) : joined? connective part? sentence = some truth := by
  have hjoined := joined?_join (List.cons_ne_nil sentence [])
    (List.forall_mem_singleton.2 homits) (.cons h .nil)
  rwa [connective.join_singleton, connective.combine_singleton] at hjoined

/-- The truth of a sentence, given the truth of its parts. What `AND` joins is joined by `OR`. -/
def connected? (part? : Sentence → Option Truth) : Sentence → Option Truth :=
  joined? .or (joined? .and part?)

/-- A sentence without connectives is its only part. -/
theorem connected?_of_closed {part? : Sentence → Option Truth} {sentence : Sentence} {truth : Truth}
    (hclosed : Closed sentence) (h : part? sentence = some truth) :
    connected? part? sentence = some truth :=
  joined?_of_omits (hclosed .or) (joined?_of_omits (hclosed .and) h)

section

variable {V : Type} (meaning : Meaning V) (value : Option V)

/-- The truth of a part: of a test, or of what is in parentheses, up to a depth of them. -/
def partTruth? : Nat → Sentence → Option Truth
  | 0, part => (Test.ofSentence? part).map (Test.truth meaning value)
  | depth + 1, part =>
    match Test.ofSentence? part with
    | some test => some (test.truth meaning value)
    | none => (inside? part).bind (connected? (partTruth? depth))

/-- The truth of a sentence, if it is one. -/
def Sentence.truth? (sentence : Sentence) : Option Truth :=
  connected? (partTruth? meaning value sentence.length) sentence

/-- `AND` binds tighter than `OR`: the first test is enough. -/
example :
    Sentence.truth? (fun _ value operand ↦ operand == ofText value) (some "a")
      (.column :: ofText " = a OR " ++ .column :: ofText " = b AND " ++
        .column :: ofText " IS NULL") = some .true := by
  decide

theorem partTruth?_test (depth : Nat) (test : Test) :
    partTruth? meaning value depth test.sentence = some (test.truth meaning value) := by
  cases depth with
  | zero => rw [partTruth?, test.ofSentence?_sentence, Option.map_some]
  | succ depth => rw [partTruth?, test.ofSentence?_sentence]

theorem partTruth?_parenthesized (depth : Nat) (sentence : Sentence) :
    partTruth? meaning value (depth + 1) sentence.parenthesized =
      connected? (partTruth? meaning value depth) sentence := by
  have hnone : Test.ofSentence? sentence.parenthesized = none := rfl
  rw [partTruth?, hnone, inside?_parenthesized, Option.bind_some]

/-- What is in parentheses is read by itself. -/
theorem truth?_parenthesized {meaning : Meaning V} {value : Option V} {sentence : Sentence}
    {truth : Truth} (hbalanced : Balanced sentence)
    (h : ∀ depth, connected? (partTruth? meaning value depth) sentence = some truth) :
    sentence.parenthesized.truth? meaning value = some truth := by
  have hlength : sentence.parenthesized.length = (sentence.length + 1) + 1 := by
    rw [parenthesized, List.length_cons, List.length_append, List.length_singleton]
  rw [truth?, hlength]
  exact connected?_of_closed hbalanced.parenthesized
    ((partTruth?_parenthesized meaning value _ sentence).trans (h _))

end

/-! ### Complements -/

theorem closed_column : Closed [.column] := by
  decide

/-- A comparison is closed if its operand is. -/
theorem Test.closed_comparison {operand : Sentence} (h : Closed operand) (comparator : Comparator)
    (negated : Bool) : Closed (comparison comparator negated operand).sentence := by
  have hsign : Closed (ofText (comparator.sign negated)) := by
    cases comparator <;> cases negated <;> decide
  rw [sentence, Comparator.between, ofText_append, ofText_append, List.append_assoc]
  exact closed_column.blank (hsign.blank h)

theorem Test.closed_isNull : Closed (isNull false).sentence := by
  decide

/-- Tests, of which one is enough. -/
def anyOf : List Test → Sentence
  | [test] => test.sentence
  | tests => (Connective.or.join (tests.map Test.sentence)).parenthesized

/-- Tests that are all needed, unless the column has no value. -/
def allOrNull (tests : List Test) : Sentence :=
  (Connective.or.join [Connective.and.join (tests.map Test.sentence),
    (Test.isNull false).sentence]).parenthesized

section

variable {V : Type} (meaning : Meaning V) (value : Option V) {tests : List Test}
  (hnonempty : tests ≠ []) (hclosed : ∀ test ∈ tests, Closed test.sentence)

include hnonempty hclosed

/-- Tests that are joined are read one by one. -/
theorem joined?_tests (connective : Connective) {part? : Sentence → Option Truth}
    (h : ∀ test ∈ tests, part? test.sentence = some (test.truth meaning value)) :
    joined? connective part? (connective.join (tests.map Test.sentence)) =
      some (connective.combine (tests.map (Test.truth meaning value))) := by
  refine joined?_join (fun hempty ↦ hnonempty (List.map_eq_nil_iff.1 hempty)) ?_ ?_
  · exact List.forall_mem_map.2 fun test hmem ↦ hclosed test hmem connective
  · rw [List.forall₂_map_left_iff, List.forall₂_map_right_iff, List.forall₂_same]
    exact h

theorem truth?_anyOf :
    (anyOf tests).truth? meaning value =
      some (Connective.or.combine (tests.map (Test.truth meaning value))) := by
  have hmany : (Connective.or.join (tests.map Test.sentence)).parenthesized.truth? meaning value =
      some (Connective.or.combine (tests.map (Test.truth meaning value))) := by
    refine truth?_parenthesized (Balanced.join .or (List.forall_mem_map.2
      fun test hmem ↦ (hclosed test hmem).balanced)) fun depth ↦ ?_
    exact joined?_tests meaning value hnonempty hclosed .or fun test hmem ↦
      joined?_of_omits (hclosed test hmem .and) (partTruth?_test meaning value depth test)
  match tests, hnonempty, hclosed with
  | [test], _, hclosed =>
    rw [List.map_singleton, Connective.combine_singleton]
    exact connected?_of_closed (hclosed test List.mem_cons_self)
      (partTruth?_test meaning value _ test)
  | _ :: _ :: _, _, _ => exact hmany

theorem truth?_allOrNull :
    (allOrNull tests).truth? meaning value =
      some (Connective.or.combine [Connective.and.combine (tests.map (Test.truth meaning value)),
        (Test.isNull false).truth meaning value]) := by
  have hall : Omits .or (Connective.and.join (tests.map Test.sentence)) :=
    Omits.join (by decide) (List.forall_mem_map.2 fun test hmem ↦ hclosed test hmem .or)
  have hnull := Test.closed_isNull
  have homits : ∀ sentence ∈ [Connective.and.join (tests.map Test.sentence),
      (Test.isNull false).sentence], Omits .or sentence :=
    List.forall_mem_cons.2 ⟨hall, List.forall_mem_singleton.2 (hnull .or)⟩
  refine truth?_parenthesized (Balanced.join .or fun sentence hmem ↦
    (homits sentence hmem).balanced) fun depth ↦ ?_
  have hpart := partTruth?_test meaning value depth
  exact joined?_join (List.cons_ne_nil _ _) homits
    (.cons (joined?_tests meaning value hnonempty hclosed .and fun test _ ↦ hpart test)
      (.cons (joined?_of_omits (hnull .and) (hpart _)) .nil))

end

/-- The tests for comparisons with operands, all of them negated or none. -/
def tests (negated : Bool) (comparisons : List (Comparator × String)) : List Test :=
  comparisons.map fun comparison ↦ .comparison comparison.1 negated (ofText comparison.2)

/-- **Tests and their negations** are complements if the negations make up for a column without a
value. -/
theorem combine_complement {V : Type} (meaning : Meaning V) (value : Option V)
    (comparisons : List (Comparator × String)) :
    Connective.or.combine
        [Connective.and.combine ((tests true comparisons).map (Test.truth meaning value)),
          (Test.isNull false).truth meaning value] = .true ↔
      Connective.or.combine ((tests false comparisons).map (Test.truth meaning value)) ≠ .true := by
  rw [ne_eq, combine_or_eq_true_iff, combine_or_eq_true_iff, List.exists_mem_cons_iff,
    combine_and_eq_true_iff, tests, tests, List.forall_mem_map, List.forall_mem_map]
  cases value with
  | none => simp [Test.truth]
  | some value => simp [Test.truth, Truth.ofBool_eq_true_iff]

/-- The sentence that needs any of some comparisons is true exactly where the sentence that needs
none of them, or a column without a value, is not. -/
theorem truth?_complementary {V : Type} (meaning : Meaning V) (value : Option V)
    {comparisons : List (Comparator × String)} (hnonempty : comparisons ≠ [])
    (hclosed : ∀ comparison ∈ comparisons, Closed (ofText comparison.2)) :
    ∃ truth truth', (anyOf (tests false comparisons)).truth? meaning value = some truth ∧
      (allOrNull (tests true comparisons)).truth? meaning value = some truth' ∧
      (truth' = .true ↔ truth ≠ .true) := by
  have htests (negated : Bool) : tests negated comparisons ≠ [] :=
    fun hempty ↦ hnonempty (List.map_eq_nil_iff.1 hempty)
  have hsentences (negated : Bool) : ∀ test ∈ tests negated comparisons, Closed test.sentence :=
    List.forall_mem_map.2 fun comparison hmem ↦
      Test.closed_comparison (hclosed comparison hmem) comparison.1 negated
  exact ⟨_, _, truth?_anyOf meaning value (htests false) (hsentences false),
    truth?_allOrNull meaning value (htests true) (hsentences true),
    combine_complement meaning value comparisons⟩

/-! ### Texts -/

theorem text_join (column : String) (connective : Connective) (sentences : List Sentence) :
    (connective.join sentences).text column =
      connective.joint.intercalate (sentences.map (text column)) := by
  rw [Connective.join, text_intercalate, text_ofText]

theorem text_comparison (column : String) (comparator : Comparator) (negated : Bool)
    (operand : String) :
    (Test.comparison comparator negated (ofText operand)).sentence.text column =
      column ++ (" " ++ comparator.sign negated ++ " " ++ operand) := by
  rw [Test.sentence, Comparator.between, text_column_cons, text_append, text_ofText, text_ofText]

theorem text_allOrNull (column : String) (tests : List Test) :
    (allOrNull tests).text column =
      orNull (" AND ".intercalate (tests.map fun test ↦ test.sentence.text column)) column := by
  have hnull : (Test.isNull false).sentence.text column = column ++ " IS NULL" := by
    rw [Test.sentence, text_column_cons, text_ofText]
    rfl
  rw [allOrNull, text_parenthesized, text_join, List.map_cons, List.map_singleton,
    String.intercalate_cons_cons, String.intercalate_singleton, text_join, List.map_map, hnull]
  show "(" ++ (" AND ".intercalate _ ++ " OR " ++ (column ++ " IS NULL")) ++ ")" =
    "(" ++ " AND ".intercalate _ ++ " OR " ++ column ++ (" IS NULL" ++ ")")
  simp only [String.append_assoc]
  rfl

/-- The comparison with one parameter, or with a list of them. -/
def listed : List String → Comparator × String
  | [parameter] => (.equals, parameter)
  | parameters => (.isIn, "(" ++ ", ".intercalate parameters ++ ")")

theorem closed_listed {parameters : List String}
    (h : ∀ parameter ∈ parameters, Closed (ofText parameter)) :
    Closed (ofText (listed parameters).2) := by
  have hparameters : List.Forall₂ (fun text (_ : List Unit) ↦ Closed (ofText text)) parameters
      (parameters.map fun _ ↦ []) :=
    List.forall₂_map_right_iff.2 (List.forall₂_same.2 h)
  have hlist := @Compositional.parenthesized _ _ _ _ closed_compositional _ []
    (closed_compositional.intercalate_outer ", " (by decide) hparameters)
  match parameters, h with
  | [parameter], h => exact h parameter List.mem_cons_self
  | [], _ => exact hlist
  | _ :: _ :: _, _ => exact hlist

theorem equalityText_eq_listed (column : String) (negated : Bool) (parameters : List String) :
    equalityText column negated parameters =
      let predicate := column ++ (" " ++ (listed parameters).1.sign negated ++ " " ++
        (listed parameters).2)
      if negated then orNull predicate column else predicate := by
  have hlist (sign list : String) :
      " " ++ sign ++ " " ++ ("(" ++ list ++ ")") = " " ++ sign ++ " (" ++ list ++ ")" := by
    show _ = " " ++ sign ++ (" " ++ "(") ++ list ++ ")"
    simp only [String.append_assoc]
  match parameters with
  | [parameter] => cases negated <;> rfl
  | [] => cases negated <;> simp only [listed, hlist] <;> rfl
  | first :: second :: rest => cases negated <;> simp only [listed, hlist] <;> rfl

theorem text_anyOf_listed (column : String) (parameters : List String) :
    (anyOf (tests false [listed parameters])).text column =
      equalityText column false parameters := by
  rw [equalityText_eq_listed]
  exact text_comparison column _ false _

theorem text_allOrNull_listed (column : String) (parameters : List String) :
    (allOrNull (tests true [listed parameters])).text column =
      equalityText column true parameters := by
  rw [equalityText_eq_listed, text_allOrNull, tests, List.map_singleton, List.map_singleton,
    String.intercalate_singleton, text_comparison]
  rfl

/-- The comparisons with patterns around parameters. -/
def matched (dialect : Dialect) (kind : MatchKind) (parameters : List String) :
    List (Comparator × String) :=
  parameters.map fun parameter ↦ (.like, dialect.pattern kind parameter)

theorem like_eq_sign (dialect : Dialect) (column : String) (negated : Bool) (kind : MatchKind)
    (parameter : String) :
    dialect.like column negated kind parameter =
      column ++ (" " ++ Comparator.like.sign negated ++ " " ++ dialect.pattern kind parameter) := by
  rw [Dialect.like, String.append_assoc, String.append_assoc]
  cases negated with
  | true =>
    have hword : " NOT" ++ (" ILIKE " ++ dialect.pattern kind parameter) =
        " NOT" ++ " ILIKE " ++ dialect.pattern kind parameter :=
      String.append_assoc.symm
    exact congrArg (column ++ ·) hword
  | false => rfl

theorem map_text_matched (column : String) (negated : Bool) (dialect : Dialect) (kind : MatchKind)
    (parameters : List String) :
    ((tests negated (matched dialect kind parameters)).map fun test ↦ test.sentence.text column) =
      parameters.map (dialect.like column negated kind) := by
  rw [tests, matched, List.map_map, List.map_map]
  refine List.map_congr_left fun parameter _ ↦ ?_
  rw [like_eq_sign]
  exact text_comparison column .like negated _

theorem text_anyOf_matched (column : String) (dialect : Dialect) (kind : MatchKind)
    (parameters : List String) :
    (anyOf (tests false (matched dialect kind parameters))).text column =
      patternsText column false (parameters.map (dialect.like column false kind)) := by
  rw [← map_text_matched]
  have hmany (tests : List Test) :
      (Connective.or.join (tests.map Test.sentence)).parenthesized.text column =
        "(" ++ " OR ".intercalate (tests.map fun test ↦ test.sentence.text column) ++ ")" := by
    rw [text_parenthesized, text_join, List.map_map]
    rfl
  match tests false (matched dialect kind parameters) with
  | [] => exact hmany []
  | [test] => rfl
  | first :: second :: rest => exact hmany (first :: second :: rest)

theorem text_allOrNull_matched (column : String) (dialect : Dialect) (kind : MatchKind)
    (parameters : List String) :
    (allOrNull (tests true (matched dialect kind parameters))).text column =
      patternsText column true (parameters.map (dialect.like column true kind)) := by
  rw [text_allOrNull, map_text_matched]
  rfl

/-! ### Forms -/

/-- Two forms are made of the same comparisons: the one needs any of them, and the other none of
them, or a column without a value. -/
def Form.Complements (dialect : Dialect) (type : SemanticType) (parameters : List String)
    (form other : Form) : Prop :=
  ∃ comparisons, comparisons ≠ [] ∧
    (∀ comparison ∈ comparisons, Closed (ofText comparison.2)) ∧ ∀ column,
      form.text dialect column type parameters = (anyOf (tests false comparisons)).text column ∧
      other.text dialect column type parameters =
        (allOrNull (tests true comparisons)).text column

section

variable (dialect : Dialect) (type : SemanticType) {parameters : List String}
  (hclosed : ∀ parameter ∈ parameters, Closed (ofText parameter))

include hclosed

theorem Form.complements_equality :
    Complements dialect type parameters (equality false) (equality true) := by
  refine ⟨[listed (parameters.map (dialect.castParameter · (.ofType type)))],
    List.cons_ne_nil _ _, List.forall_mem_singleton.2 (closed_listed ?_), fun column ↦
      ⟨(text_anyOf_listed column _).symm, (text_allOrNull_listed column _).symm⟩⟩
  exact List.forall_mem_map.2 fun parameter hmem ↦ @Compositional.castParameter _ _ _ _
    closed_compositional parameter [] (hclosed parameter hmem) dialect _

theorem Form.complements_pattern (hnonempty : parameters ≠ []) (kind : MatchKind) :
    Complements dialect type parameters (pattern kind false) (pattern kind true) := by
  refine ⟨matched dialect kind parameters, fun hempty ↦ hnonempty (List.map_eq_nil_iff.1 hempty),
    ?_, fun column ↦ ⟨(text_anyOf_matched column dialect kind _).symm,
      (text_allOrNull_matched column dialect kind _).symm⟩⟩
  exact List.forall_mem_map.2 fun parameter hmem ↦ @Compositional.pattern _ _ _ _
    closed_compositional parameter [] (hclosed parameter hmem) dialect kind

end

/-! ### Operators -/

/-- Operators and their negations. -/
inductive Complementary : FilterOperator → FilterOperator → Prop where
  | equals : Complementary .equals .notEquals
  | isIn : Complementary .isIn .notIn
  | contains : Complementary .contains .notContains
  | startsWith : Complementary .startsWith .notStartsWith
  | endsWith : Complementary .endsWith .notEndsWith

/-- The forms of an operator and of its negation complement each other. -/
theorem Complementary.complements {positive negative : FilterOperator}
    (h : Complementary positive negative) (dialect : Dialect) (type : SemanticType)
    {parameters : List String} (hnonempty : parameters ≠ [])
    (hclosed : ∀ parameter ∈ parameters, Closed (ofText parameter)) :
    Form.Complements dialect type parameters (.ofOperator positive) (.ofOperator negative) := by
  have hpattern := Form.complements_pattern dialect type hclosed hnonempty
  cases h with
  | equals | isIn => exact Form.complements_equality dialect type hclosed
  | contains => exact hpattern .contains
  | startsWith => exact hpattern .startsWith
  | endsWith => exact hpattern .endsWith

/-- An operator and its negation take all values, of which there must be one. -/
theorem Complementary.outcome_compile {positive negative operator : FilterOperator}
    (h : Complementary positive negative) (hoperator : operator = positive ∨ operator = negative)
    (dialect : Dialect) (column : String) (type : SemanticType) {values : List String}
    (hvalues : values ≠ []) (parameters : Parameters) :
    outcome (Condition.compile dialect ⟨column, type, operator, values⟩) parameters =
      (.ok ((Form.ofOperator operator).text dialect column type
        (markers parameters.length values.length)), parameters ++ values) := by
  have hempty : values.isEmpty = false := List.isEmpty_eq_false_iff.2 hvalues
  have hfits : Condition.fault? ⟨column, type, operator, values⟩ = none := by
    rcases hoperator with rfl | rfl <;>
      cases h <;> simp [Condition.fault?, Condition.form, Form.ofOperator, Form.fault?, hempty]
  have htaken : Condition.taken ⟨column, type, operator, values⟩ = values := by
    rcases hoperator with rfl | rfl <;> cases h <;> rfl
  rw [Condition.outcome_compile_of_fits hfits, Condition.text, htaken]
  rfl

/-- **Negations are complements.** The predicates of an operator and of its negation, for the same
values, are two sentences about the column. Whatever the comparisons mean, both have a truth value,
and where the column has a value as where it has none, the one is true if and only if the other is
not. -/
theorem compile_complementary {positive negative : FilterOperator}
    (h : Complementary positive negative) (dialect : Dialect) (type : SemanticType)
    {values : List String} (hvalues : values ≠ []) (parameters : Parameters) :
    ∃ holds denies : Sentence,
      (∀ column,
        outcome (Condition.compile dialect ⟨column, type, positive, values⟩) parameters =
          (.ok (holds.text column), parameters ++ values) ∧
        outcome (Condition.compile dialect ⟨column, type, negative, values⟩) parameters =
          (.ok (denies.text column), parameters ++ values)) ∧
      ∀ {V : Type} (meaning : Meaning V) (value : Option V),
        ∃ truth truth', holds.truth? meaning value = some truth ∧
          denies.truth? meaning value = some truth' ∧ (truth' = .true ↔ truth ≠ .true) := by
  have hmarkers : ∀ parameter ∈ markers parameters.length values.length,
      Closed (ofText parameter) :=
    List.forall_mem_map.2 fun index _ ↦ closed_marker index
  have hnonempty : markers parameters.length values.length ≠ [] := by
    rw [← List.length_pos_iff_ne_nil] at hvalues ⊢
    simpa [markers] using hvalues
  obtain ⟨comparisons, hsome, hclosed, htexts⟩ :=
    h.complements dialect type hnonempty hmarkers
  refine ⟨anyOf (tests false comparisons), allOrNull (tests true comparisons),
    fun column ↦ ⟨?_, ?_⟩, fun meaning value ↦ truth?_complementary meaning value hsome hclosed⟩
  · rw [h.outcome_compile (.inl rfl) dialect column type hvalues, (htexts column).1]
  · rw [h.outcome_compile (.inr rfl) dialect column type hvalues, (htexts column).2]

/-- Two patterns, of which none may match or one has to. -/
theorem compile_contains_notContains :
    Complementary .contains .notContains ∧ ["a", "b"] ≠ [] ∧
    ∃ holds denies : Sentence,
      (∀ column,
        outcome (Condition.compile .vertica ⟨column, .string, .contains, ["a", "b"]⟩) ["x"] =
          (.ok (holds.text column), ["x", "a", "b"]) ∧
        outcome (Condition.compile .vertica ⟨column, .string, .notContains, ["a", "b"]⟩) ["x"] =
          (.ok (denies.text column), ["x", "a", "b"])) ∧
      ∀ {V : Type} (meaning : Meaning V) (value : Option V),
        ∃ truth truth', holds.truth? meaning value = some truth ∧
          denies.truth? meaning value = some truth' ∧ (truth' = .true ↔ truth ≠ .true) := by
  have hvalues : ["a", "b"] ≠ [] := List.cons_ne_nil _ _
  exact ⟨.contains, hvalues, compile_complementary .contains .vertica .string hvalues ["x"]⟩

end SemanticLayer.Sql
