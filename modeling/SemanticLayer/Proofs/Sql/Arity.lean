import SemanticLayer.Proofs.Sql.Compilation

/-!
# Numbers of values

Each operator takes a number of values: any number, at least one, or exactly so many (`Arity`). A
condition fails exactly if it has another number of values, whatever has been allocated before, and
then it allocates nothing (`Condition.exists_failsAlone_iff`). Several conditions fail exactly if one
of them fails alone, and they fail as the first of these does. What the conditions before it
allocated stays, and nothing else does (`compile_fails_iff`).

The compiler checks the number of values in one place for each form of predicates, and the arity is
said of operators, one by one. That the two agree is where the operators are looked at.
-/

namespace SemanticLayer.Sql

open Compile
open Query (FilterOperator)

/-! ### Arities -/

/-- How many values an operator takes. -/
inductive Arity where
  /-- Any number, none included. -/
  | any
  /-- One or more. -/
  | atLeastOne
  /-- So many, and no others. -/
  | exactly (count : Nat)
  deriving DecidableEq, Repr

/-- Whether there may be so many values. -/
def Arity.Admits : Arity → Nat → Prop
  | any, _ => True
  | atLeastOne, count => 1 ≤ count
  | exactly expected, count => count = expected

instance (arity : Arity) (count : Nat) : Decidable (arity.Admits count) :=
  match arity with
  | .any => inferInstanceAs (Decidable True)
  | .atLeastOne => inferInstanceAs (Decidable (1 ≤ count))
  | .exactly expected => inferInstanceAs (Decidable (count = expected))

/-- The number of values of each operator. -/
def Arity.ofOperator : FilterOperator → Arity
  | .equals | .notEquals | .isIn | .notIn => atLeastOne
  | .contains | .notContains | .startsWith | .notStartsWith | .endsWith | .notEndsWith => atLeastOne
  | .gt | .gte | .lt | .lte => exactly 1
  | .beforeDate | .beforeOrOnDate | .afterDate | .afterOrOnDate => exactly 1
  | .inDateRange | .notInDateRange | .onTheDate => exactly 2
  | .isSet | .notSet => any

/-- The number of values of each form of predicates. -/
def Form.arity : Form → Arity
  | equality _ | pattern _ _ => .atLeastOne
  | comparison _ | dateComparison _ => .exactly 1
  | presence _ => .any
  | range _ => .exactly 2

/-- The forms of predicates check the arities of their operators. -/
theorem Form.arity_ofOperator (operator : FilterOperator) :
    (Form.ofOperator operator).arity = .ofOperator operator := by
  cases operator <;> rfl

/-- A form has a fault exactly if the number of values is not its own. -/
theorem Form.fault?_eq_none_iff {form : Form} {values : List String} :
    form.fault? values = none ↔ form.arity.Admits values.length := by
  have hsome : (if values.isEmpty then some ArityFault.noValue else none) = none ↔
      1 ≤ values.length := by
    cases values <;> simp
  cases form with
  | equality negated => exact hsome
  | pattern kind negated => exact hsome
  | comparison sign => simp [fault?, arity, Arity.Admits]
  | dateComparison sign => simp [fault?, arity, Arity.Admits]
  | presence present => simp [fault?, arity, Arity.Admits]
  | range inside => simp [fault?, arity, Arity.Admits]

namespace Condition

/-- The condition has as many values as its operator takes. -/
def Admissible (condition : Condition) : Prop :=
  (Arity.ofOperator condition.operator).Admits condition.values.length

instance (condition : Condition) : Decidable condition.Admissible :=
  inferInstanceAs (Decidable (Arity.Admits _ _))

/-- A condition fails with an error on its own: from all parameters, and it leaves them as they
are. -/
def FailsAlone (dialect : Dialect) (condition : Condition) (error : SqlError) : Prop :=
  ∀ parameters, outcome (condition.compile dialect) parameters = (.error error, parameters)

variable {dialect : Dialect} {condition : Condition} {error : SqlError}

/-! ### One condition -/

theorem fault?_eq_none_iff : condition.fault? = none ↔ condition.Admissible := by
  rw [fault?, Option.map_eq_none_iff, Form.fault?_eq_none_iff, form, Form.arity_ofOperator,
    Admissible]

/-- A condition that fails somewhere has a fault, and it leaves the parameters as they are. -/
theorem fault?_of_outcome_compile {parameters after : Parameters}
    (h : outcome (condition.compile dialect) parameters = (.error error, after)) :
    condition.fault? = some error ∧ after = parameters := by
  rcases hfault : condition.fault? with - | fault
  · rw [outcome_compile_of_fits hfault] at h
    cases (Prod.mk.inj h).1
  · rw [outcome_compile_of_fault hfault] at h
    obtain ⟨herror, rfl⟩ := Prod.mk.inj h
    exact ⟨congrArg some (Except.error.inj herror), rfl⟩

/-- To fail alone is to have a fault. -/
theorem failsAlone_iff : condition.FailsAlone dialect error ↔ condition.fault? = some error :=
  ⟨fun h ↦ (fault?_of_outcome_compile (h [])).1, fun h ↦ outcome_compile_of_fault h dialect⟩

/-- What fails somewhere fails alone. -/
theorem failsAlone_of_outcome_compile {parameters after : Parameters}
    (h : outcome (condition.compile dialect) parameters = (.error error, after)) :
    condition.FailsAlone dialect error ∧ after = parameters :=
  (fault?_of_outcome_compile h).imp_left failsAlone_iff.2

theorem exists_failsAlone_iff :
    (∃ error, condition.FailsAlone dialect error) ↔ ¬condition.Admissible := by
  simp only [failsAlone_iff]
  rw [← fault?_eq_none_iff, ← Ne, Option.ne_none_iff_exists']

/-! ### Several conditions -/

/-- Conditions that fail do so at the first that fails alone, behind the parameters of those before
it. -/
theorem first_of_outcome_compileAll {conditions : List Condition} {parameters after : Parameters}
    (h : outcome (compileAll dialect conditions) parameters = (.error error, after)) :
    ∃ before condition rest, conditions = before ++ condition :: rest ∧
      (∀ other ∈ before, ¬∃ error, other.FailsAlone dialect error) ∧
      condition.FailsAlone dialect error ∧ after = parameters ++ before.flatMap taken := by
  rcases fits_or_first_fault conditions with
    hfits | ⟨before, condition, rest, fault, rfl, hbefore, hfault⟩
  · rw [outcome_compileAll_of_fits dialect hfits] at h
    cases (Prod.mk.inj h).1
  · rw [outcome_compileAll_of_fault dialect hbefore hfault] at h
    obtain ⟨herror, rfl⟩ := Prod.mk.inj h
    obtain rfl := Except.error.inj herror
    refine ⟨before, condition, rest, rfl, fun other hmem ↦ ?_, failsAlone_iff.2 hfault, rfl⟩
    rw [exists_failsAlone_iff, not_not, ← fault?_eq_none_iff]
    exact hbefore other hmem

/-- Conditions of which one fails alone fail together. -/
theorem exists_outcome_compileAll {conditions : List Condition} (hmem : condition ∈ conditions)
    (h : condition.FailsAlone dialect error) (parameters : Parameters) :
    ∃ error after, outcome (compileAll dialect conditions) parameters = (.error error, after) := by
  rcases fits_or_first_fault conditions with
    hfits | ⟨before, condition, rest, fault, rfl, hbefore, hfault⟩
  · cases (hfits condition hmem).symm.trans (failsAlone_iff.1 h)
  · exact ⟨_, _, outcome_compileAll_of_fault dialect hbefore hfault rest parameters⟩

end Condition

/-- **Numbers of values are checked first.** From any parameters, a condition fails exactly if it
has not as many values as its operator takes, and then the parameters stay as they are. Several
conditions fail exactly if one of them fails alone, with the error of the first that does, and then
the parameters are those from before, followed by the values that the conditions before it take. -/
theorem compile_fails_iff (dialect : Dialect) :
    (∀ (condition : Condition) (parameters : Parameters),
      ((∃ error after, outcome (condition.compile dialect) parameters = (.error error, after)) ↔
        ¬condition.Admissible) ∧
      ∀ error after, outcome (condition.compile dialect) parameters = (.error error, after) →
        condition.FailsAlone dialect error ∧ after = parameters) ∧
    ∀ (conditions : List Condition) (parameters : Parameters),
      ((∃ error after, outcome (compileAll dialect conditions) parameters = (.error error, after)) ↔
        ∃ condition ∈ conditions, ∃ error, condition.FailsAlone dialect error) ∧
      ∀ error after, outcome (compileAll dialect conditions) parameters = (.error error, after) →
        ∃ before condition rest, conditions = before ++ condition :: rest ∧
          (∀ other ∈ before, ¬∃ error, other.FailsAlone dialect error) ∧
          condition.FailsAlone dialect error ∧
          after = parameters ++ before.flatMap Condition.taken := by
  constructor
  · intro condition parameters
    refine ⟨⟨?_, fun hcount ↦ ?_⟩, fun error after ↦ Condition.failsAlone_of_outcome_compile⟩
    · rintro ⟨error, after, h⟩
      exact Condition.exists_failsAlone_iff.1 ⟨error, (Condition.failsAlone_of_outcome_compile h).1⟩
    · obtain ⟨error, hfails⟩ := Condition.exists_failsAlone_iff.2 hcount
      exact ⟨error, parameters, hfails parameters⟩
  · intro conditions parameters
    refine ⟨⟨?_, ?_⟩, fun error after ↦ Condition.first_of_outcome_compileAll⟩
    · rintro ⟨error, after, h⟩
      obtain ⟨before, condition, rest, rfl, -, hfails, -⟩ :=
        Condition.first_of_outcome_compileAll h
      exact ⟨condition, List.mem_append_right _ List.mem_cons_self, error, hfails⟩
    · rintro ⟨condition, hmem, error, hfails⟩
      exact Condition.exists_outcome_compileAll hmem hfails parameters

/-- The values of the condition in front stay, the test for a value takes none, and the condition
behind the one that fails leaves nothing. -/
example :
    outcome (compileAll .vertica [⟨"a", .number, .isIn, ["1", "2"]⟩, ⟨"b", .string, .isSet, ["x"]⟩,
        ⟨"c", .time, .onTheDate, ["2021-01-01"]⟩, ⟨"d", .string, .equals, []⟩]) ["v"] =
      (.error (.invalidFilter .onTheDate (.notPair 1)), ["v", "1", "2"]) := by
  decide +kernel

end SemanticLayer.Sql
