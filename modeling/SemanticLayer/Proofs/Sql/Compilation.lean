import SemanticLayer.Proofs.Sequence
import SemanticLayer.Proofs.Sql.Template
import SemanticLayer.Sql.Predicate

/-!
# What the compilation of predicates does

Each function of the compiler is given by one equation on outcomes: from any parameters it either
fails and leaves them as they are, or it appends values to them and answers with a text in which
their markers stand. The text is a pure function of the markers (`Condition.text`), and whether
the values fit is a pure function of the values (`Condition.fault?`); neither looks at the
parameters that are already there, and the text does not look at the values.

The operators fall into six forms, which share their checks and their layout
(`Condition.compile_eq_form`). A fact about conditions therefore has six cases, one for each
form, and does not go through the operators.

The compilation of several conditions stops at the first whose values do not fit. What was
allocated for the conditions before it stays (`outcome_mapM_compile_of_fault`).
-/

namespace SemanticLayer.Sql

open Query (FilterOperator MatchKind SemanticType)

/-! ### Outcomes -/

namespace Compile

variable {α β : Type}

/-- The answer of a computation, and the parameters after it. -/
def outcome (computation : Compile α) (parameters : Parameters) :
    Except SqlError α × Parameters :=
  computation.run.run parameters

theorem outcome_pure (a : α) (parameters : Parameters) :
    outcome (pure a) parameters = (.ok a, parameters) :=
  rfl

theorem outcome_allocate (value : String) (parameters : Parameters) :
    outcome (allocate value) parameters =
      (.ok (marker parameters.length), parameters ++ [value]) :=
  rfl

theorem outcome_bind_of_ok {computation : Compile α} {parameters after : Parameters} {a : α}
    (h : outcome computation parameters = (.ok a, after)) (next : α → Compile β) :
    outcome (computation >>= next) parameters = outcome (next a) after := by
  rw [outcome] at h
  rw [outcome, ExceptT.run_bind, StateT.run_bind, h]
  rfl

theorem outcome_bind_of_error {computation : Compile α} {parameters after : Parameters}
    {error : SqlError} (h : outcome computation parameters = (.error error, after))
    (next : α → Compile β) :
    outcome (computation >>= next) parameters = (.error error, after) := by
  rw [outcome] at h
  rw [outcome, ExceptT.run_bind, StateT.run_bind, h]
  rfl

theorem outcome_map_of_ok {computation : Compile α} {parameters after : Parameters} {a : α}
    (h : outcome computation parameters = (.ok a, after)) (f : α → β) :
    outcome (f <$> computation) parameters = (.ok (f a), after) := by
  rw [outcome] at h
  rw [outcome, ExceptT.run_map, StateT.run_map, h]
  rfl

theorem outcome_map_of_error {computation : Compile α} {parameters after : Parameters}
    {error : SqlError} (h : outcome computation parameters = (.error error, after)) (f : α → β) :
    outcome (f <$> computation) parameters = (.error error, after) := by
  rw [outcome] at h
  rw [outcome, ExceptT.run_map, StateT.run_map, h]
  rfl

end Compile

open Compile

/-! ### Parameters -/

/-- The markers of `count` parameters from the index `first` on. -/
def markers (first count : Nat) : List String :=
  (List.range' first count).map marker

theorem outcome_castedParameter (dialect : Dialect) (type : SemanticType) (value : String)
    (parameters : Parameters) :
    outcome (castedParameter dialect type value) parameters =
      (.ok (dialect.castParameter (marker parameters.length) (.ofType type)),
        parameters ++ [value]) :=
  outcome_map_of_ok (outcome_allocate value parameters) _

theorem outcome_timestampParameter (dialect : Dialect) (value : String)
    (parameters : Parameters) :
    outcome (timestampParameter dialect value) parameters =
      (.ok (dialect.castTimestampLiteral (marker parameters.length)), parameters ++ [value]) :=
  outcome_map_of_ok (outcome_allocate value parameters) _

theorem outcome_matchPredicate (dialect : Dialect) (column : String) (negated : Bool)
    (kind : MatchKind) (value : String) (parameters : Parameters) :
    outcome (matchPredicate dialect column negated kind value) parameters =
      (.ok (dialect.like column negated kind (marker parameters.length)),
        parameters ++ [value]) :=
  outcome_map_of_ok (outcome_allocate value parameters) _

/-- Values that are allocated one after another take the markers from the first free index on. -/
theorem outcome_mapM_of_allocates {compile : String → Compile String} (layout : String → String)
    (hcompile : ∀ value parameters, outcome (compile value) parameters =
      (.ok (layout (marker parameters.length)), parameters ++ [value]))
    (values : List String) (parameters : Parameters) :
    outcome (values.mapM compile) parameters =
      (.ok ((markers parameters.length values.length).map layout), parameters ++ values) := by
  induction values generalizing parameters with
  | nil =>
    rw [List.mapM_nil, List.append_nil]
    exact outcome_pure [] parameters
  | cons value values ih =>
    -- the index of the first marker grows with the parameters, so they are generalized
    rw [List.mapM_cons, outcome_bind_of_ok (hcompile value parameters),
      outcome_bind_of_ok (ih (parameters ++ [value])), List.length_append, List.append_assoc]
    rfl

/-! ### Forms of predicates -/

/-- A sign of comparison. -/
inductive Sign where
  | less
  | atMost
  | greater
  | atLeast
  deriving DecidableEq, Repr

/-- A sign as it is written. -/
def Sign.text : Sign → String
  | less => "<"
  | atMost => "<="
  | greater => ">"
  | atLeast => ">="

/-- The form that an operator gives to its predicate. -/
inductive Form where
  /-- A comparison with one value or with a list of them. -/
  | equality (negated : Bool)
  /-- A match against a pattern for each value. -/
  | pattern (kind : MatchKind) (negated : Bool)
  /-- A comparison with one value. -/
  | comparison (sign : Sign)
  /-- A comparison with one timestamp. -/
  | dateComparison (sign : Sign)
  /-- A test whether the column has a value. -/
  | presence (present : Bool)
  /-- A comparison with two timestamps. -/
  | range (inside : Bool)
  deriving DecidableEq, Repr

namespace Form

/-- The form of the predicates of an operator. -/
def ofOperator : FilterOperator → Form
  | .equals | .isIn => equality false
  | .notEquals | .notIn => equality true
  | .contains => pattern .contains false
  | .notContains => pattern .contains true
  | .startsWith => pattern .startsWith false
  | .notStartsWith => pattern .startsWith true
  | .endsWith => pattern .endsWith false
  | .notEndsWith => pattern .endsWith true
  | .gt => comparison .greater
  | .gte => comparison .atLeast
  | .lt => comparison .less
  | .lte => comparison .atMost
  | .isSet => presence true
  | .notSet => presence false
  | .inDateRange | .onTheDate => range true
  | .notInDateRange => range false
  | .beforeDate => dateComparison .less
  | .beforeOrOnDate => dateComparison .atMost
  | .afterDate => dateComparison .greater
  | .afterOrOnDate => dateComparison .atLeast

/-- The predicate of a condition in a form. -/
def compile (dialect : Dialect) (condition : Condition) : Form → Compile String
  | equality negated => Sql.equality dialect condition negated
  | pattern kind negated => patterns dialect condition kind negated
  | comparison sign => Sql.comparison dialect condition sign.text
  | dateComparison sign => Sql.dateComparison dialect condition sign.text
  | presence present => pure (presenceText condition.column present)
  | range inside => rangePredicate dialect condition inside

/-- What is wrong with the number of values, if anything is. -/
def fault? (values : List String) : Form → Option ArityFault
  | equality _ | pattern _ _ => if values.isEmpty then some .noValue else none
  | comparison _ | dateComparison _ =>
    if values.length = 1 then none else some (.notOne values.length)
  | presence _ => none
  | range _ => if values.length = 2 then none else some (.notPair values.length)

/-- The values that become parameters: all of them, except where only the column is tested. -/
def taken (values : List String) : Form → List String
  | presence _ => []
  | _ => values

/-- The predicate with given texts for its parameters. A form that takes one or two of them is
never given fewer. -/
def text (dialect : Dialect) (column : String) (type : SemanticType) (parameters : List String) :
    Form → String
  | equality negated =>
    equalityText column negated (parameters.map (dialect.castParameter · (.ofType type)))
  | pattern kind negated =>
    patternsText column negated (parameters.map (dialect.like column negated kind))
  | comparison sign =>
    comparisonText column sign.text (dialect.castParameter (parameters.headD "") (.ofType type))
  | dateComparison sign =>
    comparisonText column sign.text (dialect.castTimestampLiteral (parameters.headD ""))
  | presence present => presenceText column present
  | range inside =>
    rangeText column inside (dialect.castTimestampLiteral (parameters.headD ""))
      (dialect.castTimestampLiteral (parameters.getD 1 ""))

/-- A form fails with its fault, and then nothing has been allocated. -/
theorem outcome_compile_of_fault {dialect : Dialect} {condition : Condition} {form : Form}
    {fault : ArityFault} (h : form.fault? condition.values = some fault)
    (parameters : Parameters) :
    outcome (form.compile dialect condition) parameters =
      (.error (.invalidFilter condition.operator fault), parameters) := by
  obtain ⟨column, type, operator, values⟩ := condition
  -- a form only tells apart how many values there are, up to one more than it takes
  cases form with
  | equality negated =>
    cases values with
    | nil => cases h; rfl
    | cons value values => cases h
  | pattern kind negated =>
    cases values with
    | nil => cases h; rfl
    | cons value values => cases h
  | comparison sign =>
    match values with
    | [] => cases h; rfl
    | [value] => cases h
    | first :: second :: values => cases h; rfl
  | dateComparison sign =>
    match values with
    | [] => cases h; rfl
    | [value] => cases h
    | first :: second :: values => cases h; rfl
  | presence present => cases h
  | range inside =>
    match values with
    | [] => cases h; rfl
    | [value] => cases h; rfl
    | [first, last] => cases h
    | first :: second :: third :: values => cases h; rfl

/-- A form without a fault takes its values and answers with its text on their markers. -/
theorem outcome_compile_of_fits {dialect : Dialect} {condition : Condition} {form : Form}
    (h : form.fault? condition.values = none) (parameters : Parameters) :
    outcome (form.compile dialect condition) parameters =
      (.ok (form.text dialect condition.column condition.type
        (markers parameters.length (form.taken condition.values).length)),
        parameters ++ form.taken condition.values) := by
  obtain ⟨column, type, operator, values⟩ := condition
  cases form with
  | equality negated =>
    cases values with
    | nil => cases h
    | cons value values =>
      rw [compile, Sql.equality]
      have hsome : outcome (someValues ⟨column, type, operator, value :: values⟩) parameters =
          (.ok (value :: values), parameters) := rfl
      have hmap := outcome_mapM_of_allocates (dialect.castParameter · (.ofType type))
        (outcome_castedParameter dialect type) (value :: values) parameters
      rw [outcome_bind_of_ok hsome, outcome_bind_of_ok hmap]
      rfl
  | pattern kind negated =>
    cases values with
    | nil => cases h
    | cons value values =>
      rw [compile, patterns]
      have hsome : outcome (someValues ⟨column, type, operator, value :: values⟩) parameters =
          (.ok (value :: values), parameters) := rfl
      have hmap := outcome_mapM_of_allocates (dialect.like column negated kind)
        (outcome_matchPredicate dialect column negated kind) (value :: values) parameters
      rw [outcome_bind_of_ok hsome, outcome_bind_of_ok hmap]
      rfl
  | comparison sign =>
    match values with
    | [] => cases h
    | [value] => exact outcome_map_of_ok (outcome_castedParameter dialect type value parameters) _
    | first :: second :: values => cases h
  | dateComparison sign =>
    match values with
    | [] => cases h
    | [value] => exact outcome_map_of_ok (outcome_timestampParameter dialect value parameters) _
    | first :: second :: values => cases h
  | presence present =>
    rw [compile, taken, List.append_nil]
    exact outcome_pure _ parameters
  | range inside =>
    match values with
    | [] => cases h
    | [value] => cases h
    | [first, last] =>
      rw [compile, rangePredicate]
      have hpair : outcome (valuePair ⟨column, type, operator, [first, last]⟩) parameters =
          (.ok (first, last), parameters) := rfl
      rw [outcome_bind_of_ok hpair,
        outcome_bind_of_ok (outcome_timestampParameter dialect first parameters),
        outcome_bind_of_ok (outcome_timestampParameter dialect last _), List.append_assoc,
        List.length_append]
      rfl
    | first :: second :: third :: values => cases h

end Form

/-! ### Conditions -/

namespace Condition

/-- The form of the predicate of a condition. -/
def form (condition : Condition) : Form :=
  .ofOperator condition.operator

/-- The error that a condition gives, if it gives one. -/
def fault? (condition : Condition) : Option SqlError :=
  (condition.form.fault? condition.values).map (.invalidFilter condition.operator)

/-- The values of a condition that become parameters: none where the column alone is tested. -/
def taken (condition : Condition) : List String :=
  match condition.operator with
  | .isSet | .notSet => []
  | _ => condition.values

/-- The predicate of a condition that finds `first` parameters already there. -/
def text (dialect : Dialect) (first : Nat) (condition : Condition) : String :=
  condition.form.text dialect condition.column condition.type
    (markers first condition.taken.length)

/-- The operator acts only through its form. -/
theorem compile_eq_form (dialect : Dialect) (condition : Condition) :
    condition.compile dialect = condition.form.compile dialect condition := by
  obtain ⟨column, type, operator, values⟩ := condition
  cases operator <;> rfl

theorem taken_eq_form (condition : Condition) :
    condition.taken = condition.form.taken condition.values := by
  obtain ⟨column, type, operator, values⟩ := condition
  cases operator <;> rfl

/-- **A condition with a fault** fails, and nothing has been allocated. -/
theorem outcome_compile_of_fault {condition : Condition} {error : SqlError}
    (h : condition.fault? = some error) (dialect : Dialect) (parameters : Parameters) :
    outcome (condition.compile dialect) parameters = (.error error, parameters) := by
  obtain ⟨fault, hfault, rfl⟩ := Option.map_eq_some_iff.1 h
  rw [compile_eq_form, Form.outcome_compile_of_fault hfault]

/-- **A condition without a fault** becomes its predicate, and its values are allocated. -/
theorem outcome_compile_of_fits {condition : Condition} (h : condition.fault? = none)
    (dialect : Dialect) (parameters : Parameters) :
    outcome (condition.compile dialect) parameters =
      (.ok (condition.text dialect parameters.length), parameters ++ condition.taken) := by
  rw [compile_eq_form, Form.outcome_compile_of_fits (Option.map_eq_none_iff.1 h), text,
    taken_eq_form]

/-! ### Several conditions -/

/-- The predicates of conditions of which the first finds `first` parameters already there. -/
def texts (dialect : Dialect) : Nat → List Condition → List String
  | _, [] => []
  | first, condition :: conditions =>
    condition.text dialect first :: texts dialect (first + condition.taken.length) conditions

/-- Conditions without faults become their predicates, in order. -/
theorem outcome_mapM_compile_of_fits (dialect : Dialect) {conditions : List Condition}
    (h : ∀ condition ∈ conditions, condition.fault? = none) (parameters : Parameters) :
    outcome (conditions.mapM (compile dialect)) parameters =
      (.ok (texts dialect parameters.length conditions),
        parameters ++ conditions.flatMap taken) := by
  induction conditions generalizing parameters with
  | nil =>
    rw [List.mapM_nil, List.flatMap_nil, List.append_nil]
    exact outcome_pure [] parameters
  | cons condition conditions ih =>
    have hhead := outcome_compile_of_fits (h condition List.mem_cons_self) dialect parameters
    have htail := ih (fun other hother ↦ h other (List.mem_cons_of_mem _ hother))
      (parameters ++ condition.taken)
    rw [List.mapM_cons, outcome_bind_of_ok hhead, outcome_bind_of_ok htail, List.length_append,
      List.append_assoc]
    rfl

/-- The first condition with a fault ends the compilation, after the values of those before it
have been allocated. -/
theorem outcome_mapM_compile_of_fault (dialect : Dialect) {before : List Condition}
    {condition : Condition} {error : SqlError} (h : ∀ other ∈ before, other.fault? = none)
    (hfault : condition.fault? = some error) (after : List Condition) (parameters : Parameters) :
    outcome ((before ++ condition :: after).mapM (compile dialect)) parameters =
      (.error error, parameters ++ before.flatMap taken) := by
  induction before generalizing parameters with
  | nil =>
    rw [List.nil_append, List.mapM_cons, List.flatMap_nil, List.append_nil]
    exact outcome_bind_of_error (outcome_compile_of_fault hfault dialect parameters) _
  | cons first before ih =>
    have hhead := outcome_compile_of_fits (h first List.mem_cons_self) dialect parameters
    have htail := ih (fun other hother ↦ h other (List.mem_cons_of_mem _ hother))
      (parameters ++ first.taken)
    rw [List.cons_append, List.mapM_cons, outcome_bind_of_ok hhead, outcome_bind_of_error htail,
      List.append_assoc]
    rfl

/-- Either no condition has a fault, or there is a first that has one. -/
theorem fits_or_first_fault (conditions : List Condition) :
    (∀ condition ∈ conditions, condition.fault? = none) ∨
      ∃ before condition after error, conditions = before ++ condition :: after ∧
        (∀ other ∈ before, other.fault? = none) ∧ condition.fault? = some error := by
  rcases forall_or_first (fun condition ↦ condition.fault? = none) conditions with
    hfits | ⟨before, condition, after, hsplit, hbefore, hfault⟩
  · exact .inl hfits
  · obtain ⟨error, herror⟩ := Option.ne_none_iff_exists'.1 hfault
    exact .inr ⟨before, condition, after, error, hsplit, hbefore, herror⟩

end Condition

/-- Predicates all of which must hold; none if there are none. -/
def conjunction (predicates : List String) : Option String :=
  if predicates.isEmpty then none else some (" AND ".intercalate predicates)

theorem intercalate_of_conjunction {predicates : List String} {text : String}
    (h : conjunction predicates = some text) : " AND ".intercalate predicates = text := by
  rw [conjunction] at h
  split at h
  · cases h
  · exact Option.some.inj h

theorem outcome_compileAll_of_fits (dialect : Dialect) {conditions : List Condition}
    (h : ∀ condition ∈ conditions, condition.fault? = none) (parameters : Parameters) :
    outcome (compileAll dialect conditions) parameters =
      (.ok (conjunction (Condition.texts dialect parameters.length conditions)),
        parameters ++ conditions.flatMap Condition.taken) := by
  rw [compileAll,
    outcome_bind_of_ok (Condition.outcome_mapM_compile_of_fits dialect h parameters)]
  rfl

theorem outcome_compileAll_of_fault (dialect : Dialect) {before : List Condition}
    {condition : Condition} {error : SqlError} (h : ∀ other ∈ before, other.fault? = none)
    (hfault : condition.fault? = some error) (after : List Condition) (parameters : Parameters) :
    outcome (compileAll dialect (before ++ condition :: after)) parameters =
      (.error error, parameters ++ before.flatMap Condition.taken) := by
  rw [compileAll]
  exact outcome_bind_of_error
    (Condition.outcome_mapM_compile_of_fault dialect h hfault after parameters) _

end SemanticLayer.Sql
