import SemanticLayer.Proofs.Sql.Marked

/-!
# Sessions of the compiler

One compiler serves one query: its calls share a list of parameters, each call adds to it, and a
call that fails may leave values behind. A **session** is any sequence of calls, one after
another, with the answer to each (`session`).

What a call answers refers to parameters by their markers, so it has to keep its meaning while
later calls add more. What one call does is `Call.outcome_compile`: it only ever appends, and where
it answers with a text, what it appended are its values, and the text is marked with them. The
invariant of a session is that parameters are only appended (`prefix_session`). Together they give
what holds of every fragment of a session, whatever was called in between: its markers are those
of the values that its own call was given, in their order (`bound_of_mem_session`).
-/

namespace SemanticLayer.Sql

open Compile
open Query (MatchKind SemanticType)

/-! ### Calls -/

/-- A call of the compiler. -/
inductive Call where
  /-- A parameter as it is. -/
  | parameter (value : String)
  /-- A parameter cast to the type of a member. -/
  | casted (type : SemanticType) (value : String)
  /-- A parameter that is a timestamp. -/
  | timestamp (value : String)
  /-- A match against a pattern. -/
  | like (column : String) (negated : Bool) (kind : MatchKind) (value : String)
  /-- The predicate of a condition. -/
  | filter (condition : Condition)
  /-- The predicates of conditions, all of which must hold. -/
  | filters (conditions : List Condition)
  deriving DecidableEq, Repr

/-- The answer to a call: a text, or none if there are no conditions. -/
abbrev Answer := Except SqlError (Option String)

namespace Call

/-- What a call computes. -/
def compile (dialect : Dialect) : Call → Compile (Option String)
  | parameter value => some <$> allocate value
  | casted type value => some <$> castedParameter dialect type value
  | timestamp value => some <$> timestampParameter dialect value
  | like column negated kind value => some <$> matchPredicate dialect column negated kind value
  | filter condition => some <$> condition.compile dialect
  | filters conditions => compileAll dialect conditions

/-- The expressions of columns that a call is given. -/
def columns : Call → List String
  | like column _ _ _ => [column]
  | filter condition => [condition.column]
  | filters conditions => conditions.map Condition.column
  | _ => []

/-- The values that a call takes as parameters. A condition that only tests its column takes
none. -/
def taken : Call → List String
  | parameter value | casted _ value | timestamp value | like _ _ _ value => [value]
  | filter condition => condition.taken
  | filters conditions => conditions.flatMap Condition.taken

/-- No column of a call has a dollar sign. -/
def Plain (call : Call) : Prop :=
  ∀ column ∈ call.columns, '$' ∉ column.toList

instance (call : Call) : Decidable call.Plain :=
  inferInstanceAs (Decidable (∀ column ∈ call.columns, '$' ∉ column.toList))

/-- What holds of an answer in view of the values that were appended for it: a text is marked with
them, and they are the values of its call. -/
def Answers (call : Call) (first : Nat) (values : List String) (answer : Answer) : Prop :=
  ∀ text, answer = .ok (some text) →
    values = call.taken ∧ (call.Plain → Marked text (List.range' first values.length))

theorem answers_of_text {call : Call} {first : Nat} {text : String}
    (h : call.Plain → Marked text (List.range' first call.taken.length)) :
    call.Answers first call.taken (.ok (some text)) := by
  intro other hother
  cases hother
  exact ⟨rfl, h⟩

/-- **What a call does.** It appends to the parameters, and where it answers with a text, it has
appended its values, and the text is marked with them. -/
theorem outcome_compile (call : Call) (dialect : Dialect) (parameters : Parameters) :
    ∃ values answer, outcome (call.compile dialect) parameters = (answer, parameters ++ values) ∧
      call.Answers parameters.length values answer := by
  cases call with
  | parameter value =>
    exact ⟨[value], _, outcome_map_of_ok (outcome_allocate value parameters) some,
      answers_of_text fun _ ↦ Marked.marker _⟩
  | casted type value =>
    exact ⟨[value], _, outcome_map_of_ok (outcome_castedParameter dialect type value parameters)
      some, answers_of_text fun _ ↦
        Marked.compositional.castParameter (Marked.marker _) dialect _⟩
  | timestamp value =>
    exact ⟨[value], _, outcome_map_of_ok (outcome_timestampParameter dialect value parameters)
      some, answers_of_text fun _ ↦
        Marked.compositional.castTimestampLiteral (Marked.marker _) dialect⟩
  | like column negated kind value =>
    exact ⟨[value], _, outcome_map_of_ok
      (outcome_matchPredicate dialect column negated kind value parameters) some,
      answers_of_text fun hplain ↦ Marked.compositional.like
        (Marked.column (hplain column List.mem_cons_self)) (Marked.marker _) dialect negated kind⟩
  | filter condition =>
    rcases hfault : condition.fault? with - | error
    · exact ⟨condition.taken, _, outcome_map_of_ok
        (Condition.outcome_compile_of_fits hfault dialect parameters) some,
        answers_of_text fun hplain ↦ Condition.marked_text hfault
          (hplain condition.column List.mem_cons_self) dialect parameters.length⟩
    · refine ⟨[], .error error, ?_, fun text h ↦ by cases h⟩
      rw [List.append_nil]
      exact outcome_map_of_error
        (Condition.outcome_compile_of_fault hfault dialect parameters) some
  | filters conditions =>
    rcases Condition.fits_or_first_fault conditions with
      hfits | ⟨before, condition, after, error, rfl, hbefore, herror⟩
    · refine ⟨conditions.flatMap Condition.taken, _,
        outcome_compileAll_of_fits dialect hfits parameters,
        fun text htext ↦ ⟨rfl, fun hplain ↦ ?_⟩⟩
      have hcolumns : ∀ condition ∈ conditions, '$' ∉ condition.column.toList :=
        fun condition h ↦ hplain condition.column (List.mem_map_of_mem h)
      obtain ⟨slots, htexts, hslots⟩ :=
        Condition.marked_texts hfits hcolumns dialect parameters.length
      rw [← intercalate_of_conjunction (Except.ok.inj htext), ← hslots]
      exact Marked.compositional.intercalate _ (by decide) htexts
    · exact ⟨before.flatMap Condition.taken, .error error,
        outcome_compileAll_of_fault dialect hbefore herror after parameters,
        fun text h ↦ by cases h⟩

end Call

/-! ### Sessions -/

/-- The calls of a session with their answers, and the parameters after them. -/
def session (dialect : Dialect) : List Call → Parameters → List (Call × Answer) × Parameters
  | [], parameters => ([], parameters)
  | call :: calls, parameters =>
    let (answer, after) := outcome (call.compile dialect) parameters
    let (answers, last) := session dialect calls after
    ((call, answer) :: answers, last)

/-- Only the calls of a session are answered. -/
theorem mem_of_mem_session {dialect : Dialect} {calls : List Call} {parameters : Parameters}
    {call : Call} {answer : Answer} (h : (call, answer) ∈ (session dialect calls parameters).1) :
    call ∈ calls := by
  induction calls generalizing parameters with
  | nil => cases h
  | cons first calls ih =>
    rcases List.mem_cons.1 h with heq | hmem
    · exact List.mem_cons.2 (.inl (Prod.mk.inj heq).1)
    · exact List.mem_cons_of_mem _ (ih hmem)

/-- A session only appends parameters. -/
theorem prefix_session (dialect : Dialect) (calls : List Call) (parameters : Parameters) :
    parameters <+: (session dialect calls parameters).2 := by
  induction calls generalizing parameters with
  | nil => exact List.prefix_refl _
  | cons call calls ih =>
    obtain ⟨values, answer, houtcome, -⟩ := call.outcome_compile dialect parameters
    rw [session, houtcome]
    exact (List.prefix_append _ _).trans (ih (parameters ++ values))

/-- A text is marked with parameters that have these values, in this order. -/
def Bound (parameters : Parameters) (text : String) (values : List String) : Prop :=
  ∃ slots, Marked text slots ∧ slots.map (parameters[·]?) = values.map some

/-- More parameters change nothing for a text that is bound. -/
theorem Bound.mono {parameters more : Parameters} {text : String} {values : List String}
    (h : Bound parameters text values) (hle : parameters <+: more) :
    Bound more text values := by
  obtain ⟨slots, htext, hvalues⟩ := h
  refine ⟨slots, htext, hvalues ▸ List.map_congr_left fun index hindex ↦ ?_⟩
  obtain ⟨rest, rfl⟩ := hle
  -- an index that has a value lies among the parameters that were there before
  have hmem : parameters[index]? ∈ values.map some := hvalues ▸ List.mem_map_of_mem hindex
  obtain ⟨value, -, hvalue⟩ := List.mem_map.1 hmem
  obtain ⟨hlt, -⟩ := List.getElem?_eq_some_iff.1 hvalue.symm
  exact List.getElem?_append_left hlt

/-- Values that have just been appended stand at the indices from the first free one on. -/
theorem map_getElem?_append (parameters values : List String) :
    (List.range' parameters.length values.length).map ((parameters ++ values)[·]?) =
      values.map some := by
  induction values generalizing parameters with
  | nil => rfl
  | cons value values ih =>
    have htail := ih (parameters ++ [value])
    rw [List.length_append, List.append_assoc] at htail
    rw [List.length_cons, List.range'_succ, List.map_cons, List.map_cons]
    exact congrArg₂ List.cons (by simp) htail

/-- **Fragments stay bound.** A fragment that a session returned is bound to the values of its own
call, at the end of the session. -/
theorem bound_of_mem_session {dialect : Dialect} {calls : List Call} {parameters : Parameters}
    {call : Call} {text : String} (hcall : call.Plain)
    (h : (call, .ok (some text)) ∈ (session dialect calls parameters).1) :
    Bound (session dialect calls parameters).2 text call.taken := by
  induction calls generalizing parameters with
  | nil => cases h
  | cons first calls ih =>
    obtain ⟨values, answer, houtcome, hanswer⟩ := first.outcome_compile dialect parameters
    rw [session, houtcome] at h ⊢
    rcases List.mem_cons.1 h with heq | hmem
    · -- the fragment is bound when it is returned, and the calls after it only append
      obtain ⟨rfl, rfl⟩ := Prod.mk.inj heq
      obtain ⟨rfl, hmarked⟩ := hanswer text rfl
      have hbound : Bound (parameters ++ call.taken) text call.taken :=
        ⟨_, hmarked hcall, map_getElem?_append parameters call.taken⟩
      exact hbound.mono (prefix_session dialect calls _)
    · exact ih hmem

end SemanticLayer.Sql
