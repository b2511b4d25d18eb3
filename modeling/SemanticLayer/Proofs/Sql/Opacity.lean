import Mathlib.Data.List.Forall2
import SemanticLayer.Proofs.Sql.Session

/-!
# Values do not reach the text

Two sessions whose calls differ only in their values cannot be told apart by what they answer, nor
by the text of any statement that is put together from their fragments; only the values that go
along with the statement differ, and those are taken from the same positions. Nothing is asked of
the columns here: a dollar sign in a column may be taken for a marker, but then it is in both
sessions.

The two sessions are run side by side, with their parameters related item by item (`Call.Alike`,
for any relation of values). Related parameters are equally many, and that is all that a call looks
at (`Call.Alike.answersAlike`); a session keeps the relation (`session_alike`), and so does the
resolution of one text with the parameters of both (`resolve_related`). At the end the relation is
chosen: the values stand at one position of the values that the two sessions were given.
-/

namespace SemanticLayer.Sql

open Compile
open Query (MatchKind SemanticType)

variable {related weaker : String → String → Prop}

/-! ### Calls that differ in their values -/

/-- The two conditions differ at most in their values, of which there are equally many; the values
at each place are related. -/
structure Condition.Alike (related : String → String → Prop) (condition other : Condition) :
    Prop where
  column : condition.column = other.column
  type : condition.type = other.type
  operator : condition.operator = other.operator
  values : List.Forall₂ related condition.values other.values

/-- The two calls differ at most in their values, of which there are equally many; the values at
each place are related. -/
inductive Call.Alike (related : String → String → Prop) : Call → Call → Prop
  | parameter {value other : String} (h : related value other) :
      Alike related (.parameter value) (.parameter other)
  | casted {type : SemanticType} {value other : String} (h : related value other) :
      Alike related (.casted type value) (.casted type other)
  | timestamp {value other : String} (h : related value other) :
      Alike related (.timestamp value) (.timestamp other)
  | like {column : String} {negated : Bool} {kind : MatchKind} {value other : String}
      (h : related value other) :
      Alike related (.like column negated kind value) (.like column negated kind other)
  | filter {condition other : Condition} (h : condition.Alike related other) :
      Alike related (.filter condition) (.filter other)
  | filters {conditions others : List Condition}
      (h : List.Forall₂ (Condition.Alike related) conditions others) :
      Alike related (.filters conditions) (.filters others)

/-- The two calls differ at most in their values, of which there are equally many. -/
abbrev Call.SameShape : Call → Call → Prop :=
  Call.Alike fun _ _ ↦ True

/-- The values that a call is given, in order. -/
def Call.given : Call → List String
  | parameter value | casted _ value | timestamp value | like _ _ _ value => [value]
  | filter condition => condition.values
  | filters conditions => conditions.flatMap Condition.values

/-! ### Conditions side by side -/

namespace Condition.Alike

variable {condition other : Condition}

theorem mono (hle : ∀ value value', related value value' → weaker value value')
    (h : condition.Alike related other) : condition.Alike weaker other :=
  ⟨h.column, h.type, h.operator, h.values.imp hle⟩

/-- Whether the values fit is a matter of their number. -/
theorem fault?_eq (h : condition.Alike related other) : condition.fault? = other.fault? := by
  rw [Condition.fault?, Condition.fault?, Condition.form, Condition.form, h.operator,
    Form.fault?_eq_of_length_eq h.values.length_eq]

/-- Two conditions take their values, or neither does. -/
theorem taken (h : condition.Alike related other) :
    List.Forall₂ related condition.taken other.taken := by
  rw [Condition.taken, Condition.taken, h.operator]
  split
  · exact .nil
  · exact .nil
  · exact h.values

theorem text_eq (h : condition.Alike related other) (dialect : Dialect) (first : Nat) :
    condition.text dialect first = other.text dialect first := by
  rw [Condition.text, Condition.text, Condition.form, Condition.form, h.column, h.type, h.operator,
    h.taken.length_eq]

end Condition.Alike

namespace Condition

variable {conditions others : List Condition}

theorem flatMap_taken_related (h : List.Forall₂ (Condition.Alike related) conditions others) :
    List.Forall₂ related (conditions.flatMap taken) (others.flatMap taken) :=
  List.rel_flatMap h fun _ _ hcondition ↦ hcondition.taken

theorem texts_eq (h : List.Forall₂ (Condition.Alike related) conditions others)
    (dialect : Dialect) (first : Nat) :
    texts dialect first conditions = texts dialect first others := by
  induction h generalizing first with
  | nil => rfl
  | cons hcondition hrest ih =>
    rw [texts, texts, hcondition.text_eq, hcondition.taken.length_eq, ih]

/-- Conditions without faults stand next to conditions without faults. -/
theorem fits_of_alike (h : List.Forall₂ (Condition.Alike related) conditions others)
    (hfits : ∀ condition ∈ conditions, condition.fault? = none) :
    ∀ other ∈ others, other.fault? = none := by
  induction h with
  | nil => exact hfits
  | cons hcondition hrest ih =>
    obtain ⟨hhead, htail⟩ := List.forall_mem_cons.1 hfits
    exact List.forall_mem_cons.2 ⟨hcondition.fault?_eq ▸ hhead, ih htail⟩

end Condition

/-! ### Calls side by side -/

namespace Call

theorem Alike.mono (hle : ∀ value value', related value value' → weaker value value')
    {call other : Call} (h : call.Alike related other) : call.Alike weaker other := by
  cases h with
  | parameter h => exact .parameter (hle _ _ h)
  | casted h => exact .casted (hle _ _ h)
  | timestamp h => exact .timestamp (hle _ _ h)
  | like h => exact .like (hle _ _ h)
  | filter h => exact .filter (h.mono hle)
  | filters h => exact .filters (h.imp fun _ _ hcondition ↦ hcondition.mono hle)

theorem Alike.length_given_eq {call other : Call} (h : call.Alike related other) :
    call.given.length = other.given.length := by
  cases h with
  | parameter | casted | timestamp | like => rfl
  | filter h => exact h.values.length_eq
  | filters h =>
    exact (List.rel_flatMap h fun _ _ hcondition ↦ hcondition.values).length_eq

end Call

/-! ### Computations side by side -/

/-- From related parameters the two computations give the same answer, and they leave related
parameters behind. -/
def AnswersAlike {α : Type} (related : String → String → Prop) (computation other : Compile α) :
    Prop :=
  ∀ parameters parameters' : Parameters, List.Forall₂ related parameters parameters' →
    ∃ answer after after', outcome computation parameters = (answer, after) ∧
      outcome other parameters' = (answer, after') ∧ List.Forall₂ related after after'

theorem AnswersAlike.map {α β : Type} {computation other : Compile α}
    (h : AnswersAlike related computation other) (f : α → β) :
    AnswersAlike related (f <$> computation) (f <$> other) := by
  intro parameters parameters' hparameters
  obtain ⟨answer, after, after', houtcome, houtcome', hafter⟩ := h _ _ hparameters
  cases answer with
  | ok a => exact ⟨_, _, _, outcome_map_of_ok houtcome f, outcome_map_of_ok houtcome' f, hafter⟩
  | error error =>
    exact ⟨_, _, _, outcome_map_of_error houtcome f, outcome_map_of_error houtcome' f, hafter⟩

/-- What allocates one value lays out its marker, and does not look at the value. -/
theorem answersAlike_of_allocates {compile : String → Compile String} (layout : String → String)
    (hcompile : ∀ value parameters, outcome (compile value) parameters =
      (.ok (layout (marker parameters.length)), parameters ++ [value]))
    {value other : String} (h : related value other) :
    AnswersAlike related (compile value) (compile other) := by
  intro parameters parameters' hparameters
  have houtcome := hcompile other parameters'
  rw [← hparameters.length_eq] at houtcome
  exact ⟨_, _, _, hcompile value parameters, houtcome, List.rel_append hparameters (.cons h .nil)⟩

theorem Condition.Alike.answersAlike {condition other : Condition}
    (h : condition.Alike related other) (dialect : Dialect) :
    AnswersAlike related (condition.compile dialect) (other.compile dialect) := by
  intro parameters parameters' hparameters
  rcases hfault : condition.fault? with - | error
  · have houtcome := outcome_compile_of_fits (h.fault?_eq ▸ hfault) dialect parameters'
    rw [← hparameters.length_eq, ← h.text_eq] at houtcome
    exact ⟨_, _, _, outcome_compile_of_fits hfault dialect parameters, houtcome,
      List.rel_append hparameters h.taken⟩
  · exact ⟨_, _, _, outcome_compile_of_fault hfault dialect parameters,
      outcome_compile_of_fault (h.fault?_eq ▸ hfault) dialect parameters', hparameters⟩

theorem answersAlike_compileAll {conditions others : List Condition}
    (h : List.Forall₂ (Condition.Alike related) conditions others) (dialect : Dialect) :
    AnswersAlike related (compileAll dialect conditions) (compileAll dialect others) := by
  intro parameters parameters' hparameters
  rcases Condition.fits_or_first_fault conditions with
    hfits | ⟨before, condition, rest, error, rfl, hbefore, herror⟩
  · have houtcome := outcome_compileAll_of_fits dialect (Condition.fits_of_alike h hfits)
      parameters'
    rw [← hparameters.length_eq, ← Condition.texts_eq h] at houtcome
    exact ⟨_, _, _, outcome_compileAll_of_fits dialect hfits parameters, houtcome,
      List.rel_append hparameters (Condition.flatMap_taken_related h)⟩
  · -- the other conditions have their first fault at the same place
    obtain ⟨before', tail, hbefore', htail, rfl⟩ := exists_append_of_forall₂ h
    obtain ⟨condition', rest', hcondition, -, rfl⟩ := List.forall₂_cons_left_iff.1 htail
    exact ⟨_, _, _, outcome_compileAll_of_fault dialect hbefore herror rest parameters,
      outcome_compileAll_of_fault dialect (Condition.fits_of_alike hbefore' hbefore)
        (hcondition.fault?_eq ▸ herror) rest' parameters',
      List.rel_append hparameters (Condition.flatMap_taken_related hbefore')⟩

/-- **Calls that differ in their values** answer alike, and add related values. -/
theorem Call.Alike.answersAlike {call other : Call} (h : call.Alike related other)
    (dialect : Dialect) : AnswersAlike related (call.compile dialect) (other.compile dialect) := by
  cases h with
  | parameter h => exact (answersAlike_of_allocates id outcome_allocate h).map some
  | @casted type value other h =>
    exact (answersAlike_of_allocates (dialect.castParameter · (.ofType type))
      (outcome_castedParameter dialect type) h).map some
  | timestamp h =>
    exact (answersAlike_of_allocates dialect.castTimestampLiteral
      (outcome_timestampParameter dialect) h).map some
  | @like column negated kind value other h =>
    exact (answersAlike_of_allocates (dialect.like column negated kind)
      (outcome_matchPredicate dialect column negated kind) h).map some
  | filter h => exact (h.answersAlike dialect).map some
  | filters h => exact answersAlike_compileAll h dialect

/-! ### Sessions side by side -/

/-- The answers to the calls of a session. -/
def answers (dialect : Dialect) (calls : List Call) (parameters : Parameters) : List Answer :=
  (session dialect calls parameters).1.map Prod.snd

/-- Sessions that differ in their values answer alike, and end with related parameters. -/
theorem session_alike {calls others : List Call}
    (h : List.Forall₂ (Call.Alike related) calls others) (dialect : Dialect)
    {parameters parameters' : Parameters}
    (hparameters : List.Forall₂ related parameters parameters') :
    answers dialect calls parameters = answers dialect others parameters' ∧
      List.Forall₂ related (session dialect calls parameters).2
        (session dialect others parameters').2 := by
  induction h generalizing parameters parameters' with
  | nil => exact ⟨rfl, hparameters⟩
  | @cons call other calls others hcall hrest ih =>
    obtain ⟨answer, after, after', houtcome, houtcome', hafter⟩ :=
      hcall.answersAlike dialect _ _ hparameters
    obtain ⟨hanswers, hlast⟩ := ih hafter
    rw [answers, answers] at hanswers ⊢
    simp only [session, houtcome, houtcome', List.map_cons, hanswers, true_and]
    exact hlast

/-! ### Resolution side by side -/

/-- The digits of a marker stand for related values, or for none on both sides. -/
theorem value?_related {parameters parameters' : Parameters}
    (h : List.Forall₂ related parameters parameters') (digits : List Char) :
    (parameters.value? digits = none ∧ parameters'.value? digits = none) ∨
      ∃ value value', parameters.value? digits = some value ∧
        parameters'.value? digits = some value' ∧ related value value' := by
  rw [Parameters.value?, Parameters.value?]
  rcases markerIndex? digits with - | index
  · exact .inl ⟨rfl, rfl⟩
  · simp only [Option.bind_some]
    by_cases hindex : index < parameters.length
    · have hindex' : index < parameters'.length := h.length_eq ▸ hindex
      exact .inr ⟨_, _, List.getElem?_eq_getElem hindex, List.getElem?_eq_getElem hindex',
        h.get hindex hindex'⟩
    · have hindex' : ¬index < parameters'.length := h.length_eq ▸ hindex
      exact .inl ⟨List.getElem?_eq_none (Nat.le_of_not_lt hindex),
        List.getElem?_eq_none (Nat.le_of_not_lt hindex')⟩

/-- Pieces resolve to the same error, or to the same text and related values. -/
theorem resolvePieces_related {parameters parameters' : Parameters}
    (h : List.Forall₂ related parameters parameters') (dialect : Dialect) (position : Nat)
    (statement : List Piece) :
    (∃ error, resolvePieces dialect parameters position statement = .error error ∧
      resolvePieces dialect parameters' position statement = .error error) ∨
    ∃ sql values values',
      resolvePieces dialect parameters position statement = .ok (sql, values) ∧
      resolvePieces dialect parameters' position statement = .ok (sql, values') ∧
      List.Forall₂ related values values' := by
  induction statement generalizing position with
  | nil => exact .inr ⟨[], [], [], rfl, rfl, .nil⟩
  | cons piece rest ih =>
    cases piece with
    | char c =>
      rcases ih position with ⟨error, herror, herror'⟩ | ⟨sql, values, values', hok, hok', hvalues⟩
      · refine .inl ⟨error, ?_, ?_⟩
        · rw [resolvePieces, herror]; rfl
        · rw [resolvePieces, herror']; rfl
      · refine .inr ⟨c :: sql, values, values', ?_, ?_, hvalues⟩
        · rw [resolvePieces, hok]; rfl
        · rw [resolvePieces, hok']; rfl
    | marker digits =>
      rcases value?_related h digits with
        ⟨hnone, hnone'⟩ | ⟨value, value', hvalue, hvalue', hrelated⟩
      · refine .inl ⟨.unknownParameter (shownIndex digits), ?_, ?_⟩
        · rw [resolvePieces, hnone]
        · rw [resolvePieces, hnone']
      · simp only [resolvePieces, hvalue, hvalue']
        rcases ih (position + 1) with
          ⟨error, herror, herror'⟩ | ⟨sql, values, values', hok, hok', hvalues⟩
        · rw [herror, herror']
          exact .inl ⟨error, rfl, rfl⟩
        · rw [hok, hok']
          exact .inr ⟨_, _, _, rfl, rfl, .cons hrelated hvalues⟩

/-- One text resolves with related parameters to the same error, or to the same text and related
values. -/
theorem resolve_related {parameters parameters' : Parameters}
    (h : List.Forall₂ related parameters parameters') (dialect : Dialect) (text : String) :
    (∃ error, parameters.resolve dialect text = .error error ∧
      parameters'.resolve dialect text = .error error) ∨
    ∃ sql values values', parameters.resolve dialect text = .ok ⟨sql, values⟩ ∧
      parameters'.resolve dialect text = .ok ⟨sql, values'⟩ ∧
      List.Forall₂ related values values' := by
  rw [Parameters.resolve, Parameters.resolve]
  rcases resolvePieces_related h dialect 1 (pieces text.toList) with
    ⟨error, herror, herror'⟩ | ⟨sql, values, values', hok, hok', hvalues⟩
  · rw [herror, herror']
    exact .inl ⟨error, rfl, rfl⟩
  · rw [hok, hok']
    exact .inr ⟨String.ofList sql, values, values', rfl, rfl, hvalues⟩

/-! ### Positions -/

/-- What is related at each place of parts is related at each place of the whole. -/
theorem forall₂_mem_zip_flatMap {α : Type} {alike : (String → String → Prop) → α → α → Prop}
    (mono : ∀ {related weaker : String → String → Prop} {item other : α},
      (∀ value value', related value value' → weaker value value') →
        alike related item other → alike weaker item other)
    {given : α → List String} {items others : List α}
    (h : List.Forall₂ (fun item other ↦ (given item).length = (given other).length ∧
      alike (fun value value' ↦ (value, value') ∈ (given item).zip (given other)) item other)
      items others) :
    List.Forall₂ (alike fun value value' ↦
      (value, value') ∈ (items.flatMap given).zip (others.flatMap given)) items others := by
  induction h with
  | nil => exact .nil
  | cons hitem hrest ih =>
    simp only [List.flatMap_cons, List.zip_append hitem.1]
    exact .cons (mono (fun _ _ hmem ↦ List.mem_append_left _ hmem) hitem.2)
      (ih.imp fun _ _ hother ↦ mono (fun _ _ hmem ↦ List.mem_append_right _ hmem) hother)

/-- The values of two conditions are related by their places. -/
theorem Condition.Alike.places {condition other : Condition} (h : condition.Alike related other) :
    condition.Alike (fun value value' ↦ (value, value') ∈ condition.values.zip other.values)
      other :=
  ⟨h.column, h.type, h.operator, List.forall₂_iff_zip.2 ⟨h.values.length_eq, id⟩⟩

/-- The values of two calls are related by their places. -/
theorem Call.Alike.places {call other : Call} (h : call.Alike related other) :
    call.Alike (fun value value' ↦ (value, value') ∈ call.given.zip other.given) other := by
  cases h with
  | parameter => exact .parameter List.mem_cons_self
  | casted => exact .casted List.mem_cons_self
  | timestamp => exact .timestamp List.mem_cons_self
  | like => exact .like List.mem_cons_self
  | filter h => exact .filter h.places
  | filters h =>
    exact .filters (forall₂_mem_zip_flatMap (fun hle hcondition ↦ hcondition.mono hle)
      (h.imp fun _ _ hcondition ↦ ⟨hcondition.values.length_eq, hcondition.places⟩))

/-- The values of two sessions are related by their places. -/
theorem Call.places_of_forall₂ {calls others : List Call}
    (h : List.Forall₂ (Call.Alike related) calls others) :
    List.Forall₂ (Call.Alike fun value value' ↦
      (value, value') ∈ (calls.flatMap Call.given).zip (others.flatMap Call.given)) calls others :=
  forall₂_mem_zip_flatMap (fun hle hcall ↦ hcall.mono hle)
    (h.imp fun _ _ hcall ↦ ⟨hcall.length_given_eq, hcall.places⟩)

/-- Pairs that stand at common places of two lists are found there by one list of positions. -/
theorem exists_positions {given given' values values' : List String}
    (h : List.Forall₂ (fun value value' ↦ (value, value') ∈ given.zip given') values values') :
    ∃ positions : List Nat, positions.map (given[·]?) = values.map some ∧
      positions.map (given'[·]?) = values'.map some := by
  induction h with
  | nil => exact ⟨[], rfl, rfl⟩
  | cons hmem hrest ih =>
    obtain ⟨position, hposition⟩ := List.mem_iff_getElem?.1 hmem
    obtain ⟨hvalue, hvalue'⟩ := List.getElem?_zip_eq_some.1 hposition
    obtain ⟨positions, hpositions, hpositions'⟩ := ih
    refine ⟨position :: positions, ?_, ?_⟩
    · rw [List.map_cons, List.map_cons, hvalue, hpositions]
    · rw [List.map_cons, List.map_cons, hvalue', hpositions']

/-! ### Statements of two sessions -/

/-- A part of a statement, the fragments by their place among the answers. -/
inductive Slice where
  /-- Any text. -/
  | glue (text : String)
  /-- The text that answered the call at an index. -/
  | fragment (index : Nat)

/-- The text of a part; none if the call has no text for an answer. -/
def Slice.text? (answers : List Answer) : Slice → Option String
  | glue text => some text
  | fragment index =>
    match answers[index]? with
    | some (.ok text?) => text?
    | _ => none

/-- The statement that the parts make up, if each of them has a text. -/
def assemble? (answers : List Answer) (slices : List Slice) : Option String :=
  (slices.mapM (Slice.text? answers)).map String.join

/-- The same error; or the same text, with values from the same positions of what was given. -/
inductive Corresponds (given given' : List String) :
    Except SqlError Statement → Except SqlError Statement → Prop
  | error (error : SqlError) : Corresponds given given' (.error error) (.error error)
  | ok (sql : String) {values values' : List String} (positions : List Nat)
      (h : positions.map (given[·]?) = values.map some)
      (h' : positions.map (given'[·]?) = values'.map some) :
      Corresponds given given' (.ok ⟨sql, values⟩) (.ok ⟨sql, values'⟩)

/-- **Values do not reach the text.** Two sessions of the same calls with other values give the same
answers, errors included. A statement that is put together from the fragments of one of them, with
any text in between, is also what the fragments of the other make up; it resolves to the same error
or to the same text in both, with equally many values that come from the same positions of the
values that the sessions were given. -/
theorem answers_and_statements_of_sameShape (dialect : Dialect) {calls others : List Call}
    (h : List.Forall₂ Call.SameShape calls others) :
    answers dialect calls [] = answers dialect others [] ∧
    ∀ slices statement, assemble? (answers dialect calls []) slices = some statement →
      assemble? (answers dialect others []) slices = some statement ∧
      Corresponds (calls.flatMap Call.given) (others.flatMap Call.given)
        ((session dialect calls []).2.resolve dialect statement)
        ((session dialect others []).2.resolve dialect statement) := by
  obtain ⟨hanswers, hparameters⟩ :=
    session_alike (Call.places_of_forall₂ h) dialect .nil
  refine ⟨hanswers, fun slices statement hstatement ↦ ⟨hanswers ▸ hstatement, ?_⟩⟩
  rcases resolve_related hparameters dialect statement with
    ⟨error, herror, herror'⟩ | ⟨sql, values, values', hok, hok', hvalues⟩
  · rw [herror, herror']
    exact .error error
  · obtain ⟨positions, hpositions, hpositions'⟩ := exists_positions hvalues
    rw [hok, hok']
    exact .ok sql positions hpositions hpositions'

/-- Calls with values that look like markers, quotes and SQL, of which the second fails after it has
left a value behind; a column has the marker of a value. -/
def injectedCalls : List Call :=
  [.filter ⟨"a$1$b", .string, .isIn, ["$0$", "' OR 1=1 --"]⟩,
    .filters [⟨"n", .number, .gt, ["1); DROP TABLE t"]⟩, ⟨"m", .number, .gt, []⟩],
    .filter ⟨"flag", .boolean, .notEquals, ["?"]⟩]

/-- The same calls with plain values. -/
def harmlessCalls : List Call :=
  [.filter ⟨"a$1$b", .string, .isIn, ["x", "y"]⟩,
    .filters [⟨"n", .number, .gt, ["1"]⟩, ⟨"m", .number, .gt, []⟩],
    .filter ⟨"flag", .boolean, .notEquals, ["true"]⟩]

/-- The statement of both has the same text. -/
theorem statements_of_injectedCalls :
    List.Forall₂ Call.SameShape injectedCalls harmlessCalls ∧
    ∃ statement, assemble? (answers .vertica injectedCalls [])
        [.fragment 2, .glue " AND ", .fragment 0] = some statement ∧
      Corresponds ["$0$", "' OR 1=1 --", "1); DROP TABLE t", "?"] ["x", "y", "1", "true"]
        ((session .vertica injectedCalls []).2.resolve .vertica statement)
        ((session .vertica harmlessCalls []).2.resolve .vertica statement) := by
  have hshape : List.Forall₂ Call.SameShape injectedCalls harmlessCalls := by
    refine .cons (.filter ⟨rfl, rfl, rfl, ?_⟩) (.cons (.filters ?_)
      (.cons (.filter ⟨rfl, rfl, rfl, ?_⟩) .nil))
    · exact .cons trivial (.cons trivial .nil)
    · exact .cons ⟨rfl, rfl, rfl, .cons trivial .nil⟩ (.cons ⟨rfl, rfl, rfl, .nil⟩ .nil)
    · exact .cons trivial .nil
  have hstatement : assemble? (answers .vertica injectedCalls [])
      [.fragment 2, .glue " AND ", .fragment 0] =
        some "(flag <> CAST($3$ AS BOOLEAN) OR flag IS NULL) AND a$1$b IN ($0$, $1$)" := by
    decide +kernel
  exact ⟨hshape, _, hstatement,
    ((answers_and_statements_of_sameShape .vertica hshape).2 _ _ hstatement).2⟩

end SemanticLayer.Sql
