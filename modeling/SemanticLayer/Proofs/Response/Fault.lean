import SemanticLayer.Proofs.Response.Shaping
import SemanticLayer.Proofs.Sequence

/-!
# Faults of a result

What can be wrong with a result, said without the checks that find it. A query may not be configured
for its mode (`Context.ModeFault`), a column of the first row may not be visible, the member to
blend by may not be given, and a row may have other columns than the first (`Context.RowFault`).
`Context.FirstFault` puts these in order: each kind asks that nothing of an earlier kind is wrong,
and within a kind the first one counts. The shape of the response does not occur in it.

Every result is either without faults (`Context.Configured`, `Context.Consistent`) or has a first
fault (`Context.consistent_or_firstFault`). That each check finds exactly its faults is said here
too; that a response runs the checks in this order is said in the next module.
-/

namespace SemanticLayer.Response

open Query

/-- The mode that adds a derived member. -/
def DerivedMode.mode : DerivedMode → Mode
  | compareDateRange => .compareDateRange
  | blending => .blending

namespace Context

variable {context : Context}

/-! ### Faults of a configuration -/

/-- A query is not configured for its mode. -/
inductive ModeFault (context : Context) : ResponseError → Prop where
  | noTimeDimension {mode : DerivedMode} (hmode : context.mode = mode.mode)
      (htds : context.query.timeDimensions = []) :
      ModeFault context (.noTimeDimension mode)
  | manyTimeDimensions {mode : DerivedMode} (hmode : context.mode = mode.mode)
      (htds : 1 < context.query.timeDimensions.length) :
      ModeFault context (.manyTimeDimensions mode context.query.timeDimensions.length)
  | noDateRange {td : TimeDimension} (hmode : context.mode = .compareDateRange)
      (htds : context.query.timeDimensions = [td]) (hrange : td.dateRange = none) :
      ModeFault context (.noDateRange td)
  | relativeDateRange {td : TimeDimension} {words : String}
      (hmode : context.mode = .compareDateRange) (htds : context.query.timeDimensions = [td])
      (hrange : td.dateRange = some (.relative words)) :
      ModeFault context (.relativeDateRange words)
  | noGranularity {td : TimeDimension} (hmode : context.mode = .blending)
      (htds : context.query.timeDimensions = [td]) (hgranularity : td.granularity = none) :
      ModeFault context (.noGranularity td)
  | noDimension {td : TimeDimension} {granularity : String} (hmode : context.mode = .blending)
      (htds : context.query.timeDimensions = [td])
      (hgranularity : td.granularity = some granularity) (hdimension : td.dimension = none) :
      ModeFault context (.noDimension td)

theorem soleTimeDimension_of_length {tds : List TimeDimension} (h : 1 < tds.length)
    (mode : DerivedMode) :
    soleTimeDimension mode tds = .error (.manyTimeDimensions mode tds.length) := by
  match tds, h with
  | _ :: _ :: _, _ => rfl

theorem checkMode_of_configured (h : context.Configured) :
    checkMode context.mode context.query = .ok () := by
  cases h with
  | regular hmode => rw [hmode]; rfl
  | compareDateRange hmode htds => rw [hmode, checkMode, htds]; rfl
  | blending hmode htds => rw [hmode, checkMode, htds]; rfl

theorem checkMode_of_modeFault {error : ResponseError} (h : context.ModeFault error) :
    checkMode context.mode context.query = .error error := by
  cases h with
  | @noTimeDimension mode hmode htds =>
    cases mode with
    | compareDateRange => rw [hmode, DerivedMode.mode, checkMode, htds]; rfl
    | blending => rw [hmode, DerivedMode.mode, checkMode, htds]; rfl
  | @manyTimeDimensions mode hmode htds =>
    cases mode with
    | compareDateRange =>
      rw [hmode, DerivedMode.mode, checkMode, rangeLabel, soleTimeDimension_of_length htds]; rfl
    | blending =>
      rw [hmode, DerivedMode.mode, checkMode, blendingKey, soleTimeDimension_of_length htds]; rfl
  | @noDateRange td hmode htds hrange =>
    obtain ⟨dimension, granularity, range⟩ := td
    obtain rfl : range = none := hrange
    rw [hmode, checkMode, htds]; rfl
  | @relativeDateRange td words hmode htds hrange =>
    obtain ⟨dimension, granularity, range⟩ := td
    obtain rfl : range = some (.relative words) := hrange
    rw [hmode, checkMode, htds]; rfl
  | @noGranularity td hmode htds hgranularity =>
    obtain ⟨dimension, granularity, range⟩ := td
    obtain rfl : granularity = none := hgranularity
    rw [hmode, checkMode, htds]; rfl
  | @noDimension td name hmode htds hgranularity hdimension =>
    obtain ⟨dimension, granularity, range⟩ := td
    obtain rfl : granularity = some name := hgranularity
    obtain rfl : dimension = none := hdimension
    rw [hmode, checkMode, htds]; rfl

/-- A derived mode has one time dimension, or it is a fault that it has not. -/
theorem sole_or_modeFault (mode : DerivedMode) (hmode : context.mode = mode.mode) :
    (∃ td, context.query.timeDimensions = [td]) ∨ ∃ error, context.ModeFault error := by
  rcases htds : context.query.timeDimensions with - | ⟨td, - | ⟨other, tds⟩⟩
  · exact .inr ⟨_, .noTimeDimension hmode htds⟩
  · exact .inl ⟨td, rfl⟩
  · have hlength : 1 < context.query.timeDimensions.length := by
      rw [htds, List.length_cons, List.length_cons]
      omega
    exact .inr ⟨_, .manyTimeDimensions hmode hlength⟩

theorem configured_or_modeFault (context : Context) :
    context.Configured ∨ ∃ error, context.ModeFault error := by
  cases hmode : context.mode with
  | regular => exact .inl (.regular hmode)
  | compareDateRange =>
    rcases sole_or_modeFault .compareDateRange hmode with ⟨td, htds⟩ | hfault
    · obtain ⟨dimension, granularity, - | words | ⟨earliest, latest⟩⟩ := td
      · exact .inr ⟨_, .noDateRange hmode htds rfl⟩
      · exact .inr ⟨_, .relativeDateRange hmode htds rfl⟩
      · exact .inl (.compareDateRange hmode htds)
    · exact .inr hfault
  | blending =>
    rcases sole_or_modeFault .blending hmode with ⟨td, htds⟩ | hfault
    · obtain ⟨- | dimension, - | granularity, range⟩ := td
      · exact .inr ⟨_, .noGranularity hmode htds rfl⟩
      · exact .inr ⟨_, .noDimension hmode htds rfl rfl⟩
      · exact .inr ⟨_, .noGranularity hmode htds rfl⟩
      · exact .inl (.blending hmode htds)
    · exact .inr hfault

/-! ### Faults of columns -/

/-- The first of some names that is not among others. -/
def FirstOutside (names others : List String) (name : String) : Prop :=
  ∃ before after, names = before ++ name :: after ∧
    (∀ other ∈ before, other ∈ others) ∧ name ∉ others

/-- The first of some columns that is not visible. -/
def FirstHidden (context : Context) (columns : List String) (column : String) : Prop :=
  ∃ before after, columns = before ++ column :: after ∧
    (∀ other ∈ before, context.Visible other) ∧ ¬context.Visible column

theorem subset_or_firstOutside (names others : List String) :
    (∀ name ∈ names, name ∈ others) ∨ ∃ name, FirstOutside names others name := by
  rcases forall_or_first (· ∈ others) names with hall | ⟨before, name, after, h⟩
  · exact .inl hall
  · exact .inr ⟨name, before, after, h⟩

theorem visible_or_firstHidden (context : Context) (columns : List String) :
    (∀ column ∈ columns, context.Visible column) ∨
      ∃ column, context.FirstHidden columns column := by
  rcases forall_or_first context.Visible columns with hall | ⟨before, column, after, h⟩
  · exact .inl hall
  · exact .inr ⟨column, before, after, h⟩

/-- A search for a name that is not among others finds the first. -/
theorem find?_of_firstOutside {names others : List String} {name : String}
    (h : FirstOutside names others name) {p : String → Bool}
    (hp : ∀ other, p other = true ↔ other ∈ others) :
    names.find? (!p ·) = some name := by
  obtain ⟨before, after, rfl, hbefore, hname⟩ := h
  refine List.find?_eq_some_iff_append.2 ⟨?_, before, after, rfl, fun other hother ↦ ?_⟩
  · rw [Bool.not_eq_true', ← Bool.not_eq_true, hp]
    exact hname
  · rw [Bool.not_not, hp]
    exact hbefore other hother

theorem find?_of_subset {names others : List String} (h : ∀ name ∈ names, name ∈ others)
    {p : String → Bool} (hp : ∀ other, p other = true ↔ other ∈ others) :
    names.find? (!p ·) = none := by
  refine List.find?_eq_none.2 fun name hname ↦ ?_
  rw [Bool.not_eq_true', Bool.not_eq_false, hp]
  exact h name hname

/-! ### Faults of a row -/

/-- A row has exactly these columns, in any order. -/
def SameColumns (columns : List String) (row : RawRow) : Prop :=
  ∀ column, column ∈ row.keys ↔ column ∈ columns

/-- A row has other columns than the first. A column too many comes before one that is missing, and
it is a fault of its own if it is not visible. -/
inductive RowFault (context : Context) (columns : List String) (index : Nat) (row : RawRow) :
    ResponseError → Prop where
  | hidden {column : String} (hcolumn : FirstOutside row.keys columns column)
      (hhidden : ¬context.Visible column) :
      RowFault context columns index row (.hiddenMember column (context.aliases.get? column))
  | surplus {column : String} (hcolumn : FirstOutside row.keys columns column)
      (hvisible : context.Visible column) :
      RowFault context columns index row (.inconsistentRow index column)
  | missing {column : String} (hrow : ∀ other ∈ row.keys, other ∈ columns)
      (hcolumn : FirstOutside columns row.keys column) :
      RowFault context columns index row (.inconsistentRow index column)

theorem checkColumns_of_same {columns : List String} {row : RawRow} (h : SameColumns columns row)
    (index : Nat) : context.checkColumns columns index row = .ok () := by
  rw [checkColumns, find?_of_subset (fun column ↦ (h column).1) fun _ ↦ List.contains_iff_mem,
    find?_of_subset (fun column ↦ (h column).2) fun _ ↦ OrderedMap.contains_iff]

/-- A column too many is either hidden, or it makes the row inconsistent. -/
theorem checkColumns_of_firstOutside {columns : List String} {row : RawRow} {column : String}
    (h : FirstOutside row.keys columns column) (index : Nat) :
    context.checkColumns columns index row =
      (context.visibleMember column >>= fun _ ↦ .error (.inconsistentRow index column)) := by
  rw [checkColumns, find?_of_firstOutside h fun _ ↦ List.contains_iff_mem]

theorem checkColumns_of_rowFault {columns : List String} {index : Nat} {row : RawRow}
    {error : ResponseError} (h : context.RowFault columns index row error) :
    context.checkColumns columns index row = .error error := by
  cases h with
  | @hidden column hcolumn hhidden =>
    rw [checkColumns_of_firstOutside hcolumn, visibleMember_of_not_visible hhidden]
    rfl
  | @surplus column hcolumn hvisible =>
    obtain ⟨member, details, hok, -⟩ := visibleMember_of_visible hvisible
    rw [checkColumns_of_firstOutside hcolumn, hok]
    rfl
  | @missing column hrow hcolumn =>
    rw [checkColumns, find?_of_subset hrow fun _ ↦ List.contains_iff_mem,
      find?_of_firstOutside hcolumn fun _ ↦ OrderedMap.contains_iff]

theorem same_or_rowFault (context : Context) (columns : List String) (index : Nat)
    (row : RawRow) :
    SameColumns columns row ∨ ∃ error, context.RowFault columns index row error := by
  rcases subset_or_firstOutside row.keys columns with hrow | ⟨column, hcolumn⟩
  · rcases subset_or_firstOutside columns row.keys with hcolumns | ⟨column, hcolumn⟩
    · exact .inl fun column ↦ ⟨hrow column, hcolumns column⟩
    · exact .inr ⟨_, .missing hrow hcolumn⟩
  · by_cases hvisible : context.Visible column
    · exact .inr ⟨_, .surplus hcolumn hvisible⟩
    · exact .inr ⟨_, .hidden hcolumn hvisible⟩

/-! ### Faults of a result -/

/-- Nothing is wrong with the rows of a result. -/
inductive Consistent (context : Context) : List RawRow → Prop where
  | nil : Consistent context []
  | cons {first : RawRow} {rows : List RawRow} (hfirst : context.Resolves first.keys)
      (hsame : ∀ row ∈ rows, SameColumns first.keys row) : Consistent context (first :: rows)

/-- What is wrong with a result in the first place. -/
inductive FirstFault (context : Context) : List RawRow → ResponseError → Prop where
  | mode {rows : List RawRow} {error : ResponseError} (hfault : context.ModeFault error) :
      FirstFault context rows error
  | column {first : RawRow} {rows : List RawRow} {column : String} (hmode : context.Configured)
      (hcolumn : context.FirstHidden first.keys column) :
      FirstFault context (first :: rows) (.hiddenMember column (context.aliases.get? column))
  | blending {first : RawRow} {rows : List RawRow} {member : Member}
      (hvisible : ∀ column ∈ first.keys, context.Visible column)
      (hmember : context.BlendsBy member) (hgives : ¬context.Gives first.keys member.path) :
      FirstFault context (first :: rows) (.noBlendingColumn member)
  | row {first row : RawRow} {before after : List RawRow} {error : ResponseError}
      (hmode : context.Configured) (hfirst : context.Resolves first.keys)
      (hbefore : ∀ other ∈ before, SameColumns first.keys other)
      (hfault : context.RowFault first.keys (before.length + 1) row error) :
      FirstFault context (first :: (before ++ row :: after)) error

theorem blended_or_fault (context : Context) (columns : List String) :
    context.Blended columns ∨
      ∃ member, context.BlendsBy member ∧ ¬context.Gives columns member.path := by
  by_cases h : context.Blended columns
  · exact .inl h
  · obtain ⟨member, hmember⟩ := Classical.not_forall.1 h
    exact .inr ⟨member, Classical.not_imp.1 hmember⟩

/-- **Nothing is wrong, or something is wrong first.** -/
theorem consistent_or_firstFault (context : Context) (rows : List RawRow) :
    (context.Configured ∧ context.Consistent rows) ∨ ∃ error, context.FirstFault rows error := by
  rcases configured_or_modeFault context with hmode | ⟨error, hfault⟩
  · cases rows with
    | nil => exact .inl ⟨hmode, .nil⟩
    | cons first rows =>
      rcases visible_or_firstHidden context first.keys with hvisible | ⟨column, hcolumn⟩
      · rcases blended_or_fault context first.keys with hblended | ⟨member, hmember, hgives⟩
        · rcases forall_or_first (SameColumns first.keys) rows with
            hsame | ⟨before, row, after, rfl, hbefore, hrow⟩
          · exact .inl ⟨hmode, .cons ⟨hvisible, hblended⟩ hsame⟩
          · rcases same_or_rowFault context first.keys (before.length + 1) row with
              hsame | ⟨error, hfault⟩
            · exact absurd hsame hrow
            · exact .inr ⟨error, .row hmode ⟨hvisible, hblended⟩ hbefore hfault⟩
        · exact .inr ⟨_, .blending hvisible hmember hgives⟩
      · exact .inr ⟨_, .column hmode hcolumn⟩
  · exact .inr ⟨error, .mode hfault⟩

end Context

end SemanticLayer.Response
