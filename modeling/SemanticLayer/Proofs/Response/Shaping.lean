import SemanticLayer.Proofs.Response.Columns

/-!
# What shaped rows show

A row is shaped from the members of the first row (`compactRow`) or from its own columns
(`Context.vanillaRow`). Both are described by one reading of a row (`Context.reading`), which takes
the order of the columns as an argument: a name shows the value of the last column that gives it,
and the name of a derived member shows the label of the range, or what the blended name shows.

If the mode is configured (`Context.Configured`), and members can be resolved from the columns
(`Context.Resolves`), then both ways succeed. The members show each row in the order of the
columns of the first row (`Context.exists_members`), while a row that is shaped by itself goes by
its own order (`Context.exists_vanillaRow`).
-/

namespace SemanticLayer.Response

open Query

namespace Context

variable {context : Context}

/-! ### Configuration -/

/-- The query is configured for its mode: a derived mode has exactly one time dimension, with a
range that has bounds, or with a granularity and a dimension. -/
inductive Configured (context : Context) : Prop where
  | regular (hmode : context.mode = .regular)
  | compareDateRange {dimension : Option Member} {granularity : Option String}
      {first last : String} (hmode : context.mode = .compareDateRange)
      (htds : context.query.timeDimensions = [⟨dimension, granularity, some (.bounded first last)⟩])
  | blending {dimension : Member} {granularity : String} {range : Option DateRange}
      (hmode : context.mode = .blending)
      (htds : context.query.timeDimensions = [⟨some dimension, some granularity, range⟩])

/-- The result is blended by a member: the dimension of its only time dimension, at the
granularity of that. -/
def BlendsBy (context : Context) (member : Member) : Prop :=
  context.mode = .blending ∧ ∃ dimension granularity range,
    context.query.timeDimensions = [⟨some dimension, some granularity, range⟩] ∧
    dimension.withGranularity granularity = member

/-- If the result is blended, then one of the columns gives the member to blend by. -/
def Blended (context : Context) (columns : List String) : Prop :=
  ∀ member, context.BlendsBy member → context.Gives columns member.path

/-- Members can be resolved from columns: all of them are visible, and a member to blend by is
given. -/
structure Resolves (context : Context) (columns : List String) : Prop where
  visible : ∀ column ∈ columns, context.Visible column
  blended : context.Blended columns

/-- The order of the columns does not matter, nor how often they are listed. -/
theorem Resolves.of_same {columns others : List String} (h : context.Resolves columns)
    (hsame : ∀ column, column ∈ others ↔ column ∈ columns) : context.Resolves others where
  visible column hcolumn := h.visible column ((hsame column).1 hcolumn)
  blended member hmember := (h.blended member hmember).mono fun column ↦ (hsame column).2

/-! ### Reading a row -/

/-- Where the value of a name comes from. -/
inductive Origin where
  /-- The label of the range of the query. -/
  | label (text : String)
  /-- The columns that give a name. -/
  | columns (name : String)

/-- Where the value of a name comes from. A derived member goes before columns of its name. -/
def origin (context : Context) (name : String) : Origin :=
  match context.mode, context.query.timeDimensions with
  | .compareDateRange, [⟨_, _, some (.bounded first last)⟩] =>
    if name = rangeLabelName then .label (first ++ " - " ++ last) else .columns name
  | .blending, [⟨some dimension, some granularity, _⟩] =>
    if name = "time." ++ granularity then .columns (dimension.withGranularity granularity).path
    else .columns name
  | _, _ => .columns name

/-- The value of the column that a name is read from. -/
def columnReading (context : Context) (columns : List String) (row : RawRow) (name : String) :
    Option WireValue :=
  (context.giver? columns name).map fun column ↦ columnValue row column (context.columnType column)

/-- What a row shows under a name, if its columns come in this order. -/
def reading (context : Context) (columns : List String) (row : RawRow) (name : String) :
    Option WireValue :=
  match context.origin name with
  | .label text => some (.string text)
  | .columns name => context.columnReading columns row name

theorem reading_of_label {name text : String} (h : context.origin name = .label text)
    (columns : List String) (row : RawRow) :
    context.reading columns row name = some (.string text) := by
  rw [reading, h]

theorem reading_of_columns {name source : String} (h : context.origin name = .columns source)
    (columns : List String) (row : RawRow) :
    context.reading columns row name = context.columnReading columns row source := by
  rw [reading, h]

theorem reading_of_regular (hmode : context.mode = .regular) (columns : List String)
    (row : RawRow) (name : String) :
    context.reading columns row name = context.columnReading columns row name := by
  rw [reading, origin, hmode]

theorem reading_of_compareDateRange {dimension : Option Member} {granularity : Option String}
    {earliest latest : String} (hmode : context.mode = .compareDateRange)
    (htds : context.query.timeDimensions =
      [⟨dimension, granularity, some (.bounded earliest latest)⟩])
    (columns : List String) (row : RawRow) (name : String) :
    context.reading columns row name =
      if name = rangeLabelName then some (.string (earliest ++ " - " ++ latest))
      else context.columnReading columns row name := by
  rw [reading, origin, hmode, htds]
  by_cases hname : name = rangeLabelName
  · simp only [if_pos hname]
  · simp only [if_neg hname]

theorem reading_of_blending {dimension : Member} {granularity : String}
    {range : Option DateRange} (hmode : context.mode = .blending)
    (htds : context.query.timeDimensions = [⟨some dimension, some granularity, range⟩])
    (columns : List String) (row : RawRow) (name : String) :
    context.reading columns row name =
      if name = "time." ++ granularity then
        context.columnReading columns row (dimension.withGranularity granularity).path
      else context.columnReading columns row name := by
  rw [reading, origin, hmode, htds]
  by_cases hname : name = "time." ++ granularity
  · simp only [if_pos hname]
  · simp only [if_neg hname]

theorem exists_columnReading_iff {columns : List String} {row : RawRow} {name : String} :
    (∃ value, context.columnReading columns row name = some value) ↔
      context.Gives columns name := by
  rw [← exists_giver?_iff, columnReading]
  constructor
  · rintro ⟨value, h⟩
    obtain ⟨column, hcolumn, -⟩ := Option.map_eq_some_iff.1 h
    exact ⟨column, hcolumn⟩
  · rintro ⟨column, hcolumn⟩
    exact ⟨_, Option.map_eq_some_iff.2 ⟨column, hcolumn, rfl⟩⟩

/-- What names a row shows does not depend on the order of its columns. -/
theorem exists_reading_of_subset {columns others : List String} {row other : RawRow}
    {name : String} (h : ∃ value, context.reading columns row name = some value)
    (hle : ∀ column ∈ columns, column ∈ others) :
    ∃ value, context.reading others other name = some value := by
  rcases horigin : context.origin name with text | source
  · exact ⟨_, reading_of_label horigin others other⟩
  · rw [reading_of_columns horigin] at h ⊢
    exact exists_columnReading_iff.2 ((exists_columnReading_iff.1 h).mono hle)

/-! ### Rows by members -/

/-- The members of columns, each read from the last column that gives it. -/
def columnSources (context : Context) (columns : List String) : MemberMap :=
  context.fill (fun column ↦ .column column (context.columnType column)) .empty columns

theorem get?_columnSources (columns : List String) (name : String) :
    (context.columnSources columns).get? name =
      (context.giver? columns name).map fun column ↦
        .column column (context.columnType column) := by
  rw [columnSources, get?_fill, OrderedMap.get?_empty, Option.or_none]

/-- Members show rows in the order of columns, for a label of the range. -/
def Shows (context : Context) (columns : List String) (label : Option String)
    (members : MemberMap) : Prop :=
  ∀ row name, (members.get? name).map (Source.value label row) = context.reading columns row name

theorem map_value_columnSources (columns : List String) (label : Option String) (row : RawRow)
    (name : String) :
    ((context.columnSources columns).get? name).map (Source.value label row) =
      context.columnReading columns row name := by
  rw [get?_columnSources, Option.map_map]
  rfl

theorem shows_of_regular (hmode : context.mode = .regular) (columns : List String) :
    context.Shows columns none (context.columnSources columns) := by
  intro row name
  rw [map_value_columnSources, reading_of_regular hmode]

theorem shows_of_compareDateRange {dimension : Option Member} {granularity : Option String}
    {earliest latest : String} (hmode : context.mode = .compareDateRange)
    (htds : context.query.timeDimensions =
      [⟨dimension, granularity, some (.bounded earliest latest)⟩]) (columns : List String) :
    context.Shows columns (some (earliest ++ " - " ++ latest))
      ((context.columnSources columns).insert rangeLabelName .rangeLabel) := by
  intro row name
  rw [OrderedMap.get?_insert, reading_of_compareDateRange hmode htds]
  by_cases hname : name = rangeLabelName
  · rw [if_pos hname, if_pos hname]
    rfl
  · rw [if_neg hname, if_neg hname, map_value_columnSources]

theorem shows_of_blending {dimension : Member} {granularity : String} {range : Option DateRange}
    (hmode : context.mode = .blending)
    (htds : context.query.timeDimensions = [⟨some dimension, some granularity, range⟩])
    {columns : List String} {column : String}
    (hcolumn : context.giver? columns (dimension.withGranularity granularity).path = some column) :
    context.Shows columns none ((context.columnSources columns).insert ("time." ++ granularity)
      (.blending column (context.columnType column))) := by
  intro row name
  rw [OrderedMap.get?_insert, reading_of_blending hmode htds]
  by_cases hname : name = "time." ++ granularity
  · rw [if_pos hname, if_pos hname, columnReading, hcolumn]
    rfl
  · rw [if_neg hname, if_neg hname, map_value_columnSources]

theorem members_cons {first : RawRow} (hvisible : ∀ column ∈ first.keys, context.Visible column)
    (rows : List RawRow) :
    context.members (first :: rows) = context.addDerived (context.columnSources first.keys) := by
  rw [members, columnMembers_of_visible hvisible]
  rfl

theorem addDerived_of_blending {dimension : Member} {granularity : String}
    {range : Option DateRange} (hmode : context.mode = .blending)
    (htds : context.query.timeDimensions = [⟨some dimension, some granularity, range⟩])
    (members : MemberMap) :
    context.addDerived members =
      match members.get? (dimension.withGranularity granularity).path with
      | some (.column name type) =>
        .ok (members.insert ("time." ++ granularity) (.blending name type))
      | _ => .error (.noBlendingColumn (dimension.withGranularity granularity)) := by
  rw [addDerived, hmode, htds]
  rfl

/-- **The members of a result.** They show a row in the order of the columns of the first. -/
theorem exists_members (hmode : context.Configured) {first : RawRow}
    (hfirst : context.Resolves first.keys) (rows : List RawRow) :
    ∃ members label, context.members (first :: rows) = .ok members ∧
      (∀ row, compactRow members context.mode context.query.timeDimensions row =
        .ok (members.toList.map fun entry ↦ entry.2.value label row)) ∧
      context.Shows first.keys label members := by
  rw [members_cons hfirst.visible]
  cases hmode with
  | regular hmode =>
    refine ⟨_, none, ?_, fun row ↦ ?_, shows_of_regular hmode first.keys⟩
    · rw [addDerived, hmode]
    · rw [hmode]
      rfl
  | compareDateRange hmode htds =>
    refine ⟨_, _, ?_, fun row ↦ ?_, shows_of_compareDateRange hmode htds first.keys⟩
    · rw [addDerived, hmode]
    · rw [hmode, htds]
      rfl
  | @blending dimension granularity range hmode htds =>
    -- among the members of columns, the one to blend by is read from a column
    have hgives := hfirst.blended _ ⟨hmode, dimension, granularity, range, htds, rfl⟩
    obtain ⟨column, hcolumn⟩ := exists_giver?_iff.2 hgives
    refine ⟨_, none, ?_, fun row ↦ ?_, shows_of_blending hmode htds hcolumn⟩
    · rw [addDerived_of_blending hmode htds, get?_columnSources, hcolumn, Option.map_some]
    · rw [hmode]
      rfl

/-! ### Rows by themselves -/

/-- The values of columns in a row, each name with that of the last column that gives it. -/
def orderedWires (context : Context) (columns : List String) (row : RawRow) : WireRow :=
  context.fill (fun column ↦ columnValue row column (context.columnType column)) .empty columns

theorem get?_orderedWires (columns : List String) (row : RawRow) (name : String) :
    (context.orderedWires columns row).get? name = context.columnReading columns row name := by
  rw [orderedWires, get?_fill, OrderedMap.get?_empty, Option.or_none, columnReading]

/-- The values of the columns of a row, each name with that of the last column that gives it. -/
def columnWires (context : Context) (row : RawRow) : WireRow :=
  context.fill (fun column ↦ columnValue row column (context.columnType column)) .empty row.keys

theorem vanillaRow_of_visible {row : RawRow}
    (hvisible : ∀ column ∈ row.keys, context.Visible column) :
    context.vanillaRow row = context.addDerivedValue (context.columnWires row) := by
  have hentries : ∀ entry ∈ row.toList, row.get? entry.1 = some entry.2 :=
    fun entry hentry ↦ OrderedMap.get?_of_mem hentry
  rw [vanillaRow, columnValues_of_visible hentries hvisible]
  rfl

theorem addDerivedValue_of_blending {dimension : Member} {granularity : String}
    {range : Option DateRange} (hmode : context.mode = .blending)
    (htds : context.query.timeDimensions = [⟨some dimension, some granularity, range⟩])
    (values : WireRow) :
    context.addDerivedValue values =
      match values.get? (dimension.withGranularity granularity).path with
      | some value => .ok (values.insert ("time." ++ granularity) value)
      | none => .error (.noBlendingColumn (dimension.withGranularity granularity)) := by
  rw [addDerivedValue, hmode, htds]
  rfl

/-- With the value of the derived member, the values of columns are what their row shows in this
order. -/
theorem get?_of_addDerivedValue (hmode : context.Configured) {columns : List String} {row : RawRow}
    {wire : WireRow} (h : context.addDerivedValue (context.orderedWires columns row) = .ok wire)
    (name : String) : wire.get? name = context.reading columns row name := by
  cases hmode with
  | regular hmode =>
    rw [addDerivedValue, hmode] at h
    obtain rfl := Except.ok.inj h
    rw [get?_orderedWires, reading_of_regular hmode]
  | compareDateRange hmode htds =>
    rw [addDerivedValue, hmode, htds] at h
    obtain rfl := Except.ok.inj h
    rw [OrderedMap.get?_insert, reading_of_compareDateRange hmode htds, get?_orderedWires]
  | @blending dimension granularity range hmode htds =>
    rw [addDerivedValue_of_blending hmode htds, get?_orderedWires] at h
    rcases hvalue : context.columnReading columns row
      (dimension.withGranularity granularity).path with - | value
    · rw [hvalue] at h
      cases h
    · rw [hvalue] at h
      obtain rfl := Except.ok.inj h
      rw [OrderedMap.get?_insert, reading_of_blending hmode htds, hvalue, get?_orderedWires]

/-- The derived member has a value wherever the columns give the member to blend by. -/
theorem exists_addDerivedValue (hmode : context.Configured) {columns : List String}
    (hblended : context.Blended columns) (row : RawRow) :
    ∃ wire, context.addDerivedValue (context.orderedWires columns row) = .ok wire := by
  cases hmode with
  | regular hmode => exact ⟨_, by rw [addDerivedValue, hmode]⟩
  | compareDateRange hmode htds => exact ⟨_, by rw [addDerivedValue, hmode, htds]; rfl⟩
  | @blending dimension granularity range hmode htds =>
    have hgives := hblended _ ⟨hmode, dimension, granularity, range, htds, rfl⟩
    obtain ⟨value, hvalue⟩ := exists_columnReading_iff.2 hgives
    exact ⟨_, by rw [addDerivedValue_of_blending hmode htds, get?_orderedWires, hvalue]⟩

/-- **A row by itself.** It goes by the order of its own columns. -/
theorem exists_vanillaRow (hmode : context.Configured) {row : RawRow}
    (hrow : context.Resolves row.keys) :
    ∃ wire, context.vanillaRow row = .ok wire ∧
      ∀ name, wire.get? name = context.reading row.keys row name := by
  obtain ⟨wire, hwire⟩ := exists_addDerivedValue hmode hrow.blended row
  exact ⟨wire, (vanillaRow_of_visible hrow.visible).trans hwire,
    get?_of_addDerivedValue hmode hwire⟩

end Context

end SemanticLayer.Response
