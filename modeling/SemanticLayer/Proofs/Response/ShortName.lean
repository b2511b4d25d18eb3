import SemanticLayer.Proofs.Query.Member
import SemanticLayer.Proofs.Response.Entries

/-!
# Short names of members with a granularity

A member with a granularity is also given under its short name, the name without the granularity,
unless the query asks for that as a plain dimension. Every row of a response shows both names, in
both shapes (`Context.respond_shortNames`). It shows them with one value if only columns of this
member give the short name, and if neither name is the key of a blended result.

Otherwise the two may differ, since a name has one value, that of the last column that gives it: the
short name may be that of a column further on (`Context.short_name_of_later_column`), and two
granularities of one dimension have the same short name.
-/

namespace SemanticLayer.Response

open Query

namespace Context

variable {context : Context}

/-! ### The column of a name -/

/-- The column that a name is read from, if the columns come in this order. The key of a blended
result is read from the column of the member to blend by. -/
def ReadsFrom (context : Context) (columns : List String) (name column : String) : Prop :=
  ∃ source, context.origin name = .columns source ∧ context.LastGiver columns source column

theorem reading_of_readsFrom {columns : List String} {name column : String}
    (h : context.ReadsFrom columns name column) (row : RawRow) :
    context.reading columns row name =
      some (columnValue row column (context.columnType column)) := by
  obtain ⟨source, horigin, hlast⟩ := h
  rw [reading_of_columns horigin, columnReading, giver?_eq_some_iff.2 hlast]
  rfl

/-- A name is that of a column, that of the label, or the key of a blended result. -/
theorem origin_cases (context : Context) (name : String) :
    context.origin name = .columns name ∨ name = rangeLabelName ∨
      ∃ member, context.BlendsBy member ∧ context.origin name = .columns member.path := by
  unfold origin
  split
  · split
    · next hname => exact .inr (.inl hname)
    · exact .inl rfl
  · next hmode htds =>
    split
    · exact .inr (.inr ⟨_, ⟨hmode, _, _, _, htds, rfl⟩, rfl⟩)
    · exact .inl rfl
  · exact .inl rfl

/-- Each name that columns give is read from one of them, apart from that of the label. -/
theorem exists_readsFrom {columns : List String} (hblended : context.Blended columns)
    {name : String} (hgives : context.Gives columns name) (hname : name ≠ rangeLabelName) :
    ∃ column, context.ReadsFrom columns name column := by
  obtain ⟨source, horigin, hsource⟩ :
      ∃ source, context.origin name = .columns source ∧ context.Gives columns source := by
    rcases origin_cases context name with horigin | hlabel | ⟨member, hmember, horigin⟩
    · exact ⟨name, horigin, hgives⟩
    · exact absurd hlabel hname
    · exact ⟨member.path, horigin, hblended member hmember⟩
  obtain ⟨column, hcolumn⟩ := exists_giver?_iff.2 hsource
  exact ⟨column, source, horigin, giver?_eq_some_iff.1 hcolumn⟩

/-! ### The two names of a member -/

section Names

variable {member : Member} {cube field granularity : String}

theorem namesOf_of_segments (hsegments : member.segments = [cube, field, granularity])
    (hshort : ⟨cube ++ "." ++ field⟩ ∉ context.query.dimensions) :
    context.namesOf member = [member.path, cube ++ "." ++ field] := by
  have hshortName : member.withoutGranularity? = some ⟨cube ++ "." ++ field⟩ :=
    Member.withoutGranularity?_eq_some_iff.2 ⟨cube, field, granularity, hsegments, rfl⟩
  have hplain : context.query.hasDimension ⟨cube ++ "." ++ field⟩ = false :=
    Bool.eq_false_iff.2 (mt List.contains_iff_mem.1 hshort)
  rw [namesOf, plainName?, hshortName, Option.filter_some, hplain]
  rfl

/-- A path of three segments is no short name, so only its own member is given under it. -/
theorem path_mem_namesOf_iff (hsegments : member.segments = [cube, field, granularity])
    {other : Member} : member.path ∈ context.namesOf other ↔ other = member := by
  constructor
  · intro h
    rcases List.mem_cons.1 h with hpath | hshort
    · exact (congrArg Member.mk hpath).symm
    · obtain ⟨short, hsome, hpath⟩ := Option.map_eq_some_iff.1 (Option.mem_toList.1 hshort)
      obtain ⟨hwithout, -⟩ := Option.filter_eq_some_iff.1 hsome
      obtain ⟨otherCube, otherField, otherGranularity, hother, rfl⟩ :=
        Member.withoutGranularity?_eq_some_iff.1 hwithout
      have htwo := Member.length_segments_short hother
      have hshortPath : Member.mk (otherCube ++ "." ++ otherField) = member :=
        congrArg Member.mk hpath
      rw [hshortPath, hsegments] at htwo
      cases htwo
  · rintro rfl
    exact List.mem_cons_self

/-- The label of a range has a single segment. -/
theorem ne_rangeLabelName {name : String} (h : (Member.mk name).segments.length ≠ 1) :
    name ≠ rangeLabelName := by
  rintro rfl
  exact h (by decide)

end Names

/-! ### Rows that show both -/

/-- A row shows a member and its short name, each with the value of the column that it is read from,
and with one value if the short name belongs to the columns of this member, and both names are their
own. -/
structure ShowsBoth (context : Context) (columns : List String) (row : RawRow)
    (shown : List (String × WireValue)) (member : Member) (short : String) : Prop where
  exists_columns : ∃ column other, context.ReadsFrom columns member.path column ∧
    context.ReadsFrom columns short other ∧
    shown.lookup member.path = some (columnValue row column (context.columnType column)) ∧
    shown.lookup short = some (columnValue row other (context.columnType other))
  lookup_eq : (∀ other ∈ row.keys, short ∈ context.columnNames other →
      context.aliases.get? other = some member) →
    context.origin member.path = .columns member.path → context.origin short = .columns short →
    shown.lookup short = shown.lookup member.path

theorem showsBoth_of_lookup {columns : List String} (hblended : context.Blended columns)
    {row : RawRow} (hsame : ∀ column, column ∈ columns ↔ column ∈ row.keys)
    {shown : List (String × WireValue)}
    (hshown : ∀ name, shown.lookup name = context.reading columns row name)
    {column : String} (hcolumn : column ∈ row.keys) {member : Member}
    (hmember : context.aliases.get? column = some member) {cube field granularity : String}
    (hsegments : member.segments = [cube, field, granularity])
    (hshort : ⟨cube ++ "." ++ field⟩ ∉ context.query.dimensions) :
    context.ShowsBoth columns row shown member (cube ++ "." ++ field) := by
  have hnames : context.columnNames column = [member.path, cube ++ "." ++ field] := by
    simp only [columnNames, hmember, namesOf_of_segments hsegments hshort]
  have hgives : ∀ name ∈ [member.path, cube ++ "." ++ field], context.Gives columns name :=
    fun name hname ↦ ⟨column, (hsame column).2 hcolumn, hnames ▸ hname⟩
  constructor
  · have hlong : member.segments.length ≠ 1 := by
      rw [hsegments]
      exact Nat.succ_succ_ne_one 1
    have htwo : (Member.mk (cube ++ "." ++ field)).segments.length ≠ 1 := by
      rw [Member.length_segments_short hsegments]
      decide
    obtain ⟨own, hown⟩ := exists_readsFrom hblended
      (hgives member.path List.mem_cons_self) (ne_rangeLabelName hlong)
    obtain ⟨other, hother⟩ := exists_readsFrom hblended
      (hgives _ (List.mem_cons_of_mem _ List.mem_cons_self)) (ne_rangeLabelName htwo)
    refine ⟨own, other, hown, hother, ?_, ?_⟩
    · rw [hshown, reading_of_readsFrom hown]
    · rw [hshown, reading_of_readsFrom hother]
  · intro hsole horigin hshortOrigin
    -- both names are given by exactly the columns of the member
    have hgivers : ∀ other ∈ columns, cube ++ "." ++ field ∈ context.columnNames other ↔
        member.path ∈ context.columnNames other := by
      intro other hmem
      constructor
      · intro hname
        have hother := hsole other ((hsame other).1 hmem) hname
        simp only [columnNames, hother]
        exact List.mem_cons_self
      · intro hname
        rw [columnNames] at hname ⊢
        split at hname
        · next found hfound =>
          obtain rfl := (path_mem_namesOf_iff hsegments).1 hname
          rw [namesOf_of_segments hsegments hshort]
          exact List.mem_cons_of_mem _ List.mem_cons_self
        · cases hname
    rw [hshown, hshown, reading_of_columns horigin, reading_of_columns hshortOrigin, columnReading,
      columnReading, giver?_congr hgivers]

/-- **Short names.** Every row of a response shows each member with a granularity that one of its
columns stands for, and the short name of this member too unless it is a plain dimension of the
query. The two are shown with the values of the columns that they are read from, so with one value
if the short name belongs to the columns of this member. -/
theorem respond_shortNames {shape : Shape} {rows : List RawRow} {body : Body}
    (h : context.respond shape rows = .ok body) :
    List.Forall₂ (fun row shown ↦ ∀ column ∈ row.keys, ∀ member cube field granularity,
        context.aliases.get? column = some member →
        member.segments = [cube, field, granularity] →
        ⟨cube ++ "." ++ field⟩ ∉ context.query.dimensions →
        context.ShowsBoth (columnOrder shape rows row) row shown member (cube ++ "." ++ field))
      rows body.entries := by
  obtain ⟨-, hrows⟩ := consistent_of_respond h
  have hshown :=
    (List.forall₂_and_left rows body.entries).2 ⟨fun row hrow ↦ hrow, lookup_of_respond h⟩
  refine hshown.imp fun row shown ⟨hrow, hlookup⟩ ↦ ?_
  obtain ⟨hsame, hresolves⟩ := hrows.columnOrder shape hrow
  intro column hcolumn member cube field granularity hmember hsegments hshort
  exact showsBoth_of_lookup hresolves.blended (fun name ↦ (hsame name).symm) hlookup hcolumn hmember
    hsegments hshort

/-- A result with one dimension at two granularities, and with a column of its short name. -/
def createdAt : Context where
  mode := .regular
  query := ⟨[], [], [], [], [], [], none, none, none⟩
  annotations := .ofList [("Orders.createdAt.month", .ofType .string),
    ("Orders.createdAt.day", .ofType .string), ("Orders.createdAt", .ofType .string)]
  aliases := .ofList [("m", ⟨"Orders.createdAt.month"⟩), ("d", ⟨"Orders.createdAt.day"⟩),
    ("c", ⟨"Orders.createdAt"⟩)]

/-- Rows by month, with the columns in two orders. -/
def monthRows : List RawRow :=
  [.ofList [("c", .string "14th"), ("m", .string "2021-02")],
    .ofList [("m", .string "2021-03"), ("c", .string "15th")]]

/-- A compact response takes the columns of both rows in the order of the first, so the month comes
last in both. -/
theorem showsBoth_of_monthRows :
    createdAt.respond .compact monthRows =
      .ok (.compact ["Orders.createdAt", "Orders.createdAt.month"]
        [[.string "2021-02", .string "2021-02"], [.string "2021-03", .string "2021-03"]]) ∧
    createdAt.ShowsBoth ["c", "m"] (.ofList [("m", .string "2021-03"), ("c", .string "15th")])
      [("Orders.createdAt", .string "2021-03"), ("Orders.createdAt.month", .string "2021-03")]
      ⟨"Orders.createdAt.month"⟩ ("Orders" ++ "." ++ "createdAt") := by
  have hok : createdAt.respond .compact monthRows =
      .ok (.compact ["Orders.createdAt", "Orders.createdAt.month"]
        [[.string "2021-02", .string "2021-02"], [.string "2021-03", .string "2021-03"]]) := rfl
  have hrow : monthRows[1]? =
      some (.ofList [("m", .string "2021-03"), ("c", .string "15th")]) := rfl
  exact ⟨hok, related_of_getElem? (respond_shortNames hok) hrow rfl "m" (by decide)
    ⟨"Orders.createdAt.month"⟩ "Orders" "createdAt" "month" rfl (by decide) (by decide)⟩

/-- The short name has the value of a later column that is called so, and the value of the later of
two granularities. -/
theorem short_name_of_later_column :
    (Member.mk "Orders.createdAt.month").segments = ["Orders", "createdAt", "month"] ∧
    ⟨"Orders.createdAt"⟩ ∉ createdAt.query.dimensions ∧
    createdAt.respond .vanilla [.ofList [("m", .string "2021-02"), ("c", .string "14th")]] =
      .ok (.vanilla [.ofList [("Orders.createdAt.month", .string "2021-02"),
        ("Orders.createdAt", .string "14th")]]) ∧
    createdAt.respond .compact [.ofList [("m", .string "2021-02"), ("d", .string "2021-02-14")]] =
      .ok (.compact ["Orders.createdAt.month", "Orders.createdAt", "Orders.createdAt.day"]
        [[.string "2021-02", .string "2021-02-14", .string "2021-02-14"]]) :=
  ⟨by decide, by decide, rfl, rfl⟩

end Context

end SemanticLayer.Response
