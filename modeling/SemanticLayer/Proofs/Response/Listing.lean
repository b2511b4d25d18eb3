import SemanticLayer.Proofs.Response.Fault

/-!
# A row by itself, against one listing

Column by column, a row gives a value under one or two names, and the mode adds one more name in the
end. All of this in order is the listing of the row (`Context.Lists`), in which a name may occur any
number of times: two columns may stand for one member, a column may stand for a name that another
one also gives, and it may even stand for the name of the derived member.

Resolving the members of a row and reading it by them, and shaping it by its own columns, are two
ways to settle this listing: a name stands where it first occurs and has the value of its last
occurrence (`OrderedMap.Settles`). They succeed and fail together, with the same errors, and what
they give is the same (`Context.compactAlone_eq`). No check of a response is involved.
-/

namespace SemanticLayer.Response

open Query
open OrderedMap (LastValue Settles)

namespace Context

variable {context : Context} {row : RawRow}

/-! ### The listing of a row -/

/-- The names that the columns of a row give, in order, each with the value of its column. -/
def columnListing (context : Context) (row : RawRow) : List (String × WireValue) :=
  row.toList.flatMap fun (column, raw) ↦
    (context.columnNames column).map (·, raw.coerce (context.columnType column))

/-- What a row lists: the names of its columns, and then that of the derived member with the label
of the range, or with the value of the member to blend by. -/
inductive Lists (context : Context) (row : RawRow) : List (String × WireValue) → Prop where
  | regular (hmode : context.mode = .regular) : Lists context row (context.columnListing row)
  | compareDateRange {dimension : Option Member} {granularity : Option String}
      {first last : String} (hmode : context.mode = .compareDateRange)
      (htds : context.query.timeDimensions =
        [⟨dimension, granularity, some (.bounded first last)⟩]) :
      Lists context row
        (context.columnListing row ++ [("compareDateRange", .string (first ++ " - " ++ last))])
  | blending {dimension : Member} {granularity : String} {range : Option DateRange}
      {value : WireValue} (hmode : context.mode = .blending)
      (htds : context.query.timeDimensions = [⟨some dimension, some granularity, range⟩])
      (hlast : LastValue (context.columnListing row)
        (dimension.withGranularity granularity).path value) :
      Lists context row (context.columnListing row ++ [("time." ++ granularity, value)])

theorem fill_empty {α : Type} (value : String → α) (columns : List String) :
    context.fill value .empty columns =
      .ofList
        (columns.flatMap fun column ↦ (context.columnNames column).map (·, value column)) := by
  rw [fill, OrderedMap.ofList, OrderedMap.insertList, List.foldl_flatMap]
  rfl

/-- The values of the columns settle the first part of the listing. -/
theorem columnWires_eq_ofList (context : Context) (row : RawRow) :
    context.columnWires row = .ofList (context.columnListing row) := by
  rw [columnWires, fill_empty, OrderedMap.keys, List.flatMap_map, columnListing]
  refine congrArg OrderedMap.ofList (List.flatMap_congr fun entry hentry ↦ ?_)
  rw [columnValue, OrderedMap.get?_of_mem hentry]
  rfl

/-- Members read from columns show the values of a row in their order, name by name. -/
theorem map_toList_columnSources (context : Context) (columns : List String) (row : RawRow)
    (label : Option String) :
    (context.columnSources columns).toList.map (Prod.map id (Source.value label row)) =
      (context.orderedWires columns row).toList := by
  rw [columnSources, orderedWires, fill_empty, fill_empty, OrderedMap.map_toList_ofList,
    List.map_flatMap]
  simp only [List.map_map]
  rfl

/-! ### Two ways to shape a row -/

/-- The names and the values of a row that is read by its own members. -/
def compactAlone (context : Context) (row : RawRow) :
    Except ResponseError (List String × List WireValue) := do
  let members ← context.members [row]
  let values ← compactRow members context.mode context.query.timeDimensions row
  return (members.keys, values)

/-- The names and values of a row of a response, as a member list and a compact row give them. -/
def unzipped (wire : WireRow) : List String × List WireValue :=
  (wire.keys, wire.toList.map Prod.snd)

/-- Members that show a row name by name give what it shows. -/
theorem unzipped_eq {members : MemberMap} {label : Option String} {wire : WireRow}
    (h : members.toList.map (Prod.map id (Source.value label row)) = wire.toList) :
    (members.keys, members.toList.map (·.2.value label row)) = unzipped wire := by
  rw [unzipped, OrderedMap.keys, OrderedMap.keys, ← h, List.map_map, List.map_map]
  rfl

/-- The derived member is added to the members of columns and to their values alike. -/
theorem map_toList_insert (context : Context) (columns : List String) (row : RawRow)
    (label : Option String) (name : String) (source : Source) :
    ((context.columnSources columns).insert name source).toList.map
        (Prod.map id (Source.value label row)) =
      ((context.orderedWires columns row).insert name (source.value label row)).toList := by
  rw [OrderedMap.toList_insert, OrderedMap.toList_insert, Entries.map_put,
    map_toList_columnSources]

/-- **Reading a row by members.** The members of columns, with that of the mode, read from a row
what its values in the order of the columns come to. -/
theorem compactRow_eq_addDerivedValue (context : Context) (columns : List String) (row : RawRow) :
    (do
      let members ← context.addDerived (context.columnSources columns)
      let values ← compactRow members context.mode context.query.timeDimensions row
      return (members.keys, values)) =
      unzipped <$> context.addDerivedValue (context.orderedWires columns row) := by
  rw [addDerived, addDerivedValue]
  cases hmode : context.mode with
  | regular =>
    exact congrArg Except.ok (unzipped_eq (map_toList_columnSources context columns row none))
  | compareDateRange =>
    show (compactRow _ _ _ row >>= _) = _
    rw [compactRow]
    rcases rangeLabel context.query.timeDimensions with error | label
    · rfl
    · have hlabel :=
        map_toList_insert context columns row (some label) rangeLabelName .rangeLabel
      exact congrArg Except.ok (unzipped_eq hlabel)
  | blending =>
    rcases blendingKey context.query.timeDimensions with error | key
    · rfl
    · rcases blendingMember context.query.timeDimensions with error | member
      · rfl
      · have hsource : (context.columnSources columns).get? member.path = _ :=
          get?_columnSources columns member.path
        have hvalue : (context.orderedWires columns row).get? member.path = _ :=
          get?_orderedWires columns row member.path
        rw [columnReading] at hvalue
        simp only [bind, Except.bind, hsource, hvalue]
        rcases context.giver? columns member.path with - | column
        · rfl
        · exact congrArg Except.ok (unzipped_eq (map_toList_insert context columns row none key
            (.blending column (context.columnType column))))

theorem compactAlone_of_visible (hvisible : ∀ column ∈ row.keys, context.Visible column) :
    context.compactAlone row = unzipped <$> context.addDerivedValue (context.columnWires row) := by
  rw [compactAlone, members_cons hvisible]
  exact compactRow_eq_addDerivedValue context row.keys row

/-- Reading a row by its own members comes to the same as shaping it by itself. -/
theorem compactAlone_eq_map (context : Context) (row : RawRow) :
    context.compactAlone row = unzipped <$> context.vanillaRow row := by
  rcases visible_or_firstHidden context row.keys with
    hvisible | ⟨column, before, after, hkeys, hbefore, hcolumn⟩
  · rw [compactAlone_of_visible hvisible, vanillaRow_of_visible hvisible]
  · have hmembers : context.members [row] =
        .error (.hiddenMember column (context.aliases.get? column)) := by
      rw [members, hkeys, columnMembers_of_not_visible hbefore hcolumn]
      rfl
    rw [compactAlone, hmembers, vanillaRow,
      columnValues_of_not_visible hbefore hcolumn hkeys]
    rfl

/-! ### What both give -/

/-- Adding the value of the derived member makes the check of the mode again. -/
theorem checkMode_bind_addDerivedValue (context : Context) (values : WireRow) :
    (checkMode context.mode context.query >>= fun _ ↦ context.addDerivedValue values) =
      context.addDerivedValue values := by
  rw [addDerivedValue]
  cases context.mode with
  | regular => rfl
  | compareDateRange =>
    rw [checkMode]
    rcases rangeLabel context.query.timeDimensions with error | label
    · rfl
    · rfl
  | blending =>
    rw [checkMode]
    rcases blendingKey context.query.timeDimensions with error | key
    · rfl
    · rcases blendingMember context.query.timeDimensions with error | member
      · rfl
      · rfl

/-- A row whose columns are visible settles what it lists. -/
theorem vanillaRow_of_lists (hvisible : ∀ column ∈ row.keys, context.Visible column)
    {listing : List (String × WireValue)} (h : context.Lists row listing) :
    context.vanillaRow row = .ok (.ofList listing) := by
  rw [vanillaRow_of_visible hvisible, columnWires_eq_ofList]
  cases h with
  | regular hmode => rw [addDerivedValue, hmode]
  | compareDateRange hmode htds =>
    rw [addDerivedValue, hmode, htds, OrderedMap.ofList_append]
    rfl
  | blending hmode htds hlast =>
    rw [addDerivedValue_of_blending hmode htds, OrderedMap.get?_ofList_eq_some_iff.2 hlast,
      OrderedMap.ofList_append]

/-- A row that is shaped has visible columns, and it lists something. -/
theorem exists_lists_of_vanillaRow {wire : WireRow} (h : context.vanillaRow row = .ok wire) :
    (∀ column ∈ row.keys, context.Visible column) ∧ ∃ listing, context.Lists row listing := by
  rcases visible_or_firstHidden context row.keys with
    hvisible | ⟨column, before, after, hkeys, hbefore, hcolumn⟩
  · refine ⟨hvisible, ?_⟩
    rw [vanillaRow_of_visible hvisible] at h
    rcases configured_or_modeFault context with hmode | ⟨error, hfault⟩
    · cases hmode with
      | regular hmode => exact ⟨_, .regular hmode⟩
      | compareDateRange hmode htds => exact ⟨_, .compareDateRange hmode htds⟩
      | @blending dimension granularity range hmode htds =>
        rw [addDerivedValue_of_blending hmode htds, columnWires_eq_ofList] at h
        rcases hvalue : (OrderedMap.ofList (context.columnListing row)).get?
          (dimension.withGranularity granularity).path with - | value
        · rw [hvalue] at h
          cases h
        · exact ⟨_, .blending hmode htds (OrderedMap.get?_ofList_eq_some_iff.1 hvalue)⟩
    · rw [← checkMode_bind_addDerivedValue, checkMode_of_modeFault hfault] at h
      cases h
  · rw [vanillaRow, columnValues_of_not_visible hbefore hcolumn hkeys] at h
    cases h

theorem vanillaRow_eq_ok_iff {wire : WireRow} :
    context.vanillaRow row = .ok wire ↔
      (∀ column ∈ row.keys, context.Visible column) ∧
        ∃ listing, context.Lists row listing ∧ Settles listing wire.toList := by
  constructor
  · intro h
    obtain ⟨hvisible, listing, hlists⟩ := exists_lists_of_vanillaRow h
    obtain rfl := Except.ok.inj ((vanillaRow_of_lists hvisible hlists).symm.trans h)
    exact ⟨hvisible, listing, hlists, OrderedMap.settles_ofList listing⟩
  · rintro ⟨hvisible, listing, hlists, hsettles⟩
    rw [vanillaRow_of_lists hvisible hlists, hsettles.eq_ofList]

/-- **A row by itself.** Read by its own members or shaped by itself, a row has the same error, or
the same names, which are distinct, and the same values position by position. It has them exactly
if its columns are visible and it lists something, and then the names stand where they first occur
in what it lists, each with the value of its last occurrence. -/
theorem compactAlone_eq (context : Context) (row : RawRow) :
    context.compactAlone row =
      (fun wire ↦ (wire.keys, wire.toList.map Prod.snd)) <$> context.vanillaRow row ∧
    ∀ wire, context.vanillaRow row = .ok wire ↔
      wire.keys.Nodup ∧ (∀ column ∈ row.keys, context.Visible column) ∧
        ∃ listing, context.Lists row listing ∧ Settles listing wire.toList := by
  refine ⟨compactAlone_eq_map context row, fun wire ↦ ?_⟩
  have hdistinct : wire.keys.Nodup := wire.distinct
  rw [vanillaRow_eq_ok_iff, and_iff_right hdistinct]

/-- A result that is blended by day. Two columns stand for the day, others for the names that the
day and the month are also given under. -/
def dailyBlend : Context where
  mode := .blending
  query := ⟨[], [], [⟨some ⟨"O.at"⟩, some "day", none⟩], [], [], [], none, none, none⟩
  annotations := .ofList [("O.at.day", .ofType .time), ("O.at.month", .ofType .string),
    ("time.day", .ofType .string), ("O.at", .ofType .string)]
  aliases := .ofList [("a", ⟨"O.at.day"⟩), ("b", ⟨"O.at.month"⟩), ("c", ⟨"O.at.day"⟩),
    ("k", ⟨"time.day"⟩), ("d", ⟨"O.at"⟩)]

/-- Every name keeps its first place. The day has the value of its second column, and so has the
key, in the place of a column of that name. -/
example :
    dailyBlend.compactAlone (.ofList [("a", .string "2024-01-02"), ("b", .string "January"),
      ("k", .string "?"), ("d", .string "now"), ("c", .string "2024-02-03")]) =
      .ok (["O.at.day", "O.at", "O.at.month", "time.day"],
        [.string "2024-02-03T00:00:00.000", .string "2024-02-03T00:00:00.000", .string "January",
          .string "2024-02-03T00:00:00.000"]) := by
  decide +kernel

end Context

end SemanticLayer.Response
