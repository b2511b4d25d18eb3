import SemanticLayer.Proofs.Response.Outcome

/-!
# The two shapes of a response

A compact response lists the values of a row in the order of its members, and a response by member
keys them by name. The two exist for the same results, have the same rows, and give the same names
for each row. Whether they also give the same values is a matter of names that several columns
give: the compact response takes the last of these in the order of the first row, the response by
member takes the last in the order of the row itself. Under a name they agree exactly if these two
columns have the same value in the row (`Context.Agrees`, `Context.respond_compact_vanilla`).

They may differ where a row lists its columns in another order
(`Context.shapes_differ_on_reordered_columns`).
-/

namespace SemanticLayer.Response

open Query

namespace Context

variable {context : Context}

/-- The columns of a result: those of its first row, in order. -/
def firstColumns (rows : List RawRow) : List String :=
  (rows.head?.map OrderedMap.keys).getD []

/-! ### Two orders of columns -/

/-- A row agrees with the columns of the result under a name, although its own columns may come in
another order: the last column that gives the name has the same value in both orders. The label of
a range is read from no column. -/
def Agrees (context : Context) (columns : List String) (row : RawRow) (name : String) : Prop :=
  ∀ source, context.origin name = .columns source → ∀ column other,
    context.LastGiver columns source column → context.LastGiver row.keys source other →
      columnValue row column (context.columnType column) =
        columnValue row other (context.columnType other)

/-- A name is read alike in two orders exactly if its last columns have one value. -/
theorem columnReading_eq_iff {columns others : List String}
    (hsame : ∀ column, column ∈ others ↔ column ∈ columns) (row : RawRow) (name : String) :
    context.columnReading others row name = context.columnReading columns row name ↔
      ∀ column other, context.LastGiver columns name column → context.LastGiver others name other →
        columnValue row column (context.columnType column) =
          columnValue row other (context.columnType other) := by
  simp only [← giver?_eq_some_iff, columnReading]
  rcases hcolumn : context.giver? columns name with - | column
  · -- a name that one order does not give is not given by the other
    have hother : context.giver? others name = none := by
      rw [Option.eq_none_iff_forall_ne_some]
      intro other hother
      have hgives := (exists_giver?_iff.1 ⟨other, hother⟩).mono fun column ↦ (hsame column).1
      obtain ⟨column, hsome⟩ := exists_giver?_iff.2 hgives
      rw [hcolumn] at hsome
      cases hsome
    rw [hother]
    refine ⟨fun _ column other h ↦ ?_, fun _ ↦ rfl⟩
    cases h
  · have hgives := (exists_giver?_iff.1 ⟨column, hcolumn⟩).mono fun column ↦ (hsame column).2
    obtain ⟨other, hother⟩ := exists_giver?_iff.2 hgives
    rw [hother, Option.map_some, Option.map_some, Option.some.injEq]
    constructor
    · rintro heq _ _ ⟨⟩ ⟨⟩
      exact heq.symm
    · intro h
      exact (h column other rfl rfl).symm

theorem reading_eq_iff_agrees {columns : List String} {row : RawRow}
    (hsame : ∀ column, column ∈ row.keys ↔ column ∈ columns) (name : String) :
    context.reading row.keys row name = context.reading columns row name ↔
      context.Agrees columns row name := by
  rcases horigin : context.origin name with text | source
  · rw [reading_of_label horigin, reading_of_label horigin]
    refine ⟨fun _ source h ↦ ?_, fun _ ↦ rfl⟩
    rw [horigin] at h
    cases h
  · rw [reading_of_columns horigin, reading_of_columns horigin, columnReading_eq_iff hsame]
    constructor
    · intro h other hother
      obtain rfl := Origin.columns.inj (horigin.symm.trans hother)
      exact h
    · intro h
      exact h source horigin

/-! ### Rekeying -/

/-- What a row by member has to do with the compact row for the same row of a result. It has the
members as keys, and under a member the value at that position exactly if the row agrees there with
the columns of the result. -/
structure Rekeys (context : Context) (columns : List String) (row : RawRow)
    (members : List String) (values : List WireValue) (wire : WireRow) : Prop where
  length_eq : values.length = members.length
  mem_keys_iff : ∀ name, name ∈ wire.keys ↔ name ∈ members
  get?_iff : ∀ (position : Nat) (name : String) (value : WireValue),
    members[position]? = some name → values[position]? = some value →
      (wire.get? name = some value ↔ context.Agrees columns row name)

/-- A row is rekeyed if the one shape shows its readings in the order of the columns, and the other
shows them in its own order. -/
theorem rekeys_of_readings {columns : List String} {first row : RawRow}
    (hsame : ∀ column, column ∈ row.keys ↔ column ∈ columns) {members : List String}
    (hmembers : ∀ name, name ∈ members ↔ ∃ value, context.reading columns first name = some value)
    {values : List WireValue}
    (hvalues : values.map some = members.map (context.reading columns row))
    {wire : WireRow} (hwire : ∀ name, wire.get? name = context.reading row.keys row name) :
    context.Rekeys columns row members values wire where
  length_eq := by
    have hlength := congrArg List.length hvalues
    rwa [List.length_map, List.length_map] at hlength
  mem_keys_iff name := by
    rw [OrderedMap.mem_keys_iff, hmembers, hwire]
    exact ⟨fun h ↦ exists_reading_of_subset h fun column ↦ (hsame column).1,
      fun h ↦ exists_reading_of_subset h fun column ↦ (hsame column).2⟩
  get?_iff position name value hname hvalue := by
    have hposition : some (some value) = some (context.reading columns row name) := by
      have h := congrArg (·[position]?) hvalues
      simpa only [List.getElem?_map, hname, hvalue, Option.map_some] using h
    rw [hwire, Option.some.inj hposition]
    exact reading_eq_iff_agrees hsame name

/-- Where nothing is wrong, both shapes exist, and one rekeys the other. -/
theorem exists_rekeys (hmode : context.Configured) {rows : List RawRow}
    (hrows : context.Consistent rows) :
    ∃ members dataset wires, context.respond .compact rows = .ok (.compact members dataset) ∧
      context.respond .vanilla rows = .ok (.vanilla wires) ∧
      ∀ (index : Nat) row values wire, rows[index]? = some row → dataset[index]? = some values →
        wires[index]? = some wire →
        context.Rekeys (firstColumns rows) row members values wire := by
  cases hrows with
  | nil =>
    refine ⟨[], [], [], respond_nil hmode .compact, respond_nil hmode .vanilla,
      fun index row values wire hrow ↦ ?_⟩
    rw [List.getElem?_nil] at hrow
    cases hrow
  | @cons first rows hfirst hsame =>
    have hrows : ∀ row ∈ first :: rows, SameColumns first.keys row :=
      List.forall_mem_cons.2 ⟨fun column ↦ Iff.rfl, hsame⟩
    obtain ⟨members, dataset, hcompact, hmembers, hdataset⟩ :=
      exists_respond_compact hmode hfirst hrows
    obtain ⟨wires, hvanilla, hwires⟩ := exists_respond_vanilla hmode hfirst hrows
    refine ⟨members, dataset, wires, hcompact, hvanilla,
      fun index row values wire hrow hvalues hwire ↦ ?_⟩
    exact rekeys_of_readings (hrows row (List.mem_of_getElem? hrow)) hmembers
      (related_of_getElem? hdataset hrow hvalues) (related_of_getElem? hwires hrow hwire)

/-- **The two shapes of a response.** One exists exactly if the other does. Both have a row for each
row of the result, and row by row the keys of the one are the members of the other; the values under
a member are the same exactly if the row agrees there with the columns of the first row. -/
theorem respond_compact_vanilla (context : Context) (rows : List RawRow) :
    ((∃ members dataset, context.respond .compact rows = .ok (.compact members dataset)) ↔
      ∃ wires, context.respond .vanilla rows = .ok (.vanilla wires)) ∧
    ∀ members dataset wires, context.respond .compact rows = .ok (.compact members dataset) →
      context.respond .vanilla rows = .ok (.vanilla wires) →
      dataset.length = rows.length ∧ wires.length = rows.length ∧
      ∀ (index : Nat) row values wire, rows[index]? = some row → dataset[index]? = some values →
        wires[index]? = some wire →
        context.Rekeys (firstColumns rows) row members values wire := by
  refine ⟨⟨?_, ?_⟩, fun members dataset wires hcompact hvanilla ↦ ⟨?_, ?_, ?_⟩⟩
  · rintro ⟨members, dataset, hcompact⟩
    obtain ⟨hmode, hrows⟩ := consistent_of_respond hcompact
    obtain ⟨-, -, wires, -, hvanilla, -⟩ := exists_rekeys hmode hrows
    exact ⟨wires, hvanilla⟩
  · rintro ⟨wires, hvanilla⟩
    obtain ⟨hmode, hrows⟩ := consistent_of_respond hvanilla
    obtain ⟨members, dataset, -, hcompact, -⟩ := exists_rekeys hmode hrows
    exact ⟨members, dataset, hcompact⟩
  · exact rowCount_of_respond hcompact
  · exact rowCount_of_respond hvanilla
  · obtain ⟨hmode, hrows⟩ := consistent_of_respond hcompact
    obtain ⟨members', dataset', wires', hcompact', hvanilla', hrekeys⟩ := exists_rekeys hmode hrows
    obtain ⟨rfl, rfl⟩ := Body.compact.inj (Except.ok.inj (hcompact'.symm.trans hcompact))
    obtain rfl := Body.vanilla.inj (Except.ok.inj (hvanilla'.symm.trans hvanilla))
    exact hrekeys

/-- A result with two columns for one member. -/
def repeated : Context where
  mode := .regular
  query := ⟨[], [⟨"Orders.status"⟩], [], [], [], [], none, none, none⟩
  annotations := .ofList [("Orders.status", .ofType .string)]
  aliases := .ofList [("a", ⟨"Orders.status"⟩), ("b", ⟨"Orders.status"⟩)]

/-- A row that lists the columns in one order, and one that lists them in the other. -/
def reorderedRows : List RawRow :=
  [.ofList [("a", .string "1"), ("b", .string "2")],
    .ofList [("b", .string "3"), ("a", .string "4")]]

/-- The compact row and the row by member of the second row, in which the order is another. -/
theorem rekeys_of_reorderedRows :
    repeated.respond .compact reorderedRows =
      .ok (.compact ["Orders.status"] [[.string "2"], [.string "3"]]) ∧
    repeated.respond .vanilla reorderedRows =
      .ok (.vanilla [.ofList [("Orders.status", .string "2")],
        .ofList [("Orders.status", .string "4")]]) ∧
    repeated.Rekeys ["a", "b"] (.ofList [("b", .string "3"), ("a", .string "4")])
      ["Orders.status"] [.string "3"] (.ofList [("Orders.status", .string "4")]) := by
  obtain ⟨-, hshapes⟩ := respond_compact_vanilla repeated reorderedRows
  obtain ⟨-, -, hrows⟩ := hshapes _ _ _ rfl rfl
  exact ⟨rfl, rfl, hrows 1 _ _ _ rfl rfl rfl⟩

/-- The second row does not agree with the first. -/
theorem shapes_differ_on_reordered_columns :
    repeated.respond .compact reorderedRows =
      .ok (.compact ["Orders.status"] [[.string "2"], [.string "3"]]) ∧
    repeated.respond .vanilla reorderedRows =
      .ok (.vanilla [.ofList [("Orders.status", .string "2")],
        .ofList [("Orders.status", .string "4")]]) :=
  ⟨rfl, rfl⟩

end Context

end SemanticLayer.Response
