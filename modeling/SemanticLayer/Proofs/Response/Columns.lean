import SemanticLayer.Proofs.OrderedMap
import SemanticLayer.Response.Basic

/-!
# Columns and the names that they give

A column stands for a member, and a response gives the member's values under one or two names. Both
are fixed by the context alone, so they are functions of the column here (`Context.columnNames`,
`Context.columnType`), and a column is **visible** if its member is annotated.

Both shapes of a response collect one value for each column under all of its names, one column
after another (`Context.fill`). Two columns may give one name: then the later one counts. The column
that a name is read from is therefore the last of those that give it (`Context.giver?`,
`Context.get?_fill`), and it depends on the order of the columns, while the question whether there
is one does not (`Context.exists_giver?_iff`).

The collections of the two shapes are `Context.columnMembers_of_visible` and
`Context.columnValues_of_visible`; if a column is not visible, the first such column is the error.
-/

namespace SemanticLayer.Response

open Query

namespace Context

variable {context : Context}

/-! ### Visible columns -/

/-- A column is visible: it stands for a member that is annotated. -/
def Visible (context : Context) (column : String) : Prop :=
  ∃ member details, context.aliases.get? column = some member ∧
    context.annotations.get? member.path = some details

/-- The names that a column gives. -/
def columnNames (context : Context) (column : String) : List String :=
  match context.aliases.get? column with
  | some member => context.namesOf member
  | none => []

/-- The type of the values of a column. -/
def columnType (context : Context) (column : String) : SemanticType :=
  match (context.aliases.get? column).bind fun member ↦ context.annotations.get? member.path with
  | some details => details.type
  | none => .other

theorem visibleMember_of_visible {column : String} (h : context.Visible column) :
    ∃ member details, context.visibleMember column = .ok (member, details) ∧
      context.columnNames column = context.namesOf member ∧
      context.columnType column = details.type := by
  obtain ⟨member, details, hmember, hdetails⟩ := h
  refine ⟨member, details, ?_, ?_, ?_⟩
  · simp only [visibleMember, hmember, hdetails]
  · simp only [columnNames, hmember]
  · simp only [columnType, hmember, Option.bind_some, hdetails]

/-- The error of a column that is not visible names the member, if there is one. -/
theorem visibleMember_of_not_visible {column : String} (h : ¬context.Visible column) :
    context.visibleMember column =
      .error (.hiddenMember column (context.aliases.get? column)) := by
  rcases hmember : context.aliases.get? column with - | member
  · simp only [visibleMember, hmember]
  · rcases hdetails : context.annotations.get? member.path with - | details
    · simp only [visibleMember, hmember, hdetails]
    · exact absurd ⟨member, details, hmember, hdetails⟩ h

instance (context : Context) (column : String) : Decidable (context.Visible column) :=
  decidable_of_iff (context.visibleMember column).toOption.isSome <| by
    by_cases h : context.Visible column
    · obtain ⟨member, details, hok, -⟩ := visibleMember_of_visible h
      rw [hok]
      exact ⟨fun _ ↦ h, fun _ ↦ rfl⟩
    · rw [visibleMember_of_not_visible h]
      exact ⟨fun hsome ↦ absurd hsome Bool.false_ne_true, fun hvisible ↦ absurd hvisible h⟩

/-! ### The columns that give a name -/

/-- One of the columns gives a name. -/
def Gives (context : Context) (columns : List String) (name : String) : Prop :=
  ∃ column ∈ columns, name ∈ context.columnNames column

/-- The column that a name is read from: the last one that gives it. -/
def giver? (context : Context) (columns : List String) (name : String) : Option String :=
  columns.reverse.find? fun column ↦ (context.columnNames column).contains name

theorem giver?_cons (column : String) (columns : List String) (name : String) :
    context.giver? (column :: columns) name =
      (context.giver? columns name).or
        (if name ∈ context.columnNames column then some column else none) := by
  rw [giver?, List.reverse_cons, List.find?_append, List.find?_singleton, giver?]
  by_cases h : name ∈ context.columnNames column
  · rw [if_pos h, if_pos (List.contains_iff_mem.2 h)]
  · rw [if_neg h, if_neg (mt List.contains_iff_mem.1 h)]

/-- A column is the last of some columns that gives a name. -/
def LastGiver (context : Context) (columns : List String) (name column : String) : Prop :=
  ∃ before after, columns = before ++ column :: after ∧ name ∈ context.columnNames column ∧
    ∀ later ∈ after, name ∉ context.columnNames later

theorem giver?_eq_some_iff {columns : List String} {name column : String} :
    context.giver? columns name = some column ↔ context.LastGiver columns name column := by
  rw [giver?, List.find?_eq_some_iff_append, List.contains_iff_mem]
  constructor
  · rintro ⟨hname, after, before, hreverse, hafter⟩
    refine ⟨before.reverse, after.reverse, ?_, hname, fun later hlater hgives ↦ ?_⟩
    · rw [← List.reverse_reverse columns, hreverse, List.reverse_append, List.reverse_cons,
        List.append_assoc, List.singleton_append]
    · have habsent := hafter later (List.mem_reverse.1 hlater)
      rw [List.contains_iff_mem.2 hgives] at habsent
      exact absurd habsent Bool.false_ne_true
  · rintro ⟨before, after, rfl, hname, hafter⟩
    refine ⟨hname, after.reverse, before.reverse, ?_, fun later hlater ↦ ?_⟩
    · rw [List.reverse_append, List.reverse_cons, List.append_assoc, List.singleton_append]
    · rw [Bool.not_eq_true', ← Bool.not_eq_true, List.contains_iff_mem]
      exact hafter later (List.mem_reverse.1 hlater)

/-- Whether a name is given does not depend on the order of the columns. -/
theorem exists_giver?_iff {columns : List String} {name : String} :
    (∃ column, context.giver? columns name = some column) ↔ context.Gives columns name := by
  constructor
  · rintro ⟨column, h⟩
    have hname := List.find?_some (p := fun column ↦ (context.columnNames column).contains name) h
    exact ⟨column, List.mem_reverse.1 (List.mem_of_find?_eq_some h),
      List.contains_iff_mem.1 hname⟩
  · rintro ⟨column, hcolumn, hname⟩
    refine Option.isSome_iff_exists.1 (List.find?_isSome.2 ⟨column, ?_, ?_⟩)
    · exact List.mem_reverse.2 hcolumn
    · exact List.contains_iff_mem.2 hname

theorem Gives.mono {columns others : List String} {name : String}
    (h : context.Gives columns name) (hle : ∀ column ∈ columns, column ∈ others) :
    context.Gives others name := by
  obtain ⟨column, hcolumn, hname⟩ := h
  exact ⟨column, hle column hcolumn, hname⟩

/-- Names that the same columns give are read from the same column. -/
theorem giver?_congr {columns : List String} {name other : String}
    (h : ∀ column ∈ columns,
      name ∈ context.columnNames column ↔ other ∈ context.columnNames column) :
    context.giver? columns name = context.giver? columns other := by
  induction columns with
  | nil => rfl
  | cons column columns ih =>
    obtain ⟨hcolumn, hcolumns⟩ := List.forall_mem_cons.1 h
    rw [giver?_cons, giver?_cons, ih hcolumns]
    simp only [hcolumn]

/-! ### Collecting a value for each column -/

/-- Adds a value for each column, under the names that it gives. -/
def fill {α : Type} (context : Context) (value : String → α) (map : OrderedMap α)
    (columns : List String) : OrderedMap α :=
  columns.foldl
    (fun map column ↦ map.insertList ((context.columnNames column).map (·, value column))) map

/-- A name is answered by the last column that gives it. -/
theorem get?_fill {α : Type} (value : String → α) (map : OrderedMap α) (columns : List String)
    (name : String) :
    (context.fill value map columns).get? name =
      ((context.giver? columns name).map value).or (map.get? name) := by
  induction columns generalizing map with
  | nil => rfl
  | cons column columns ih =>
    show (context.fill value _ columns).get? name = _
    rw [ih, OrderedMap.get?_insertList_map, giver?_cons]
    -- a column further on that gives the name overrides the first one
    rcases context.giver? columns name with - | later
    · by_cases h : name ∈ context.columnNames column
      · rw [if_pos h, if_pos h]; rfl
      · rw [if_neg h, if_neg h]; rfl
    · rfl

/-! ### The two collections -/

theorem columnMembers_of_visible {columns : List String}
    (h : ∀ column ∈ columns, context.Visible column) (members : MemberMap) :
    context.columnMembers members columns =
      .ok (context.fill (fun column ↦ .column column (context.columnType column)) members
        columns) := by
  induction columns generalizing members with
  | nil => rfl
  | cons column columns ih =>
    obtain ⟨hcolumn, hcolumns⟩ := List.forall_mem_cons.1 h
    -- the member is forgotten here: its names and its type are those of the column
    obtain ⟨member, details, hok, hnames, htype⟩ := visibleMember_of_visible hcolumn
    rw [columnMembers, hok]
    show context.columnMembers (context.insertNamed members member _) columns = _
    rw [ih hcolumns, insertNamed, ← hnames, ← htype]
    rfl

/-- The first column that is not visible is the error, whatever stands behind it. -/
theorem columnMembers_of_not_visible {before : List String}
    (hbefore : ∀ column ∈ before, context.Visible column) {column : String}
    (hcolumn : ¬context.Visible column) (after : List String) (members : MemberMap) :
    context.columnMembers members (before ++ column :: after) =
      .error (.hiddenMember column (context.aliases.get? column)) := by
  induction before generalizing members with
  | nil =>
    rw [List.nil_append, columnMembers, visibleMember_of_not_visible hcolumn]
    rfl
  | cons first before ih =>
    obtain ⟨hfirst, hbefore⟩ := List.forall_mem_cons.1 hbefore
    obtain ⟨member, details, hok, -⟩ := visibleMember_of_visible hfirst
    rw [List.cons_append, columnMembers, hok]
    exact ih hbefore _

/-- The same error for the values of the columns. -/
theorem columnValues_of_not_visible {before after : List String}
    (hbefore : ∀ column ∈ before, context.Visible column) {column : String}
    (hcolumn : ¬context.Visible column) {entries : List (String × RawValue)}
    (hentries : entries.map Prod.fst = before ++ column :: after) (values : WireRow) :
    context.columnValues values entries =
      .error (.hiddenMember column (context.aliases.get? column)) := by
  induction before generalizing entries values with
  | nil =>
    obtain ⟨entry, rest, rfl, rfl, -⟩ := List.map_eq_cons_iff.1 hentries
    rw [columnValues, visibleMember_of_not_visible hcolumn]
    rfl
  | cons first before ih =>
    obtain ⟨entry, rest, rfl, rfl, hrest⟩ := List.map_eq_cons_iff.1 hentries
    obtain ⟨hfirst, hbefore⟩ := List.forall_mem_cons.1 hbefore
    obtain ⟨member, details, hok, -⟩ := visibleMember_of_visible hfirst
    rw [columnValues, hok]
    exact ih hbefore hrest _

/-- The values of entries of a row. That the row has them is asked of the entries, since the
induction takes them one by one. -/
theorem columnValues_of_visible {row : RawRow} {entries : List (String × RawValue)}
    (hentries : ∀ entry ∈ entries, row.get? entry.1 = some entry.2)
    (h : ∀ column ∈ entries.map Prod.fst, context.Visible column) (values : WireRow) :
    context.columnValues values entries =
      .ok (context.fill (fun column ↦ columnValue row column (context.columnType column)) values
        (entries.map Prod.fst)) := by
  induction entries generalizing values with
  | nil => rfl
  | cons entry entries ih =>
    obtain ⟨column, raw⟩ := entry
    obtain ⟨hentry, hentries⟩ := List.forall_mem_cons.1 hentries
    obtain ⟨hcolumn, hcolumns⟩ := List.forall_mem_cons.1 h
    obtain ⟨member, details, hok, hnames, htype⟩ := visibleMember_of_visible hcolumn
    have hvalue : columnValue row column (context.columnType column) = raw.coerce details.type := by
      rw [columnValue, hentry, htype, Option.getD_some]
    rw [columnValues, hok]
    show context.columnValues (context.insertNamed values member _) entries = _
    rw [ih hentries hcolumns, insertNamed, ← hnames, ← hvalue]
    rfl

end Context

end SemanticLayer.Response
