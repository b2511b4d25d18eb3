import SemanticLayer.Proofs.Response.Rekeying

/-!
# Responses under other maps

A result is read with two maps: one says which members its columns stand for, the other which of
these members its reader may see. Neither may influence a response except through the columns that
the result has. So entries of members that it does not show can be added or deleted, and nothing
about the response changes, while the deletion of an entry that it does show leaves no response
behind at all (`Context.respond_of_visibility`).

The only place where the maps are looked up is `Context.visibleMember`. Maps that give the same for
the columns of all rows therefore give the same response, or the same error
(`Context.respond_under_congr`). This is asked of later rows as well, whose columns are looked up
again; where there is a response, they have the columns of the first row only.
-/

namespace SemanticLayer

namespace OrderedMap

variable {α : Type}

/-- A map has all entries of another. -/
def Extends (map other : OrderedMap α) : Prop :=
  ∀ key value, other.get? key = some value → map.get? key = some value

theorem extends_of_forall_mem {map other : OrderedMap α}
    (h : ∀ entry ∈ other.toList, map.get? entry.1 = some entry.2) : map.Extends other :=
  fun key value hvalue ↦ h (key, value) (mem_of_get? hvalue)

end OrderedMap

namespace Response

open Query

namespace Context

variable {context : Context}

/-- The same result, read with other maps. -/
def under (context : Context) (annotations : Annotations) (aliases : AliasMap) : Context :=
  { context with annotations := annotations, aliases := aliases }

/-! ### Maps that give the same -/

/-- The other maps give the same for these columns. -/
def ReadsAlike (context : Context) (annotations : Annotations) (aliases : AliasMap)
    (columns : List String) : Prop :=
  ∀ column ∈ columns,
    (context.under annotations aliases).visibleMember column = context.visibleMember column

section ReadsAlike

variable {annotations : Annotations} {aliases : AliasMap}

theorem columnMembers_under {columns : List String}
    (h : context.ReadsAlike annotations aliases columns) (members : MemberMap) :
    (context.under annotations aliases).columnMembers members columns =
      context.columnMembers members columns := by
  induction columns generalizing members with
  | nil => rfl
  | cons column columns ih =>
    obtain ⟨hcolumn, hcolumns⟩ := List.forall_mem_cons.1 h
    rw [columnMembers, columnMembers, hcolumn]
    exact bind_congr fun found ↦ ih hcolumns _

theorem columnValues_under {entries : List (String × RawValue)}
    (h : context.ReadsAlike annotations aliases (entries.map Prod.fst)) (values : WireRow) :
    (context.under annotations aliases).columnValues values entries =
      context.columnValues values entries := by
  induction entries generalizing values with
  | nil => rfl
  | cons entry entries ih =>
    obtain ⟨column, raw⟩ := entry
    obtain ⟨hcolumn, hcolumns⟩ := List.forall_mem_cons.1 h
    rw [columnValues, columnValues, hcolumn]
    exact bind_congr fun found ↦ ih hcolumns _

theorem vanillaRow_under {row : RawRow} (h : context.ReadsAlike annotations aliases row.keys) :
    (context.under annotations aliases).vanillaRow row = context.vanillaRow row := by
  rw [vanillaRow, vanillaRow, columnValues_under h]
  rfl

theorem checkColumns_under {row : RawRow} (h : context.ReadsAlike annotations aliases row.keys)
    (columns : List String) (index : Nat) :
    (context.under annotations aliases).checkColumns columns index row =
      context.checkColumns columns index row := by
  rw [checkColumns, checkColumns]
  cases hfind : row.keys.find? (!columns.contains ·) with
  | none => rfl
  | some column => simp only [h column (List.mem_of_find?_eq_some hfind)]

/-- The shape of a row may be computed with the other maps, too. -/
theorem shapeRows_under {α : Type} {shape shape' : RawRow → Except ResponseError α}
    {rows : List RawRow} (h : ∀ row ∈ rows, context.ReadsAlike annotations aliases row.keys)
    (hshape : ∀ row ∈ rows, shape' row = shape row) (columns : List String) (index : Nat) :
    (context.under annotations aliases).shapeRows columns shape' index rows =
      context.shapeRows columns shape index rows := by
  induction rows generalizing index with
  | nil => rfl
  | cons row rows ih =>
    obtain ⟨hrow, hrows⟩ := List.forall_mem_cons.1 h
    obtain ⟨hhead, htail⟩ := List.forall_mem_cons.1 hshape
    rw [shapeRows, shapeRows, checkColumns_under hrow, hhead, ih hrows htail]

theorem members_under {rows : List RawRow}
    (h : ∀ row ∈ rows, context.ReadsAlike annotations aliases row.keys) :
    (context.under annotations aliases).members rows = context.members rows := by
  cases rows with
  | nil => rfl
  | cons first rows =>
    rw [members, members, columnMembers_under (h first List.mem_cons_self)]
    rfl

/-- **Maps act through the columns of the rows only.** If they give the same for each of these, then
the response is the same, and so is the error. -/
theorem respond_under {rows : List RawRow}
    (h : ∀ row ∈ rows, context.ReadsAlike annotations aliases row.keys) (shape : Shape) :
    (context.under annotations aliases).respond shape rows = context.respond shape rows := by
  rw [respond, respond, members_under h]
  refine bind_congr fun _ ↦ bind_congr fun members ↦ ?_
  cases shape with
  | compact =>
    simp only [shapeRows_under h fun _ _ ↦ rfl]
    rfl
  | vanilla => simp only [shapeRows_under h fun row hrow ↦ vanillaRow_under (h row hrow)]

end ReadsAlike

/-! ### More entries and fewer -/

/-- Where nothing is wrong with the rows, all their columns are visible. -/
theorem Consistent.visible {rows : List RawRow} (h : context.Consistent rows) :
    ∀ row ∈ rows, ∀ column ∈ row.keys, context.Visible column := by
  cases h with
  | nil => exact fun row hrow ↦ absurd hrow List.not_mem_nil
  | @cons first rows hfirst hsame =>
    refine List.forall_mem_cons.2 ⟨hfirst.visible, fun row hrow column hcolumn ↦ ?_⟩
    exact hfirst.visible column ((hsame row hrow column).1 hcolumn)

/-- Later rows have the columns of the first row. -/
theorem Consistent.mem_firstColumns {rows : List RawRow} (h : context.Consistent rows) :
    ∀ row ∈ rows, ∀ column ∈ row.keys, column ∈ firstColumns rows := by
  cases h with
  | nil => exact fun row hrow ↦ absurd hrow List.not_mem_nil
  | @cons first rows hfirst hsame =>
    exact List.forall_mem_cons.2 ⟨fun column ↦ id, fun row hrow column ↦ (hsame row hrow column).1⟩

/-- Configuration is a matter of the query, not of the maps. -/
theorem Configured.under (h : context.Configured) (annotations : Annotations)
    (aliases : AliasMap) : (context.under annotations aliases).Configured := by
  cases h with
  | regular hmode => exact .regular hmode
  | compareDateRange hmode htds => exact .compareDateRange hmode htds
  | blending hmode htds => exact .blending hmode htds

theorem visibleMember_eq {column : String} {member : Member} {details : MemberDetails}
    (hmember : context.aliases.get? column = some member)
    (hdetails : context.annotations.get? member.path = some details) :
    context.visibleMember column = .ok (member, details) := by
  simp only [visibleMember, hmember, hdetails]

/-- A visible column reads alike with more entries. -/
theorem Visible.readsAlike_of_extends {annotations : Annotations} {aliases : AliasMap}
    (hannotations : annotations.Extends context.annotations)
    (haliases : aliases.Extends context.aliases) {columns : List String}
    (h : ∀ column ∈ columns, context.Visible column) :
    context.ReadsAlike annotations aliases columns := by
  intro column hcolumn
  obtain ⟨member, details, hmember, hdetails⟩ := h column hcolumn
  rw [visibleMember_eq hmember hdetails]
  exact visibleMember_eq (haliases _ _ hmember) (hannotations _ _ hdetails)

/-- The deletion of entries concerns a column: it stands for a member whose entry is deleted. -/
def HiddenBy (context : Context) (annotations : Annotations) (column : String) : Prop :=
  ∃ member, context.aliases.get? column = some member ∧
    member.path ∈ context.annotations.keys ∧ member.path ∉ annotations.keys

/-- A visible column reads alike with fewer entries if the deletion does not concern it. -/
theorem Visible.readsAlike_of_not_hiddenBy {annotations : Annotations}
    (hannotations : context.annotations.Extends annotations) {columns : List String}
    (h : ∀ column ∈ columns, context.Visible column ∧ ¬context.HiddenBy annotations column) :
    context.ReadsAlike annotations context.aliases columns := by
  intro column hcolumn
  obtain ⟨⟨member, details, hmember, hdetails⟩, hkept⟩ := h column hcolumn
  have hkey : member.path ∈ annotations.keys := by
    by_contra hdeleted
    exact hkept ⟨member, hmember, OrderedMap.mem_keys_iff.2 ⟨details, hdetails⟩, hdeleted⟩
  obtain ⟨other, hother⟩ := OrderedMap.mem_keys_iff.1 hkey
  -- the entry that is left is the one that was there before
  obtain rfl := Option.some.inj (hdetails.symm.trans (hannotations _ _ hother))
  rw [visibleMember_eq hmember hdetails]
  exact visibleMember_eq hmember hother

/-- A column that the deletion concerns is no longer visible. -/
theorem HiddenBy.not_visible {annotations : Annotations} {column : String}
    (h : context.HiddenBy annotations column) :
    ¬(context.under annotations context.aliases).Visible column := by
  obtain ⟨member, hmember, -, hdeleted⟩ := h
  rintro ⟨other, details, hother, hdetails⟩
  obtain rfl := Option.some.inj (hmember.symm.trans hother)
  exact hdeleted (OrderedMap.mem_keys_iff.2 ⟨details, hdetails⟩)

/-- Where there was a response, a deletion that concerns a column leaves the first such column as
the error. -/
theorem exists_hiddenMember_of_hiddenBy (hmode : context.Configured) {rows : List RawRow}
    (hrows : context.Consistent rows) {annotations : Annotations} {column : String}
    (hcolumn : column ∈ firstColumns rows) (hhidden : context.HiddenBy annotations column)
    (shape : Shape) :
    ∃ first member, (context.under annotations context.aliases).respond shape rows =
      .error (.hiddenMember first (some member)) := by
  cases hrows with
  | nil => cases hcolumn
  | @cons head rows hfirst hsame =>
    rcases visible_or_firstHidden (context.under annotations context.aliases) head.keys with
      hvisible | ⟨first, hfault⟩
    · exact absurd (hvisible column hcolumn) hhidden.not_visible
    · have hmem : first ∈ head.keys := by
        obtain ⟨before, after, hkeys, -⟩ := hfault
        exact hkeys ▸ List.mem_append_right _ List.mem_cons_self
      obtain ⟨member, -, hmember, -⟩ := hfirst.visible first hmem
      refine ⟨first, member, ?_⟩
      rw [respond_of_firstFault (.column (hmode.under _ _) hfault)]
      show Except.error (ResponseError.hiddenMember first (context.aliases.get? first)) = _
      rw [hmember]

/-- **Visibility.** A response stays what it is if entries are added to the maps, whatever they are.
If entries of the annotations are deleted, then the response either stays what it is or is refused
because of a hidden member, and it is refused exactly if a deleted entry is that of the member of
one of the columns. -/
theorem respond_of_visibility {shape : Shape} {rows : List RawRow} {body : Body}
    (h : context.respond shape rows = .ok body) :
    (∀ annotations aliases, OrderedMap.Extends annotations context.annotations →
      OrderedMap.Extends aliases context.aliases →
        (context.under annotations aliases).respond shape rows = .ok body) ∧
    ∀ annotations, context.annotations.Extends annotations →
      ((context.under annotations context.aliases).respond shape rows = .ok body ∨
        ∃ column member, (context.under annotations context.aliases).respond shape rows =
          .error (.hiddenMember column (some member))) ∧
      ((∃ column member?, (context.under annotations context.aliases).respond shape rows =
          .error (.hiddenMember column member?)) ↔
        ∃ column ∈ firstColumns rows, context.HiddenBy annotations column) := by
  obtain ⟨hmode, hrows⟩ := consistent_of_respond h
  refine ⟨fun annotations aliases hannotations haliases ↦ ?_, fun annotations hannotations ↦ ?_⟩
  · rw [respond_under fun row hrow ↦
      Visible.readsAlike_of_extends hannotations haliases (hrows.visible row hrow)]
    exact h
  · by_cases hhidden : ∃ column ∈ firstColumns rows, context.HiddenBy annotations column
    · obtain ⟨column, hcolumn, hdeleted⟩ := hhidden
      obtain ⟨first, member, herror⟩ :=
        exists_hiddenMember_of_hiddenBy hmode hrows hcolumn hdeleted shape
      exact ⟨.inr ⟨first, member, herror⟩, fun _ ↦ ⟨column, hcolumn, hdeleted⟩,
        fun _ ↦ ⟨first, some member, herror⟩⟩
    · have hkept : ∀ row ∈ rows, ∀ column ∈ row.keys,
          context.Visible column ∧ ¬context.HiddenBy annotations column :=
        fun row hrow column hcolumn ↦ ⟨hrows.visible row hrow column hcolumn, fun hdeleted ↦
          hhidden ⟨column, hrows.mem_firstColumns row hrow column hcolumn, hdeleted⟩⟩
      have hok := (respond_under (fun row hrow ↦
        Visible.readsAlike_of_not_hiddenBy hannotations (hkept row hrow)) shape).trans h
      refine ⟨.inl hok, ?_, fun hdeleted ↦ absurd hdeleted hhidden⟩
      rintro ⟨column, member?, herror⟩
      rw [hok] at herror
      cases herror

/-- A blended result by month, with an annotation for a member that it does not show. -/
def monthly : Context where
  mode := .blending
  query := ⟨[⟨"Orders.count"⟩], [], [⟨some ⟨"Orders.createdAt"⟩, some "month", none⟩], [], [], [],
    none, none, none⟩
  annotations := .ofList [("Orders.createdAt.month", .ofType .string),
    ("Orders.count", .ofType .number), ("Orders.margin", .ofType .number)]
  aliases := .ofList [("m", ⟨"Orders.createdAt.month"⟩), ("c", ⟨"Orders.count"⟩)]

/-- Two months. -/
def monthlyRows : List RawRow :=
  [.ofList [("m", .string "2021-01"), ("c", .string "7")],
    .ofList [("c", .null), ("m", .string "2021-02")]]

/-- A response does not depend on the annotation that it does not show, but it is refused without
one that it shows. -/
theorem respond_of_monthly_annotations :
    monthly.respond .compact monthlyRows = .ok (.compact
      ["Orders.createdAt.month", "Orders.createdAt", "Orders.count", "time.month"]
      [[.string "2021-01", .string "2021-01", .string "7", .string "2021-01"],
        [.string "2021-02", .string "2021-02", .null, .string "2021-02"]]) ∧
    (monthly.under (monthly.annotations.insert "Orders.total" (.ofType .number))
        (monthly.aliases.insert "t" ⟨"Orders.total"⟩)).respond .compact monthlyRows =
      monthly.respond .compact monthlyRows ∧
    ∃ column member?, (monthly.under (.ofList [("Orders.createdAt.month", .ofType .string),
        ("Orders.margin", .ofType .number)]) monthly.aliases).respond .compact monthlyRows =
      .error (.hiddenMember column member?) := by
  have hok : monthly.respond .compact monthlyRows = .ok (.compact
      ["Orders.createdAt.month", "Orders.createdAt", "Orders.count", "time.month"]
      [[.string "2021-01", .string "2021-01", .string "7", .string "2021-01"],
        [.string "2021-02", .string "2021-02", .null, .string "2021-02"]]) := rfl
  obtain ⟨hmore, hfewer⟩ := respond_of_visibility hok
  refine ⟨hok, hmore _ _ (OrderedMap.extends_of_forall_mem ?_)
    (OrderedMap.extends_of_forall_mem ?_), (hfewer _ (OrderedMap.extends_of_forall_mem ?_)).2.2 ?_⟩
  · exact List.forall_mem_cons.2
      ⟨rfl, List.forall_mem_cons.2 ⟨rfl, List.forall_mem_singleton.2 rfl⟩⟩
  · exact List.forall_mem_cons.2 ⟨rfl, List.forall_mem_singleton.2 rfl⟩
  · exact List.forall_mem_cons.2 ⟨rfl, List.forall_mem_singleton.2 rfl⟩
  · exact ⟨"c", by decide, ⟨"Orders.count"⟩, rfl, by decide, by decide⟩

end Context

end Response

end SemanticLayer
