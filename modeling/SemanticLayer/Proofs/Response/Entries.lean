import SemanticLayer.Proofs.Response.Independence
import SemanticLayer.Proofs.Response.Listing
import SemanticLayer.Proofs.Response.Rekeying

/-!
# Rows of a response, name by name

A row of a response is a list of names with values, whether it is written as a map or as a list of
values in the order of the members (`Body.entries`). Both shapes make this list alike: the columns
of the row give their values one after another, and the mode adds one in the end. What differs is
the order in which the columns are taken (`columnOrder`): a compact response takes them as they
stand in the first row, a response by member as they stand in the row itself.

`Context.entries_of_respond` says so, and `Context.lookup_of_respond` reads off a single name.
-/

namespace SemanticLayer.Response

open Query

namespace Body

/-- The names of each row with their values, in order. -/
def entries : Body → List (List (String × WireValue))
  | compact members rows => rows.map members.zip
  | vanilla rows => rows.map OrderedMap.toList

end Body

/-- The order in which a response of a shape takes the columns of a row. -/
def columnOrder (shape : Shape) (rows : List RawRow) (row : RawRow) : List String :=
  match shape with
  | .compact => Context.firstColumns rows
  | .vanilla => row.keys

namespace Context

variable {context : Context}

/-- A compact row shows under the members what the columns give in the order of the members. -/
theorem zip_of_compactRow {columns : List String} {members : MemberMap} {row : RawRow}
    {values : List WireValue}
    (hmembers : context.addDerived (context.columnSources columns) = .ok members)
    (hvalues : compactRow members context.mode context.query.timeDimensions row = .ok values) :
    ∃ wire, context.addDerivedValue (context.orderedWires columns row) = .ok wire ∧
      wire.toList = members.keys.zip values ∧ wire.keys = members.keys := by
  have heq := compactRow_eq_addDerivedValue context columns row
  rw [hmembers] at heq
  rcases hwire : context.addDerivedValue (context.orderedWires columns row) with error | wire
  · rw [hwire] at heq
    simp only [bind, Except.bind, hvalues] at heq
    cases heq
  · rw [hwire] at heq
    simp only [bind, Except.bind, hvalues] at heq
    obtain ⟨hkeys, hwires⟩ := Prod.mk.inj (Except.ok.inj heq)
    refine ⟨wire, rfl, ?_, hkeys.symm⟩
    rw [hkeys, hwires, OrderedMap.keys, List.zip_map']
    exact (List.map_id _).symm

/-- **The rows of a response.** In both shapes each row shows the values of its columns, in the
order of the shape, with that of the derived member. A compact response lists the names of its
rows. -/
theorem entries_of_respond {shape : Shape} {rows : List RawRow} {body : Body}
    (h : context.respond shape rows = .ok body) :
    List.Forall₂ (fun row shown ↦ ∃ wire,
        context.addDerivedValue (context.orderedWires (columnOrder shape rows row) row) = .ok wire ∧
          wire.toList = shown ∧ ∀ members ∈ body.members?, wire.keys = members)
      rows body.entries := by
  obtain ⟨hmode, hrows⟩ := consistent_of_respond h
  cases hrows with
  | nil =>
    rw [respond_nil hmode] at h
    cases shape <;> obtain rfl := Except.ok.inj h <;> exact .nil
  | @cons first rows hfirst hsame =>
    have hall : ∀ row ∈ first :: rows, SameColumns first.keys row :=
      List.forall_mem_cons.2 ⟨fun column ↦ Iff.rfl, hsame⟩
    obtain ⟨members, label, hmembers, hcompact, -⟩ := exists_members hmode hfirst rows
    rw [respond_of_members hmode hmembers] at h
    cases shape with
    | compact =>
      have hshape : ∀ row, SameColumns first.keys row → ∃ values,
          compactRow members context.mode context.query.timeDimensions row = .ok values ∧
            compactRow members context.mode context.query.timeDimensions row = .ok values :=
        fun row _ ↦ ⟨_, hcompact row, hcompact row⟩
      obtain ⟨dataset, hshaped, hdataset⟩ := shapeRows_of_same context hshape hall 0
      simp only [hshaped] at h
      obtain rfl := Except.ok.inj h
      rw [members_cons hfirst.visible] at hmembers
      refine List.forall₂_map_right_iff.2 (hdataset.imp fun row values hvalues ↦ ?_)
      obtain ⟨wire, hwire, hentries, hkeys⟩ := zip_of_compactRow hmembers hvalues
      exact ⟨wire, hwire, hentries, fun names hnames ↦ hkeys.trans (Option.some.inj hnames)⟩
    | vanilla =>
      have hshape : ∀ row, SameColumns first.keys row → ∃ wire,
          context.vanillaRow row = .ok wire ∧
            context.addDerivedValue (context.orderedWires row.keys row) = .ok wire := by
        intro row hrow
        have hresolves := hfirst.of_same hrow
        obtain ⟨wire, hwire⟩ := exists_addDerivedValue hmode hresolves.blended row
        exact ⟨wire, (vanillaRow_of_visible hresolves.visible).trans hwire, hwire⟩
      obtain ⟨wires, hshaped, hwires⟩ := shapeRows_of_same context hshape hall 0
      simp only [hshaped] at h
      obtain rfl := Except.ok.inj h
      refine List.forall₂_map_right_iff.2 (hwires.imp fun row wire hwire ↦ ?_)
      exact ⟨wire, hwire, rfl, fun names hnames ↦ by cases hnames⟩

/-- The order of the columns of a row has just these columns, and members can be resolved from
them. -/
theorem Consistent.columnOrder {rows : List RawRow} (h : context.Consistent rows) (shape : Shape)
    {row : RawRow} (hrow : row ∈ rows) :
    SameColumns (columnOrder shape rows row) row ∧
      context.Resolves (columnOrder shape rows row) := by
  cases h with
  | nil => cases hrow
  | @cons first rows hfirst hsame =>
    have hall : ∀ row ∈ first :: rows, SameColumns first.keys row :=
      List.forall_mem_cons.2 ⟨fun column ↦ Iff.rfl, hsame⟩
    cases shape with
    | compact => exact ⟨hall row hrow, hfirst⟩
    | vanilla => exact ⟨fun column ↦ Iff.rfl, hfirst.of_same (hall row hrow)⟩

/-- Under a name, a row of a response shows what is read there. -/
theorem lookup_of_respond {shape : Shape} {rows : List RawRow} {body : Body}
    (h : context.respond shape rows = .ok body) :
    List.Forall₂ (fun row shown ↦ ∀ name,
        shown.lookup name = context.reading (columnOrder shape rows row) row name)
      rows body.entries := by
  obtain ⟨hmode, -⟩ := consistent_of_respond h
  refine (entries_of_respond h).imp fun row shown hshown name ↦ ?_
  obtain ⟨wire, hwire, rfl, -⟩ := hshown
  exact get?_of_addDerivedValue hmode hwire name

end Context

end SemanticLayer.Response
