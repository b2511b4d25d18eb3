import SemanticLayer.Proofs.Response.Fault

/-!
# When a result has a response

The checks of a response are spread over its parts: the mode is checked before any row, the columns
of the first row when its members are resolved, the columns of each row before it is shaped, and
both ways of shaping look for visible members and for the derived member again. `respond_outcome`
says what all of this comes to. A response exists exactly if nothing is wrong with the result, and
otherwise its error is the first fault of the result. Neither depends on the shape, so the two
shapes cannot fail differently, and the checks that are made again for each row never fail.

Where there is a response, its contents are `exists_respond_compact` and `exists_respond_vanilla`:
both show the readings of the rows, in the order of the columns of the first row or of each row.
-/

namespace SemanticLayer.Response

open Query

namespace Context

variable {context : Context}

/-! ### Shaping rows -/

section Shape

variable {α : Type} {shape : RawRow → Except ResponseError α} {columns : List String}

/-- Rows with the same columns are shaped one by one. -/
theorem shapeRows_of_same (context : Context) {shows : RawRow → α → Prop}
    (hshape : ∀ row, SameColumns columns row → ∃ shaped, shape row = .ok shaped ∧ shows row shaped)
    {rows : List RawRow} (hrows : ∀ row ∈ rows, SameColumns columns row) (index : Nat) :
    ∃ shaped, context.shapeRows columns shape index rows = .ok shaped ∧
      List.Forall₂ shows rows shaped := by
  induction rows generalizing index with
  | nil => exact ⟨[], rfl, .nil⟩
  | cons row rows ih =>
    obtain ⟨hrow, hrows⟩ := List.forall_mem_cons.1 hrows
    obtain ⟨result, hresult, hshows⟩ := hshape row hrow
    obtain ⟨results, hshaped, hresults⟩ := ih hrows (index + 1)
    refine ⟨result :: results, ?_, .cons hshows hresults⟩
    rw [shapeRows, checkColumns_of_same hrow, hresult, hshaped]
    rfl

/-- The first row with other columns is the error: those before it are shaped. -/
theorem shapeRows_of_rowFault
    (hshape : ∀ row, SameColumns columns row → ∃ shaped, shape row = .ok shaped)
    {before : List RawRow} (hbefore : ∀ row ∈ before, SameColumns columns row) {row : RawRow}
    {error : ResponseError} {index : Nat}
    (hfault : context.RowFault columns (index + before.length) row error) (after : List RawRow) :
    context.shapeRows columns shape index (before ++ row :: after) = .error error := by
  induction before generalizing index with
  | nil =>
    rw [List.nil_append, shapeRows]
    rw [List.length_nil, Nat.add_zero] at hfault
    rw [checkColumns_of_rowFault hfault]
    rfl
  | cons first before ih =>
    obtain ⟨hfirst, hbefore⟩ := List.forall_mem_cons.1 hbefore
    obtain ⟨result, hresult⟩ := hshape first hfirst
    rw [List.length_cons, Nat.add_comm before.length, ← Nat.add_assoc] at hfault
    rw [List.cons_append, shapeRows, checkColumns_of_same hfirst, hresult, ih hbefore hfault]
    rfl

end Shape

/-! ### Responding to rows whose members are resolved -/

theorem respond_of_members (hmode : context.Configured) {first : RawRow} {rows : List RawRow}
    {members : MemberMap} (hmembers : context.members (first :: rows) = .ok members)
    (shape : Shape) :
    context.respond shape (first :: rows) =
      match shape with
      | .compact =>
        Body.compact members.keys <$> context.shapeRows first.keys
          (compactRow members context.mode context.query.timeDimensions) 0 (first :: rows)
      | .vanilla =>
        Body.vanilla <$> context.shapeRows first.keys context.vanillaRow 0 (first :: rows) := by
  rw [respond, checkMode_of_configured hmode, hmembers]
  cases shape <;> rfl

/-- No rows have no members. -/
theorem respond_nil (hmode : context.Configured) (shape : Shape) :
    context.respond shape [] =
      match shape with
      | .compact => .ok (.compact [] [])
      | .vanilla => .ok (.vanilla []) := by
  rw [respond, checkMode_of_configured hmode]
  cases shape <;> rfl

/-- **The compact response.** It shows every row in the order of the columns of the first. -/
theorem exists_respond_compact (hmode : context.Configured) {first : RawRow}
    (hfirst : context.Resolves first.keys) {rows : List RawRow}
    (hrows : ∀ row ∈ first :: rows, SameColumns first.keys row) :
    ∃ members dataset, context.respond .compact (first :: rows) = .ok (.compact members dataset) ∧
      (∀ name, name ∈ members ↔ ∃ value, context.reading first.keys first name = some value) ∧
      List.Forall₂ (fun row values ↦ values.map some = members.map (context.reading first.keys row))
        (first :: rows) dataset := by
  obtain ⟨members, label, hmembers, hcompact, hreading⟩ := exists_members hmode hfirst rows
  have hshape : ∀ row, SameColumns first.keys row → ∃ values,
      compactRow members context.mode context.query.timeDimensions row = .ok values ∧
        values.map some = members.keys.map (context.reading first.keys row) := by
    refine fun row _ ↦ ⟨_, hcompact row, ?_⟩
    show _ = (members.toList.map Prod.fst).map _
    rw [List.map_map, List.map_map]
    refine List.map_congr_left fun entry hentry ↦ ?_
    show some (entry.2.value label row) = context.reading first.keys row entry.1
    rw [← hreading, OrderedMap.get?_of_mem hentry, Option.map_some]
  obtain ⟨dataset, hshaped, hdataset⟩ := shapeRows_of_same context hshape hrows 0
  refine ⟨members.keys, dataset, ?_, fun name ↦ ?_, hdataset⟩
  · rw [respond_of_members hmode hmembers, hshaped]
    rfl
  · rw [OrderedMap.mem_keys_iff, ← hreading first name]
    constructor
    · rintro ⟨source, hsource⟩
      exact ⟨_, Option.map_eq_some_iff.2 ⟨source, hsource, rfl⟩⟩
    · rintro ⟨value, hvalue⟩
      obtain ⟨source, hsource, -⟩ := Option.map_eq_some_iff.1 hvalue
      exact ⟨source, hsource⟩

/-- **The response by member.** It shows every row in the order of its own columns. -/
theorem exists_respond_vanilla (hmode : context.Configured) {first : RawRow}
    (hfirst : context.Resolves first.keys) {rows : List RawRow}
    (hrows : ∀ row ∈ first :: rows, SameColumns first.keys row) :
    ∃ wires, context.respond .vanilla (first :: rows) = .ok (.vanilla wires) ∧
      List.Forall₂ (fun row wire ↦ ∀ name, wire.get? name = context.reading row.keys row name)
        (first :: rows) wires := by
  obtain ⟨members, -, hmembers, -⟩ := exists_members hmode hfirst rows
  obtain ⟨wires, hshaped, hwires⟩ := shapeRows_of_same context
    (fun row hsame ↦ exists_vanillaRow hmode (hfirst.of_same hsame)) hrows 0
  refine ⟨wires, ?_, hwires⟩
  rw [respond_of_members hmode hmembers, hshaped]
  rfl

/-! ### The outcome -/

theorem exists_respond_of_consistent (hmode : context.Configured) {rows : List RawRow}
    (hrows : context.Consistent rows) (shape : Shape) :
    ∃ body, context.respond shape rows = .ok body ∧ body.rowCount = rows.length := by
  cases hrows with
  | nil =>
    cases shape with
    | vanilla => exact ⟨_, respond_nil hmode .vanilla, rfl⟩
    | compact => exact ⟨_, respond_nil hmode .compact, rfl⟩
  | @cons first rows hfirst hsame =>
    have hrows : ∀ row ∈ first :: rows, SameColumns first.keys row :=
      List.forall_mem_cons.2 ⟨fun column ↦ Iff.rfl, hsame⟩
    cases shape with
    | vanilla =>
      obtain ⟨wires, hok, hwires⟩ := exists_respond_vanilla hmode hfirst hrows
      exact ⟨_, hok, hwires.length_eq.symm⟩
    | compact =>
      obtain ⟨members, dataset, hok, -, hdataset⟩ := exists_respond_compact hmode hfirst hrows
      exact ⟨_, hok, hdataset.length_eq.symm⟩

theorem respond_of_rowFault (hmode : context.Configured) {first : RawRow}
    (hfirst : context.Resolves first.keys) {before : List RawRow}
    (hbefore : ∀ other ∈ before, SameColumns first.keys other) {row : RawRow}
    {error : ResponseError}
    (hfault : context.RowFault first.keys (before.length + 1) row error) (after : List RawRow)
    (shape : Shape) :
    context.respond shape (first :: (before ++ row :: after)) = .error error := by
  obtain ⟨members, label, hmembers, hcompact, -⟩ :=
    exists_members hmode hfirst (before ++ row :: after)
  have hrows : ∀ other ∈ first :: before, SameColumns first.keys other :=
    List.forall_mem_cons.2 ⟨fun column ↦ Iff.rfl, hbefore⟩
  -- the first row is checked as well, and passes
  have hindex : context.RowFault first.keys (0 + (first :: before).length) row error := by
    rw [Nat.zero_add]
    exact hfault
  rw [respond_of_members hmode hmembers]
  cases shape with
  | vanilla =>
    have hshape : ∀ other, SameColumns first.keys other →
        ∃ wire, context.vanillaRow other = .ok wire :=
      fun other hsame ↦ (exists_vanillaRow hmode (hfirst.of_same hsame)).imp fun _ h ↦ h.1
    show Body.vanilla <$> _ = _
    rw [← List.cons_append, shapeRows_of_rowFault hshape hrows hindex]
    rfl
  | compact =>
    show Body.compact members.keys <$> _ = _
    rw [← List.cons_append,
      shapeRows_of_rowFault (fun other _ ↦ ⟨_, hcompact other⟩) hrows hindex]
    rfl

theorem respond_of_firstFault {rows : List RawRow} {error : ResponseError}
    (h : context.FirstFault rows error) (shape : Shape) :
    context.respond shape rows = .error error := by
  cases h with
  | mode hfault =>
    rw [respond, checkMode_of_modeFault hfault]
    rfl
  | @column first rows column hmode hcolumn =>
    -- no row has been looked at yet, so the shape does not come in
    have hmembers : context.members (first :: rows) =
        .error (.hiddenMember column (context.aliases.get? column)) := by
      obtain ⟨before, after, hkeys, hbefore, hhidden⟩ := hcolumn
      rw [members, hkeys, columnMembers_of_not_visible hbefore hhidden]
      rfl
    rw [respond, checkMode_of_configured hmode, hmembers]
    rfl
  | @blending first rows member hvisible hmember hgives =>
    obtain ⟨hmode, dimension, granularity, range, htds, rfl⟩ := hmember
    have habsent : (context.columnSources first.keys).get?
        (dimension.withGranularity granularity).path = none := by
      rw [get?_columnSources, Option.map_eq_none_iff, Option.eq_none_iff_forall_ne_some]
      exact fun column hcolumn ↦ hgives (exists_giver?_iff.1 ⟨column, hcolumn⟩)
    rw [respond, checkMode_of_configured (.blending hmode htds), members_cons hvisible,
      addDerived_of_blending hmode htds, habsent]
    rfl
  | @row first row before after error hmode hfirst hbefore hfault =>
    exact respond_of_rowFault hmode hfirst hbefore hfault after shape

theorem consistent_of_respond {shape : Shape} {rows : List RawRow} {body : Body}
    (h : context.respond shape rows = .ok body) : context.Configured ∧ context.Consistent rows := by
  rcases consistent_or_firstFault context rows with hconsistent | ⟨error, hfault⟩
  · exact hconsistent
  · rw [respond_of_firstFault hfault shape] at h
    cases h

theorem rowCount_of_respond {shape : Shape} {rows : List RawRow} {body : Body}
    (h : context.respond shape rows = .ok body) : body.rowCount = rows.length := by
  obtain ⟨hmode, hrows⟩ := consistent_of_respond h
  obtain ⟨other, hother, hcount⟩ := exists_respond_of_consistent hmode hrows shape
  obtain rfl := Except.ok.inj (hother.symm.trans h)
  exact hcount

theorem firstFault_of_respond {shape : Shape} {rows : List RawRow} {error : ResponseError}
    (h : context.respond shape rows = .error error) : context.FirstFault rows error := by
  rcases consistent_or_firstFault context rows with ⟨hmode, hrows⟩ | ⟨other, hfault⟩
  · obtain ⟨body, hbody, -⟩ := exists_respond_of_consistent hmode hrows shape
    rw [hbody] at h
    cases h
  · obtain rfl := Except.error.inj ((respond_of_firstFault hfault shape).symm.trans h)
    exact hfault

/-- **When a result has a response.** There is one, with a row for each row, exactly if the query is
configured for its mode and nothing is wrong with the rows; otherwise the error is what is wrong in
the first place, whatever the shape. -/
theorem respond_outcome (context : Context) (shape : Shape) (rows : List RawRow) :
    ((∃ body, context.respond shape rows = .ok body) ↔
      context.Configured ∧ context.Consistent rows) ∧
    (∀ body, context.respond shape rows = .ok body → body.rowCount = rows.length) ∧
    ∀ error, context.respond shape rows = .error error ↔ context.FirstFault rows error := by
  refine ⟨⟨?_, ?_⟩, fun body ↦ rowCount_of_respond, fun error ↦ ⟨firstFault_of_respond, ?_⟩⟩
  · rintro ⟨body, hbody⟩
    exact consistent_of_respond hbody
  · rintro ⟨hmode, hrows⟩
    obtain ⟨body, hbody, -⟩ := exists_respond_of_consistent hmode hrows shape
    exact ⟨body, hbody⟩
  · exact fun hfault ↦ respond_of_firstFault hfault shape

end Context

end SemanticLayer.Response
