import SemanticLayer.Failure
import SemanticLayer.Proofs.Response.Outcome

/-!
# Hidden columns of later rows

The columns of the first row decide what is visible, and a later row may bring columns of its own.
If all of these were looked at, then a hidden one among them would always be reported as such. But
only the first of them is: a row with a hidden column fails as a matter of visibility exactly if
the first column that it has too many is hidden (`Context.respond_of_hidden_column`). A visible one
before it makes the row merely inconsistent (`Context.hidden_column_behind_visible_column`). Which
of the two it is depends on the order of the row, but never on the shape of the response.
-/

namespace SemanticLayer.Response

open Query

namespace Context

/-- Names have a first one outside of others, if they have one outside at all. -/
theorem exists_firstOutside {names others : List String} {name : String} (hname : name ∈ names)
    (hother : name ∉ others) : ∃ first, FirstOutside names others first := by
  rcases subset_or_firstOutside names others with hsubset | hfirst
  · exact absurd (hsubset name hname) hother
  · exact hfirst

/-- **Hidden columns of later rows.** A result whose mode is configured and whose first row resolves
has a row with a hidden column, and all rows before that have the columns of the first. The first
column that the row has too many decides: if it is hidden, then the failure is one of visibility
and names it, otherwise the row is inconsistent. -/
theorem respond_of_hidden_column {context : Context} (hmode : context.Configured)
    {first row : RawRow} (hfirst : context.Resolves first.keys) {before : List RawRow}
    (hbefore : ∀ other ∈ before, SameColumns first.keys other) {hidden : String}
    (hcolumn : hidden ∈ row.keys) (hhidden : ¬context.Visible hidden) (after : List RawRow) :
    ∃ surplus, FirstOutside row.keys first.keys surplus ∧ ∀ shape,
      context.respond shape (first :: (before ++ row :: after)) =
        .error (if context.Visible surplus then .inconsistentRow (before.length + 1) surplus
          else .hiddenMember surplus (context.aliases.get? surplus)) ∧
      ((∃ error, context.respond shape (first :: (before ++ row :: after)) = .error error ∧
        (Failure.response error).kind = .visibility) ↔ ¬context.Visible surplus) := by
  have houtside : hidden ∉ first.keys := fun h ↦ hhidden (hfirst.visible hidden h)
  obtain ⟨surplus, hsurplus⟩ := exists_firstOutside hcolumn houtside
  refine ⟨surplus, hsurplus, fun shape ↦ ?_⟩
  by_cases hvisible : context.Visible surplus
  · have herror := respond_of_rowFault hmode hfirst hbefore (.surplus hsurplus hvisible) after shape
    refine ⟨by rw [herror, if_pos hvisible], ?_, fun h ↦ absurd hvisible h⟩
    rintro ⟨error, hother, hkind⟩
    obtain rfl := Except.error.inj (herror.symm.trans hother)
    cases hkind
  · have herror := respond_of_rowFault hmode hfirst hbefore (.hidden hsurplus hvisible) after shape
    exact ⟨by rw [herror, if_neg hvisible], fun _ ↦ hvisible, fun _ ↦ ⟨_, herror, rfl⟩⟩

/-- A result whose columns may be `s` and `c`. -/
def orders : Context where
  mode := .regular
  query := ⟨[⟨"Orders.count"⟩], [⟨"Orders.status"⟩], [], [], [], [], none, none, none⟩
  annotations := .ofList [("Orders.status", .ofType .string), ("Orders.count", .ofType .number)]
  aliases := .ofList [("s", ⟨"Orders.status"⟩), ("c", ⟨"Orders.count"⟩)]

/-- A row with the only column that the others have. -/
def plainRow : RawRow := .ofList [("s", .string "new")]

/-- A row with a hidden column before a visible one that it has too many. -/
def secretFirst : RawRow := .ofList [("x", .string "?"), ("s", .string "new"), ("c", .null)]

/-- The same row with the hidden column last. -/
def secretLast : RawRow := .ofList [("s", .string "new"), ("c", .null), ("x", .string "?")]

theorem orders_resolves : orders.Resolves plainRow.keys where
  visible := by decide
  blended member hmember := by cases hmember.1

/-- A hidden column before a visible one is reported as hidden. -/
theorem hidden_column_before_visible_column :
    orders.Configured ∧ orders.Resolves plainRow.keys ∧
    (∀ other ∈ [plainRow], SameColumns plainRow.keys other) ∧ "x" ∈ secretFirst.keys ∧
    ¬orders.Visible "x" ∧
    ∃ surplus, FirstOutside secretFirst.keys plainRow.keys surplus ∧ ∀ shape,
      orders.respond shape [plainRow, plainRow, secretFirst] =
        .error (if orders.Visible surplus then .inconsistentRow 2 surplus
          else .hiddenMember surplus (orders.aliases.get? surplus)) ∧
      ((∃ error, orders.respond shape [plainRow, plainRow, secretFirst] = .error error ∧
        (Failure.response error).kind = .visibility) ↔ ¬orders.Visible surplus) := by
  have hbefore : ∀ other ∈ [plainRow], SameColumns plainRow.keys other :=
    List.forall_mem_singleton.2 fun _ ↦ Iff.rfl
  have hcolumn : "x" ∈ secretFirst.keys := by decide
  have hhidden : ¬orders.Visible "x" := by decide
  exact ⟨.regular rfl, orders_resolves, hbefore, hcolumn, hhidden,
    respond_of_hidden_column (.regular rfl) orders_resolves hbefore hcolumn hhidden []⟩

/-- A hidden column behind a visible one is not reported as hidden. -/
theorem hidden_column_behind_visible_column :
    orders.Configured ∧ orders.Resolves plainRow.keys ∧ "x" ∈ secretLast.keys ∧
    ¬orders.Visible "x" ∧
    ∀ shape, orders.respond shape [plainRow, secretLast] = .error (.inconsistentRow 1 "c") := by
  refine ⟨.regular rfl, orders_resolves, by decide, by decide, fun shape ↦ ?_⟩
  cases shape <;> rfl

end Context

end SemanticLayer.Response
