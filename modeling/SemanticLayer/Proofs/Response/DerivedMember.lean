import SemanticLayer.Proofs.Response.Entries

/-!
# The derived member of each row

A result in a derived mode has the response that its columns alone would have
(`Context.regular`), and in each row one name is set: `compareDateRange` to the label of the range,
or the key of a blended result to what the row shows under the member to blend by
(`Context.Derives`). The name comes last, or it takes over the place of a column that is called so.

`Context.respond_derived` says this for both shapes. It does not matter how the names involved
coincide: the key may be the member to blend by, and this may be the short name of another member.
-/

namespace SemanticLayer.Response

open Query
open Entries (Sets)

namespace Context

variable {context : Context}

/-! ### Without the derived member -/

/-- The same result, without its derived member. -/
def regular (context : Context) : Context :=
  { context with mode := .regular }

/-- Without the derived member there are fewer things that can be wrong. -/
theorem Consistent.regular {rows : List RawRow} (h : context.Consistent rows) :
    context.regular.Consistent rows := by
  cases h with
  | nil => exact .nil
  | cons hfirst hsame =>
    exact .cons ⟨hfirst.visible, fun member hmember ↦ absurd hmember.1 Mode.noConfusion⟩ hsame

/-- The rows then show what their columns give. -/
theorem entries_of_respond_regular {shape : Shape} {rows : List RawRow} {plain : Body}
    (h : context.regular.respond shape rows = .ok plain) :
    plain.entries =
      rows.map fun row ↦ (context.orderedWires (columnOrder shape rows row) row).toList := by
  have hentries : List.Forall₂ (fun row shown ↦
      (context.orderedWires (columnOrder shape rows row) row).toList = shown) rows plain.entries :=
    (entries_of_respond h).imp fun row shown ⟨wire, hwire, hshown, _⟩ ↦
      (congrArg OrderedMap.toList (Except.ok.inj hwire)).trans hshown
  rw [← List.forall₂_map_left_iff, List.forall₂_eq_eq_eq] at hentries
  exact hentries.symm

/-- The columns of a row give the same names in every order. -/
theorem mem_keys_orderedWires_iff {columns : List String} {row : RawRow}
    (hsame : SameColumns columns row) {name : String} :
    name ∈ (context.orderedWires columns row).keys ↔ context.Gives row.keys name := by
  simp only [OrderedMap.mem_keys_iff, get?_orderedWires, exists_columnReading_iff]
  exact ⟨fun h ↦ h.mono fun column ↦ (hsame column).2, fun h ↦ h.mono fun column ↦ (hsame column).1⟩

/-! ### With the derived member -/

/-- What the mode makes of the entries of a row. -/
inductive Derives (context : Context) :
    List (String × WireValue) → List (String × WireValue) → Prop where
  | compareDateRange {dimension : Option Member} {granularity : Option String}
      {earliest latest : String} {entries shown : List (String × WireValue)}
      (hmode : context.mode = .compareDateRange)
      (htds : context.query.timeDimensions =
        [⟨dimension, granularity, some (.bounded earliest latest)⟩])
      (hsets : Sets "compareDateRange" (.string (earliest ++ " - " ++ latest)) entries shown) :
      Derives context entries shown
  | blending {dimension : Member} {granularity : String} {range : Option DateRange}
      {value : WireValue} {entries shown : List (String × WireValue)}
      (hmode : context.mode = .blending)
      (htds : context.query.timeDimensions = [⟨some dimension, some granularity, range⟩])
      (hvalue : shown.lookup (dimension.path ++ "." ++ granularity) = some value)
      (hsets : Sets ("time." ++ granularity) value entries shown) :
      Derives context entries shown

/-- Adding the value of the derived member sets its name. -/
theorem derives_of_addDerivedValue (hconfigured : context.Configured)
    (hmode : context.mode ≠ .regular) {values wire : WireRow}
    (h : context.addDerivedValue values = .ok wire) :
    context.Derives values.toList wire.toList := by
  cases hconfigured with
  | regular hregular => exact absurd hregular hmode
  | @compareDateRange dimension granularity earliest latest hcompare htds =>
    rw [addDerivedValue, hcompare, htds] at h
    obtain rfl := Except.ok.inj h
    exact .compareDateRange hcompare htds (Entries.sets_put values.distinct _ _)
  | @blending dimension granularity range hblending htds =>
    rw [addDerivedValue_of_blending hblending htds] at h
    rcases hvalue : values.get? (dimension.withGranularity granularity).path with - | value
    · rw [hvalue] at h
      cases h
    · rw [hvalue] at h
      obtain rfl := Except.ok.inj h
      refine .blending hblending htds ?_ (Entries.sets_put values.distinct _ _)
      -- the member may be the key itself, and then it is set to the value that it has
      have hlookup := OrderedMap.get?_insert values ("time." ++ granularity) value
        (dimension.withGranularity granularity).path
      rw [hvalue, ite_self] at hlookup
      exact hlookup

/-- **The derived member.** A response in a derived mode is what the columns of the result give, but
in each row the name of the derived member is set: to the label of the range, or to what the row
shows under the member to blend by. In every row the names are distinct. -/
theorem respond_derived (hmode : context.mode ≠ .regular) {shape : Shape} {rows : List RawRow}
    {body : Body} (h : context.respond shape rows = .ok body) :
    ∃ plain, context.regular.respond shape rows = .ok plain ∧
      List.Forall₂ (fun row entries ↦
        ∀ name, name ∈ entries.map Prod.fst ↔ context.Gives row.keys name) rows plain.entries ∧
      List.Forall₂ context.Derives plain.entries body.entries ∧
      ∀ shown ∈ body.entries, (shown.map Prod.fst).Nodup ∧
        ∀ members ∈ body.members?, shown.map Prod.fst = members := by
  obtain ⟨hconfigured, hrows⟩ := consistent_of_respond h
  obtain ⟨plain, hplain, -⟩ :=
    exists_respond_of_consistent (.regular rfl) hrows.regular shape
  have hentries := entries_of_respond_regular hplain
  refine ⟨plain, hplain, ?_, ?_, fun shown hshown ↦ ?_⟩
  · rw [hentries, List.forall₂_map_right_iff, List.forall₂_same]
    exact fun row hrow name ↦ mem_keys_orderedWires_iff (hrows.columnOrder shape hrow).1
  · rw [hentries, List.forall₂_map_left_iff]
    refine (entries_of_respond h).imp fun row shown hshown ↦ ?_
    obtain ⟨wire, hwire, rfl, -⟩ := hshown
    exact derives_of_addDerivedValue hconfigured hmode hwire
  · obtain ⟨row, -, wire, -, rfl, hmembers⟩ :=
      exists_related_of_mem (entries_of_respond h).flip hshown
    exact ⟨wire.distinct, hmembers⟩

/-- Two rows of a result that is blended by day, with their columns in opposite orders. -/
def dayRows : List RawRow :=
  [.ofList [("a", .string "2024-01-02"), ("k", .string "?"), ("d", .string "now"),
      ("c", .string "2024-02-03")],
    .ofList [("c", .string "2024-02-05"), ("d", .string "then"), ("k", .string "!"),
      ("a", .string "2024-01-04")]]

/-- In the second row the day has the value of its first column, which comes last. The key has the
same value, in the place of a column that is called like it. -/
theorem derives_of_dayRows :
    dailyBlend.mode ≠ .regular ∧
    dailyBlend.respond .vanilla dayRows =
      .ok (.vanilla [.ofList [("O.at.day", .string "2024-02-03T00:00:00.000"),
          ("O.at", .string "2024-02-03T00:00:00.000"),
          ("time.day", .string "2024-02-03T00:00:00.000")],
        .ofList [("O.at.day", .string "2024-01-04T00:00:00.000"),
          ("O.at", .string "2024-01-04T00:00:00.000"),
          ("time.day", .string "2024-01-04T00:00:00.000")]]) ∧
    dailyBlend.Derives
      [("O.at.day", .string "2024-01-04T00:00:00.000"),
        ("O.at", .string "2024-01-04T00:00:00.000"), ("time.day", .string "!")]
      [("O.at.day", .string "2024-01-04T00:00:00.000"),
        ("O.at", .string "2024-01-04T00:00:00.000"),
        ("time.day", .string "2024-01-04T00:00:00.000")] := by
  have hmode : dailyBlend.mode ≠ .regular := by decide
  have hok : dailyBlend.respond .vanilla dayRows =
      .ok (.vanilla [.ofList [("O.at.day", .string "2024-02-03T00:00:00.000"),
          ("O.at", .string "2024-02-03T00:00:00.000"),
          ("time.day", .string "2024-02-03T00:00:00.000")],
        .ofList [("O.at.day", .string "2024-01-04T00:00:00.000"),
          ("O.at", .string "2024-01-04T00:00:00.000"),
          ("time.day", .string "2024-01-04T00:00:00.000")]]) := by
    decide +kernel
  have hregular : dailyBlend.regular.respond .vanilla dayRows =
      .ok (.vanilla [.ofList [("O.at.day", .string "2024-02-03T00:00:00.000"),
          ("O.at", .string "2024-02-03T00:00:00.000"), ("time.day", .string "?")],
        .ofList [("O.at.day", .string "2024-01-04T00:00:00.000"),
          ("O.at", .string "2024-01-04T00:00:00.000"), ("time.day", .string "!")]]) := by
    decide +kernel
  obtain ⟨plain, hplain, -, hderives, -⟩ := respond_derived hmode hok
  obtain rfl := Except.ok.inj (hplain.symm.trans hregular)
  obtain - | ⟨-, - | ⟨hsecond, -⟩⟩ := hderives
  exact ⟨hmode, hok, hsecond⟩

end Context

end SemanticLayer.Response
