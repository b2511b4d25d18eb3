import SemanticLayer.Proofs.Json.Objects
import SemanticLayer.Proofs.OrderedMap
import SemanticLayer.Proofs.Response.Batch
import SemanticLayer.Proofs.Response.Coercion

/-!
# Rows as they are written

A row of a response is written as an object that is read as a row of a result again, with the same
keys and values (`RawRow.exists_ofText?_render`). Any object is read as the row that results from
inserting its entries one after another, whether it is read by itself or as a row of a request
(`rows_of_texts`).

It is the texts of keys and values that are taken to be readable, not what the grammar finds in the
text of the object. A document may open so many levels and no more, so a value has fewer of them
left the deeper it stands (`EntryReads`); that it is readable by itself is not enough
(`deepValue_not_in_row`).

Requests are described by their text with a place for that of their data (`RequestText`). A request
with rows is compared with the same request without any: either both are read, and then they differ
in their rows only, or neither is.
-/

namespace SemanticLayer.Json

namespace Decoder

/-- The value that a text is the document of, with so many levels left to open. -/
def ofTextWithin? {α : Type} (decoder : Decoder α) (depth : Nat) (text : String) : Option α :=
  (Tree.parse? text).bind (decoder depth)

end Decoder

end SemanticLayer.Json

namespace SemanticLayer.Response

open Json
open OrderedMap (Settles)

/-! ### Rows of responses -/

/-- The document of a row of a response is read as a row of a result. -/
theorem RawRow.decoder_tree (row : WireRow) (depth : Nat) :
    RawRow.decoder (depth + 1) (WireRow.toJson row).tree =
      some (OrderedMap.ofList (row.toList.map (Prod.map id WireValue.raw))) := by
  have hentries : Decoder.entries RawValue.decoder (depth + 1) (WireRow.toJson row).tree =
      some (row.toList.map (Prod.map id WireValue.raw)) := by
    rw [WireRow.toJson, Value.tree, Value.entryTrees_eq_map, Decoder.entries, mapM_eq_some_iff,
      List.forall₂_map_left_iff, List.forall₂_map_left_iff, List.forall₂_map_right_iff,
      List.forall₂_same]
    intro entry hentry
    simp only [Prod.map_fst, Prod.map_snd, WireValue.decoder_tree]
    rfl
  rw [RawRow.decoder, hentries, Option.map_some]

/-- A row of a response without fractions is written as a text that is read as the row with the same
entries. -/
theorem RawRow.exists_ofText?_render {row : WireRow}
    (h : ∀ entry ∈ row.toList, ∀ n, entry.2 = .number n → n.IsInteger) :
    ∃ raws, RawRow.decoder.ofText? (WireRow.toJson row).render = some raws ∧
      raws.toList = row.toList.map (Prod.map id WireValue.raw) := by
  have hreads : (WireRow.toJson row).ReadsBack := by
    refine Value.readsBack_entries_iff.2 (List.forall_mem_map.2 fun entry hentry ↦ ?_)
    rcases entry.2.readsBack_or_fraction with hreads | ⟨n, hn, hfraction⟩
    · exact hreads
    · exact absurd (h entry hentry n hn) hfraction
  refine ⟨OrderedMap.ofList (row.toList.map (Prod.map id WireValue.raw)), ?_, ?_⟩
  · rw [Decoder.ofText?, Value.parse?_render hreads]
    exact RawRow.decoder_tree row _
  · refine OrderedMap.toList_ofList ?_
    rw [List.map_map]
    exact row.distinct

/-! ### Objects of entries -/

/-- An entry of an object is read as a key and a value, with so many levels left inside the
object. -/
structure EntryReads (depth : Nat) (texts : String × String) (entry : String × RawValue) :
    Prop where
  key : Decoder.string.ofText? texts.1 = some entry.1
  value : RawValue.decoder.ofTextWithin? depth texts.2 = some entry.2

theorem RawValue.isLegible_of_decoder {depth : Nat} {tree : Tree} {raw : RawValue}
    (h : RawValue.decoder depth tree = some raw) : tree.isLegible depth = true := by
  by_contra hlegible
  rw [RawValue.decoder, Decoder.legible, if_neg hlegible] at h
  cases h

theorem EntryReads.exists_found {depth : Nat} {texts : String × String}
    {entry : String × RawValue} (h : EntryReads depth texts entry) :
    ∃ found, Tree.EntryParses texts found ∧
      found.1 = some entry.1 ∧ RawValue.decoder depth found.2 = some entry.2 := by
  obtain ⟨hkey, hvalue⟩ := h
  obtain ⟨key, hkeyTree, hname⟩ := Option.bind_eq_some_iff.1 hkey
  obtain ⟨tree, htree, hraw⟩ := Option.bind_eq_some_iff.1 hvalue
  cases key with
  | string name =>
    obtain rfl : name = some entry.1 := hname
    exact ⟨(some entry.1, tree), ⟨hkeyTree, htree⟩, rfl, hraw⟩
  | _ => cases hname

/-- An object is read as a row, with so many levels left to open. -/
structure RowReads (depth : Nat) (tree : Tree) (row : RawRow) : Prop where
  object : ∃ entries, tree = .object entries
  decoder : RawRow.decoder depth tree = some row
  legible : tree.isLegible depth = true

/-- Entries that are read one by one are read as a row of the object that they are written as. -/
theorem exists_rowReads {depth : Nat} {texts : List (String × String)}
    {entries : List (String × RawValue)} (h : List.Forall₂ (EntryReads depth) texts entries) :
    ∃ tree, Tree.parse? (objectText texts) = some tree ∧
      RowReads (depth + 1) tree (OrderedMap.ofList entries) := by
  obtain ⟨founds, hparses, hfounds⟩ := exists_between (h.imp fun _ _ hentry ↦ hentry.exists_found)
  refine ⟨.object founds, Tree.parse?_objectText hparses, ⟨founds, rfl⟩, ?_, ?_⟩
  · have hentries : Decoder.entries RawValue.decoder (depth + 1) (.object founds) =
        some entries := by
      refine mapM_eq_some_iff.2 (hfounds.imp fun found entry hfound ↦ ?_)
      obtain ⟨hkey, hvalue⟩ := hfound
      simp only [hkey, hvalue]
      rfl
    rw [RawRow.decoder, hentries, Option.map_some]
  · rw [Tree.isLegible, Tree.areEntriesLegible_iff]
    intro found hfound
    obtain ⟨entry, -, hkey, hvalue⟩ := exists_related_of_mem hfounds hfound
    exact ⟨Option.isSome_of_eq_some hkey, RawValue.isLegible_of_decoder hvalue⟩

/-! ### Rows inside requests -/

/-- The names of the fields of a request. -/
def requestFields : List String :=
  ["aliasToMemberNameMap", "annotation", "data", "query", "queryType", "resType"]

/-- The rows of a request are in its data, and it has a query. -/
theorem Request.rows_of_decoder {depth : Nat} {tree : Tree} {request : Request}
    (h : Request.decoder depth tree = some request) :
    ∃ inner present rows query, Decoder.fields requestFields depth tree = some (inner, present) ∧
      Decoder.defaulted (Decoder.list RawRow.decoder) [] inner present "data" = some rows ∧
      present.lookup "query" = some query := by
  obtain ⟨⟨inner, present⟩, hfields, h⟩ := Option.bind_eq_some_iff.1 h
  obtain ⟨aliases, -, h⟩ := Option.bind_eq_some_iff.1 h
  obtain ⟨annotations, -, h⟩ := Option.bind_eq_some_iff.1 h
  obtain ⟨rows, hrows, h⟩ := Option.bind_eq_some_iff.1 h
  obtain ⟨query, hquery, -⟩ := Option.bind_eq_some_iff.1 h
  obtain ⟨tree, htree, -⟩ := Option.bind_eq_some_iff.1 hquery
  exact ⟨inner, present, rows, tree, hfields, hrows, htree⟩

/-- A list of objects is not a request: the third of its fields would be a list. -/
theorem Request.decoder_objects {depth : Nat} {trees : List Tree}
    (h : ∀ tree ∈ trees, ∃ entries, tree = .object entries) :
    Request.decoder depth (.array trees) = none := by
  rw [Option.eq_none_iff_forall_ne_some]
  intro request hrequest
  obtain ⟨inner, present, rows, query, hfields, hrows, hquery⟩ := Request.rows_of_decoder hrequest
  cases depth with
  | zero => cases hfields
  | succ depth =>
    rw [Decoder.fields] at hfields
    split at hfields
    · cases hfields
      -- a query is asked for, and it stands behind the data
      rcases trees with _ | ⟨aliases, _ | ⟨annotations, _ | ⟨data, trees⟩⟩⟩
      · cases hquery
      · cases hquery
      · cases hquery
      · obtain ⟨entries, rfl⟩ := h data (by simp)
        have hlist : Decoder.list RawRow.decoder inner (.object entries) = none := by
          cases inner <;> rfl
        cases hlist.symm.trans hrows
    · cases hfields

/-- The data of a request are a list of rows, with so many levels left to open. -/
structure DataReads (depth : Nat) (tree : Tree) (rows : List RawRow) : Prop where
  decoder : Decoder.list RawRow.decoder depth tree = some rows
  legible : tree.isLegible depth = true
  request : Request.decoder depth tree = none

theorem exists_dataReads {depth : Nat} {texts : List (List (String × String))}
    {listings : List (List (String × RawValue))}
    (h : List.Forall₂ (List.Forall₂ (EntryReads depth)) texts listings) :
    ∃ tree, Tree.parse? (listText (texts.map objectText)) = some tree ∧
      DataReads (depth + 2) tree (listings.map OrderedMap.ofList) := by
  obtain ⟨trees, hparses, hrows⟩ := exists_between (h.imp fun _ _ hrow ↦ exists_rowReads hrow)
  refine ⟨.array trees, Tree.parse?_listText (List.forall₂_map_left_iff.2 hparses), ?_, ?_, ?_⟩
  · refine mapM_eq_some_iff.2 (List.forall₂_map_right_iff.2 (hrows.imp fun _ _ hrow ↦ ?_))
    exact hrow.decoder
  · rw [Tree.isLegible, Tree.areLegible_iff]
    intro tree htree
    obtain ⟨listing, -, hrow⟩ := exists_related_of_mem hrows htree
    exact hrow.legible
  · refine Request.decoder_objects fun tree htree ↦ ?_
    obtain ⟨listing, -, hrow⟩ := exists_related_of_mem hrows htree
    exact hrow.object

/-- Another list of rows in place of that of a request. -/
def Request.withRows (request : Request) (rows : List RawRow) : Request :=
  { request with rows := rows }

theorem Request.decoder_withRows {depth inner : Nat} {tree tree' : Tree}
    {present present' : List (String × Tree)} {rows rows' : List RawRow}
    (h : Decoder.fields requestFields depth tree = some (inner, present))
    (h' : Decoder.fields requestFields depth tree' = some (inner, present'))
    (hothers : ∀ key, key ≠ "data" → present.lookup key = present'.lookup key)
    (hrows : Decoder.defaulted (Decoder.list RawRow.decoder) [] inner present "data" = some rows)
    (hrows' : Decoder.defaulted (Decoder.list RawRow.decoder) [] inner present' "data" =
      some rows') :
    Request.decoder depth tree = (Request.decoder depth tree').map (·.withRows rows) := by
  have hrequired (key : String) (hkey : key ≠ "data") {α : Type} (decoder : Decoder α) :
      Decoder.required decoder inner present key = Decoder.required decoder inner present' key := by
    rw [Decoder.required, Decoder.required, hothers key hkey]
  have hmode : Decoder.defaulted Query.Mode.decoder .regular inner present "queryType" =
      Decoder.defaulted Query.Mode.decoder .regular inner present' "queryType" := by
    rw [Decoder.defaulted, Decoder.defaulted, hothers "queryType" (by decide)]
  have hshape : Decoder.optional Query.Shape.decoder inner present "resType" =
      Decoder.optional Query.Shape.decoder inner present' "resType" := by
    rw [Decoder.optional, Decoder.optional, hothers "resType" (by decide)]
  rw [requestFields] at h h'
  rw [Request.decoder, Decoder.record, Decoder.record, h, h', Option.bind_some, Option.bind_some]
  simp only [hrows, hrows', hmode, hshape, hrequired "aliasToMemberNameMap" (by decide),
    hrequired "annotation" (by decide), hrequired "query" (by decide)]
  -- other rows are put in behind the last of the fields
  simp only [Option.bind_eq_bind, Option.bind_some, Option.map_bind, Function.comp_def,
    Option.pure_def, Option.map_some, Request.withRows]

/-- A document of a request with a place for the document of its data. -/
inductive DataPlace : (Tree → Tree) → Prop where
  | object (before after : List (Option String × Tree)) :
      DataPlace fun data ↦ .object (before ++ (some "data", data) :: after)
  | list (aliases annotations : Tree) (after : List Tree) :
      DataPlace fun data ↦ .array (aliases :: annotations :: data :: after)

namespace DataPlace

variable {place : Tree → Tree} {depth : Nat} {data data' : Tree} {rows rows' : List RawRow}

theorem isLegible_eq (h : DataPlace place) (hdata : data.isLegible depth = data'.isLegible depth) :
    (place data).isLegible (depth + 1) = (place data').isLegible (depth + 1) := by
  cases h with
  | object before after =>
    rw [Bool.eq_iff_iff, Tree.isLegible, Tree.isLegible, Tree.areEntriesLegible_iff,
      Tree.areEntriesLegible_iff]
    simp only [List.forall_mem_append, List.forall_mem_cons, hdata]
  | list aliases annotations after =>
    rw [Bool.eq_iff_iff, Tree.isLegible, Tree.isLegible, Tree.areLegible_iff, Tree.areLegible_iff]
    simp only [List.forall_mem_cons, hdata]

/-- A request with other rows is read as the request with those rows. -/
theorem decoder_eq (h : DataPlace place) (hrows : DataReads depth data rows)
    (hrows' : DataReads depth data' rows') :
    Request.decoder (depth + 1) (place data) =
      (Request.decoder (depth + 1) (place data')).map (·.withRows rows) := by
  have hdefaulted {front back : List (String × Tree)} (hfront : front.lookup "data" = none)
      {data : Tree} {rows : List RawRow} (hrows : DataReads depth data rows) :
      Decoder.defaulted (Decoder.list RawRow.decoder) [] depth (front ++ ("data", data) :: back)
        "data" = some rows := by
    rw [Decoder.defaulted, Decoder.lookup_middle hfront]
    exact hrows.decoder
  have hmiddle {front : List (String × Tree)} (hfront : front.lookup "data" = none)
      (back : List (String × Tree))
      (hfields : ∀ data, Decoder.fields requestFields (depth + 1) (place data) =
        some (depth, front ++ ("data", data) :: back)) :
      Request.decoder (depth + 1) (place data) =
        (Request.decoder (depth + 1) (place data')).map (·.withRows rows) := by
    refine Request.decoder_withRows (hfields data) (hfields data') (fun key hkey ↦ ?_)
      (hdefaulted hfront hrows) (hdefaulted hfront hrows')
    rw [Decoder.lookup_middle_of_ne hkey, Decoder.lookup_middle_of_ne hkey]
  -- fields that are refused with some data are refused with any
  have hnone (hfields : ∀ data, Decoder.fields requestFields (depth + 1) (place data) = none)
      (data : Tree) : Request.decoder (depth + 1) (place data) = none := by
    have hdata := hfields data
    rw [requestFields] at hdata
    rw [Request.decoder, Decoder.record, hdata, Option.bind_none]
  cases h with
  | object before after =>
    have hdata : "data" ∈ requestFields := by decide
    rcases Decoder.knownFields_replace hdata before after with
      hknown | ⟨front, back, hfront, hknown⟩
    · have hfields (data : Tree) : Decoder.fields requestFields (depth + 1)
          (.object (before ++ (some "data", data) :: after)) = none := by
        rw [Decoder.fields, hknown, Option.map_none]
      rw [hnone hfields, hnone hfields, Option.map_none]
    · refine hmiddle hfront back fun data ↦ ?_
      rw [Decoder.fields, hknown, Option.map_some]
  | list aliases annotations after =>
    by_cases hlength : after.length + 3 ≤ requestFields.length
    · have hfront : [("aliasToMemberNameMap", aliases), ("annotation", annotations)].lookup "data" =
          none := rfl
      exact hmiddle hfront (["query", "queryType", "resType"].zip after)
        fun data ↦ if_pos hlength
    · have hfields (data : Tree) : Decoder.fields requestFields (depth + 1)
          (.array (aliases :: annotations :: data :: after)) = none := if_neg hlength
      rw [hnone hfields, hnone hfields, Option.map_none]

/-- A request with data is not read as a list of requests. -/
theorem batch_decoder_eq (h : DataPlace place) (hrows : DataReads depth data rows) :
    Batch.decoder (depth + 1) (place data) =
      (Request.decoder (depth + 1) (place data)).map .one := by
  have hlist : Decoder.list Request.decoder (depth + 1) (place data) = none := by
    cases h with
    | object before after => rfl
    | list aliases annotations after =>
      rw [Option.eq_none_iff_forall_ne_some]
      intro requests hrequests
      have hdata : data ∈ aliases :: annotations :: data :: after := by simp
      obtain ⟨request, -, hrequest⟩ :=
        exists_related_of_mem (mapM_eq_some_iff.1 hrequests) hdata
      cases hrows.request.symm.trans hrequest
  rw [Batch.decoder, hlist, Option.map_none, Option.or_none]

end DataPlace

/-! ### Texts of requests -/

/-- The text of a request with a place for that of its data: the request is an object with its
fields in any order, or the list of its fields. Nothing is asked of the other fields, but they must
be documents. -/
inductive RequestText : (String → String) → Prop where
  | object {before after : List (String × String)} {key : String}
      (hkey : Decoder.string.ofText? key = some "data")
      (hfields : ∀ field ∈ before ++ after, ∃ found, Tree.EntryParses field found) :
      RequestText fun data ↦ objectText (before ++ (key, data) :: after)
  | list {aliases annotations : String} {after : List String}
      (htexts : ∀ text ∈ aliases :: annotations :: after, ∃ tree, Tree.parse? text = some tree) :
      RequestText fun data ↦ listText (aliases :: annotations :: data :: after)

theorem RequestText.exists_place {request : String → String} (h : RequestText request) :
    ∃ place, DataPlace place ∧ ∀ {text : String} {data : Tree}, Tree.parse? text = some data →
      Tree.parse? (request text) = some (place data) := by
  cases h with
  | @object before after key hkey hfields =>
    obtain ⟨hbefore, hafter⟩ := List.forall_mem_append.1 hfields
    obtain ⟨front, hfront⟩ := exists_forall₂ hbefore
    obtain ⟨back, hback⟩ := exists_forall₂ hafter
    refine ⟨_, .object front back, fun {text data} hdata ↦ Tree.parse?_objectText ?_⟩
    obtain ⟨keyTree, hkeyTree, hname⟩ := Option.bind_eq_some_iff.1 hkey
    cases keyTree with
    | string name =>
      obtain rfl : name = some "data" := hname
      exact List.rel_append hfront (.cons ⟨hkeyTree, hdata⟩ hback)
    | _ => cases hname
  | @list aliases annotations after htexts =>
    obtain ⟨⟨aliasTree, haliases⟩, ⟨annotationTree, hannotations⟩, hafter⟩ := by
      rwa [List.forall_mem_cons, List.forall_mem_cons] at htexts
    obtain ⟨trees, htrees⟩ := exists_forall₂ hafter
    exact ⟨_, .list aliasTree annotationTree trees, fun hdata ↦
      Tree.parse?_listText (.cons haliases (.cons hannotations (.cons hdata htrees)))⟩

theorem dataReads_nil (depth : Nat) : DataReads (depth + 1) (.array []) [] where
  decoder := rfl
  legible := rfl
  request := rfl

/-- A request with rows is read as the request without any, with those rows put in. -/
theorem ofText_withRows {request : String → String} (h : RequestText request)
    {texts : List (List (String × String))} {listings : List (List (String × RawValue))}
    (htexts : List.Forall₂ (List.Forall₂ (EntryReads (Tree.depthLimit - 3))) texts listings) :
    Batch.ofText (request (listText (texts.map objectText))) =
      (Batch.ofText (request "[]")).map
        (Batch.map (·.withRows (listings.map OrderedMap.ofList))) := by
  obtain ⟨place, hplace, hparse⟩ := h.exists_place
  obtain ⟨data, hdata, hreads⟩ := exists_dataReads htexts
  have hempty := dataReads_nil (Tree.depthLimit - 2)
  have hlegible : (place data).isLegible Tree.depthLimit =
      (place (.array [])).isLegible Tree.depthLimit :=
    hplace.isLegible_eq (hreads.legible.trans hempty.legible.symm)
  have hrequest : Request.decoder Tree.depthLimit (place data) =
      (Request.decoder Tree.depthLimit (place (.array []))).map
        (·.withRows (listings.map OrderedMap.ofList)) := hplace.decoder_eq hreads hempty
  have hbatch : Batch.decoder Tree.depthLimit (place data) =
      (Request.decoder Tree.depthLimit (place data)).map .one := hplace.batch_decoder_eq hreads
  have hbatch' : Batch.decoder Tree.depthLimit (place (.array [])) =
      (Request.decoder Tree.depthLimit (place (.array []))).map .one :=
    hplace.batch_decoder_eq hempty
  rw [Batch.ofText_of_parse? (hparse hdata), Batch.ofText_of_parse? (hparse rfl), hlegible, hbatch,
    hbatch', hrequest]
  split
  · cases Request.decoder Tree.depthLimit (place (.array [])) <;> rfl
  · rfl

/-- In a list of requests, too, a request with rows is read as the request without any, with those
rows put in. -/
theorem ofText_withRows_of_many {request : String → String} (h : RequestText request)
    {before after : List String}
    (hothers : ∀ text ∈ before ++ after, ∃ tree, Tree.parse? text = some tree)
    {texts : List (List (String × String))} {listings : List (List (String × RawValue))}
    (htexts : List.Forall₂ (List.Forall₂ (EntryReads (Tree.depthLimit - 4))) texts listings)
    {requests : List Request}
    (hrequests : Batch.ofText (listText (before ++ request "[]" :: after)) =
      .ok (.many requests)) :
    Batch.ofText (listText (before ++ request (listText (texts.map objectText)) :: after)) =
      .ok (.many (requests.modify before.length
        (·.withRows (listings.map OrderedMap.ofList)))) := by
  obtain ⟨place, hplace, hparse⟩ := h.exists_place
  obtain ⟨data, hdata, hreads⟩ := exists_dataReads htexts
  have hempty := dataReads_nil (Tree.depthLimit - 3)
  obtain ⟨hbefore, hafter⟩ := List.forall_mem_append.1 hothers
  obtain ⟨front, hfront⟩ := exists_forall₂ hbefore
  obtain ⟨back, hback⟩ := exists_forall₂ hafter
  have hlist {text : String} {tree : Tree} (htree : Tree.parse? text = some tree) :
      Tree.parse? (listText (before ++ request text :: after)) =
        some (.array (front ++ place tree :: back)) :=
    Tree.parse?_listText (List.rel_append hfront (.cons (hparse htree) hback))
  have hlegible : (Tree.array (front ++ place data :: back)).isLegible Tree.depthLimit =
      (Tree.array (front ++ place (.array []) :: back)).isLegible Tree.depthLimit := by
    have hplaced : (place data).isLegible (Tree.depthLimit - 1) =
        (place (.array [])).isLegible (Tree.depthLimit - 1) :=
      hplace.isLegible_eq (hreads.legible.trans hempty.legible.symm)
    show Tree.areLegible (Tree.depthLimit - 1) _ = Tree.areLegible (Tree.depthLimit - 1) _
    rw [Bool.eq_iff_iff, Tree.areLegible_iff, Tree.areLegible_iff]
    simp only [List.forall_mem_append, List.forall_mem_cons, hplaced]
  obtain ⟨hall, hdecoder⟩ := (Batch.ofText_eq_ok_iff (hlist rfl)).1 hrequests
  obtain ⟨trees, htrees, hdecoders⟩ := Batch.exists_array hdecoder
  cases htrees
  have hrows : ∀ request, Request.decoder (Tree.depthLimit - 1) (place (.array [])) = some request →
      Request.decoder (Tree.depthLimit - 1) (place data) =
        some (request.withRows (listings.map OrderedMap.ofList)) := by
    intro request hrequest
    have hplaced : Request.decoder (Tree.depthLimit - 1) (place data) =
        (Request.decoder (Tree.depthLimit - 1) (place (.array []))).map _ :=
      hplace.decoder_eq hreads hempty
    rw [hplaced, hrequest, Option.map_some]
  rw [hfront.length_eq]
  exact (Batch.ofText_eq_ok_iff (hlist hdata)).2
    ⟨hlegible.trans hall, Batch.decoder_array (forall₂_modify hdecoders hrows)⟩

/-! ### Rows from their texts -/

/-- **Rows are read as their entries are inserted.** A row of a response with any values but
fractions is written as a text that is read as a row with the same keys in the same order, each with
the same value. An object is read as the row that results from inserting its entries one after
another, if its keys and values are read where they stand: by itself, in a request, or in one of
several requests. A key that is repeated keeps its first place and its last value. -/
theorem rows_of_texts :
    (∀ listing : List (String × WireValue),
      (∀ entry ∈ listing, ∀ n, entry.2 = .number n → n.IsInteger) →
      ∃ row, RawRow.decoder.ofText? (WireRow.toJson (OrderedMap.ofList listing)).render = some row ∧
        row.toList = (OrderedMap.ofList listing).toList.map (Prod.map id WireValue.raw)) ∧
    (∀ texts listing, List.Forall₂ (EntryReads (Tree.depthLimit - 1)) texts listing →
      RawRow.decoder.ofText? (objectText texts) = some (OrderedMap.ofList listing)) ∧
    (∀ request, RequestText request → ∀ texts listings,
      List.Forall₂ (List.Forall₂ (EntryReads (Tree.depthLimit - 3))) texts listings →
        Batch.ofText (request (listText (texts.map objectText))) =
          (Batch.ofText (request "[]")).map
            (Batch.map (·.withRows (listings.map OrderedMap.ofList)))) ∧
    (∀ request, RequestText request → ∀ (before after : List String),
      (∀ text ∈ before ++ after, ∃ tree, Tree.parse? text = some tree) → ∀ texts listings,
      List.Forall₂ (List.Forall₂ (EntryReads (Tree.depthLimit - 4))) texts listings →
      ∀ requests, Batch.ofText (listText (before ++ request "[]" :: after)) = .ok (.many requests) →
        Batch.ofText (listText (before ++ request (listText (texts.map objectText)) :: after)) =
          .ok (.many (requests.modify before.length
            (·.withRows (listings.map OrderedMap.ofList))))) ∧
    ∀ listing : List (String × RawValue),
      Settles listing (OrderedMap.ofList listing).toList := by
  refine ⟨fun listing hlisting ↦ ?_, fun texts listing h ↦ ?_,
    fun request hrequest texts listings h ↦ ofText_withRows hrequest h,
    fun request hrequest before after hothers texts listings h requests hrequests ↦
      ofText_withRows_of_many hrequest hothers h hrequests, OrderedMap.settles_ofList⟩
  · refine RawRow.exists_ofText?_render fun entry hentry ↦ ?_
    obtain ⟨front, back, rfl, -⟩ := (OrderedMap.settles_ofList listing).lastValue _ _ hentry
    exact hlisting entry (by simp)
  · obtain ⟨tree, hparse, hreads⟩ := exists_rowReads h
    rw [Decoder.ofText?, hparse]
    exact hreads.decoder

/-- The text of a request with one row, in which a key is repeated with an escape. -/
def repeatedKeyRequest : String :=
  "\x7b\"aliasToMemberNameMap\":\x7b\x7d,\"annotation\":\x7b\x7d," ++
    "\"data\":[\x7b\"n\":5,\"b\": true ,\"\\u006e\":null\x7d],\"query\":\x7b\x7d\x7d"

/-- The second value of the key stands in the place of the first. -/
theorem rows_of_repeatedKeyRequest :
    ∃ request : Request, Batch.ofText repeatedKeyRequest = .ok (.one request) ∧
      request.rows.map OrderedMap.toList = [[("n", .null), ("b", .bool true)]] := by
  let request (data : String) : String := objectText
    ([("\"aliasToMemberNameMap\"", "\x7b\x7d"), ("\"annotation\"", "\x7b\x7d")] ++
      ("\"data\"", data) :: [("\"query\"", "\x7b\x7d")])
  have hrequest : RequestText request := by
    refine .object (by decide +kernel) ?_
    simp only [List.forall_mem_append, List.forall_mem_cons]
    exact ⟨⟨⟨(some "aliasToMemberNameMap", .object []), rfl, rfl⟩,
      ⟨(some "annotation", .object []), rfl, rfl⟩, by simp⟩,
      ⟨(some "query", .object []), rfl, rfl⟩, by simp⟩
  have hreads : List.Forall₂ (List.Forall₂ (EntryReads (Tree.depthLimit - 3)))
      [[("\"n\"", "5"), ("\"b\"", " true "), ("\"\\u006e\"", "null")]]
      [[("n", .number (.whole 5 (by decide))), ("b", .bool true), ("n", .null)]] := by
    refine .cons (.cons ⟨?_, ?_⟩ (.cons ⟨?_, ?_⟩ (.cons ⟨?_, ?_⟩ .nil))) .nil <;> decide +kernel
  have htext : repeatedKeyRequest = request (listText
      ([[("\"n\"", "5"), ("\"b\"", " true "), ("\"\\u006e\"", "null")]].map objectText)) := by
    decide +kernel
  have hempty : (match Batch.ofText (request "[]") with
      | .ok (.one _) => true
      | _ => false) = true := by decide +kernel
  rw [htext, rows_of_texts.2.2.1 request hrequest _ _ hreads]
  split at hempty
  · next found hfound =>
    rw [hfound]
    exact ⟨_, rfl, rfl⟩
  · cases hempty

/-- Lists inside one another. -/
def nestedLists : Nat → String
  | 0 => listText []
  | depth + 1 => listText [nestedLists depth]

theorem parse?_nestedLists (depth : Nat) : ∃ tree, Tree.parse? (nestedLists depth) = some tree ∧
    ∀ levels, tree.isLegible levels = true ↔ depth < levels := by
  induction depth with
  | zero =>
    refine ⟨.array [], Tree.parse?_listText .nil, fun levels ↦ ?_⟩
    cases levels with
    | zero => exact ⟨fun h ↦ (by cases h), fun h ↦ absurd h (Nat.lt_irrefl 0)⟩
    | succ levels => exact ⟨fun _ ↦ Nat.succ_pos levels, fun _ ↦ rfl⟩
  | succ depth ih =>
    obtain ⟨tree, hparse, hlegible⟩ := ih
    refine ⟨.array [tree], Tree.parse?_listText (.cons hparse .nil), fun levels ↦ ?_⟩
    cases levels with
    | zero => exact ⟨fun h ↦ (by cases h), fun h ↦ absurd h (Nat.not_lt_zero _)⟩
    | succ levels =>
      rw [Tree.isLegible, Tree.areLegible_iff, List.forall_mem_singleton, hlegible]
      exact Nat.succ_lt_succ_iff.symm

/-- A timestamp in an object that opens as many levels as a document may. -/
def deepValue : String :=
  objectText [("\"$date\"", "\"2021-01-01\""), ("\"x\"", nestedLists 125)]

/-- It is not enough that a value is read by itself: a document that opens as many levels as it may
opens too many of them inside an object. -/
theorem deepValue_not_in_row : ¬∀ texts listing, List.Forall₂
    (fun (text : String × String) (entry : String × RawValue) ↦
      Decoder.string.ofText? text.1 = some entry.1 ∧ RawValue.decoder.ofText? text.2 = some entry.2)
      texts listing →
    RawRow.decoder.ofText? (objectText texts) = some (OrderedMap.ofList listing) := by
  intro h
  obtain ⟨lists, hlists, hlegible⟩ := parse?_nestedLists 125
  let deep : Tree := .object [(some "$date", .string (some "2021-01-01")), (some "x", lists)]
  have hdeep (levels : Nat) : deep.isLegible (levels + 1) = true ↔ 125 < levels := by
    rw [Tree.isLegible, Tree.areEntriesLegible_iff, List.forall_mem_cons,
      List.forall_mem_singleton, hlegible]
    simp [Tree.isLegible]
  have hkey : Tree.parse? "\"a\"" = some (.string (some "a")) := rfl
  have hvalue : Tree.parse? deepValue = some deep :=
    Tree.parse?_objectText (.cons ⟨rfl, rfl⟩ (.cons ⟨rfl, hlists⟩ .nil))
  have hrow : Tree.parse? (objectText [("\"a\"", deepValue)]) = some (.object [(some "a", deep)]) :=
    Tree.parse?_objectText (.cons ⟨hkey, hvalue⟩ .nil)
  have htime : (Calendar.Timestamp.parse? "2021-01-01").isSome = true := by decide +kernel
  obtain ⟨time, htime⟩ := Option.isSome_iff_exists.1 htime
  have hdecoder : RawValue.decoder Tree.depthLimit deep = some (.timestamp time) := by
    have hlegible : deep.isLegible Tree.depthLimit = true := (hdeep 126).2 (by decide)
    rw [RawValue.decoder, Decoder.legible, if_pos hlegible]
    show (Calendar.Timestamp.parse? "2021-01-01").map RawValue.timestamp = _
    rw [htime, Option.map_some]
  have hread := h [("\"a\"", deepValue)] [("a", .timestamp time)] (.cons
    ⟨by rw [Decoder.ofText?, hkey]; rfl, by rw [Decoder.ofText?, hvalue]; exact hdecoder⟩ .nil)
  rw [Decoder.ofText?, hrow] at hread
  obtain ⟨entries, hentries, -⟩ := Option.map_eq_some_iff.1 hread
  obtain ⟨entry, -, hentry⟩ :=
    exists_related_of_mem (mapM_eq_some_iff.1 hentries) (List.mem_singleton_self _)
  obtain ⟨key, -, hentry⟩ := Option.bind_eq_some_iff.1 hentry
  obtain ⟨value, hinside, -⟩ := Option.bind_eq_some_iff.1 hentry
  have hshallow := (hdeep 125).1 (RawValue.isLegible_of_decoder hinside)
  exact absurd hshallow (Nat.lt_irrefl 125)

end SemanticLayer.Response
