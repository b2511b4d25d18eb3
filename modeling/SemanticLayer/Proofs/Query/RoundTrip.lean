import SemanticLayer.Proofs.Json.FreeForm
import SemanticLayer.Proofs.Json.Recovery
import SemanticLayer.Proofs.Query.Codec

/-!
# Queries and annotations are read back as they are written

Each part of a query is recovered from its document, by a decoder that is told to open no more
levels than the document has: a query opens four, with the values of its filters. A record is shown
to be recovered in three steps: its document is the list of its fields (`toJson_eq_fields`), the
decoder looks for exactly these names, and each field is recovered by itself. So a field that is
written under one name and read under another would be found here.

The details of a member are not all recovered: their free-form part is of any form, while what is
read has sorted keys. Details that were read are recovered (`MemberDetails.recovers_of_decoder`).
-/

namespace SemanticLayer.Query

open Json

/-! ### Members, ranges and names -/

theorem Member.recovers (member : Member) (depth : Nat) :
    Member.decoder.Recovers depth member member.toJson :=
  (Decoder.recovers_string depth member.path).map Member.mk

theorem DateRange.recovers (range : DateRange) (depth : Nat) :
    DateRange.decoder.Recovers (depth + 1) range range.toJson := by
  cases range with
  | relative words => exact ⟨Tree.noConfusion, rfl⟩
  | bounded first last => exact ⟨Tree.noConfusion, rfl⟩

theorem SemanticType.recovers (type : SemanticType) (depth : Nat) :
    SemanticType.decoder.Recovers depth type type.toJson :=
  have hname : (fun name ↦ some (SemanticType.ofName name)) type.name = some type :=
    congrArg some (SemanticType.ofName_name type)
  Decoder.recovers_named hname depth

theorem FilterOperator.recovers (operator : FilterOperator) (depth : Nat) :
    FilterOperator.decoder.Recovers depth operator operator.toJson :=
  Decoder.recovers_named (FilterOperator.ofName?_name operator) depth

/-! ### Records -/

theorem recovers_text (text? : Option String) (depth : Nat) :
    ∀ text ∈ text?, Decoder.string.Recovers depth text (.string text) :=
  fun text _ ↦ Decoder.recovers_string depth text

theorem TimeDimension.toJson_eq_fields (td : TimeDimension) :
    td.toJson = .object (Value.fields [("dimension", td.dimension.map Member.toJson),
      ("granularity", td.granularity.map .string),
      ("dateRange", td.dateRange.map DateRange.toJson)]) := by
  simp [toJson]

theorem TimeDimension.recovers (td : TimeDimension) (depth : Nat) :
    TimeDimension.decoder.Recovers (depth + 2) td td.toJson := by
  have hdimension : ∀ member ∈ td.dimension,
      Member.decoder.Recovers (depth + 1) member member.toJson :=
    fun member _ ↦ member.recovers (depth + 1)
  have hgranularity := recovers_text td.granularity (depth + 1)
  have hrange : ∀ range ∈ td.dateRange,
      DateRange.decoder.Recovers (depth + 1) range range.toJson :=
    fun range _ ↦ range.recovers depth
  rw [toJson_eq_fields]
  refine Decoder.recovers_record rfl (by decide) fun hholds ↦ ?_
  simp only [Decoder.optional_of_recovers hdimension hholds "dimension" rfl,
    Decoder.optional_of_recovers hgranularity hholds "granularity" rfl,
    Decoder.optional_of_recovers hrange hholds "dateRange" rfl]
  rfl

theorem Order.toJson_eq_fields (order : Order) :
    order.toJson =
      .object (Value.fields [("id", some order.id.toJson), ("desc", some (.bool order.desc))]) :=
  rfl

theorem Order.recovers (order : Order) (depth : Nat) :
    Order.decoder.Recovers (depth + 1) order order.toJson := by
  have hid := order.id.recovers depth
  have hdesc := Decoder.recovers_bool depth order.desc
  rw [toJson_eq_fields]
  refine Decoder.recovers_record rfl (by decide) fun hholds ↦ ?_
  simp only [hid.required hholds "id" rfl, hdesc.defaulted false hholds "desc" rfl]
  rfl

theorem Filter.toJson_eq_fields (filter : Filter) :
    filter.toJson = .object (Value.fields [("member", some filter.member.toJson),
      ("operator", some filter.operator.toJson), ("values", some (.strings filter.values))]) :=
  rfl

theorem Filter.recovers (filter : Filter) (depth : Nat) :
    Filter.decoder.Recovers (depth + 2) filter filter.toJson := by
  have hmember := filter.member.recovers (depth + 1)
  have hoperator := filter.operator.recovers (depth + 1)
  have hvalues : (Decoder.list Decoder.string).Recovers (depth + 1) filter.values
      (.strings filter.values) :=
    Decoder.Recovers.list fun text _ ↦ Decoder.recovers_string depth text
  rw [toJson_eq_fields]
  refine Decoder.recovers_record rfl (by decide) fun hholds ↦ ?_
  simp only [hmember.required hholds "member" rfl, hoperator.required hholds "operator" rfl,
    hvalues.defaulted [] hholds "values" rfl]
  rfl

/-! ### Queries -/

theorem Definition.toJson_eq_fields (query : Definition) :
    query.toJson = .object (Value.fields
      [("measures", some (.array (query.measures.map Member.toJson))),
        ("dimensions", some (.array (query.dimensions.map Member.toJson))),
        ("timeDimensions", some (.array (query.timeDimensions.map TimeDimension.toJson))),
        ("segments", some (.array (query.segments.map Member.toJson))),
        ("filters", some (.array (query.filters.map Filter.toJson))),
        ("order", some (.array (query.order.map Order.toJson))),
        ("limit", query.limit.map unsignedToJson), ("offset", query.offset.map unsignedToJson),
        ("timezone", query.timezone.map .string)]) := by
  simp [toJson]

theorem recovers_members (members : List Member) (depth : Nat) :
    (Decoder.list Member.decoder).Recovers (depth + 1) members
      (.array (members.map Member.toJson)) :=
  Decoder.Recovers.list fun member _ ↦ member.recovers depth

theorem recovers_limit (limit : Option UInt64) (depth : Nat) :
    ∀ n ∈ limit, Decoder.unsigned.Recovers depth n (unsignedToJson n) :=
  fun n _ ↦ Decoder.recovers_unsigned depth n

theorem Definition.recovers (query : Definition) (depth : Nat) :
    Definition.decoder.Recovers (depth + 4) query query.toJson := by
  have hmeasures := recovers_members query.measures (depth + 2)
  have hdimensions := recovers_members query.dimensions (depth + 2)
  have hsegments := recovers_members query.segments (depth + 2)
  have htds : (Decoder.list TimeDimension.decoder).Recovers (depth + 3) query.timeDimensions
      (.array (query.timeDimensions.map TimeDimension.toJson)) :=
    Decoder.Recovers.list fun td _ ↦ td.recovers depth
  have hfilters : (Decoder.list Filter.decoder).Recovers (depth + 3) query.filters
      (.array (query.filters.map Filter.toJson)) :=
    Decoder.Recovers.list fun filter _ ↦ filter.recovers depth
  have horder : (Decoder.list Order.decoder).Recovers (depth + 3) query.order
      (.array (query.order.map Order.toJson)) :=
    Decoder.Recovers.list fun order _ ↦ order.recovers (depth + 1)
  have hlimit := recovers_limit query.limit (depth + 3)
  have hoffset := recovers_limit query.offset (depth + 3)
  have htimezone := recovers_text query.timezone (depth + 3)
  rw [toJson_eq_fields]
  refine Decoder.recovers_record rfl (by decide) fun hholds ↦ ?_
  simp only [hmeasures.defaulted [] hholds "measures" rfl,
    hdimensions.defaulted [] hholds "dimensions" rfl,
    htds.defaulted [] hholds "timeDimensions" rfl, hsegments.defaulted [] hholds "segments" rfl,
    hfilters.defaulted [] hholds "filters" rfl, horder.defaulted [] hholds "order" rfl,
    Decoder.optional_of_recovers hlimit hholds "limit" rfl,
    Decoder.optional_of_recovers hoffset hholds "offset" rfl,
    Decoder.optional_of_recovers htimezone hholds "timezone" rfl]
  rfl

/-! ### Numbers of queries -/

@[simp] theorem Member.readsBack_toJson (member : Member) : member.toJson.ReadsBack :=
  Value.readsBack_string member.path

@[simp] theorem DateRange.readsBack_toJson (range : DateRange) : range.toJson.ReadsBack := by
  cases range with
  | relative words => exact Value.readsBack_string words
  | bounded first last => exact Value.readsBack_strings [first, last]

@[simp] theorem readsBack_unsignedToJson (n : UInt64) : (unsignedToJson n).ReadsBack :=
  Value.readsBack_number_iff.2 (Number.readsBack_whole _ _)

@[simp] theorem TimeDimension.readsBack_toJson (td : TimeDimension) : td.toJson.ReadsBack := by
  rw [toJson_eq_fields, Value.readsBack_fields_iff]
  simp

@[simp] theorem Order.readsBack_toJson (order : Order) : order.toJson.ReadsBack := by
  rw [toJson_eq_fields, Value.readsBack_fields_iff]
  simp

@[simp] theorem FilterOperator.readsBack_toJson (operator : FilterOperator) :
    operator.toJson.ReadsBack :=
  Value.readsBack_string operator.name

@[simp] theorem Filter.readsBack_toJson (filter : Filter) : filter.toJson.ReadsBack := by
  rw [toJson_eq_fields, Value.readsBack_fields_iff]
  simp

theorem Definition.readsBack_toJson (query : Definition) : query.toJson.ReadsBack := by
  rw [toJson_eq_fields, Value.readsBack_fields_iff]
  simp

/-! ### Annotations -/

theorem MemberDetails.toJson_eq_fields (details : MemberDetails) :
    details.toJson = .object (Value.fields [("type", some details.type.toJson),
      ("title", details.title.map .string), ("shortTitle", details.shortTitle.map .string),
      ("description", details.description.map .string), ("format", details.format.map .string),
      ("meta", details.extra.map id)]) := by
  simp only [toJson, Value.fields_cons_some, Value.fields_cons_map, Value.fields_nil,
    List.append_nil, List.append_assoc]

theorem MemberDetails.recovers {details : MemberDetails} {depth : Nat}
    (hextra : ∀ extra ∈ details.extra, Decoder.value.Recovers depth extra (id extra)) :
    MemberDetails.decoder.Recovers (depth + 1) details details.toJson := by
  have htype := details.type.recovers depth
  have htitle := recovers_text details.title depth
  have hshort := recovers_text details.shortTitle depth
  have hdescription := recovers_text details.description depth
  have hformat := recovers_text details.format depth
  rw [toJson_eq_fields]
  refine Decoder.recovers_record rfl (by decide) fun hholds ↦ ?_
  simp only [htype.required hholds "type" rfl,
    Decoder.optional_of_recovers htitle hholds "title" rfl,
    Decoder.optional_of_recovers hshort hholds "shortTitle" rfl,
    Decoder.optional_of_recovers hdescription hholds "description" rfl,
    Decoder.optional_of_recovers hformat hholds "format" rfl,
    Decoder.optional_of_recovers hextra hholds "meta" rfl]
  rfl

/-- The free-form part of details that were read is recovered at the depth at which it was read. -/
theorem recovers_of_optional_value {depth : Nat} {present : List (String × Tree)} {key : String}
    {extra? : Option Value} (h : Decoder.optional Decoder.value depth present key = some extra?) :
    ∀ extra ∈ extra?, Decoder.value.Recovers depth extra (id extra) := by
  rw [Decoder.optional] at h
  rintro extra ⟨⟩
  split at h
  · cases h
  · cases h
  · next tree hnull _ =>
    obtain ⟨value, hvalue, heq⟩ := Option.map_eq_some_iff.1 h
    obtain rfl := Option.some.inj heq
    exact ⟨fun htree ↦ hnull (Decoder.eq_null_of_value hvalue htree),
      Decoder.value_tree_of_value hvalue⟩

theorem MemberDetails.recovers_of_decoder {depth : Nat} {tree : Tree} {details : MemberDetails}
    (h : MemberDetails.decoder depth tree = some details) :
    MemberDetails.decoder.Recovers depth details details.toJson := by
  obtain ⟨⟨inner, present⟩, hfields, h⟩ := Option.bind_eq_some_iff.1 h
  obtain ⟨type, -, h⟩ := Option.bind_eq_some_iff.1 h
  obtain ⟨title, -, h⟩ := Option.bind_eq_some_iff.1 h
  obtain ⟨shortTitle, -, h⟩ := Option.bind_eq_some_iff.1 h
  obtain ⟨description, -, h⟩ := Option.bind_eq_some_iff.1 h
  obtain ⟨format, -, h⟩ := Option.bind_eq_some_iff.1 h
  obtain ⟨extra, hextra, h⟩ := Option.bind_eq_some_iff.1 h
  obtain rfl := Option.some.inj h
  obtain rfl := Decoder.depth_eq_of_fields hfields
  exact MemberDetails.recovers (recovers_of_optional_value hextra)

theorem SemanticType.readsBack_toJson (type : SemanticType) : type.toJson.ReadsBack :=
  Value.readsBack_string type.name

/-- All numbers of details are in their free-form part. -/
theorem MemberDetails.readsBack_toJson {details : MemberDetails}
    (h : ∀ extra ∈ details.extra, extra.ReadsBack) : details.toJson.ReadsBack := by
  rw [toJson_eq_fields, Value.readsBack_fields_iff]
  simpa [SemanticType.readsBack_toJson] using h

/-- **Queries and annotations are read back as they are written.** Every query is read back from its
document, and whatever details are read from a text are read back from theirs, if the numbers in
their free-form part are integers. -/
theorem ofText?_render :
    (∀ query : Definition, Definition.decoder.ofText? query.toJson.render = some query) ∧
    ∀ text details, MemberDetails.decoder.ofText? text = some details →
      (∀ extra ∈ details.extra, ∀ n ∈ extra.numbers, n.IsInteger) →
      MemberDetails.decoder.ofText? details.toJson.render = some details := by
  refine ⟨fun query ↦ (query.recovers 123).ofText? query.readsBack_toJson,
    fun text details h hintegers ↦ ?_⟩
  obtain ⟨tree, -, htree⟩ := Option.bind_eq_some_iff.1 h
  exact (MemberDetails.recovers_of_decoder htree).ofText?
    (MemberDetails.readsBack_toJson fun extra hextra n hn ↦ (hintegers extra hextra n hn).readsBack)

/-- Details of an unknown type. The keys of the free-form part are neither sorted nor distinct, and
a field that is skipped holds a number that is too large. -/
def looseDetails : String :=
  "\x7b\"meta\":\x7b\"b\":0,\"a\":\"\\u001f\\ud83d\\ude00\",\"b\":[-0,18446744073709551615]\x7d," ++
    "\"title\":null,\"type\":\"geo\",\"unknown\":1e999\x7d"

/-- The details that are read from `looseDetails`, as they are written. -/
def tidyDetails : String :=
  "\x7b\"type\":\"other\"," ++
    "\"meta\":\x7b\"a\":\"\\u001f😀\",\"b\":[-0.0,18446744073709551615]\x7d\x7d"

/-- The loose text is tidied by being read and written, and what is read stays the same. -/
theorem ofText?_tidyDetails :
    ∃ details, MemberDetails.decoder.ofText? looseDetails = some details ∧
      (∀ extra ∈ details.extra, ∀ n ∈ extra.numbers, n.IsInteger) ∧
      details.toJson.render = tidyDetails ∧
      MemberDetails.decoder.ofText? tidyDetails = some details := by
  have hintegers : ∀ details ∈ MemberDetails.decoder.ofText? looseDetails,
      ∀ extra ∈ details.extra, ∀ n ∈ extra.numbers, n.IsInteger := by
    decide +kernel
  have hrender : (MemberDetails.decoder.ofText? looseDetails).map (·.toJson.render) =
      some tidyDetails := by
    decide +kernel
  obtain ⟨details, hdetails, htidy⟩ := Option.map_eq_some_iff.1 hrender
  have hback := ofText?_render.2 looseDetails details hdetails (hintegers details hdetails)
  exact ⟨details, hdetails, hintegers details hdetails, htidy, htidy ▸ hback⟩

end SemanticLayer.Query
