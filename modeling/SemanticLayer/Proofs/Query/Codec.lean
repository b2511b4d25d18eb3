import SemanticLayer.Proofs.Json.Depth
import SemanticLayer.Query.Codec

/-!
# Queries and annotations at any depth

The decoders of queries and annotations are stable: where in a document a query stands makes no
difference to how it is read, as long as it does not nest too deep there. Each decoder is put
together from stable ones.
-/

namespace SemanticLayer.Query

open Json

/-! ### Members, ranges and names -/

theorem Member.isStable_decoder : Member.decoder.IsStable :=
  Decoder.isStable_string.map Member.mk

theorem DateRange.isStable_decoder : DateRange.decoder.IsStable := by
  refine Decoder.IsStable.legible fun depth tree hdepth ↦ ?_
  cases tree with
  | array items =>
    obtain ⟨inner, rfl, -⟩ := Tree.exists_inner_of_array hdepth
    match items with
    | [] => rfl
    | [first] => cases first <;> rfl
    | first :: last :: [] => cases first <;> cases last <;> rfl
    | first :: last :: _ :: _ => cases first <;> cases last <;> rfl
  | _ => rfl

theorem SemanticType.isStable_decoder : SemanticType.decoder.IsStable :=
  Decoder.isStable_named _

theorem FilterOperator.isStable_decoder : FilterOperator.decoder.IsStable :=
  Decoder.isStable_named _

theorem Mode.isStable_decoder : Mode.decoder.IsStable :=
  Decoder.isStable_named _

theorem Shape.isStable_decoder : Shape.decoder.IsStable :=
  Decoder.isStable_named _

/-! ### Records -/

theorem TimeDimension.isStable_decoder : TimeDimension.decoder.IsStable :=
  Decoder.isStable_record fun hfit ↦ by
    simp only [Member.isStable_decoder.optional hfit, Decoder.isStable_string.optional hfit,
      DateRange.isStable_decoder.optional hfit]

theorem Order.isStable_decoder : Order.decoder.IsStable :=
  Decoder.isStable_record fun hfit ↦ by
    simp only [Member.isStable_decoder.required hfit, Decoder.isStable_bool.defaulted false hfit]

theorem Filter.isStable_decoder : Filter.decoder.IsStable :=
  Decoder.isStable_record fun hfit ↦ by
    simp only [Member.isStable_decoder.required hfit, FilterOperator.isStable_decoder.required hfit,
      Decoder.isStable_string.list.defaulted [] hfit]

theorem Definition.isStable_decoder : Definition.decoder.IsStable :=
  Decoder.isStable_record fun hfit ↦ by
    simp only [Member.isStable_decoder.list.defaulted [] hfit,
      TimeDimension.isStable_decoder.list.defaulted [] hfit,
      Filter.isStable_decoder.list.defaulted [] hfit, Order.isStable_decoder.list.defaulted [] hfit,
      Decoder.isStable_unsigned.optional hfit, Decoder.isStable_string.optional hfit]

/-! ### Annotations -/

theorem MemberDetails.isStable_decoder : MemberDetails.decoder.IsStable :=
  Decoder.isStable_record fun hfit ↦ by
    simp only [SemanticType.isStable_decoder.required hfit, Decoder.isStable_string.optional hfit,
      Decoder.isStable_value.optional hfit]

theorem Annotations.isStable_decoder : Annotations.decoder.IsStable :=
  MemberDetails.isStable_decoder.entries.map OrderedMap.ofList

theorem AliasMap.isStable_decoder : AliasMap.decoder.IsStable :=
  Member.isStable_decoder.entries.map OrderedMap.ofList

end SemanticLayer.Query
