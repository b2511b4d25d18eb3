import SemanticLayer.Proofs.Calendar.Epoch
import SemanticLayer.Proofs.Calendar.WireForm
import SemanticLayer.Proofs.Json.Written
import SemanticLayer.Response.Value

/-!
# Coercion is idempotent

A wire value can be read as a raw value again, and coercing that for the same type gives the wire
value back (`RawValue.coerce_idempotent`). Two facts carry this. A value that passes through is read
as itself. A time is read as the text of its wire form, and this text is coerced to itself for every
type: for a member that is no time it passes through, and for one that is, it is read as a timestamp
with the same wire form (`RawValue.coerce_string_wire`).

A fraction is read as itself from a document, but not always from the text of one. This is the only
exception there (`WireValue.ofText?_or_fraction`).

For a time, a number counts milliseconds from 1970. It is written as the timestamp that lies so many
milliseconds from there, or passes through if it is zero or no timestamp lies there
(`RawValue.coerce_epochMilli`).
-/

namespace SemanticLayer.Response

open Calendar (Timestamp earliestMilli latestMilli)
open Json
open Query (SemanticType)

/-! ### Reading wire values as raw values -/

namespace WireValue

/-- A wire value as a value of a result. -/
def raw : WireValue → RawValue
  | null => .null
  | bool value => .bool value
  | number value => .number value
  | string value => .string value

/-- The document of a wire value is read as the same value. -/
theorem decoder_tree (wire : WireValue) (depth : Nat) :
    RawValue.decoder depth wire.toJson.tree = some wire.raw := by
  cases wire <;> rfl

theorem readsBack_or_fraction (wire : WireValue) :
    wire.toJson.ReadsBack ∨ ∃ n, wire = number n ∧ ¬n.IsInteger := by
  cases wire with
  | null => exact .inl fun n hn ↦ absurd hn List.not_mem_nil
  | bool value => exact .inl (Value.readsBack_bool value)
  | number n =>
    by_cases hinteger : n.IsInteger
    · exact .inl (Value.readsBack_number_iff.2 hinteger.readsBack)
    · exact .inr ⟨n, rfl, hinteger⟩
  | string value => exact .inl (Value.readsBack_string value)

/-- The text of a wire value is read as the same value, unless it is a fraction. -/
theorem ofText?_or_fraction (wire : WireValue) :
    RawValue.decoder.ofText? wire.toJson.render = some wire.raw ∨
      ∃ n, wire = number n ∧ ¬n.IsInteger := by
  refine wire.readsBack_or_fraction.imp_left fun hreads ↦ ?_
  rw [Decoder.ofText?, Value.parse?_render hreads]
  exact wire.decoder_tree _

/-- A fraction may come back from its text as a neighbour of itself. -/
example :
    RawValue.decoder.ofText?
        (number (.fraction ⟨false, 4503599627433849, -160, by decide⟩)).toJson.render =
      some (.number (.fraction ⟨false, 4503599627433848, -160, by decide⟩)) := by
  decide +kernel

end WireValue

namespace RawValue

variable {raw : RawValue} {type : SemanticType} {time : Timestamp}

/-! ### What coercion gives -/

theorem coerce_of_time? (htimed : raw.isTimed type = true) (htime : raw.time? = some time) :
    raw.coerce type = .string time.wire := by
  rw [coerce, htimed, htime]

theorem coerce_of_not_timed (h : raw.isTimed type = false) : raw.coerce type = raw.toWire := by
  rw [coerce, h]

theorem coerce_of_time?_eq_none (h : raw.time? = none) : raw.coerce type = raw.toWire := by
  rw [coerce, h]
  cases raw.isTimed type <;> rfl

/-- A value that counts as a time and can be read as one is written as one, and every other value
passes through. -/
theorem coerce_cases (raw : RawValue) (type : SemanticType) :
    (∃ time, raw.isTimed type = true ∧ raw.time? = some time ∧
      raw.coerce type = .string time.wire) ∨
    (raw.isTimed type = false ∨ raw.time? = none) ∧ raw.coerce type = raw.toWire := by
  rcases htimed : raw.isTimed type with - | -
  · exact .inr ⟨.inl rfl, coerce_of_not_timed htimed⟩
  · rcases htime : raw.time? with - | time
    · exact .inr ⟨.inr rfl, coerce_of_time?_eq_none htime⟩
    · exact .inl ⟨time, rfl, rfl, coerce_of_time? htimed htime⟩

/-- A value that passes through is the value that is read again, if it is no timestamp. -/
theorem raw_toWire (raw : RawValue) : raw.toWire.raw = raw ∨ ∃ time, raw = timestamp time := by
  cases raw with
  | timestamp time => exact .inr ⟨time, rfl⟩
  | _ => exact .inl rfl

/-! ### Coercing again -/

/-- The text of a time is coerced to itself. -/
theorem coerce_string_wire (time : Timestamp) (type : SemanticType) :
    (string time.wire).coerce type = .string time.wire := by
  rcases coerce_cases (string time.wire) type with ⟨again, -, htime, hcoerce⟩ | ⟨-, hcoerce⟩
  · have hread : (string time.wire).time? = some time.floorMilli := time.parse?_wire
    obtain rfl := Option.some.inj (hread.symm.trans htime)
    rw [hcoerce, Timestamp.wire_floorMilli]
  · exact hcoerce

theorem coerce_raw_coerce (raw : RawValue) (type : SemanticType) :
    (raw.coerce type).raw.coerce type = raw.coerce type := by
  rcases coerce_cases raw type with ⟨time, -, -, hcoerce⟩ | ⟨-, hcoerce⟩
  · rw [hcoerce]
    exact coerce_string_wire time type
  · rcases raw_toWire raw with hself | ⟨time, rfl⟩
    · rw [hcoerce, hself, hcoerce]
    · rw [hcoerce]
      exact coerce_string_wire time type

/-- **Coercion is idempotent.** A coerced value is read from its document as a value that is coerced
to the same, and it is read so from the text of the document, unless it is a fraction. For a time,
it is the wire form of the time that the value stands for, which is the wire form of what is read
from it, or else it is the value itself, being falsy, a truth value or no time. -/
theorem coerce_idempotent (raw : RawValue) (type : SemanticType) (depth : Nat) :
    (∃ again, RawValue.decoder depth (raw.coerce type).toJson.tree = some again ∧
      again.coerce type = raw.coerce type ∧
      (RawValue.decoder.ofText? (raw.coerce type).toJson.render = some again ∨
        ∃ n, raw.coerce type = .number n ∧ ¬n.IsInteger)) ∧
    ((∃ time, raw.isTruthy = true ∧ raw.time? = some time ∧
        raw.coerce .time = .string time.wire ∧
        (Timestamp.parse? time.wire).map Timestamp.wire = some time.wire) ∨
      (raw.isTruthy = false ∨ (∃ b, raw = bool b) ∨ raw.time? = none) ∧
        raw.coerce .time = raw.toWire ∧
        RawValue.decoder depth raw.toWire.toJson.tree = some raw) := by
  refine ⟨⟨_, (raw.coerce type).decoder_tree depth, raw.coerce_raw_coerce type,
    (raw.coerce type).ofText?_or_fraction⟩, ?_⟩
  have htimed : raw.isTimed .time = raw.isTruthy := rfl
  rcases coerce_cases raw .time with ⟨time, htruthy, htime, hcoerce⟩ | ⟨huntimed, hcoerce⟩
  · refine .inl ⟨time, htruthy, htime, hcoerce, ?_⟩
    rw [Timestamp.parse?_wire, Option.map_some, Timestamp.wire_floorMilli]
  · refine .inr ⟨huntimed.imp_right .inr, hcoerce, ?_⟩
    rcases raw_toWire raw with hself | ⟨time, rfl⟩
    · rw [WireValue.decoder_tree, hself]
    · -- a timestamp is a time
      rcases huntimed with h | h <;> cases h

/-! ### Milliseconds from 1970 -/

theorem isTimed_number (n : Number) : (number n).isTimed .time = !n.isZero :=
  rfl

/-- A number on a time is written as the timestamp at its milliseconds, if there is one and the
number is not zero. -/
theorem coerce_number (n : Number) :
    (∃ time, n.isZero = false ∧ Timestamp.ofEpochMilli? n.toSigned = some time ∧
      (number n).coerce .time = .string time.wire) ∨
    (n.isZero = true ∨ ¬(earliestMilli ≤ n.toSigned ∧ n.toSigned ≤ latestMilli)) ∧
      (number n).coerce .time = .number n := by
  rcases coerce_cases (number n) .time with ⟨time, htimed, htime, hcoerce⟩ | ⟨huntimed, hcoerce⟩
  · rw [isTimed_number, Bool.not_eq_true'] at htimed
    exact .inl ⟨time, htimed, htime, hcoerce⟩
  · refine .inr ⟨huntimed.imp (fun hzero ↦ ?_) fun hnone ↦ ?_, hcoerce⟩
    · rwa [isTimed_number, Bool.not_eq_false'] at hzero
    · rw [← Timestamp.exists_ofEpochMilli?_iff]
      rintro ⟨time, htime⟩
      cases hnone.symm.trans htime

/-- What does not fit a signed word is out of reach of every timestamp, and so is the largest signed
word that stands for it. -/
theorem toSigned_whole {count : Int} (hword : IsWord count) :
    (Number.whole count hword).toSigned = count ∨
      latestMilli < (Number.whole count hword).toSigned ∧ latestMilli < count := by
  simp only [Number.toSigned, latestMilli, maxSigned]
  omega

/-- **Milliseconds are exact in both directions.** A timestamp made from a count of milliseconds
lies exactly so many milliseconds from the start of 1970, is read back from its wire form, and comes
before the timestamp of every greater count. The counts that have a timestamp are an interval. A
whole number on a time is written as its timestamp, or passes through if it is zero or outside the
interval. -/
theorem coerce_epochMilli :
    (∀ count time, Timestamp.ofEpochMilli? count = some time →
      time.LiesAt count ∧ Timestamp.parse? time.wire = some time) ∧
    (∀ count later time time', Timestamp.ofEpochMilli? count = some time →
      Timestamp.ofEpochMilli? later = some time' → count < later → time < time') ∧
    (∀ count, (∃ time, Timestamp.ofEpochMilli? count = some time) ↔
      earliestMilli ≤ count ∧ count ≤ latestMilli) ∧
    ∀ count (hword : IsWord count),
      (∃ time, count ≠ 0 ∧ Timestamp.ofEpochMilli? count = some time ∧
        (number (.whole count hword)).coerce .time = .string time.wire) ∨
      (count = 0 ∨ ¬(earliestMilli ≤ count ∧ count ≤ latestMilli)) ∧
        (number (.whole count hword)).coerce .time = .number (.whole count hword) := by
  refine ⟨fun count time htime ↦ ⟨Timestamp.liesAt_of_ofEpochMilli? htime, ?_⟩,
    fun _ _ _ _ ↦ Timestamp.ofEpochMilli?_lt, fun _ ↦ Timestamp.exists_ofEpochMilli?_iff,
    fun count hword ↦ ?_⟩
  · rw [Timestamp.parse?_wire,
      Timestamp.floorMilli_eq_self (Timestamp.ofEpochMilli?_eq_some htime).2.1]
  · have hzero : (Number.whole count hword).isZero = true ↔ count = 0 := beq_iff_eq
    rcases coerce_number (.whole count hword) with ⟨time, hnonzero, htime, hcoerce⟩ |
      ⟨hout, hcoerce⟩
    · rcases toSigned_whole hword with hself | ⟨hbeyond, -⟩
      · rw [hself] at htime
        refine .inl ⟨time, fun h ↦ ?_, htime, hcoerce⟩
        cases hnonzero.symm.trans (hzero.2 h)
      · have hreach := Timestamp.exists_ofEpochMilli?_iff.1 ⟨time, htime⟩
        omega
    · refine .inr ⟨hout.imp hzero.1 fun hreach ↦ ?_, hcoerce⟩
      rcases toSigned_whole hword with hself | ⟨-, hbeyond⟩
      · rwa [hself] at hreach
      · omega

end RawValue

end SemanticLayer.Response
