import SemanticLayer.Proofs.Calendar.Clock

/-!
# The wire form is read back

Reading the wire form of a timestamp gives that timestamp, cut to whole milliseconds
(`Timestamp.wire_roundTrip`). The parts of a clock that are written stand for the time that they
were taken from (`Timestamp.ofClock?_parts`), and the text that they make is read as any other date
and time of day is, without an offset.
-/

namespace SemanticLayer.Calendar

open Text (isBlank)

namespace Timestamp

/-- The timestamp with its fraction cut to whole milliseconds. -/
def floorMilli (t : Timestamp) : Timestamp :=
  ⟨t.date, t.second, t.nano / 1000000 * 1000000, t.second_lt, by have := t.nano_lt; omega, by
    have := t.leap
    omega⟩

/-- The parts of a clock that are written stand for the time that they were taken from, up to
whole milliseconds; a leap second is written as second 60. -/
theorem ofClock?_parts (t : Timestamp) :
    ofClock? t.date (t.second / 3600) (t.second / 60 % 60)
        (t.second % 60 + t.nano / 1000000000) (t.nano % 1000000000 / 1000000 * 1000000) =
      some t.floorMilli := by
  obtain ⟨date, second, nano, hsecond, hnano, hleap⟩ := t
  simp only at hsecond hnano hleap ⊢
  have hrange : second / 3600 < 24 ∧ second / 60 % 60 < 60 ∧
      second % 60 + nano / 1000000000 ≤ 60 ∧
      nano % 1000000000 / 1000000 * 1000000 < 1000000000 := by
    omega
  rw [ofClock?, dif_pos hrange]
  split
  · next hsixty =>
    simp only [floorMilli, Option.some.injEq, Timestamp.mk.injEq, true_and]
    omega
  · next hplain =>
    simp only [floorMilli, Option.some.injEq, Timestamp.mk.injEq, true_and]
    omega

/-- The parts of the wire form. -/
theorem renderPlaces_three (t : Timestamp) :
    t.renderPlaces 3 = clockText .letter t.date (t.second / 3600) (t.second / 60 % 60)
      (t.second % 60 + t.nano / 1000000000)
      ('.' :: padded 3 (t.nano % 1000000000 / 1000000)) := by
  simp only [renderPlaces, clockText, Reader.Separator.char, List.append_assoc, List.cons_append]

/-! ### Reading what was written -/

theorem parse?_wire (t : Timestamp) : parse? t.wire = some t.floorMilli := by
  have hblank : ∀ c ∈ '.' :: padded 3 (t.nano % 1000000000 / 1000000), isBlank c = false :=
    List.forall_mem_cons.2 ⟨by decide, fun _ hc ↦ isBlank_of_mem_padded hc⟩
  rw [wire, renderPlaces_three]
  exact parse?_clockText hblank (Reader.fraction_padded (by omega)) t.ofClock?_parts

/-- What is not written is what the cut takes away. -/
theorem wire_floorMilli (t : Timestamp) : t.floorMilli.wire = t.wire := by
  have hleap : t.nano / 1000000 * 1000000 / 1000000000 = t.nano / 1000000000 := by omega
  have hmilli : t.nano / 1000000 * 1000000 % 1000000000 / 1000000 =
      t.nano % 1000000000 / 1000000 := by omega
  rw [wire, wire, renderPlaces_three, renderPlaces_three]
  simp only [floorMilli, hleap, hmilli]

/-- A timestamp in whole milliseconds loses nothing. -/
theorem floorMilli_eq_self {t : Timestamp} (h : 1000000 ∣ t.nano) : t.floorMilli = t :=
  eq_of_epochSecond_eq rfl (Nat.div_mul_cancel h)

/-- **The wire form is read back.** Every timestamp, in any year and during a leap second too, is
read from its wire form as itself with the fraction cut to whole milliseconds; writing what was read
gives the same text. -/
theorem wire_roundTrip (t : Timestamp) :
    parse? t.wire = some t.floorMilli ∧ (parse? t.wire).map wire = some t.wire := by
  refine ⟨t.parse?_wire, ?_⟩
  rw [parse?_wire, Option.map_some, wire_floorMilli]

end Timestamp

end SemanticLayer.Calendar
