import Mathlib
import SemanticLayer.Calendar.Timestamp
import SemanticLayer.Proofs.Calendar.Civil

/-!
# Timestamps as instants

Timestamps are ordered by the second at which they are and, within a second, by their nanosecond
(`Timestamp.le_iff`). A whole second has a timestamp if two timestamps enclose it
(`Timestamp.exists_ofEpochSecond?`), and so has the millisecond before it. Away from the first and
the last supported day, a timestamp can be moved by less than a day
(`Timestamp.exists_minusMinutes?`). A day ends with its last millisecond, except the last supported
day (`Timestamp.endOfDay?_eq_some_iff`).
-/

namespace SemanticLayer.Calendar

/-! ### The order of timestamps -/

namespace Timestamp

theorem le_iff {a b : Timestamp} :
    a ≤ b ↔ a.epochSecond < b.epochSecond ∨ (a.epochSecond = b.epochSecond ∧ a.nano ≤ b.nano) := by
  have ha := a.second_lt
  have hb := b.second_lt
  show Timestamp.le a b ↔ _
  simp only [Timestamp.le, epochSecond]
  omega

theorem eq_of_epochSecond_eq {a b : Timestamp} :
    a.epochSecond = b.epochSecond → a.nano = b.nano → a = b := by
  obtain ⟨⟨number, -⟩, second, nano, hlt, -, -⟩ := a
  obtain ⟨⟨number', -⟩, second', nano', hlt', -, -⟩ := b
  intro hsecond hnano
  simp only [epochSecond] at hsecond hnano
  obtain rfl : number = number' := by omega
  obtain rfl : second = second' := by omega
  subst hnano
  rfl

/-- Timestamps are ordered by their seconds, and within a second by their nanoseconds. -/
instance : LinearOrder Timestamp where
  le_refl a := le_iff.2 (.inr ⟨rfl, Nat.le_refl _⟩)
  le_trans a b c hab hbc := by
    rw [le_iff] at hab hbc ⊢
    omega
  le_antisymm a b hab hba := by
    rw [le_iff] at hab hba
    exact eq_of_epochSecond_eq (by omega) (by omega)
  le_total a b := by
    rw [le_iff, le_iff]
    omega
  toDecidableLE := inferInstance

theorem lt_iff {a b : Timestamp} :
    a < b ↔ a.epochSecond < b.epochSecond ∨ (a.epochSecond = b.epochSecond ∧ a.nano < b.nano) := by
  rw [← not_le, le_iff]
  omega

theorem epochSecond_mono : Monotone epochSecond := by
  intro a b hle
  rw [le_iff] at hle
  omega

/-! ### Timestamps at whole seconds -/

theorem ofEpochSecond?_eq_some_iff {count : Int} {t : Timestamp} :
    ofEpochSecond? count = some t ↔ t.epochSecond = count ∧ t.nano = 0 := by
  have hlt := t.second_lt
  have hrange := t.date.inRange
  constructor
  · intro h
    obtain ⟨date, hdate, rfl⟩ := Option.map_eq_some_iff.1 h
    refine ⟨?_, rfl⟩
    simp only [epochSecond, Date.number_of_ofNumber? hdate]
    omega
  · rintro ⟨hsecond, hnano⟩
    have hnumber : count / 86400 = t.date.number := by
      rw [epochSecond] at hsecond
      omega
    rw [ofEpochSecond?, hnumber, Date.ofNumber?, dif_pos hrange, Option.map_some]
    refine congrArg some (eq_of_epochSecond_eq ?_ hnano.symm)
    simp only [epochSecond] at hsecond ⊢
    omega

theorem epochSecond_of_ofEpochSecond? {count : Int} {t : Timestamp}
    (h : ofEpochSecond? count = some t) : t.epochSecond = count :=
  (ofEpochSecond?_eq_some_iff.1 h).1

/-- Every second between two timestamps has a timestamp. -/
theorem exists_ofEpochSecond? {count : Int} {a b : Timestamp} (ha : a.epochSecond ≤ count)
    (hb : count ≤ b.epochSecond) : ∃ t, ofEpochSecond? count = some t := by
  have hfirst := a.date.inRange
  have hlast := b.date.inRange
  have hlt := b.second_lt
  rw [epochSecond] at ha hb
  have hrange : firstDay ≤ count / 86400 ∧ count / 86400 ≤ lastDay := by
    unfold firstDay lastDay at *
    omega
  rw [ofEpochSecond?, Date.ofNumber?, dif_pos hrange]
  exact ⟨_, rfl⟩

/-- What is at a whole second is not after a timestamp if its second is not. -/
theorem ofEpochSecond?_le_iff {count : Int} {a b : Timestamp}
    (h : ofEpochSecond? count = some a) : a ≤ b ↔ count ≤ b.epochSecond := by
  obtain ⟨rfl, hnano⟩ := ofEpochSecond?_eq_some_iff.1 h
  rw [le_iff, hnano]
  omega

theorem lt_ofEpochSecond?_iff {count : Int} {a b : Timestamp}
    (h : ofEpochSecond? count = some a) : b < a ↔ b.epochSecond < count := by
  rw [← not_le, ofEpochSecond?_le_iff h, not_le]

theorem map_midnight_ofNumber? (number : Int) :
    (Date.ofNumber? number).map midnight = ofEpochSecond? (86400 * number) := by
  have hnumber : 86400 * number / 86400 = number := by omega
  have hsecond : (86400 * number % 86400).toNat = 0 := by omega
  simp only [ofEpochSecond?, hnumber, hsecond]
  rfl

/-! ### Moving by whole minutes -/

/-- Moving back by whole minutes keeps the fraction and the leap second. -/
theorem minusMinutes?_eq_some {t moved : Timestamp} {minutes : Int}
    (h : t.minusMinutes? minutes = some moved) :
    moved.epochSecond = t.epochSecond - 60 * minutes ∧ moved.nano = t.nano := by
  obtain ⟨date, hdate, rfl⟩ := Option.map_eq_some_iff.1 h
  refine ⟨?_, rfl⟩
  show 86400 * date.number + (((t.epochSecond - 60 * minutes) % 86400).toNat : Int) = _
  rw [Date.number_of_ofNumber? hdate]
  omega

/-- A timestamp can be moved by less than a day, if the days around its own are supported. -/
theorem exists_minusMinutes? {t : Timestamp} {minutes : Int}
    (hfirst : firstDay < t.date.number) (hlast : t.date.number < lastDay)
    (hminutes : -1440 < minutes ∧ minutes < 1440) :
    ∃ moved, t.minusMinutes? minutes = some moved := by
  have hsecond := t.second_lt
  have hrange : firstDay ≤ (t.epochSecond - 60 * minutes) / 86400 ∧
      (t.epochSecond - 60 * minutes) / 86400 ≤ lastDay := by
    rw [epochSecond]
    omega
  simp only [minusMinutes?, Date.ofNumber?, dif_pos hrange]
  exact ⟨_, rfl⟩

/-! ### Timestamps at whole milliseconds -/

/-- What is at a whole number of milliseconds is in no leap second. -/
theorem ofEpochMilli?_eq_some {count : Int} {t : Timestamp} (h : ofEpochMilli? count = some t) :
    t.nano < 1000000000 ∧ 1000000 ∣ t.nano ∧
      1000000 * count = 1000000000 * t.epochSecond + t.nano := by
  obtain ⟨date, hdate, rfl⟩ := Option.map_eq_some_iff.1 h
  have hnumber := Date.number_of_ofNumber? hdate
  simp only [epochSecond, hnumber]
  omega

/-- `b` comes one millisecond after `a`, and neither is in a leap second. -/
def IsMilliAfter (a b : Timestamp) : Prop :=
  a.nano < 1000000000 ∧ b.nano < 1000000000 ∧
    1000000000 * b.epochSecond + b.nano = 1000000000 * a.epochSecond + a.nano + 1000000

/-- The last millisecond of a day. -/
def lastMilli (date : Date) : Timestamp :=
  ⟨date, 86399, 999000000, by decide, by decide, by decide⟩

/-- The millisecond before a whole second is in whole milliseconds and one of them earlier. -/
theorem milliBefore?_eq_some {t last : Timestamp} (ht : t.nano = 0)
    (h : t.milliBefore? = some last) : 1000000 ∣ last.nano ∧ last.IsMilliAfter t := by
  obtain ⟨hnano, hwhole, hcount⟩ := ofEpochMilli?_eq_some h
  refine ⟨hwhole, hnano, ?_, ?_⟩
  · rw [ht]
    decide
  · rw [ht]
    omega

/-- A whole second after a timestamp has a millisecond before it. -/
theorem exists_milliBefore? {a t : Timestamp} (h : a.epochSecond < t.epochSecond) :
    ∃ last, t.milliBefore? = some last := by
  have hfirst := a.date.inRange
  have hlast := t.date.inRange
  have hlt := t.second_lt
  have hrange : firstDay ≤ (1000 * t.epochSecond - 1) / 86400000 ∧
      (1000 * t.epochSecond - 1) / 86400000 ≤ lastDay := by
    unfold epochSecond firstDay lastDay at *
    omega
  rw [milliBefore?, ofEpochMilli?, Date.ofNumber?, dif_pos hrange]
  exact ⟨_, rfl⟩

/-- A day ends with its last millisecond, if there is a next day. -/
theorem endOfDay?_eq_some_iff {date : Date} {t : Timestamp} :
    endOfDay? date = some t ↔ date.number + 1 ≤ lastDay ∧ lastMilli date = t := by
  have hmilli : ofEpochMilli? (86400000 * (date.number + 1) - 1) = some (lastMilli date) := by
    have hday : (86400000 * (date.number + 1) - 1) / 86400000 = date.number := by omega
    rw [ofEpochMilli?, hday, Date.ofNumber?, dif_pos date.inRange, Option.map_some]
    simp only [lastMilli, Option.some.injEq, Timestamp.mk.injEq, true_and]
    omega
  have hnext : endOfDay? date = (Date.ofNumber? (date.number + 1)).bind fun next ↦
      ofEpochMilli? (86400000 * next.number - 1) := rfl
  have hfirst := date.inRange.1
  rw [hnext, Option.bind_eq_some_iff]
  constructor
  · rintro ⟨next, hnumber, ht⟩
    have hlast := next.inRange.2
    rw [Date.number_of_ofNumber? hnumber] at ht hlast
    exact ⟨hlast, Option.some.inj (hmilli.symm.trans ht)⟩
  · rintro ⟨hlast, rfl⟩
    have hrange : firstDay ≤ date.number + 1 ∧ date.number + 1 ≤ lastDay := by omega
    exact ⟨⟨date.number + 1, hrange⟩, dif_pos hrange, hmilli⟩

end Timestamp

end SemanticLayer.Calendar
