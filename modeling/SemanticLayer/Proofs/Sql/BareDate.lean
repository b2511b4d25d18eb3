import SemanticLayer.Proofs.Sql.Series

/-!
# A bare date as the last bound

A bare date stands for its last whole millisecond. The buckets of a series reach from boundary to
boundary, and boundaries are at whole seconds, so the bucket of that millisecond holds the rest of
the day with it (`lt_of_lastMilli_lt`), the leap second after it included: what a series returns
covers the day (`CoversDay`).

Against the first bound, however, the millisecond is compared as it is. A first bound that lies in
the day but after its last whole millisecond (`InLastFraction`) is rejected as coming after the day.
`timeSeries_of_bareDate` says that this is the only exception. What else a series may fail for is
found by going through the loop once more, with its errors (`bucketsFrom_eq_error`): too many
boundaries up to the last bound, or none after it.
-/

namespace SemanticLayer.Sql

open Calendar (Granularity Timestamp Date)
open Calendar.Timestamp (ofEpochSecond? parse? lastMilli IsMilliAfter)

variable {g : Granularity} {first last : String} {start final : Timestamp} {date : Date}

/-! ### The end of a day -/

/-- A timestamp lies in a day, after its last whole millisecond. -/
def InLastFraction (t : Timestamp) (date : Date) : Prop :=
  t.date = date ∧ t.second = 86399 ∧ 999000000 < t.nano

instance (t : Timestamp) (date : Date) : Decidable (InLastFraction t date) := by
  unfold InLastFraction
  infer_instance

theorem lastMilli_lt_iff :
    lastMilli date < start ↔ date.number < start.date.number ∨ InLastFraction start date := by
  have hlt := start.second_lt
  have hdate : start.date = date ↔ start.date.number = date.number := by
    rw [Date.mk.injEq]
  rw [Timestamp.lt_iff, InLastFraction, hdate]
  simp only [Timestamp.epochSecond, lastMilli]
  omega

/-- A whole second after the last millisecond of a day comes after the whole day. -/
theorem lt_of_lastMilli_lt {next t : Timestamp} (hnano : next.nano = 0)
    (hlt : lastMilli date < next) (ht : t.date = date) : t < next := by
  have hsecond := t.second_lt
  subst ht
  rw [Timestamp.lt_iff] at hlt ⊢
  simp only [Timestamp.epochSecond, lastMilli] at hlt ⊢
  omega

theorem finalInstant_of_bareDate (hlast : Date.parse? last = some date) :
    finalInstant last =
      if date.number < Calendar.lastDay then .ok (lastMilli date) else .error .outOfRange := by
  simp only [finalInstant, hlast]
  split
  · next final hfinal =>
    obtain ⟨hnext, rfl⟩ := Timestamp.endOfDay?_eq_some_iff.1 hfinal
    rw [if_pos (Int.lt_of_add_one_le hnext)]
  · next hnone =>
    rw [if_neg]
    intro hlt
    rw [Timestamp.endOfDay?_eq_some_iff.2 ⟨Int.add_one_le_of_lt hlt, rfl⟩] at hnone
    cases hnone

/-! ### How a series fails -/

/-- No boundary after an instant is supported. -/
def NoneAfter (g : Granularity) (final : Timestamp) : Prop :=
  ¬∃ stop, g.IsBoundary stop ∧ final < stop

/-- The loop fails only if more boundaries are ahead than there is room for, or if there is none to
stop at. -/
theorem bucketsFrom_eq_error {number : Int} {room : Nat} {found : List TimeRange}
    {fault : RangeFault} (hstart : ofEpochSecond? (g.edge number) = some start)
    (h : bucketsFrom g final room found start = .error fault) :
    (fault = .tooLong g ∧ room < (ahead g start final).encard) ∨
      (fault = .outOfRange ∧ NoneAfter g final) := by
  have hboundary : g.IsBoundary start := Granularity.isBoundary_iff.2 ⟨_, hstart⟩
  induction room generalizing found start number with
  | zero =>
    rw [bucketsFrom] at h
    split at h
    · next hle =>
      cases h
      have hmem : start ∈ ahead g start final := ⟨hboundary, le_refl start, hle⟩
      exact .inl ⟨rfl, Set.encard_pos.2 ⟨start, hmem⟩⟩
    · cases h
  | succ room ih =>
    rw [bucketsFrom] at h
    split at h
    · next hle =>
      split at h
      · next hnone =>
        cases h
        refine .inr ⟨rfl, ?_⟩
        rintro ⟨stop, hstop, hlt⟩
        obtain ⟨next, hnext⟩ := Granularity.exists_nextEdge hstart hstop (hle.trans_lt hlt)
        obtain ⟨range, hbucket⟩ := exists_bucketAt? hstart hnext
        cases hnone.symm.trans hbucket
      · next range next hbucket =>
        obtain ⟨-, hnext⟩ := bucketAt?_eq_some hstart hle hbucket
        obtain ⟨hnextBoundary, hfirst, -⟩ := Granularity.isNextBoundary_of_edge hstart hnext
        refine (ih hnext h hnextBoundary).imp_left (And.imp_right fun hmore ↦ ?_)
        calc ((room + 1 : Nat) : ENat) = room + 1 := Nat.cast_succ room
          _ < (ahead g next final).encard + 1 := (ENat.add_lt_add_iff_right ENat.one_ne_top).2 hmore
          _ ≤ (ahead g start final).encard := encard_ahead_next hboundary hle hfirst
    · cases h

theorem bucketsOf_of_bounds (hfirst : parse? first = some start)
    (hfinal : finalInstant last = .ok final) :
    bucketsOf g first last =
      if start ≤ final then
        match g.bucketStart? start with
        | none => .error .outOfRange
        | some b => bucketsFrom g final maxSeriesLength [] b
      else .error (.reversed first last) := by
  rw [bucketsOf, hfirst, hfinal]
  rfl

/-- Bounds in order lead to no series only if too many boundaries are needed, or one that is needed
is not supported. -/
theorem fault_of_le (hfirst : parse? first = some start) (hfinal : finalInstant last = .ok final)
    (hle : start ≤ final) {fault : RangeFault} (h : bucketsOf g first last = .error fault) :
    (fault = .tooLong g ∧ 50000 < (neededStarts g start final).encard) ∨
      (fault = .outOfRange ∧ ((¬∃ b, g.IsTruncation start b) ∨ NoneAfter g final)) := by
  rw [bucketsOf_of_bounds hfirst hfinal, if_pos hle] at h
  split at h
  · next hnone =>
    cases h
    refine .inr ⟨rfl, .inl ?_⟩
    rintro ⟨b, hb⟩
    cases hnone.symm.trans (Granularity.bucketStart?_eq_some_iff.2 hb)
  · next b hb =>
    have htruncation := Granularity.bucketStart?_eq_some_iff.1 hb
    have hfault := bucketsFrom_eq_error (Granularity.isTruncation_iff.1 htruncation) h
    refine hfault.imp (And.imp_right fun hmore ↦ ?_) (And.imp_right .inr)
    exact hmore.trans_le (Set.encard_le_encard (ahead_subset_neededStarts htruncation hle))

theorem bucketsOf_eq_reversed_iff (hfirst : parse? first = some start)
    (hfinal : finalInstant last = .ok final) :
    bucketsOf g first last = .error (.reversed first last) ↔ final < start := by
  rw [← not_le]
  constructor
  · intro h hle
    rcases fault_of_le hfirst hfinal hle h with ⟨hfault, -⟩ | ⟨hfault, -⟩ <;> cases hfault
  · intro hlt
    rw [bucketsOf_of_bounds hfirst hfinal, if_neg hlt]

theorem timeSeries_eq_error_iff {fault : RangeFault} :
    timeSeries g first last = .error (.invalidDateRange fault) ↔
      bucketsOf g first last = .error fault := by
  rw [timeSeries]
  cases bucketsOf g first last <;> simp [Except.mapError]

/-! ### Series up to the end of a day -/

/-- The ranges of a series go from not after any instant of a day on or after the start to after all
of them; a range ends a millisecond after its last one. -/
def CoversDay (start : Timestamp) (date : Date) (ranges : List TimeRange) : Prop :=
  ∃ (head tail : TimeRange) (b last next : Timestamp),
    ranges.head? = some head ∧ parse? head.first = some b ∧
    ranges.getLast? = some tail ∧ parse? tail.last = some last ∧ last.IsMilliAfter next ∧
    ∀ t : Timestamp, t.date = date → start ≤ t → b ≤ t ∧ t < next

theorem isPartition_of_timeSeries {ranges : List TimeRange} (hfirst : parse? first = some start)
    (hfinal : finalInstant last = .ok final) (h : timeSeries g first last = .ok ranges) :
    IsPartition g start final ranges := by
  obtain ⟨start', final', b, hfirst', hfinal', hle, hb, hranges⟩ := timeSeries_eq_ok_iff.1 h
  obtain rfl : start = start' := Option.some.inj (hfirst.symm.trans hfirst')
  obtain rfl : final = final' := Except.ok.inj (hfinal.symm.trans hfinal')
  have hedge := Granularity.isTruncation_iff.1 (Granularity.bucketStart?_eq_some_iff.1 hb)
  obtain ⟨rest, rfl, hlength, hrun⟩ := bucketsFrom_eq_ok hedge hranges
  exact hrun.isPartition hlength hle

theorem IsPartition.coversDay {ranges : List TimeRange}
    (h : IsPartition g start (lastMilli date) ranges) : CoversDay start date ranges := by
  obtain ⟨head, b, hhead, hb, hboundary⟩ := h.head
  obtain ⟨tail, c, next, htail, hc, -, hnext, hafter⟩ := h.last
  obtain ⟨c', last, next', hc', hlast, -, hnext', hmilli, -⟩ := h.step _ tail htail
  obtain rfl : c = c' := Option.some.inj (hc.symm.trans hc')
  obtain rfl : next = next' := hnext.unique hnext'
  refine ⟨head, tail, b, last, next, ?_, hb, ?_, hlast, hmilli, fun t ht hstart ↦ ?_⟩
  · rw [List.head?_eq_getElem?, hhead]
  · rw [List.getLast?_eq_getElem?, htail]
  · exact ⟨hboundary.2.1.trans hstart, lt_of_lastMilli_lt hnext.1.1 hafter ht⟩

/-- No boundary after the last supported day is supported. -/
theorem noneAfter_lastMilli (hday : ¬date.number < Calendar.lastDay) :
    NoneAfter g (lastMilli date) := by
  rintro ⟨stop, hstop, hlt⟩
  have hrange := stop.date.inRange.2
  have hsecond := stop.second_lt
  have hnano := hstop.1
  rw [Timestamp.lt_iff] at hlt
  simp only [Timestamp.epochSecond, lastMilli] at hlt
  omega

/-- **A bare date as the last bound.** A first bound is rejected as coming after the date if its own
date does, or if it lies in the last fraction of a millisecond of that very date; on the last
supported day no bound is. Any other first bound leads to a series that covers the date, unless too
many boundaries are needed, or one that is needed is not supported. -/
theorem timeSeries_of_bareDate (g : Granularity) (first last : String) (start : Timestamp)
    (date : Date) (hfirst : parse? first = some start) (hlast : Date.parse? last = some date) :
    (timeSeries g first last = .error (.invalidDateRange (.reversed first last)) ↔
      date.number < start.date.number ∨
        InLastFraction start date ∧ date.number < Calendar.lastDay) ∧
    (start.date.number ≤ date.number →
      ¬ (InLastFraction start date ∧ date.number < Calendar.lastDay) →
        (∃ ranges, timeSeries g first last = .ok ranges ∧ CoversDay start date ranges) ∨
        (timeSeries g first last = .error (.invalidDateRange (.tooLong g)) ∧
          50000 < (neededStarts g start (lastMilli date)).encard) ∨
        (timeSeries g first last = .error (.invalidDateRange .outOfRange) ∧
          ((¬∃ b, g.IsTruncation start b) ∨ NoneAfter g (lastMilli date)))) := by
  have hfinal := finalInstant_of_bareDate hlast
  simp only [timeSeries_eq_error_iff]
  by_cases hday : date.number < Calendar.lastDay
  · simp only [hday, and_true]
    rw [if_pos hday] at hfinal
    refine ⟨(bucketsOf_eq_reversed_iff hfirst hfinal).trans lastMilli_lt_iff, fun hdate htail ↦ ?_⟩
    have hle : start ≤ lastMilli date := by
      rw [← not_lt, lastMilli_lt_iff, not_or, not_lt]
      exact ⟨hdate, htail⟩
    cases hseries : bucketsOf g first last with
    | error fault =>
      obtain ⟨rfl, hmore⟩ | ⟨rfl, hnone⟩ := fault_of_le hfirst hfinal hle hseries
      · exact .inr (.inl ⟨rfl, hmore⟩)
      · exact .inr (.inr ⟨rfl, hnone⟩)
    | ok ranges =>
      have hok : timeSeries g first last = .ok ranges := mapError_eq_ok_iff.2 hseries
      exact .inl ⟨ranges, hok, (isPartition_of_timeSeries hfirst hfinal hok).coversDay⟩
  · rw [if_neg hday] at hfinal
    have hseries : bucketsOf g first last = .error .outOfRange := by
      rw [bucketsOf, hfirst, hfinal]
      rfl
    have hsupported := start.date.inRange.2
    rw [hseries]
    refine ⟨⟨fun h ↦ ?_, fun h ↦ ?_⟩,
      fun _ _ ↦ .inr (.inr ⟨rfl, .inr (noneAfter_lastMilli hday)⟩)⟩
    · cases h
    · rcases h with hlt | ⟨-, hlt⟩
      · omega
      · exact absurd hlt hday

/-- A first bound in the evening of the day, by hour. -/
theorem coversDay_of_evening :
    ∃ start date, parse? "2021-01-01T21:30:00" = some start ∧
      Date.parse? "2021-01-01" = some date ∧ ∃ ranges,
        timeSeries .hour "2021-01-01T21:30:00" "2021-01-01" = .ok ranges ∧
        ranges.length = 3 ∧ CoversDay start date ranges := by
  let day : Date := ⟨18628, by decide⟩
  let evening : Timestamp := ⟨day, 77400, 0, by decide, by decide, by decide⟩
  have hstart : parse? "2021-01-01T21:30:00" = some evening := by decide +kernel
  have hday : Date.parse? "2021-01-01" = some day := by decide +kernel
  have hok : timeSeries .hour "2021-01-01T21:30:00" "2021-01-01" =
      .ok [⟨"2021-01-01T21:00:00.000", "2021-01-01T21:59:59.999"⟩,
        ⟨"2021-01-01T22:00:00.000", "2021-01-01T22:59:59.999"⟩,
        ⟨"2021-01-01T23:00:00.000", "2021-01-01T23:59:59.999"⟩] := by decide +kernel
  have hcovers := (timeSeries_of_bareDate .hour _ _ evening day hstart hday).2 (by decide)
    (by decide)
  rw [hok] at hcovers
  obtain ⟨ranges, hranges, hcovers⟩ | ⟨hfault, -⟩ | ⟨hfault, -⟩ := hcovers
  · cases hranges
    exact ⟨evening, day, hstart, hday, _, hok, rfl, hcovers⟩
  · cases hfault
  · cases hfault

/-- Half a millisecond before the end of the day, and in the leap second that ends another, a first
bound is rejected as coming after the day in which it lies. -/
theorem reversed_in_lastFraction :
    (∃ start date, parse? "2021-01-01T23:59:59.9995" = some start ∧
      Date.parse? "2021-01-01" = some date ∧ start.date = date ∧
      ∀ g : Granularity, (timeSeries g "2021-01-01T23:59:59.9995" "2021-01-01").mapError
        SqlError.message = .error
          "Invalid date range: '2021-01-01T23:59:59.9995' is after '2021-01-01'") ∧
    ∃ start date, parse? "2016-12-31T23:59:60" = some start ∧
      Date.parse? "2016-12-31" = some date ∧ start.date = date ∧
      ∀ g : Granularity, (timeSeries g "2016-12-31T23:59:60" "2016-12-31").mapError
        SqlError.message = .error
          "Invalid date range: '2016-12-31T23:59:60' is after '2016-12-31'" := by
  let day : Date := ⟨18628, by decide⟩
  let yearEnd : Date := ⟨17166, by decide⟩
  refine ⟨⟨⟨day, 86399, 999500000, by decide, by decide, by decide⟩, day, by decide +kernel,
    by decide +kernel, rfl, fun g ↦ ?_⟩,
    ⟨yearEnd, 86399, 1000000000, by decide, by decide, by decide⟩, yearEnd, by decide +kernel,
    by decide +kernel, rfl, fun g ↦ ?_⟩
  · cases g <;> decide +kernel
  · cases g <;> decide +kernel

end SemanticLayer.Sql
