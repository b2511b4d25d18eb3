import SemanticLayer.Proofs.Calendar.Bucket

/-!
# Buckets and their boundaries

Truncation and the step to the next bucket, seen from the boundaries of a granularity. Truncation
goes to the last boundary that is not after a timestamp, and from a boundary the step goes to the
first one after it (`Granularity.isNextBoundary_of_nextBucket?`). Either fails only if there is no
such boundary among the supported timestamps (`Granularity.exists_bucketStart?_iff`,
`Granularity.exists_nextBucket?_iff`). All that is said of buckets in `Granularity.bucket_laws`
follows from this alone.

A boundary is what truncation leaves as it is, and on boundaries the step is that of the calendar:
a fixed number of seconds, or the same day of a later month at the same time of day
(`Timestamp.plusMonths?`). Such a day may not exist, and is then the last of its month; from the
first of a month it always does (`Granularity.nextBucket?_eq_calendarStep?`).
-/

namespace SemanticLayer.Calendar

/-! ### Steps of the calendar -/

namespace Timestamp

/-- The timestamp a number of seconds later, with the fraction of its second; a leap second counts
as the second before it. -/
def plusSeconds? (t : Timestamp) (seconds : Int) : Option Timestamp :=
  let count := t.epochSecond + seconds
  (Date.ofNumber? (count / 86400)).map fun date ↦
    ⟨date, (count % 86400).toNat, t.nano % 1000000000, by omega, by omega, by omega⟩

/-- The same time of day a number of months later, on the same day of the month, or on its last day
if it has no such day. -/
def plusMonths? (t : Timestamp) (months : Int) : Option Timestamp :=
  let first := Civil.firstOfMonth (t.date.civil.monthCount + months)
  let day := min t.date.civil.day (daysInMonth first.year first.month)
  (Date.ofCivil? { first with day := day }).map fun date ↦ { t with date := date }

theorem plusSeconds?_of_whole {t : Timestamp} (h : t.nano = 0) (seconds : Int) :
    t.plusSeconds? seconds = ofEpochSecond? (t.epochSecond + seconds) := by
  simp only [plusSeconds?, ofEpochSecond?, h, Nat.zero_mod]

/-- From the midnight of the first of a month, months lead to that of the first of a later one. -/
theorem plusMonths?_of_first {t : Timestamp} {count : Int} (hnano : t.nano = 0)
    (h : t.epochSecond = 86400 * (Civil.firstOfMonth count).dayNumber) (months : Int) :
    t.plusMonths? months =
      ofEpochSecond? (86400 * (Civil.firstOfMonth (count + months)).dayNumber) := by
  obtain ⟨hsecond, hcivil⟩ := Granularity.civil_of_epochSecond_eq h
  have hvalid := Civil.isValid_firstOfMonth (count + months)
  have hday : min 1 (daysInMonth (Civil.firstOfMonth (count + months)).year
      (Civil.firstOfMonth (count + months)).month) = 1 := Nat.min_eq_left hvalid.2.2.2
  have hmidnight : (fun date ↦ { t with date := date }) = midnight := by
    funext date
    exact eq_of_epochSecond_eq (by simp only [epochSecond, hsecond, midnight]) hnano
  have hfirst : (Civil.firstOfMonth count).day = 1 := rfl
  rw [← map_midnight_ofNumber?, plusMonths?, hcivil, Civil.monthCount_firstOfMonth, hfirst, hday,
    hmidnight]
  exact congrArg (Option.map midnight) (if_pos hvalid)

end Timestamp

namespace Granularity

variable {g : Granularity} {t b next : Timestamp}

/-- The step of a granularity through the calendar, from any timestamp. -/
def calendarStep? (g : Granularity) (t : Timestamp) : Option Timestamp :=
  match g with
  | second => t.plusSeconds? 1
  | minute => t.plusSeconds? 60
  | hour => t.plusSeconds? 3600
  | day => t.plusSeconds? 86400
  | week => t.plusSeconds? 604800
  | month => t.plusMonths? 1
  | quarter => t.plusMonths? 3
  | year => t.plusMonths? 12

/-- From a boundary, the step to the next bucket is that of the calendar. -/
theorem nextBucket?_eq_calendarStep? (h : g.IsBoundary b) :
    g.nextBucket? b = g.calendarStep? b := by
  have hsecond := h.epochSecond_eq
  rw [nextBucket?_eq hsecond]
  cases g with
  | second => simp only [calendarStep?, Timestamp.plusSeconds?_of_whole h.1, hsecond, edge]
  | minute | hour | day | week =>
    simp only [calendarStep?, Timestamp.plusSeconds?_of_whole h.1, hsecond, edge]
    exact congrArg Timestamp.ofEpochSecond? (by omega)
  | month => exact (Timestamp.plusMonths?_of_first h.1 hsecond 1).symm
  | quarter =>
    have hnumber : 3 * (bucket quarter b + 1) = 3 * bucket quarter b + 3 := by omega
    simp only [edge, hnumber]
    exact (Timestamp.plusMonths?_of_first h.1 hsecond 3).symm
  | year =>
    have hnumber : 12 * (bucket year b + 1) = 12 * bucket year b + 12 := by omega
    simp only [edge, hnumber]
    exact (Timestamp.plusMonths?_of_first h.1 hsecond 12).symm

/-! ### Boundaries before and after -/

/-- There is a start of the bucket if there is any boundary before. -/
theorem exists_bucketStart?_iff :
    (∃ b, g.bucketStart? t = some b) ↔ ∃ c, g.IsBoundary c ∧ c ≤ t := by
  constructor
  · rintro ⟨b, hb⟩
    obtain ⟨hboundary, hle, -⟩ := bucketStart?_eq_some_iff.1 hb
    exact ⟨b, hboundary, hle⟩
  · rintro ⟨c, hc, hle⟩
    obtain ⟨number, hnumber⟩ := isBoundary_iff.1 hc
    have hbefore := edge_le_iff.1 ((Timestamp.ofEpochSecond?_le_iff hnumber).1 hle)
    rw [bucketStart?_eq]
    refine Timestamp.exists_ofEpochSecond? (a := c) ?_ (g.bucket_spec t).1
    rw [Timestamp.epochSecond_of_ofEpochSecond? hnumber]
    exact g.edge_strictMono.monotone hbefore

/-- The step from a boundary leads to the first boundary after it. -/
theorem isNextBoundary_of_nextBucket? (hb : g.IsBoundary b) (h : g.nextBucket? b = some next) :
    g.IsNextBoundary b next := by
  obtain ⟨number, hnumber⟩ := isBoundary_iff.1 hb
  rw [nextBucket?_eq (Timestamp.epochSecond_of_ofEpochSecond? hnumber)] at h
  exact isNextBoundary_of_edge hnumber h

/-- There is a next bucket if there is any boundary after. -/
theorem exists_nextBucket?_iff (hb : g.IsBoundary b) :
    (∃ next, g.nextBucket? b = some next) ↔ ∃ c, g.IsBoundary c ∧ b < c := by
  constructor
  · rintro ⟨next, hnext⟩
    obtain ⟨hboundary, hlt, -⟩ := isNextBoundary_of_nextBucket? hb hnext
    exact ⟨next, hboundary, hlt⟩
  · rintro ⟨c, hc, hlt⟩
    obtain ⟨number, hnumber⟩ := isBoundary_iff.1 hb
    rw [nextBucket?_eq (Timestamp.epochSecond_of_ofEpochSecond? hnumber)]
    exact exists_nextEdge hnumber hc hlt

/-! ### Truncation -/

/-- Boundaries are what truncation leaves as it is. -/
theorem bucketStart?_self_iff : g.bucketStart? b = some b ↔ g.IsBoundary b := by
  rw [bucketStart?_eq_some_iff]
  exact ⟨fun h ↦ h.1, fun h ↦ ⟨h, le_refl b, fun _ _ hle ↦ hle⟩⟩

/-- The step from the start of its bucket leads behind a timestamp. -/
theorem lt_of_nextBucket? (h : g.bucketStart? t = some b) (hnext : g.nextBucket? b = some next) :
    t < next := by
  obtain ⟨hboundary, -, hlast⟩ := bucketStart?_eq_some_iff.1 h
  obtain ⟨hafter, hlt, -⟩ := isNextBoundary_of_nextBucket? hboundary hnext
  exact not_le.1 fun hnot ↦ hlt.not_ge (hlast next hafter hnot)

/-- Truncation keeps the order, and what is not before a timestamp that has one has one too. -/
theorem bucketStart?_mono {u : Timestamp} (hle : t ≤ u) (h : g.bucketStart? t = some b) :
    ∃ c, g.bucketStart? u = some c ∧ b ≤ c := by
  obtain ⟨hboundary, hbefore, -⟩ := bucketStart?_eq_some_iff.1 h
  obtain ⟨c, hc⟩ := exists_bucketStart?_iff.2 ⟨b, hboundary, hbefore.trans hle⟩
  obtain ⟨-, -, hlast⟩ := bucketStart?_eq_some_iff.1 hc
  exact ⟨c, hc, hlast b hboundary (hbefore.trans hle)⟩

/-- **Buckets.** A timestamp has a truncation unless it is before every boundary. The truncation is
not after the timestamp and is its own truncation, and the step from there leads behind the
timestamp. Truncation keeps the order. What is truncated to itself is a boundary of the calendar.
From a boundary, the step is that of the calendar; it leads to a boundary after this one, with none
in between, unless there is none after it. -/
theorem bucket_laws (g : Granularity) :
    (∀ t, (∃ b, g.bucketStart? t = some b) ↔ ∃ c, g.IsBoundary c ∧ c ≤ t) ∧
    (∀ t b, g.bucketStart? t = some b →
      b ≤ t ∧ (∀ next, g.nextBucket? b = some next → t < next) ∧ g.bucketStart? b = some b) ∧
    (∀ t u b, t ≤ u → g.bucketStart? t = some b → ∃ c, g.bucketStart? u = some c ∧ b ≤ c) ∧
    (∀ b, g.bucketStart? b = some b ↔ g.IsBoundary b) ∧
    ∀ b, g.IsBoundary b → g.nextBucket? b = g.calendarStep? b ∧
      ((∃ next, g.nextBucket? b = some next) ↔ ∃ c, g.IsBoundary c ∧ b < c) ∧
      ∀ next, g.nextBucket? b = some next →
        g.IsBoundary next ∧ b < next ∧ ∀ c, g.IsBoundary c → ¬(b < c ∧ c < next) := by
  refine ⟨fun t ↦ exists_bucketStart?_iff, fun t b h ↦ ?_, fun t u b ↦ bucketStart?_mono,
    fun b ↦ bucketStart?_self_iff, fun b hb ↦ ?_⟩
  · obtain ⟨hboundary, hle, -⟩ := bucketStart?_eq_some_iff.1 h
    exact ⟨hle, fun next ↦ lt_of_nextBucket? h, bucketStart?_self_iff.2 hboundary⟩
  · refine ⟨nextBucket?_eq_calendarStep? hb, exists_nextBucket?_iff hb, fun next hnext ↦ ?_⟩
    obtain ⟨hboundary, hlt, hfirst⟩ := isNextBoundary_of_nextBucket? hb hnext
    exact ⟨hboundary, hlt, fun c hc hbetween ↦ hbetween.2.not_ge (hfirst c hc hbetween.1)⟩

/-- By quarter, the leap second at the end of 2016 and a noon in September. -/
theorem bucket_laws_of_leapSecond :
    ∃ noon leap early start next : Timestamp, noon.wire = "2016-09-30T12:00:00.000" ∧
      leap.wire = "2016-12-31T23:59:60.500" ∧ noon ≤ leap ∧
      quarter.bucketStart? noon = some early ∧ early.wire = "2016-07-01T00:00:00.000" ∧
      quarter.bucketStart? leap = some start ∧ start.wire = "2016-10-01T00:00:00.000" ∧
      quarter.nextBucket? start = some next ∧ next.wire = "2017-01-01T00:00:00.000" ∧
      early ≤ start ∧ start ≤ leap ∧ leap < next ∧ quarter.bucketStart? start = some start ∧
      quarter.IsBoundary next ∧ ∀ c, quarter.IsBoundary c → ¬(start < c ∧ c < next) := by
  let noon : Timestamp := ⟨⟨17074, by decide⟩, 43200, 0, by decide, by decide, by decide⟩
  let leap : Timestamp := ⟨⟨17166, by decide⟩, 86399, 1500000000, by decide, by decide, by decide⟩
  let start : Timestamp := .midnight ⟨17075, by decide⟩
  have horder : noon ≤ leap := by decide
  have hearly : quarter.bucketStart? noon = some (.midnight ⟨16983, by decide⟩) := by decide +kernel
  have hstart : quarter.bucketStart? leap = some start := by decide +kernel
  have hnext : quarter.nextBucket? start = some (.midnight ⟨17167, by decide⟩) := by decide +kernel
  obtain ⟨-, hbounds, hmono, haligned, hstep⟩ := bucket_laws quarter
  obtain ⟨hle, hlt, hself⟩ := hbounds leap start hstart
  obtain ⟨c, hc, hearlyLe⟩ := hmono noon leap _ horder hearly
  obtain rfl : start = c := Option.some.inj (hstart.symm.trans hc)
  obtain ⟨-, -, hafter⟩ := hstep start ((haligned start).1 hself)
  obtain ⟨hboundary, -, hnone⟩ := hafter _ hnext
  exact ⟨noon, leap, _, start, _, by decide +kernel, by decide +kernel, horder, hearly,
    by decide +kernel, hstart, by decide +kernel, hnext, by decide +kernel, hearlyLe, hle,
    hlt _ hnext, hself, hboundary, hnone⟩

end Granularity

end SemanticLayer.Calendar
