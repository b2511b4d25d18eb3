import SemanticLayer.Proofs.Calendar.Bucket
import SemanticLayer.Proofs.Calendar.WireForm
import SemanticLayer.Sql.DateSeries

/-!
# A series partitions its range

What `timeSeries` returns is said in the words of the calendar: the ranges are read back from their
texts, and compared with the boundaries of the granularity. `IsPartition` says what that comes to,
and `timeSeries_partition` that every series is one, and that there is a series whenever the bounds
are in order, the boundaries needed are supported and they are not too many.

The loop goes through the buckets by their numbers. One step writes the range of the bucket with the
next number (`IsBucket`, `bucketAt?_eq_some`); a whole run writes the ranges of consecutive
numbers and stops at the first edge after the final instant (`Run`, `bucketsFrom_eq_ok`). From the
run the partition is read off at each index (`Run.isPartition`). That the loop gets to its end is an
induction on the room left, which the boundaries still ahead never exceed (`encard_ahead_next`).
-/

namespace SemanticLayer.Sql

open Calendar (Granularity Timestamp Date)
open Calendar.Timestamp (ofEpochSecond? parse? lastMilli IsMilliAfter)

variable {g : Granularity} {number : Int} {start final : Timestamp}

/-! ### What a series is -/

/-- The instant that a last bound stands for: the last millisecond of a day for a bare date, and the
timestamp that it says otherwise. -/
def EndsAt (last : String) (final : Timestamp) : Prop :=
  match Date.parse? last with
  | some date => lastMilli date = final
  | none => parse? last = some final

/-- The ranges cut the time from `start` to `final` at the boundaries of a granularity. -/
structure IsPartition (g : Granularity) (start final : Timestamp) (ranges : List TimeRange) :
    Prop where
  /-- There is a range, and there are not too many. -/
  length : 1 ≤ ranges.length ∧ ranges.length ≤ 50000
  /-- The first range starts at the last boundary that is not after the start. -/
  head : ∃ (range : TimeRange) (b : Timestamp), ranges[0]? = some range ∧
    parse? range.first = some b ∧ g.IsTruncation start b
  /-- A range goes from a boundary to the millisecond before the next one, where the range after it
  starts. -/
  step : ∀ (i : Nat) (range : TimeRange), ranges[i]? = some range → ∃ b last next,
    parse? range.first = some b ∧ parse? range.last = some last ∧ g.IsBoundary b ∧
    g.IsNextBoundary b next ∧ last.IsMilliAfter next ∧
    ∀ after, ranges[i + 1]? = some after → parse? after.first = some next
  /-- The last range starts not after the end, and the boundary after it lies after the end. -/
  last : ∃ (range : TimeRange) (b next : Timestamp), ranges[ranges.length - 1]? = some range ∧
    parse? range.first = some b ∧ b ≤ final ∧ g.IsNextBoundary b next ∧ final < next
  /-- Every instant has one range that starts where it is truncated to. -/
  covers : ∀ t, start ≤ t → t ≤ final → ∃ b, g.IsTruncation t b ∧
    ∃! i : Nat, ∃ range : TimeRange, ranges[i]? = some range ∧ parse? range.first = some b

/-- The boundaries to which the instants from `start` to `final` are truncated. -/
def neededStarts (g : Granularity) (start final : Timestamp) : Set Timestamp :=
  {b | ∃ t, start ≤ t ∧ t ≤ final ∧ g.IsTruncation t b}

/-! ### One bucket -/

/-- The range is that of the bucket with a number, which starts not after `final`. -/
def IsBucket (g : Granularity) (final : Timestamp) (number : Int) (range : TimeRange) : Prop :=
  ∃ b last next, parse? range.first = some b ∧ parse? range.last = some last ∧
    ofEpochSecond? (g.edge number) = some b ∧ ofEpochSecond? (g.edge (number + 1)) = some next ∧
    last.IsMilliAfter next ∧ b ≤ final

/-- The step writes the bucket with the number of its edge, and leads to the next edge. -/
theorem bucketAt?_eq_some (hstart : ofEpochSecond? (g.edge number) = some start)
    (hle : start ≤ final) {range : TimeRange} {next : Timestamp}
    (h : bucketAt? g start = some (range, next)) :
    IsBucket g final number range ∧ ofEpochSecond? (g.edge (number + 1)) = some next := by
  have hstep : bucketAt? g start = (g.nextBucket? start).bind fun next ↦
      next.milliBefore?.bind fun last ↦ some (⟨start.wire, last.wire⟩, next) := rfl
  obtain ⟨hsecond, hnano⟩ := Timestamp.ofEpochSecond?_eq_some_iff.1 hstart
  rw [hstep, Granularity.nextBucket?_eq hsecond, Option.bind_eq_some_iff] at h
  obtain ⟨next', hnext, h⟩ := h
  obtain ⟨last, hlast, h⟩ := Option.bind_eq_some_iff.1 h
  cases h
  obtain ⟨hmilli, hafter⟩ :=
    Timestamp.milliBefore?_eq_some (Timestamp.ofEpochSecond?_eq_some_iff.1 hnext).2 hlast
  refine ⟨⟨start, last, next, ?_, ?_, hstart, hnext, hafter, hle⟩, hnext⟩
  · rw [Timestamp.parse?_wire, Timestamp.floorMilli_eq_self (by rw [hnano]; exact Nat.dvd_zero _)]
  · rw [Timestamp.parse?_wire, Timestamp.floorMilli_eq_self hmilli]

/-- The step succeeds where the next edge is supported. -/
theorem exists_bucketAt? (hstart : ofEpochSecond? (g.edge number) = some start) {next : Timestamp}
    (hnext : ofEpochSecond? (g.edge (number + 1)) = some next) :
    ∃ range, bucketAt? g start = some (range, next) := by
  have hsecond := Timestamp.epochSecond_of_ofEpochSecond? hstart
  have hlt : start.epochSecond < next.epochSecond := by
    rw [hsecond, Timestamp.epochSecond_of_ofEpochSecond? hnext]
    exact g.edge_strictMono (Int.lt_succ number)
  obtain ⟨last, hlast⟩ := Timestamp.exists_milliBefore? hlt
  refine ⟨⟨start.wire, last.wire⟩, ?_⟩
  rw [bucketAt?, Granularity.nextBucket?_eq hsecond, hnext]
  show next.milliBefore?.bind _ = _
  rw [hlast]
  rfl

/-! ### A run of the loop -/

/-- The ranges of consecutive buckets from a number on, up to the one that holds `final`. -/
inductive Run (g : Granularity) (final : Timestamp) : Int → List TimeRange → Prop
  | stop {number : Int} {next : Timestamp} (hnext : ofEpochSecond? (g.edge number) = some next)
      (hlt : final < next) : Run g final number []
  | step {number : Int} {range : TimeRange} {ranges : List TimeRange}
      (hbucket : IsBucket g final number range) (hrest : Run g final (number + 1) ranges) :
      Run g final number (range :: ranges)

/-- The loop adds a run to what it has found, within its room. -/
theorem bucketsFrom_eq_ok {room : Nat} {found ranges : List TimeRange}
    (hstart : ofEpochSecond? (g.edge number) = some start)
    (h : bucketsFrom g final room found start = .ok ranges) :
    ∃ rest, ranges = found.reverse ++ rest ∧ rest.length ≤ room ∧ Run g final number rest := by
  induction room generalizing found start number with
  | zero =>
    rw [bucketsFrom] at h
    split at h
    · cases h
    · next hlt =>
      cases h
      exact ⟨[], (List.append_nil _).symm, Nat.le_refl _, .stop hstart (not_le.1 hlt)⟩
  | succ room ih =>
    rw [bucketsFrom] at h
    split at h
    · next hle =>
      split at h
      · cases h
      · next range next hbucket =>
        obtain ⟨hrange, hnext⟩ := bucketAt?_eq_some hstart hle hbucket
        obtain ⟨rest, rfl, hlength, hrest⟩ := ih hnext h
        refine ⟨range :: rest, ?_, Nat.succ_le_succ hlength, .step hrange hrest⟩
        rw [List.reverse_cons, List.append_assoc, List.singleton_append]
    · next hlt =>
      cases h
      exact ⟨[], (List.append_nil _).symm, Nat.zero_le _, .stop hstart (not_le.1 hlt)⟩

namespace Run

variable {ranges : List TimeRange}

/-- The range at an index is that of the bucket with the number so much higher. -/
theorem isBucket (h : Run g final number ranges) {i : Nat} {range : TimeRange}
    (hi : ranges[i]? = some range) : IsBucket g final (number + i) range := by
  induction h generalizing i with
  | stop => cases hi
  | step hbucket hrest ih =>
    cases i with
    | zero =>
      cases hi
      rwa [Int.natCast_zero, Int.add_zero]
    | succ i =>
      have hnumber (number : Int) : number + (i + 1 : Nat) = number + 1 + i := by omega
      rw [hnumber]
      exact ih hi

/-- The edge after the last bucket lies after the end. -/
theorem exists_end (h : Run g final number ranges) :
    ∃ next, ofEpochSecond? (g.edge (number + ranges.length)) = some next ∧ final < next := by
  induction h with
  | @stop number next hnext hlt =>
    refine ⟨next, ?_, hlt⟩
    rwa [List.length_nil, Int.natCast_zero, Int.add_zero]
  | @step number range ranges hbucket hrest ih =>
    have hnumber : number + (range :: ranges).length = number + 1 + ranges.length := by
      rw [List.length_cons]
      omega
    rwa [hnumber]

/-- The bucket of an instant of the range is one of the run. -/
theorem exists_index (h : Run g final (g.bucket start) ranges) {t : Timestamp} (hle : start ≤ t)
    (hfinal : t ≤ final) : ∃ i < ranges.length, g.bucket t = g.bucket start + i := by
  obtain ⟨next, hnext, hlt⟩ := h.exists_end
  have hedge := (Timestamp.lt_ofEpochSecond?_iff hnext).1 (lt_of_le_of_lt hfinal hlt)
  have hfirst := g.bucket_mono hle
  have hlast := not_le.1 (Granularity.edge_le_iff.not.1 (not_le.2 hedge))
  exact ⟨(g.bucket t - g.bucket start).toNat, by omega, by omega⟩

/-- Two buckets of a run that start at one timestamp are the same. -/
theorem index_unique (h : Run g final number ranges) {i j : Nat} {range other : TimeRange}
    {b : Timestamp} (hi : ranges[i]? = some range) (hj : ranges[j]? = some other)
    (hrange : parse? range.first = some b) (hother : parse? other.first = some b) : i = j := by
  obtain ⟨bi, -, -, hbi, -, hedgei, -⟩ := h.isBucket hi
  obtain ⟨bj, -, -, hbj, -, hedgej, -⟩ := h.isBucket hj
  cases hrange.symm.trans hbi
  cases hother.symm.trans hbj
  have heq := (Timestamp.epochSecond_of_ofEpochSecond? hedgei).symm.trans
    (Timestamp.epochSecond_of_ofEpochSecond? hedgej)
  have hnumber := g.edge_strictMono.injective heq
  omega

/-- A range of the run goes up to the next boundary, where the range after it starts. -/
theorem exists_next (h : Run g final number ranges) {i : Nat} {range : TimeRange}
    (hrange : ranges[i]? = some range) : ∃ b last next,
      parse? range.first = some b ∧ parse? range.last = some last ∧ g.IsBoundary b ∧
      g.IsNextBoundary b next ∧ last.IsMilliAfter next ∧
      ∀ after, ranges[i + 1]? = some after → parse? after.first = some next := by
  obtain ⟨b, last, next, hb, hlast, hedge, hnext, hmilli, -⟩ := h.isBucket hrange
  refine ⟨b, last, next, hb, hlast, Granularity.isBoundary_iff.2 ⟨_, hedge⟩,
    Granularity.isNextBoundary_of_edge hedge hnext, hmilli, fun after hafter ↦ ?_⟩
  obtain ⟨b', -, -, hb', -, hedge', -⟩ := h.isBucket hafter
  rw [Int.natCast_succ, ← Int.add_assoc, hnext] at hedge'
  rw [hb', hedge']

/-- The last range of the run starts not after the end, and goes beyond it. -/
theorem exists_last (h : Run g final number ranges) (hpos : 1 ≤ ranges.length) :
    ∃ (range : TimeRange) (b next : Timestamp), ranges[ranges.length - 1]? = some range ∧
      parse? range.first = some b ∧ b ≤ final ∧ g.IsNextBoundary b next ∧ final < next := by
  have hget := List.getElem?_eq_getElem (show ranges.length - 1 < ranges.length by omega)
  obtain ⟨b, -, next, hb, -, hedge, hnext, -, hbfinal⟩ := h.isBucket hget
  obtain ⟨stop, hstop, hlt⟩ := h.exists_end
  have hnumber : number + (ranges.length - 1 : Nat) + 1 = number + ranges.length := by omega
  have hsame := hnumber ▸ hnext
  rw [hstop] at hsame
  cases hsame
  exact ⟨_, b, next, hget, hb, hbfinal, Granularity.isNextBoundary_of_edge hedge hnext, hlt⟩

/-- An instant of the range has one range of the run that starts where it is truncated to. -/
theorem exists_unique_range (h : Run g final (g.bucket start) ranges) {t : Timestamp}
    (hstart : start ≤ t) (hfinal : t ≤ final) : ∃ b, g.IsTruncation t b ∧
      ∃! i : Nat, ∃ range : TimeRange, ranges[i]? = some range ∧ parse? range.first = some b := by
  obtain ⟨i, hi, hnumber⟩ := h.exists_index hstart hfinal
  have hget := List.getElem?_eq_getElem hi
  obtain ⟨b, -, -, hb, -, hedge, -⟩ := h.isBucket hget
  rw [← hnumber] at hedge
  refine ⟨b, Granularity.isTruncation_iff.2 hedge, i, ⟨_, hget, hb⟩, ?_⟩
  rintro j ⟨other, hother, hb'⟩
  exact h.index_unique hother hget hb' hb

/-- A run that starts at the bucket of an instant not after the end is a partition. -/
theorem isPartition (h : Run g final (g.bucket start) ranges) (hlength : ranges.length ≤ 50000)
    (hle : start ≤ final) : IsPartition g start final ranges := by
  obtain ⟨i, hi, -⟩ := h.exists_index (le_refl start) hle
  have hpos : 1 ≤ ranges.length := by omega
  have hget := List.getElem?_eq_getElem hpos
  obtain ⟨b, -, -, hb, -, hedge, -⟩ := h.isBucket hget
  rw [Int.natCast_zero, Int.add_zero] at hedge
  exact {
    length := ⟨hpos, hlength⟩
    head := ⟨_, b, hget, hb, Granularity.isTruncation_iff.2 hedge⟩
    step := fun _ _ hrange ↦ h.exists_next hrange
    last := h.exists_last hpos
    covers := fun _ hstart hfinal ↦ h.exists_unique_range hstart hfinal }

end Run

/-! ### The loop gets to its end -/

/-- The boundaries from `start` to `final`. -/
def ahead (g : Granularity) (start final : Timestamp) : Set Timestamp :=
  {b | g.IsBoundary b ∧ start ≤ b ∧ b ≤ final}

/-- From the next boundary on, the one at which a bucket starts is no longer ahead. -/
theorem encard_ahead_next {next : Timestamp} (hstart : g.IsBoundary start) (hle : start ≤ final)
    (hlt : start < next) : (ahead g next final).encard + 1 ≤ (ahead g start final).encard := by
  have hsub : ahead g next final ⊆ ahead g start final \ {start} := by
    rintro b ⟨hb, hge, hbfinal⟩
    exact ⟨⟨hb, hlt.le.trans hge, hbfinal⟩, (lt_of_lt_of_le hlt hge).ne'⟩
  have hmem : start ∈ ahead g start final := ⟨hstart, le_refl start, hle⟩
  calc (ahead g next final).encard + 1
      ≤ (ahead g start final \ {start}).encard + 1 :=
        add_le_add_left (Set.encard_le_encard hsub) 1
    _ = (ahead g start final).encard := Set.encard_sdiff_singleton_add_one hmem

/-- The loop succeeds with room for all the boundaries that are ahead. -/
theorem exists_bucketsFrom {room : Nat} (found : List TimeRange)
    (hstart : ofEpochSecond? (g.edge number) = some start) {stop : Timestamp}
    (hstop : g.IsBoundary stop) (hlt : final < stop) (hroom : (ahead g start final).encard ≤ room) :
    ∃ ranges, bucketsFrom g final room found start = .ok ranges := by
  have hboundary : g.IsBoundary start := Granularity.isBoundary_iff.2 ⟨_, hstart⟩
  induction room generalizing found start number with
  | zero =>
    rw [bucketsFrom]
    split
    · next hle =>
      have hmem : start ∈ ahead g start final := ⟨hboundary, le_refl start, hle⟩
      rw [Set.encard_eq_zero.1 (le_antisymm hroom bot_le)] at hmem
      exact hmem.elim
    · exact ⟨_, rfl⟩
  | succ room ih =>
    rw [bucketsFrom]
    split
    · next hle =>
      obtain ⟨next, hnext⟩ := Granularity.exists_nextEdge hstart hstop (hle.trans_lt hlt)
      obtain ⟨range, hbucket⟩ := exists_bucketAt? hstart hnext
      obtain ⟨hnextBoundary, hfirst, -⟩ := Granularity.isNextBoundary_of_edge hstart hnext
      have hfewer := (encard_ahead_next hboundary hle hfirst).trans hroom
      simp only [hbucket]
      exact ih _ hnext ((ENat.add_le_add_iff_right ENat.one_ne_top).1 hfewer) hnextBoundary
    · exact ⟨_, rfl⟩

/-! ### The bounds -/

theorem endsAt_of_finalInstant {last : String} (h : finalInstant last = .ok final) :
    EndsAt last final := by
  cases hdate : Date.parse? last with
  | none =>
    simp only [finalInstant, hdate] at h
    simp only [EndsAt, hdate]
    split at h
    · next t ht =>
      cases h
      exact ht
    · cases h
  | some date =>
    simp only [finalInstant, hdate] at h
    simp only [EndsAt, hdate]
    split at h
    · next t ht =>
      cases h
      exact (Timestamp.endOfDay?_eq_some_iff.1 ht).2
    · cases h

/-- A last bound is an instant if a whole second lies after it. -/
theorem finalInstant_of_endsAt {last : String} (h : EndsAt last final) {stop : Timestamp}
    (hnano : stop.nano = 0) (hlt : final < stop) : finalInstant last = .ok final := by
  cases hdate : Date.parse? last with
  | none =>
    simp only [EndsAt, hdate] at h
    simp only [finalInstant, hdate, h]
  | some date =>
    simp only [EndsAt, hdate] at h
    have hnext : date.number + 1 ≤ Calendar.lastDay := by
      have hrange := stop.date.inRange.2
      have hsecond := stop.second_lt
      subst h
      rw [Timestamp.lt_iff] at hlt
      simp only [Timestamp.epochSecond, lastMilli] at hlt
      omega
    simp only [finalInstant, hdate, Timestamp.endOfDay?_eq_some_iff.2 ⟨hnext, h⟩]

/-- Another name for an error makes no result. -/
theorem mapError_eq_ok_iff {α ε ε' : Type} {result : Except ε α} {f : ε → ε'} {a : α} :
    result.mapError f = .ok a ↔ result = .ok a := by
  cases result <;> simp [Except.mapError]

/-- What a series comes from. -/
theorem timeSeries_eq_ok_iff {first last : String} {ranges : List TimeRange} :
    timeSeries g first last = .ok ranges ↔ ∃ start final b, parse? first = some start ∧
      finalInstant last = .ok final ∧ start ≤ final ∧ g.bucketStart? start = some b ∧
      bucketsFrom g final maxSeriesLength [] b = .ok ranges := by
  rw [timeSeries, mapError_eq_ok_iff, bucketsOf]
  constructor
  · intro h
    cases hstart : parse? first with
    | none =>
      rw [hstart] at h
      cases h
    | some start =>
      cases hfinal : finalInstant last with
      | error fault =>
        rw [hstart, hfinal] at h
        cases h
      | ok final =>
        rw [hstart, hfinal] at h
        change (if start ≤ final then _ else _) = _ at h
        split at h
        · next hle =>
          split at h
          · cases h
          · next b hb => exact ⟨start, final, b, rfl, rfl, hle, hb, h⟩
        · cases h
  · rintro ⟨start, final, b, hstart, hfinal, hle, hb, h⟩
    rw [hstart, hfinal]
    show (if start ≤ final then _ else _) = _
    rw [if_pos hle, hb]
    exact h

/-! ### The series -/

/-- The boundaries from where the start is truncated to up to the end are among those needed. -/
theorem ahead_subset_neededStarts {b : Timestamp} (hb : g.IsTruncation start b)
    (hle : start ≤ final) : ahead g b final ⊆ neededStarts g start final := by
  rintro c ⟨hc, hge, hcfinal⟩
  rcases le_total start c with hstart | hstart
  · exact ⟨c, hstart, hcfinal, hc, le_refl c, fun _ _ hle ↦ hle⟩
  · obtain rfl : c = b := le_antisymm (hb.2.2 c hc hstart) hge
    exact ⟨start, le_refl start, hle, hb⟩

/-- **A series is the aligned partition of its range.** What `timeSeries` returns cuts the time
between its bounds at the boundaries of the granularity. It returns something whenever both bounds
are read, the first is not after the last, at most 50000 boundaries are needed, and the boundary
where the first of them starts and one after the last bound are supported. -/
theorem timeSeries_partition (g : Granularity) (first last : String) :
    (∀ ranges, timeSeries g first last = .ok ranges → ∃ start final,
      parse? first = some start ∧ EndsAt last final ∧ start ≤ final ∧
        IsPartition g start final ranges) ∧
    (∀ start final, parse? first = some start → EndsAt last final → start ≤ final →
      (∃ b, g.IsTruncation start b) → (∃ b, g.IsBoundary b ∧ final < b) →
      (neededStarts g start final).encard ≤ 50000 →
      ∃ ranges, timeSeries g first last = .ok ranges) := by
  constructor
  · intro ranges h
    obtain ⟨start, final, b, hfirst, hfinal, hle, hb, hranges⟩ := timeSeries_eq_ok_iff.1 h
    have hedge := Granularity.isTruncation_iff.1 (Granularity.bucketStart?_eq_some_iff.1 hb)
    obtain ⟨rest, rfl, hlength, hrun⟩ := bucketsFrom_eq_ok hedge hranges
    exact ⟨start, final, hfirst, endsAt_of_finalInstant hfinal, hle, hrun.isPartition hlength hle⟩
  · rintro start final hfirst hlast hle ⟨b, hb⟩ ⟨stop, hstop, hlt⟩ hneeded
    have hedge := Granularity.isTruncation_iff.1 hb
    have hroom : (ahead g b final).encard ≤ maxSeriesLength :=
      (Set.encard_le_encard (ahead_subset_neededStarts hb hle)).trans hneeded
    obtain ⟨ranges, hranges⟩ := exists_bucketsFrom [] hedge hstop hlt hroom
    exact ⟨ranges, timeSeries_eq_ok_iff.2 ⟨start, final, b, hfirst,
      finalInstant_of_endsAt hlast hstop.1 hlt, hle, Granularity.bucketStart?_eq_some_iff.2 hb,
      hranges⟩⟩

/-- By quarter from a leap second to the end of a day, and by week at a single instant. -/
theorem timeSeries_of_leapSecond_and_noon :
    (∃ start final, parse? "2016-12-31T23:59:60.5" = some start ∧ EndsAt "2017-02-01" final ∧
      start ≤ final ∧ IsPartition .quarter start final
        [⟨"2016-10-01T00:00:00.000", "2016-12-31T23:59:59.999"⟩,
          ⟨"2017-01-01T00:00:00.000", "2017-03-31T23:59:59.999"⟩]) ∧
    ∃ ranges, timeSeries .week "2024-12-31T12:00:00" "2024-12-31T12:00:00" = .ok ranges := by
  refine ⟨(timeSeries_partition .quarter _ _).1 _ (by decide +kernel), ?_⟩
  -- a Tuesday noon, the Monday before it and the Monday after it
  let noon : Timestamp := ⟨⟨20088, by decide⟩, 43200, 0, by decide, by decide, by decide⟩
  let monday : Timestamp := .midnight ⟨20087, by decide⟩
  let nextMonday : Timestamp := .midnight ⟨20094, by decide⟩
  have hmonday : Granularity.week.bucketStart? noon = some monday := by decide +kernel
  have hneeded : neededStarts .week noon noon ⊆ {monday} := by
    rintro b ⟨t, hge, hle, hb⟩
    obtain rfl : t = noon := le_antisymm hle hge
    rw [← Granularity.bucketStart?_eq_some_iff, hmonday] at hb
    exact (Option.some.inj hb).symm
  refine (timeSeries_partition .week _ _).2 noon noon (by decide +kernel) ?_ (le_refl noon)
    ⟨monday, Granularity.bucketStart?_eq_some_iff.1 hmonday⟩
    ⟨nextMonday, ⟨rfl, rfl, by decide⟩, by decide⟩ ?_
  · show EndsAt "2024-12-31T12:00:00" noon
    have hdate : Date.parse? "2024-12-31T12:00:00" = none := by decide +kernel
    rw [EndsAt, hdate]
    decide +kernel
  · calc (neededStarts .week noon noon).encard
        ≤ Set.encard {monday} := Set.encard_le_encard hneeded
      _ = 1 := Set.encard_singleton monday
      _ ≤ 50000 := Nat.one_le_ofNat

end SemanticLayer.Sql
