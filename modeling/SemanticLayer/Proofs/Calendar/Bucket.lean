import SemanticLayer.Calendar.Granularity
import SemanticLayer.Proofs.Calendar.Instant

/-!
# Buckets, counted

The eight granularities follow one scheme. The buckets of a granularity are numbered by the
integers, and `Granularity.edge` gives the second at which each of them starts; `Granularity.bucket`
is the number of the bucket in which a timestamp lies. The edges increase
(`Granularity.edge_strictMono`), and a timestamp lies between the edge of its bucket and the next
(`Granularity.bucket_spec`).

In these terms the start of a bucket is the timestamp at its edge (`Granularity.bucketStart?_eq`),
and the step to the next bucket is the step to the next number (`Granularity.nextBucket?_eq`). The
edges are unbounded and timestamps are not, so an edge may have no timestamp.

Which timestamps are the edges of a granularity is said without numbers by
`Granularity.IsBoundary`, in the words of the calendar; `Granularity.isBoundary_iff` ties the two
together. The start of a bucket is then the last boundary that is not after a timestamp
(`Granularity.bucketStart?_eq_some_iff`): an edge is not after a timestamp exactly if its number is
not after that of the bucket (`Granularity.edge_le_iff`).
-/

namespace SemanticLayer.Calendar

/-! ### The first of a month -/

namespace Civil

/-- The first days of months increase. -/
theorem dayNumber_firstOfMonth_strictMono :
    StrictMono fun count ↦ (firstOfMonth count).dayNumber := by
  refine strictMono_int_of_lt_succ fun count ↦ ?_
  obtain ⟨-, -, hfirst, hlast⟩ := isValid_firstOfMonth count
  have hstep := dayNumber_firstOfMonth_succ count
  show (firstOfMonth count).dayNumber < (firstOfMonth (count + 1)).dayNumber
  omega

end Civil

namespace Date

/-- A day is not before the first of its month. -/
theorem firstOfMonth_le (date : Date) :
    (Civil.firstOfMonth date.civil.monthCount).dayNumber ≤ date.number := by
  have hday := Civil.dayNumber_eq_firstOfMonth date.isValid_civil
  obtain ⟨-, -, hfirst, -⟩ := date.isValid_civil
  rw [dayNumber_civil] at hday
  omega

/-- A day is before the first of the month after its own. -/
theorem lt_firstOfMonth_succ (date : Date) :
    date.number < (Civil.firstOfMonth (date.civil.monthCount + 1)).dayNumber := by
  have hday := Civil.dayNumber_eq_firstOfMonth date.isValid_civil
  have hstep := Civil.dayNumber_firstOfMonth_succ date.civil.monthCount
  have hmonth := Civil.firstOfMonth_monthCount date.isValid_civil
  obtain ⟨-, -, -, hlast⟩ := date.isValid_civil
  rw [dayNumber_civil] at hday
  rw [hmonth] at hstep hday
  simp only at hstep
  omega

/-- The first of a month is found again from its number. -/
theorem civil_of_number_eq {date : Date} {count : Int}
    (h : date.number = (Civil.firstOfMonth count).dayNumber) :
    date.civil = Civil.firstOfMonth count := by
  rw [civil, h, Civil.ofDayNumber_dayNumber (Civil.isValid_firstOfMonth count)]

end Date

/-! ### Numbers of buckets -/

namespace Granularity

/-- The second at which the bucket with a number starts. -/
def edge (g : Granularity) (number : Int) : Int :=
  match g with
  | second => number
  | minute => 60 * number
  | hour => 3600 * number
  | day => 86400 * number
  | week => 86400 * (7 * number - 3)
  | month => 86400 * (Civil.firstOfMonth number).dayNumber
  | quarter => 86400 * (Civil.firstOfMonth (3 * number)).dayNumber
  | year => 86400 * (Civil.firstOfMonth (12 * number)).dayNumber

/-- The number of the bucket in which a timestamp lies. -/
def bucket (g : Granularity) (t : Timestamp) : Int :=
  match g with
  | second => t.epochSecond
  | minute => t.epochSecond / 60
  | hour => t.epochSecond / 3600
  | day => t.date.number
  | week => (t.date.number + 3) / 7
  | month => t.date.civil.monthCount
  | quarter => t.date.civil.monthCount / 3
  | year => t.date.civil.monthCount / 12

/-- The edges of spans of months increase. -/
theorem monthEdge_lt {count other : Int} (h : count < other) :
    86400 * (Civil.firstOfMonth count).dayNumber <
      86400 * (Civil.firstOfMonth other).dayNumber := by
  have hlt := Civil.dayNumber_firstOfMonth_strictMono h
  simp only at hlt
  omega

theorem edge_strictMono (g : Granularity) : StrictMono g.edge := by
  refine strictMono_int_of_lt_succ fun number ↦ ?_
  cases g with
  | second | minute | hour | day | week =>
    simp only [edge]
    omega
  | month | quarter | year => exact monthEdge_lt (by omega)

/-- A timestamp lies between the first of a month and the first of a later one, if its own month
does. -/
theorem between_monthEdges {t : Timestamp} {count other : Int}
    (hcount : count ≤ t.date.civil.monthCount) (hother : t.date.civil.monthCount < other) :
    86400 * (Civil.firstOfMonth count).dayNumber ≤ t.epochSecond ∧
      t.epochSecond < 86400 * (Civil.firstOfMonth other).dayNumber := by
  have hlow := Civil.dayNumber_firstOfMonth_strictMono.monotone hcount
  have hhigh := Civil.dayNumber_firstOfMonth_strictMono.monotone (Int.add_one_le_of_lt hother)
  have hfirst := t.date.firstOfMonth_le
  have hlast := t.date.lt_firstOfMonth_succ
  have hlt := t.second_lt
  unfold Timestamp.epochSecond
  omega

/-- A timestamp lies between the edge of its bucket and the next edge. -/
theorem bucket_spec (g : Granularity) (t : Timestamp) :
    g.edge (g.bucket t) ≤ t.epochSecond ∧ t.epochSecond < g.edge (g.bucket t + 1) := by
  have hlt := t.second_lt
  cases g with
  | second | minute | hour =>
    simp only [edge, bucket]
    omega
  | day | week =>
    simp only [edge, bucket, Timestamp.epochSecond]
    omega
  | month | quarter | year =>
    simp only [edge, bucket]
    exact between_monthEdges (by omega) (by omega)

/-- The edges that are not after a timestamp are those up to the one of its bucket. -/
theorem edge_le_iff {g : Granularity} {t : Timestamp} {number : Int} :
    g.edge number ≤ t.epochSecond ↔ number ≤ g.bucket t := by
  obtain ⟨hlow, hhigh⟩ := g.bucket_spec t
  constructor
  · intro hle
    exact Int.le_of_lt_add_one (g.edge_strictMono.lt_iff_lt.1 (lt_of_le_of_lt hle hhigh))
  · intro hle
    exact (g.edge_strictMono.monotone hle).trans hlow

theorem bucket_mono (g : Granularity) : Monotone g.bucket := fun a _ hle ↦
  edge_le_iff.1 ((g.bucket_spec a).1.trans (Timestamp.epochSecond_mono hle))

/-! ### The steps -/

theorem monthStart?_eq (year months : Int) :
    monthStart? year months =
      Timestamp.ofEpochSecond? (86400 * (Civil.firstOfMonth (12 * year + months)).dayNumber) := by
  rw [← Timestamp.map_midnight_ofNumber?]
  show (Date.ofCivil? (Civil.firstOfMonth (12 * year + months))).map Timestamp.midnight = _
  rw [Date.ofCivil?, if_pos (Civil.isValid_firstOfMonth _)]

/-- The start of a bucket is the timestamp at its edge. -/
theorem bucketStart?_eq (g : Granularity) (t : Timestamp) :
    g.bucketStart? t = Timestamp.ofEpochSecond? (g.edge (g.bucket t)) := by
  obtain ⟨hone, -, -, -⟩ := t.date.isValid_civil
  cases g with
  | second => rfl
  | minute | hour =>
    simp only [bucketStart?, edge, bucket]
    exact congrArg Timestamp.ofEpochSecond? (Int.mul_comm _ _)
  | day =>
    show some (Timestamp.midnight t.date) = Timestamp.ofEpochSecond? (86400 * t.date.number)
    rw [← Timestamp.map_midnight_ofNumber?, Date.ofNumber?, dif_pos t.date.inRange]
    rfl
  | week =>
    have hmonday : t.date.number - t.date.daysFromMonday = 7 * ((t.date.number + 3) / 7) - 3 := by
      unfold Date.daysFromMonday
      omega
    simp only [bucketStart?, edge, bucket, hmonday, Timestamp.map_midnight_ofNumber?]
  | month => exact monthStart?_eq _ _
  | quarter =>
    have hcount : 12 * t.date.civil.year + ((t.date.civil.month : Int) - 1) / 3 * 3 =
        3 * (t.date.civil.monthCount / 3) := by
      unfold Civil.monthCount
      omega
    simp only [bucketStart?, edge, bucket, monthStart?_eq, hcount]
  | year =>
    have hcount : 12 * t.date.civil.year + 0 = 12 * (t.date.civil.monthCount / 12) := by
      obtain ⟨-, htwelve, -, -⟩ := t.date.isValid_civil
      unfold Civil.monthCount
      omega
    simp only [bucketStart?, edge, bucket, monthStart?_eq, hcount]

/-- The first of a month is the date of the second at which the month starts. -/
theorem civil_of_epochSecond_eq {t : Timestamp} {count : Int}
    (h : t.epochSecond = 86400 * (Civil.firstOfMonth count).dayNumber) :
    t.second = 0 ∧ t.date.civil = Civil.firstOfMonth count := by
  have hlt := t.second_lt
  unfold Timestamp.epochSecond at h
  exact ⟨by omega, Date.civil_of_number_eq (by omega)⟩

/-- The month that comes a number of months after the one that starts at a timestamp. -/
theorem monthStart?_after {t : Timestamp} {count : Int}
    (h : t.epochSecond = 86400 * (Civil.firstOfMonth count).dayNumber) (months : Int) :
    monthStart? t.date.civil.year ((t.date.civil.month : Int) - 1 + months) =
      Timestamp.ofEpochSecond? (86400 * (Civil.firstOfMonth (count + months)).dayNumber) := by
  obtain ⟨-, hcivil⟩ := civil_of_epochSecond_eq h
  have hcount : 12 * t.date.civil.year + ((t.date.civil.month : Int) - 1 + months) =
      t.date.civil.monthCount + months := by
    unfold Civil.monthCount
    omega
  rw [monthStart?_eq, hcount, hcivil, Civil.monthCount_firstOfMonth]

/-- The step from an edge leads to the next edge. -/
theorem nextBucket?_eq {g : Granularity} {t : Timestamp} {number : Int}
    (h : t.epochSecond = g.edge number) :
    g.nextBucket? t = Timestamp.ofEpochSecond? (g.edge (number + 1)) := by
  cases g with
  | second => simp only [nextBucket?, h, edge]
  | minute | hour | day | week =>
    simp only [nextBucket?, h, edge]
    exact congrArg Timestamp.ofEpochSecond? (by omega)
  | month => exact monthStart?_after h 1
  | quarter =>
    have hnumber : 3 * (number + 1) = 3 * number + 3 := by omega
    simp only [edge, hnumber]
    exact monthStart?_after h 3
  | year =>
    have hnumber : 12 * (number + 1) = 12 * number + 12 := by omega
    simp only [edge, hnumber]
    exact monthStart?_after h 12

/-! ### Boundaries -/

/-- A timestamp is a boundary of a granularity: the start of a second, a minute, an hour or a day,
or the midnight that starts a Monday, the first of a month, of a quarter's month or of January. -/
def IsBoundary (g : Granularity) (t : Timestamp) : Prop :=
  t.nano = 0 ∧ match g with
    | second => True
    | minute => t.second % 60 = 0
    | hour => t.second % 3600 = 0
    | day => t.second = 0
    | week => t.second = 0 ∧ t.date.daysFromMonday = 0
    | month => t.second = 0 ∧ t.date.civil.day = 1
    | quarter => t.second = 0 ∧ t.date.civil.day = 1 ∧ t.date.civil.month ∈ [1, 4, 7, 10]
    | year => t.second = 0 ∧ t.date.civil.day = 1 ∧ t.date.civil.month = 1

/-- The midnight that starts the first of a month is at the second at which the month starts. -/
theorem epochSecond_of_first {t : Timestamp} (hsecond : t.second = 0)
    (hday : t.date.civil.day = 1) :
    t.epochSecond = 86400 * (Civil.firstOfMonth t.date.civil.monthCount).dayNumber := by
  have hnumber := Civil.dayNumber_eq_firstOfMonth t.date.isValid_civil
  rw [Date.dayNumber_civil] at hnumber
  unfold Timestamp.epochSecond
  omega

/-- A boundary is at the edge of its bucket. -/
theorem IsBoundary.epochSecond_eq {g : Granularity} {t : Timestamp} (h : g.IsBoundary t) :
    t.epochSecond = g.edge (g.bucket t) := by
  have hlt := t.second_lt
  obtain ⟨-, hstart⟩ := h
  cases g with
  | second => rfl
  | minute | hour | day =>
    simp only [edge, bucket, Timestamp.epochSecond] at hstart ⊢
    omega
  | week =>
    simp only [edge, bucket, Timestamp.epochSecond, Date.daysFromMonday] at hstart ⊢
    omega
  | month => exact epochSecond_of_first hstart.1 hstart.2
  | quarter =>
    obtain ⟨hzero, hday, hmonth⟩ := hstart
    have hcount : 3 * (t.date.civil.monthCount / 3) = t.date.civil.monthCount := by
      simp only [List.mem_cons, List.not_mem_nil, or_false] at hmonth
      unfold Civil.monthCount
      omega
    simp only [edge, bucket, hcount]
    exact epochSecond_of_first hzero hday
  | year =>
    obtain ⟨hzero, hday, hmonth⟩ := hstart
    have hcount : 12 * (t.date.civil.monthCount / 12) = t.date.civil.monthCount := by
      unfold Civil.monthCount
      omega
    simp only [edge, bucket, hcount]
    exact epochSecond_of_first hzero hday

/-- What is at an edge, without a fraction, is a boundary. -/
theorem isBoundary_of_edge {g : Granularity} {t : Timestamp} {number : Int}
    (hsecond : t.epochSecond = g.edge number) (hnano : t.nano = 0) : g.IsBoundary t := by
  have hlt := t.second_lt
  refine ⟨hnano, ?_⟩
  cases g with
  | second => trivial
  | minute | hour | day =>
    simp only [edge, Timestamp.epochSecond] at hsecond ⊢
    omega
  | week =>
    simp only [edge, Timestamp.epochSecond, Date.daysFromMonday] at hsecond ⊢
    omega
  | month =>
    obtain ⟨hzero, hcivil⟩ := civil_of_epochSecond_eq hsecond
    simp only [hcivil, hzero, Civil.firstOfMonth, and_self]
  | quarter =>
    obtain ⟨hzero, hcivil⟩ := civil_of_epochSecond_eq hsecond
    simp only [hcivil, hzero, Civil.firstOfMonth, true_and, List.mem_cons, List.not_mem_nil,
      or_false]
    omega
  | year =>
    obtain ⟨hzero, hcivil⟩ := civil_of_epochSecond_eq hsecond
    simp only [hcivil, hzero, Civil.firstOfMonth, true_and]
    omega

/-- The boundaries of a granularity are its edges. -/
theorem isBoundary_iff {g : Granularity} {t : Timestamp} :
    g.IsBoundary t ↔ ∃ number, Timestamp.ofEpochSecond? (g.edge number) = some t := by
  simp only [Timestamp.ofEpochSecond?_eq_some_iff]
  constructor
  · intro h
    exact ⟨g.bucket t, h.epochSecond_eq, h.1⟩
  · rintro ⟨number, hsecond, hnano⟩
    exact isBoundary_of_edge hsecond hnano

/-- `b` is the last boundary that is not after `t`. -/
def IsTruncation (g : Granularity) (t b : Timestamp) : Prop :=
  g.IsBoundary b ∧ b ≤ t ∧ ∀ c, g.IsBoundary c → c ≤ t → c ≤ b

/-- `next` is the first boundary after `b`. -/
def IsNextBoundary (g : Granularity) (b next : Timestamp) : Prop :=
  g.IsBoundary next ∧ b < next ∧ ∀ c, g.IsBoundary c → b < c → next ≤ c

/-- Only one boundary is the first after a timestamp. -/
theorem IsNextBoundary.unique {g : Granularity} {b next other : Timestamp}
    (h : g.IsNextBoundary b next) (hother : g.IsNextBoundary b other) : next = other := by
  obtain ⟨hboundary, hlt, hfirst⟩ := h
  obtain ⟨hboundary', hlt', hfirst'⟩ := hother
  exact le_antisymm (hfirst other hboundary' hlt') (hfirst' next hboundary hlt)

/-- The last boundary that is not after a timestamp is at the edge of its bucket. -/
theorem isTruncation_iff {g : Granularity} {t b : Timestamp} :
    g.IsTruncation t b ↔ Timestamp.ofEpochSecond? (g.edge (g.bucket t)) = some b := by
  have hlow := (g.bucket_spec t).1
  constructor
  · rintro ⟨hboundary, hle, hlast⟩
    obtain ⟨number, hnumber⟩ := isBoundary_iff.1 hboundary
    have hsecond := Timestamp.epochSecond_of_ofEpochSecond? hnumber
    have hbefore := edge_le_iff.1 ((Timestamp.ofEpochSecond?_le_iff hnumber).1 hle)
    -- the edge of the bucket lies between two timestamps, so it has one
    obtain ⟨c, hc⟩ := Timestamp.exists_ofEpochSecond?
      (hsecond.trans_le (g.edge_strictMono.monotone hbefore)) hlow
    have hcb := hlast c (isBoundary_iff.2 ⟨_, hc⟩) ((Timestamp.ofEpochSecond?_le_iff hc).2 hlow)
    rw [Timestamp.ofEpochSecond?_le_iff hc, hsecond, g.edge_strictMono.le_iff_le] at hcb
    obtain rfl : number = g.bucket t := le_antisymm hbefore hcb
    exact hnumber
  · intro hb
    refine ⟨isBoundary_iff.2 ⟨_, hb⟩, (Timestamp.ofEpochSecond?_le_iff hb).2 hlow, ?_⟩
    intro c hc hle
    obtain ⟨number, hnumber⟩ := isBoundary_iff.1 hc
    have hbefore := edge_le_iff.1 ((Timestamp.ofEpochSecond?_le_iff hnumber).1 hle)
    rw [Timestamp.ofEpochSecond?_le_iff hnumber, Timestamp.epochSecond_of_ofEpochSecond? hb]
    exact g.edge_strictMono.monotone hbefore

/-- **The start of a bucket** is the last boundary that is not after the timestamp. -/
theorem bucketStart?_eq_some_iff {g : Granularity} {t b : Timestamp} :
    g.bucketStart? t = some b ↔ g.IsTruncation t b := by
  rw [bucketStart?_eq, isTruncation_iff]

/-- The next edge is the first boundary after an edge. -/
theorem isNextBoundary_of_edge {g : Granularity} {number : Int} {b next : Timestamp}
    (hb : Timestamp.ofEpochSecond? (g.edge number) = some b)
    (hnext : Timestamp.ofEpochSecond? (g.edge (number + 1)) = some next) :
    g.IsNextBoundary b next := by
  have hsecond := Timestamp.epochSecond_of_ofEpochSecond? hb
  refine ⟨isBoundary_iff.2 ⟨_, hnext⟩, ?_, fun c hc hlt ↦ ?_⟩
  · rw [Timestamp.lt_ofEpochSecond?_iff hnext, hsecond]
    exact g.edge_strictMono (Int.lt_succ number)
  · obtain ⟨other, hother⟩ := isBoundary_iff.1 hc
    rw [Timestamp.lt_ofEpochSecond?_iff hother, hsecond, g.edge_strictMono.lt_iff_lt] at hlt
    rw [Timestamp.ofEpochSecond?_le_iff hnext, Timestamp.epochSecond_of_ofEpochSecond? hother]
    exact g.edge_strictMono.monotone hlt

/-- If there is a boundary after an edge, then the next edge is supported. -/
theorem exists_nextEdge {g : Granularity} {number : Int} {b stop : Timestamp}
    (hb : Timestamp.ofEpochSecond? (g.edge number) = some b) (hstop : g.IsBoundary stop)
    (hlt : b < stop) : ∃ next, Timestamp.ofEpochSecond? (g.edge (number + 1)) = some next := by
  obtain ⟨other, hother⟩ := isBoundary_iff.1 hstop
  have hsecond := Timestamp.epochSecond_of_ofEpochSecond? hb
  rw [Timestamp.lt_ofEpochSecond?_iff hother, hsecond, g.edge_strictMono.lt_iff_lt] at hlt
  have hlow : b.epochSecond ≤ g.edge (number + 1) := by
    rw [hsecond]
    exact (g.edge_strictMono (Int.lt_succ number)).le
  have hhigh : g.edge (number + 1) ≤ stop.epochSecond := by
    rw [Timestamp.epochSecond_of_ofEpochSecond? hother]
    exact g.edge_strictMono.monotone hlt
  exact Timestamp.exists_ofEpochSecond? hlow hhigh

end Granularity

end SemanticLayer.Calendar
