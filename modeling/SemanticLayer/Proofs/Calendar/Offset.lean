import SemanticLayer.Proofs.Calendar.Clock

/-!
# Offsets from UTC

A date and a time of day with an offset are read as the same date and time without it, moved back by
the offset (`Timestamp.parse?_offset`). The offset may be written in four ways (`Offset`), and the
forms share them out among each other: the strict form takes `Z` and `hh:mm` with a colon, and what
it does not take is left to the lenient form with the separator that is written, which takes all of
them (`Reader.strictOffset_text`, `Reader.lenientOffset_text`). Both find the same time of day and
the same number of minutes, so it makes no difference which of them it is.

With a year of four digits, moving by less than a day stays within the supported years.
-/

namespace SemanticLayer.Calendar

open Text (isBlank)

/-! ### Written offsets -/

/-- How the minutes of an offset are written behind its hours. -/
inductive OffsetMinutes where
  /-- A colon and two digits. -/
  | colon (minutes : Fin 60)
  /-- Two digits. -/
  | joined (minutes : Fin 60)
  /-- Not at all, for a whole number of hours. -/
  | absent

/-- An offset from UTC, in one of its written forms. -/
inductive Offset where
  /-- The letter `Z`. -/
  | utc
  /-- A sign, the hours in two digits and the minutes. -/
  | signed (negative : Bool) (hours : Fin 24) (minutes : OffsetMinutes)

namespace OffsetMinutes

open Timestamp (padded)

/-- The minutes as they are written. -/
def text : OffsetMinutes → List Char
  | colon minutes => ':' :: padded 2 minutes
  | joined minutes => padded 2 minutes
  | absent => []

/-- The number of minutes. -/
def count : OffsetMinutes → Nat
  | colon minutes => minutes
  | joined minutes => minutes
  | absent => 0

theorem count_lt (minutes : OffsetMinutes) : minutes.count < 60 := by
  cases minutes with
  | colon minutes => exact minutes.isLt
  | joined minutes => exact minutes.isLt
  | absent => decide

theorem isBlank_text (minutes : OffsetMinutes) : ∀ c ∈ minutes.text, isBlank c = false := by
  cases minutes with
  | colon minutes =>
    rw [text, List.forall_mem_cons]
    exact ⟨by decide, fun c hc ↦ Timestamp.isBlank_of_mem_padded hc⟩
  | joined minutes => exact fun c hc ↦ Timestamp.isBlank_of_mem_padded hc
  | absent => exact fun c hc ↦ absurd hc List.not_mem_nil

end OffsetMinutes

namespace Offset

open Timestamp (padded)

/-- The sign of an offset. -/
def signChar (negative : Bool) : Char :=
  if negative then '-' else '+'

/-- The offset as it is written. -/
def text : Offset → List Char
  | utc => ['Z']
  | signed negative hours minutes => signChar negative :: (padded 2 hours ++ minutes.text)

/-- The minutes by which a clock with the offset is ahead of UTC. -/
def minutes : Offset → Int
  | utc => 0
  | signed negative hours minutes =>
    let size : Int := 60 * hours + minutes.count
    if negative then -size else size

/-- An offset is less than a day. -/
theorem minutes_bounds (offset : Offset) : -1440 < offset.minutes ∧ offset.minutes < 1440 := by
  cases offset with
  | utc => decide
  | signed negative hours minutes =>
    have hminutes := minutes.count_lt
    have hhours := hours.isLt
    rw [Offset.minutes]
    split <;> omega

/-- An offset does not go on with a number. -/
theorem head_text (offset : Offset) : ∀ c ∈ offset.text.head?, c.isDigit = false ∧ c ≠ '.' := by
  cases offset with
  | utc =>
    rintro _ ⟨⟩
    decide
  | signed negative hours minutes =>
    rintro _ ⟨⟩
    cases negative <;> decide

theorem isBlank_text (offset : Offset) : ∀ c ∈ offset.text, isBlank c = false := by
  cases offset with
  | utc => exact List.forall_mem_singleton.2 (by decide)
  | signed negative hours minutes =>
    rw [text, List.forall_mem_cons, List.forall_mem_append]
    exact ⟨by cases negative <;> decide, fun c hc ↦ Timestamp.isBlank_of_mem_padded hc,
      minutes.isBlank_text⟩

end Offset

/-! ### Reading offsets -/

namespace Reader

open Timestamp (padded)

theorem literal_of_ne {c d : Char} (h : d ≠ c) (rest : List Char) :
    literal c (d :: rest) = none := by
  have hsatisfy : satisfy (· == c) (d :: rest) = none := if_neg (by rwa [beq_iff_eq])
  rw [literal]
  exact bind_of_none hsatisfy _

theorem sign_signChar (negative : Bool) (rest : List Char) :
    sign (Offset.signChar negative :: rest) = some (negative, rest) := by
  cases negative <;> rfl

theorem offsetMinutes_of_lt (negative : Bool) (hours : Fin 24) {minutes : Nat} (h : minutes < 60)
    (rest : List Char) :
    offsetMinutes negative hours minutes rest =
      some (if negative then -(60 * hours + minutes : Int) else 60 * hours + minutes, rest) := by
  rw [offsetMinutes, if_pos ⟨hours.isLt, h⟩]
  rfl

/-- Behind a sign and the hours, the strict form of an offset wants a colon and the minutes. -/
theorem strictOffset_signed (negative : Bool) (hours : Fin 24) (minutes : OffsetMinutes) :
    strictOffset (Offset.signed negative hours minutes).text =
      (literal ':' >>= fun _ ↦ exactly 2 >>= offsetMinutes negative hours) minutes.text := by
  have hhours : exactly 2 (padded 2 hours ++ minutes.text) = some (hours.val, minutes.text) :=
    exactly_padded (by decide) (by omega) _
  rw [Offset.text, strictOffset, get_bind]
  cases negative
  · exact (bind_of_some (sign_signChar false _) _).trans (bind_of_some hhours _)
  · exact (bind_of_some (sign_signChar true _) _).trans (bind_of_some hhours _)

/-- The strict form of an offset takes a written one as what it stands for, or not at all. -/
theorem strictOffset_text (offset : Offset) :
    strictOffset offset.text = some (offset.minutes, []) ∨ strictOffset offset.text = none := by
  cases offset with
  | utc => exact .inl rfl
  | signed negative hours minutes =>
    rw [strictOffset_signed]
    cases minutes with
    | colon minutes =>
      rw [OffsetMinutes.text, bind_of_some (literal_cons _ _),
        bind_of_some (exactly_padded_nil (by decide) (by omega)),
        offsetMinutes_of_lt negative hours minutes.isLt]
      exact .inl rfl
    | joined minutes =>
      obtain ⟨c, digits, hcons, hdigit⟩ := Timestamp.exists_padded_eq_cons 2 minutes
      rw [OffsetMinutes.text, hcons]
      refine .inr (bind_of_none (literal_of_ne ?_ digits) _)
      rintro rfl
      cases hdigit
    | absent => exact .inr (bind_of_none rfl _)

/-- Behind a sign and the hours, the lenient form of an offset skips a colon and takes the minutes,
if there are any. -/
theorem lenientOffset_signed (negative : Bool) (hours : Fin 24) {minutes : OffsetMinutes}
    {left : List Char}
    (hleft : minutes.text.dropWhile (fun c ↦ c == ':' || isBlank c) = left) :
    lenientOffset (Offset.signed negative hours minutes).text =
      (if left.isEmpty then offsetMinutes negative hours 0
        else exactly 2 >>= offsetMinutes negative hours) left := by
  have hhours : exactly 2 (padded 2 hours ++ minutes.text) = some (hours.val, minutes.text) :=
    exactly_padded (by decide) (by omega) _
  have hblanks : blanks (Offset.signed negative hours minutes).text =
      some ((), (Offset.signed negative hours minutes).text) :=
    blanks_cons (by cases negative <;> decide) _
  rw [← hleft, lenientOffset, bind_of_some hblanks, get_bind, Offset.text]
  cases negative
  · exact (bind_of_some (sign_signChar false _) _).trans (bind_of_some hhours _)
  · exact (bind_of_some (sign_signChar true _) _).trans (bind_of_some hhours _)

theorem dropWhile_padded (width n : Nat) :
    (padded width n).dropWhile (fun c ↦ c == ':' || isBlank c) = padded width n := by
  obtain ⟨c, digits, hcons, hdigit⟩ := Timestamp.exists_padded_eq_cons width n
  rw [hcons, List.dropWhile_cons_of_neg]
  rw [isBlank_of_isDigit hdigit, Bool.or_false, beq_iff_eq]
  rintro rfl
  cases hdigit

/-- The lenient form of an offset takes a written one as what it stands for. -/
theorem lenientOffset_text (offset : Offset) :
    lenientOffset offset.text = some (offset.minutes, []) := by
  cases offset with
  | utc => rfl
  | signed negative hours minutes =>
    have hdigits {n : Nat} (hn : n < 60) :
        (if (padded 2 n).isEmpty then offsetMinutes negative hours 0
          else exactly 2 >>= offsetMinutes negative hours) (padded 2 n) =
        some (if negative then -(60 * hours + n : Int) else 60 * hours + n, []) := by
      rw [if_neg (by simp [Timestamp.padded_ne_nil]),
        bind_of_some (exactly_padded_nil (by decide) (by omega)),
        offsetMinutes_of_lt negative hours hn]
    cases minutes with
    | colon minutes =>
      have hleft : (OffsetMinutes.colon minutes).text.dropWhile (fun c ↦ c == ':' || isBlank c) =
          padded 2 minutes :=
        dropWhile_padded 2 minutes
      exact (lenientOffset_signed negative hours hleft).trans (hdigits minutes.isLt)
    | joined minutes =>
      have hleft : (OffsetMinutes.joined minutes).text.dropWhile (fun c ↦ c == ':' || isBlank c) =
          padded 2 minutes :=
        dropWhile_padded 2 minutes
      exact (lenientOffset_signed negative hours hleft).trans (hdigits minutes.isLt)
    | absent =>
      exact (lenientOffset_signed negative hours rfl).trans
        (offsetMinutes_of_lt negative hours (by decide) [])

/-- A timestamp with its offset is moved back by it. -/
theorem whole_toUtc_of_some {reader : Reader Timestamp} {offset : Reader Int}
    {text rest : List Char} {t moved : Timestamp} {minutes : Int}
    (h : reader text = some (t, rest)) (hoffset : offset rest = some (minutes, []))
    (hmoved : t.minusMinutes? minutes = some moved) :
    whole (toUtc reader offset) text = some moved := by
  refine whole_of_end ?_
  rw [toUtc, bind_of_some h, bind_of_some hoffset, hmoved]
  rfl

/-- A text with an offset is taken by the strict form, or else by the lenient form with its
separator, and both move the same time by the same offset. -/
theorem findSome?_forms_offset {between : Separator} {day : Date} {hour minute second nano : Nat}
    {after : List Char} {t moved : Timestamp} {offset : Offset}
    (hyear : 0 ≤ day.civil.year ∧ day.civil.year ≤ 9999)
    (hafter : fraction after = some (nano, offset.text))
    (hclock : Timestamp.ofClock? day hour minute second nano = some t)
    (hmoved : t.minusMinutes? offset.minutes = some moved) :
    forms.findSome?
      (whole · (Timestamp.clockText between day hour minute second after)) = some moved := by
  have hlenient : whole (toUtc (lenientSecond between) lenientOffset)
      (Timestamp.clockText between day hour minute second after) = some moved :=
    whole_toUtc_of_some (lenientSecond_clockText hafter hclock) (lenientOffset_text offset) hmoved
  have htext : strictSecond (Timestamp.clockText between day hour minute second after) =
      some (t, offset.text) :=
    strictSecond_clockText hyear hafter hclock
  rcases strictOffset_text offset with htaken | hleft
  · have hstrict := whole_toUtc_of_some htext htaken hmoved
    simp only [forms, List.findSome?_cons, hstrict]
  · have hstrict := whole_toUtc_of_offset_eq_none htext hleft
    cases between with
    | letter =>
      have hne : Separator.gap ≠ .letter := by decide
      have hgap : whole (toUtc (lenientSecond .gap) lenientOffset)
          (Timestamp.clockText .letter day hour minute second after) = none :=
        whole_toUtc_of_none (lenientSecond_clockText_of_ne hne _ _ _ _ _) _
      simp only [forms, List.findSome?_cons, hstrict, hgap, hlenient]
    | gap => simp only [forms, List.findSome?_cons, hstrict, hlenient]

end Reader

/-! ### Written times -/

/-- The days of the years with four digits are far from the ends of the supported ones. -/
theorem Civil.dayNumber_bounds {date : Civil} (h : date.IsValid)
    (hyear : 0 ≤ date.year ∧ date.year ≤ 9999) :
    firstDay < date.dayNumber ∧ date.dayNumber < lastDay := by
  obtain ⟨hone, htwelve, hfirst, hlast⟩ := h
  have hlength := Reader.daysInMonth_le date.year date.month
  simp only [dayNumber, firstDay, lastDay]
  split <;> omega

/-- A date with a year of four digits and a time of day to the second, as they are written. -/
structure WrittenTime where
  /-- The year. -/
  year : Nat
  /-- The month, from 1. -/
  month : Nat
  /-- The day of the month, from 1. -/
  day : Nat
  /-- What stands between the date and the time of day. -/
  between : Reader.Separator
  /-- The hour. -/
  hour : Nat
  /-- The minute. -/
  minute : Nat
  /-- The second, which is 60 in a leap second. -/
  second : Nat
  /-- The digits behind the point, if there is one. -/
  fraction : Option (List Char)
  /-- The year has four digits. -/
  year_lt : year < 10000
  /-- The date exists. -/
  isValid : Civil.IsValid ⟨year, month, day⟩
  /-- The hour is one of a day. -/
  hour_lt : hour < 24
  /-- The minute is one of an hour. -/
  minute_lt : minute < 60
  /-- The second is one of a minute, or a leap second. -/
  second_le : second ≤ 60
  /-- Behind the point there is at least one digit, and nothing else. -/
  isDigit_fraction : ∀ run ∈ fraction, run ≠ [] ∧ ∀ c ∈ run, c.isDigit = true

namespace WrittenTime

open Timestamp (padded clockText)

/-- The fraction as it is written. -/
def places (written : WrittenTime) : List Char :=
  match written.fraction with
  | none => []
  | some run => '.' :: run

/-- The date and the time of day as they are written. -/
def text (written : WrittenTime) : List Char :=
  padded 4 written.year ++ '-' :: (padded 2 written.month ++ '-' :: (padded 2 written.day ++
    written.between.char :: (padded 2 written.hour ++ ':' :: (padded 2 written.minute ++
      ':' :: (padded 2 written.second ++ written.places)))))

/-- The nanoseconds of the fraction. -/
def nano (written : WrittenTime) : Nat :=
  match written.fraction with
  | none => 0
  | some run => Reader.nanos run

variable (written : WrittenTime)

theorem year_bounds : 0 ≤ (written.year : Int) ∧ (written.year : Int) ≤ 9999 := by
  have hyear := written.year_lt
  omega

theorem dayNumber_bounds :
    firstDay < Civil.dayNumber ⟨written.year, written.month, written.day⟩ ∧
      Civil.dayNumber ⟨written.year, written.month, written.day⟩ < lastDay :=
  Civil.dayNumber_bounds written.isValid written.year_bounds

/-- The date that is written. -/
def date : Date :=
  ⟨Civil.dayNumber ⟨written.year, written.month, written.day⟩,
    written.dayNumber_bounds.1.le, written.dayNumber_bounds.2.le⟩

@[simp] theorem civil_date : written.date.civil = ⟨written.year, written.month, written.day⟩ :=
  Civil.ofDayNumber_dayNumber written.isValid

/-- The timestamp that is written; there always is one. -/
def time? : Option Timestamp :=
  Timestamp.ofClock? written.date written.hour written.minute written.second written.nano

theorem isBlank_places : ∀ c ∈ written.places, isBlank c = false := by
  rcases hfraction : written.fraction with - | run
  · rw [places, hfraction]
    exact fun c hc ↦ absurd hc List.not_mem_nil
  · rw [places, hfraction, List.forall_mem_cons]
    exact ⟨by decide,
      fun c hc ↦ isBlank_of_isDigit ((written.isDigit_fraction run hfraction).2 c hc)⟩

theorem nano_lt : written.nano < 1000000000 := by
  rcases hfraction : written.fraction with - | run
  · rw [nano, hfraction]
    decide
  · rw [nano, hfraction]
    exact Reader.nanos_lt (written.isDigit_fraction run hfraction).2

/-- A fraction ends where neither a digit nor a point follows. -/
theorem fraction_places {rest : List Char}
    (hrest : ∀ c ∈ rest.head?, c.isDigit = false ∧ c ≠ '.') :
    Reader.fraction (written.places ++ rest) = some (written.nano, rest) := by
  rcases hfraction : written.fraction with - | run
  · rw [places, nano, hfraction]
    exact Reader.fraction_of_head_ne fun c hc ↦ (hrest c hc).2
  · obtain ⟨hne, hrun⟩ := written.isDigit_fraction run hfraction
    rw [places, nano, hfraction]
    exact Reader.fraction_append hrun hne fun c hc ↦ (hrest c hc).1

theorem exists_time : ∃ t, written.time? = some t ∧ t.date = written.date := by
  have hbounds : written.hour < 24 ∧ written.minute < 60 ∧ written.second ≤ 60 ∧
      written.nano < 1000000000 :=
    ⟨written.hour_lt, written.minute_lt, written.second_le, written.nano_lt⟩
  rw [time?, Timestamp.ofClock?, dif_pos hbounds]
  split <;> exact ⟨_, rfl, rfl⟩

/-- The parts of what is written, in front of another text. -/
theorem text_append (rest : List Char) :
    written.text ++ rest = clockText written.between written.date written.hour written.minute
      written.second (written.places ++ rest) := by
  simp only [text, clockText, Timestamp.renderDate_append, civil_date, Timestamp.renderYear,
    if_pos written.year_bounds, Int.toNat_natCast, List.append_assoc, List.cons_append]

end WrittenTime

namespace Timestamp

variable {written : WrittenTime} {t : Timestamp}

theorem parse?_written (h : written.time? = some t) :
    parse? (String.ofList written.text) = some t := by
  have hblank : ∀ c ∈ written.places ++ [], isBlank c = false := by
    rw [List.append_nil]
    exact written.isBlank_places
  rw [← List.append_nil written.text, written.text_append]
  exact parse?_clockText hblank (written.fraction_places nofun) h

theorem parse?_written_offset {moved : Timestamp} {offset : Offset} (h : written.time? = some t)
    (hmoved : t.minusMinutes? offset.minutes = some moved) :
    parse? (String.ofList (written.text ++ offset.text)) = some moved := by
  have hblank : ∀ c ∈ written.places ++ offset.text, isBlank c = false :=
    List.forall_mem_append.2 ⟨written.isBlank_places, offset.isBlank_text⟩
  have hyear : 0 ≤ written.date.civil.year ∧ written.date.civil.year ≤ 9999 := by
    rw [written.civil_date]
    exact written.year_bounds
  rw [parse?, String.toList_ofList, written.text_append, trim_clockText _ _ _ _ _ hblank]
  exact Reader.findSome?_forms_offset hyear (written.fraction_places offset.head_text) h hmoved

/-- **Offsets from UTC.** A date and a time of day that end in an offset are read as what they are
without it, moved back by the minutes of the offset; the fraction and the leap second stay. -/
theorem parse?_offset (written : WrittenTime) (offset : Offset) :
    ∃ t moved, written.time? = some t ∧ parse? (String.ofList written.text) = some t ∧
      parse? (String.ofList (written.text ++ offset.text)) = some moved ∧
      moved.epochSecond = t.epochSecond - 60 * offset.minutes ∧ moved.nano = t.nano := by
  obtain ⟨t, htime, hdate⟩ := written.exists_time
  obtain ⟨hfirst, hlast⟩ := written.dayNumber_bounds
  have hnumber : t.date.number = Civil.dayNumber ⟨written.year, written.month, written.day⟩ := by
    rw [hdate, WrittenTime.date]
  obtain ⟨moved, hmoved⟩ := exists_minusMinutes? (hnumber ▸ hfirst) (hnumber ▸ hlast)
    offset.minutes_bounds
  exact ⟨t, moved, htime, parse?_written htime, parse?_written_offset htime hmoved,
    minusMinutes?_eq_some hmoved⟩

/-- A quarter of the way into a leap second, five hours behind UTC. -/
def leapSecond : WrittenTime where
  year := 2016
  month := 12
  day := 31
  between := .gap
  hour := 18
  minute := 59
  second := 60
  fraction := some ['2', '5']
  year_lt := by decide
  isValid := by decide
  hour_lt := by decide
  minute_lt := by decide
  second_le := by decide
  isDigit_fraction := by simp

/-- The leap second is read as one of UTC, with its fraction. -/
theorem parse?_offset_of_leapSecond :
    ∃ t moved, parse? "2016-12-31 18:59:60.25" = some t ∧ t.wire = "2016-12-31T18:59:60.250" ∧
      parse? "2016-12-31 18:59:60.25-0500" = some moved ∧
      moved.wire = "2016-12-31T23:59:60.250" ∧ moved.epochSecond = t.epochSecond + 18000 ∧
      moved.nano = t.nano := by
  have htext : String.ofList leapSecond.text = "2016-12-31 18:59:60.25" := by decide +kernel
  have hoffset : String.ofList (leapSecond.text ++ (Offset.signed true 5 (.joined 0)).text) =
      "2016-12-31 18:59:60.25-0500" := by decide +kernel
  have hminutes : (Offset.signed true 5 (.joined 0)).minutes = -300 := by decide
  have hwire : (parse? "2016-12-31 18:59:60.25").map wire = some "2016-12-31T18:59:60.250" ∧
      (parse? "2016-12-31 18:59:60.25-0500").map wire = some "2016-12-31T23:59:60.250" := by
    decide +kernel
  obtain ⟨t, moved, -, hparse, hmoved, hsecond, hnano⟩ :=
    parse?_offset leapSecond (.signed true 5 (.joined 0))
  rw [htext] at hparse
  rw [hoffset] at hmoved
  rw [hparse, hmoved] at hwire
  have hahead : moved.epochSecond = t.epochSecond + 18000 := by
    rw [hsecond, hminutes]
    omega
  exact ⟨t, moved, hparse, Option.some.inj hwire.1, hmoved, Option.some.inj hwire.2, hahead, hnano⟩

/-- Without minutes, and over the end of a year. -/
example : (parse? "2016-12-31T23:29:60.25-01").map wire = some "2017-01-01T00:29:60.250" := by
  decide +kernel

end Timestamp

end SemanticLayer.Calendar
