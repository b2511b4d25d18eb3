import SemanticLayer.Calendar.Reader
import SemanticLayer.Proofs.Calendar.Instant
import SemanticLayer.Proofs.Sequence

/-!
# Dates and times as they are written

A run of digits stands for the number that it was written from (`Timestamp.value_padded`), so each
reader finds the part that stands at the front of its text: `Reader.exactly_padded`,
`Reader.field_padded`, `Reader.year_renderYear`, `Reader.fraction_append`. From these, the strict
form and the lenient form to the second find the date and the time of day that a text was written
from, with any text behind them (`Reader.strictSecond_clockText`, `Reader.lenientSecond_clockText`).

The forms are tried in turn, and several come before the one that is meant. The strict form may read
the whole text, but then nothing is left for the offset that it wants; the same happens to the
lenient form with the separator that is written. Those with the other separator do not get past it.
What remains is the lenient form without an offset, and it takes the whole text
(`Timestamp.parse?_clockText`).
-/

namespace SemanticLayer.Calendar

open Text (isBlank)

/-! ### Digits -/

theorem isBlank_of_isDigit {c : Char} (h : c.isDigit = true) : isBlank c = false := by
  simp only [Char.isDigit, Bool.and_eq_true, decide_eq_true_eq] at h
  obtain ⟨hlow, hhigh⟩ : 48 ≤ c.toNat ∧ c.toNat ≤ 57 := h
  rw [isBlank, ← Bool.not_eq_true, Text.Intervals.contains_iff]
  simp only [Text.blanks, List.mem_cons, List.not_mem_nil, or_false]
  rintro ⟨interval, hmem, hfirst, hlast⟩
  rcases hmem with rfl | rfl | rfl | rfl | rfl | rfl | rfl | rfl | rfl | rfl <;>
    simp only at hfirst hlast <;> omega

namespace Timestamp

theorem isDigit_of_mem_padded {width n : Nat} {c : Char} (h : c ∈ padded width n) :
    c.isDigit = true := by
  rcases List.mem_append.1 h with hzero | hdigit
  · rw [(List.mem_replicate.1 hzero).2]
    rfl
  · exact Nat.isDigit_of_mem_toDigits (by decide) (by decide) hdigit

theorem isBlank_of_mem_padded {width n : Nat} {c : Char} (h : c ∈ padded width n) :
    isBlank c = false :=
  isBlank_of_isDigit (isDigit_of_mem_padded h)

theorem length_padded {width n : Nat} (hwidth : 0 < width) (h : n < 10 ^ width) :
    (padded width n).length = width := by
  have hle := (Nat.length_toDigits_le_iff (by decide : 1 < 10) hwidth).2 h
  rw [padded, List.length_append, List.length_replicate]
  omega

theorem padded_ne_nil (width n : Nat) : padded width n ≠ [] := by
  have hpos : 0 < (Nat.toDigits 10 n).length := Nat.length_toDigits_pos
  intro h
  have hlength := congrArg List.length h
  rw [padded, List.length_append, List.length_nil] at hlength
  omega

/-- A written number starts with a digit. -/
theorem exists_padded_eq_cons (width n : Nat) :
    ∃ c digits, padded width n = c :: digits ∧ c.isDigit = true := by
  obtain ⟨c, digits, hcons⟩ := List.exists_cons_of_ne_nil (padded_ne_nil width n)
  exact ⟨c, digits, hcons, isDigit_of_mem_padded (hcons ▸ List.mem_cons_self)⟩

/-- Zeros in front change nothing. -/
theorem value_padded (width n : Nat) : Reader.value (padded width n) = n := by
  rw [Reader.value, padded, Nat.ofDigitChars_append, Nat.ofDigitChars_replicate_zero, Nat.mul_zero,
    Nat.ofDigitChars_ten_toDigits]

/-- A written date in front of another text. -/
theorem renderDate_append (date : Date) (rest : List Char) :
    renderDate date ++ rest = renderYear date.civil.year ++
      '-' :: (padded 2 date.civil.month ++ '-' :: (padded 2 date.civil.day ++ rest)) := by
  simp only [renderDate, List.append_assoc, List.cons_append]

end Timestamp

/-! ### Readers -/

namespace Reader

open Timestamp (padded isDigit_of_mem_padded length_padded padded_ne_nil exists_padded_eq_cons
  value_padded)

variable {α β : Type}

theorem bind_of_some {reader : Reader α} {text rest : List Char} {a : α}
    (h : reader text = some (a, rest)) (next : α → Reader β) :
    (reader >>= next) text = next a rest := by
  show (reader text).bind _ = _
  rw [h]
  rfl

theorem bind_of_none {reader : Reader α} {text : List Char} (h : reader text = none)
    (next : α → Reader β) : (reader >>= next) text = none := by
  show (reader text).bind _ = _
  rw [h]
  rfl

theorem map_of_some {reader : Reader α} {text rest : List Char} {a : α}
    (h : reader text = some (a, rest)) (f : α → β) :
    (f <$> reader) text = some (f a, rest) := by
  show (reader text).bind _ = _
  rw [h]
  rfl

theorem map_of_none {reader : Reader α} {text : List Char} (h : reader text = none) (f : α → β) :
    (f <$> reader) text = none := by
  show (reader text).bind _ = _
  rw [h]
  rfl

theorem get_bind (next : List Char → Reader α) (text : List Char) :
    ((get : Reader (List Char)) >>= next) text = next text text :=
  rfl

theorem satisfy_cons {test : Char → Bool} {c : Char} (h : test c = true) (rest : List Char) :
    satisfy test (c :: rest) = some (c, rest) :=
  if_pos h

theorem literal_cons (c : Char) (rest : List Char) :
    literal c (c :: rest) = some ((), rest) := by
  have hsatisfy : satisfy (· == c) (c :: rest) = some (c, rest) :=
    satisfy_cons (beq_self_eq_true c) rest
  rw [literal, bind_of_some hsatisfy]
  rfl

theorem blanks_cons {c : Char} (h : isBlank c = false) (rest : List Char) :
    blanks (c :: rest) = some ((), c :: rest) := by
  rw [blanks, Text.trimStart, List.dropWhile_cons_of_neg (by rw [h]; decide)]

theorem digits_append {run : List Char} (hrun : ∀ c ∈ run, c.isDigit = true) (hne : run ≠ [])
    (rest : List Char) : digits run.length (run ++ rest) = some (run, rest) := by
  have htake : ((run ++ rest).take run.length).takeWhile Char.isDigit = run := by
    rw [List.take_left, ← List.append_nil run, List.takeWhile_append_of_pos (by simpa using hrun)]
    rfl
  have hempty : run.isEmpty = false := by rwa [List.isEmpty_eq_false_iff]
  simp only [digits, htake, hempty, List.drop_left]
  rfl

theorem digits_of_not_digit {c : Char} (h : c.isDigit = false) (most : Nat) (rest : List Char) :
    digits (most + 1) (c :: rest) = none := by
  simp only [digits, List.take_succ_cons, List.takeWhile_cons, h]
  rfl

theorem allDigits_append {run : List Char} (hrun : ∀ c ∈ run, c.isDigit = true) (hne : run ≠ [])
    {rest : List Char} (hrest : ∀ c ∈ rest.head?, c.isDigit = false) :
    allDigits (run ++ rest) = some (run, rest) := by
  obtain ⟨htake, hdrop⟩ := takeWhile_dropWhile_append hrun hrest
  have hempty : run.isEmpty = false := by rwa [List.isEmpty_eq_false_iff]
  simp only [allDigits, htake, hempty, hdrop]
  rfl

/-- A run of digits ends at its width, whatever follows. -/
theorem digits_padded {width n : Nat} (hwidth : 0 < width) (h : n < 10 ^ width)
    (rest : List Char) : digits width (padded width n ++ rest) = some (padded width n, rest) := by
  have hdigits := digits_append (fun _ hc ↦ isDigit_of_mem_padded hc) (padded_ne_nil width n) rest
  rwa [length_padded hwidth h] at hdigits

/-- A run of digits ends where no digit follows. -/
theorem allDigits_padded (width n : Nat) {rest : List Char}
    (hrest : ∀ c ∈ rest.head?, c.isDigit = false) :
    allDigits (padded width n ++ rest) = some (padded width n, rest) :=
  allDigits_append (fun _ hc ↦ isDigit_of_mem_padded hc) (padded_ne_nil width n) hrest

/-- A number with the digits of its width is read, whatever follows. -/
theorem exactly_padded {width n : Nat} (hwidth : 0 < width) (h : n < 10 ^ width)
    (rest : List Char) : exactly width (padded width n ++ rest) = some (n, rest) := by
  rw [exactly, bind_of_some (digits_padded hwidth h rest), if_pos (length_padded hwidth h),
    value_padded]
  rfl

/-- A number that ends the text. -/
theorem exactly_padded_nil {width n : Nat} (hwidth : 0 < width) (h : n < 10 ^ width) :
    exactly width (padded width n) = some (n, []) := by
  have hexactly := exactly_padded hwidth h []
  rwa [List.append_nil] at hexactly

theorem blanks_padded (width n : Nat) (rest : List Char) :
    blanks (padded width n ++ rest) = some ((), padded width n ++ rest) := by
  obtain ⟨c, digits, hcons, hdigit⟩ := exists_padded_eq_cons width n
  rw [hcons]
  exact blanks_cons (isBlank_of_isDigit hdigit) _

theorem field_padded {n : Nat} (h : n < 100) (rest : List Char) :
    field (padded 2 n ++ rest) = some (n, rest) := by
  have hdigits := digits_padded (show 0 < 2 by decide) h rest
  rw [field, bind_of_some (blanks_padded 2 n rest), map_of_some hdigits, value_padded]

/-- A field does not start with a letter. -/
theorem field_of_letter {c : Char} (hblank : isBlank c = false) (hdigit : c.isDigit = false)
    (rest : List Char) : field (c :: rest) = none := by
  rw [field, bind_of_some (blanks_cons hblank rest)]
  exact map_of_none (digits_of_not_digit hdigit 1 rest) _

/-- The nanoseconds that the digits behind a point stand for, as far as nine digits go. -/
def nanos (run : List Char) : Nat :=
  value (run.take 9) * 10 ^ (9 - (run.take 9).length)

/-- Digits that are appended to a number leave less than the next number would have. -/
theorem ofDigitChars_lt {run : List Char} (hrun : ∀ c ∈ run, c.isDigit = true) (start : Nat) :
    Nat.ofDigitChars 10 run start < (start + 1) * 10 ^ run.length := by
  induction run generalizing start with
  | nil => simp
  | cons c run ih =>
    obtain ⟨hc, hrun⟩ := List.forall_mem_cons.1 hrun
    simp only [Char.isDigit, Bool.and_eq_true, decide_eq_true_eq] at hc
    have hdigit : c.toNat ≤ 57 := hc.2
    have hzero : '0'.toNat = 48 := rfl
    rw [Nat.ofDigitChars_cons, List.length_cons, Nat.pow_succ', ← Nat.mul_assoc]
    exact (ih hrun _).trans_le (Nat.mul_le_mul_right _ (by omega))

theorem nanos_lt {run : List Char} (hrun : ∀ c ∈ run, c.isDigit = true) :
    nanos run < 1000000000 := by
  have hkept : (run.take 9).length ≤ 9 := List.length_take_le 9 run
  have hlt : value (run.take 9) < (0 + 1) * 10 ^ (run.take 9).length :=
    ofDigitChars_lt (fun c hc ↦ hrun c (List.mem_of_mem_take hc)) 0
  rw [Nat.zero_add, Nat.one_mul] at hlt
  calc nanos run
      < 10 ^ (run.take 9).length * 10 ^ (9 - (run.take 9).length) :=
        Nat.mul_lt_mul_of_pos_right hlt (Nat.pow_pos (by decide))
    _ = 1000000000 := by rw [← Nat.pow_add, Nat.add_sub_cancel' hkept]

theorem fraction_append {run : List Char} (hrun : ∀ c ∈ run, c.isDigit = true) (hne : run ≠ [])
    {rest : List Char} (hrest : ∀ c ∈ rest.head?, c.isDigit = false) :
    fraction ('.' :: (run ++ rest)) = some (nanos run, rest) := by
  rw [fraction, get_bind]
  simp only [List.head?_cons]
  rw [bind_of_some (literal_cons _ _), bind_of_some (allDigits_append hrun hne hrest)]
  rfl

/-- Without a point there is no fraction. -/
theorem fraction_of_head_ne {rest : List Char} (hrest : ∀ c ∈ rest.head?, c ≠ '.') :
    fraction rest = some (0, rest) := by
  rw [fraction, get_bind]
  generalize rest.head? = head at hrest ⊢
  split
  · exact absurd rfl (hrest '.' rfl)
  · rfl

theorem fraction_padded {n : Nat} (h : n < 1000) :
    fraction ('.' :: padded 3 n) = some (n * 1000000, []) := by
  have hfraction : fraction ('.' :: (padded 3 n ++ [])) = some (nanos (padded 3 n), []) :=
    fraction_append (fun _ hc ↦ isDigit_of_mem_padded hc) (padded_ne_nil 3 n) nofun
  have hlength : (padded 3 n).length = 3 := length_padded (by decide) h
  have hkept : (padded 3 n).take 9 = padded 3 n := List.take_of_length_le (by omega)
  rwa [List.append_nil, nanos, hkept, hlength, value_padded] at hfraction

/-- A year without a sign has four digits. -/
theorem year_padded {n : Nat} (h : n < 10000) (rest : List Char) :
    year (padded 4 n ++ rest) = some ((n : Int), rest) := by
  have hdigits := digits_padded (show 0 < 4 by decide) h rest
  have hhead : ∀ c ∈ (padded 4 n ++ rest).head?, c.isDigit = true := by
    obtain ⟨c, digits, hcons, hdigit⟩ := exists_padded_eq_cons 4 n
    rw [hcons]
    rintro _ ⟨⟩
    exact hdigit
  rw [year, bind_of_some (blanks_padded 4 n rest), get_bind]
  -- the head is a digit, so neither of the signs
  generalize (padded 4 n ++ rest).head? = head at hhead ⊢
  split
  · exact absurd (hhead '-' rfl) (by decide)
  · exact absurd (hhead '+' rfl) (by decide)
  · rw [bind_of_some hdigits, value_padded]
    rfl

/-- A year with a sign ends where its digits do. -/
theorem year_signed (negative : Bool) (n : Nat) {rest : List Char}
    (hrest : ∀ c ∈ rest.head?, c.isDigit = false) :
    year ((if negative then '-' else '+') :: (padded 4 n ++ rest)) =
      some (if negative then -(n : Int) else n, rest) := by
  have hdigits := allDigits_padded 4 n hrest
  cases negative with
  | false =>
    rw [if_neg Bool.false_ne_true, if_neg Bool.false_ne_true, year,
      bind_of_some (blanks_cons (by decide) _), get_bind]
    show (literal '+' >>= _) _ = _
    rw [bind_of_some (literal_cons _ _), bind_of_some hdigits, value_padded]
    rfl
  | true =>
    rw [if_pos rfl, if_pos rfl, year, bind_of_some (blanks_cons (by decide) _), get_bind]
    show (literal '-' >>= _) _ = _
    rw [bind_of_some (literal_cons _ _), bind_of_some hdigits, value_padded]
    rfl

/-- A year is read as it was written, up to what cannot belong to it. -/
theorem year_renderYear (y : Int) {rest : List Char} (hrest : ∀ c ∈ rest.head?, c.isDigit = false) :
    year (Timestamp.renderYear y ++ rest) = some (y, rest) := by
  unfold Timestamp.renderYear
  split
  · next hrange => rw [year_padded (by omega), Int.toNat_of_nonneg hrange.1]
  · next hrange =>
    have hsigned := year_signed (decide (y < 0)) y.natAbs hrest
    simp only [decide_eq_true_eq] at hsigned
    rw [List.cons_append, hsigned]
    split <;> simp only [Option.some.injEq, Prod.mk.injEq, and_true] <;> omega

/-! ### Dates -/

theorem daysInMonth_le (year : Int) (month : Nat) : daysInMonth year month ≤ 31 := by
  unfold daysInMonth
  split <;> split <;> decide

theorem date_civil (day : Date) (text : List Char) :
    date day.civil.year day.civil.month day.civil.day text = some (day, text) := by
  have hdate : Date.ofCivil? day.civil = some day := by
    rw [Date.ofCivil?, if_pos day.isValid_civil, Date.dayNumber_civil, Date.ofNumber?,
      dif_pos day.inRange]
  show (Date.ofCivil? day.civil).bind _ = _
  rw [hdate]
  rfl

theorem lenientDate_renderDate (day : Date) (rest : List Char) :
    lenientDate (Timestamp.renderDate day ++ rest) = some (day, rest) := by
  obtain ⟨hone, htwelve, hfirst, hlast⟩ := day.isValid_civil
  have hlength := daysInMonth_le day.civil.year day.civil.month
  rw [Timestamp.renderDate_append, lenientDate,
    bind_of_some (year_renderYear day.civil.year fun c hc ↦ by cases hc; rfl),
    bind_of_some (literal_cons _ _), bind_of_some (field_padded (by omega) _),
    bind_of_some (literal_cons _ _), bind_of_some (field_padded (by omega) _), date_civil]

end Reader

/-! ### Dates with times of day -/

/-- The character that is written between a date and a time. -/
def Reader.Separator.char : Reader.Separator → Char
  | .letter => 'T'
  | .gap => ' '

namespace Timestamp

/-- A date and a time of day to the second, in front of what follows the seconds. -/
def clockText (between : Reader.Separator) (day : Date) (hour minute second : Nat)
    (after : List Char) : List Char :=
  renderDate day ++ between.char :: (padded 2 hour ++ ':' :: (padded 2 minute ++
    ':' :: (padded 2 second ++ after)))

theorem ofClock?_bounds {day : Date} {hour minute second nano : Nat} {t : Timestamp}
    (h : ofClock? day hour minute second nano = some t) :
    hour < 24 ∧ minute < 60 ∧ second ≤ 60 := by
  by_cases hbounds : hour < 24 ∧ minute < 60 ∧ second ≤ 60 ∧ nano < 1000000000
  · exact ⟨hbounds.1, hbounds.2.1, hbounds.2.2.1⟩
  · rw [ofClock?, dif_neg hbounds] at h
    cases h

end Timestamp

namespace Reader

open Timestamp (clockText)

variable {between : Separator} {day : Date} {hour minute second nano : Nat}
  {after rest : List Char} {t : Timestamp}

/-- A separator ends where a number starts. -/
theorem separator_padded (between : Separator) (width n : Nat) (rest : List Char) :
    separator between (between.char :: (Timestamp.padded width n ++ rest)) =
      some ((), Timestamp.padded width n ++ rest) := by
  cases between with
  | letter => exact literal_cons 'T' _
  | gap => exact blanks_padded width n rest

/-- The lenient form with the separator that is written takes the text up to its fraction. -/
theorem lenientSecond_clockText (hafter : fraction after = some (nano, rest))
    (hclock : Timestamp.ofClock? day hour minute second nano = some t) :
    lenientSecond between (clockText between day hour minute second after) = some (t, rest) := by
  obtain ⟨hhour, hminute, hsecond⟩ := Timestamp.ofClock?_bounds hclock
  rw [clockText, lenientSecond, bind_of_some (lenientDate_renderDate day _),
    bind_of_some (separator_padded between 2 hour _), bind_of_some (field_padded (by omega) _),
    bind_of_some (literal_cons _ _), bind_of_some (field_padded (by omega) _),
    bind_of_some (literal_cons _ _), bind_of_some (field_padded (by omega) _),
    bind_of_some hafter, hclock]
  rfl

/-- The lenient form with the other separator does not get past the one that is written. -/
theorem lenientSecond_clockText_of_ne {other : Separator} (h : other ≠ between) (day : Date)
    (hour minute second : Nat) (after : List Char) :
    lenientSecond other (clockText between day hour minute second after) = none := by
  rw [clockText, lenientSecond, bind_of_some (lenientDate_renderDate day _)]
  cases between with
  | letter =>
    obtain rfl : other = .gap := by cases other <;> trivial
    rw [separator, bind_of_some (blanks_cons (by decide) _)]
    exact bind_of_none (field_of_letter (by decide) (by decide) _) _
  | gap =>
    obtain rfl : other = .letter := by cases other <;> trivial
    exact bind_of_none rfl _

/-- The strict form takes a text with a year of four digits up to its fraction. -/
theorem strictSecond_clockText (hyear : 0 ≤ day.civil.year ∧ day.civil.year ≤ 9999)
    (hafter : fraction after = some (nano, rest))
    (hclock : Timestamp.ofClock? day hour minute second nano = some t) :
    strictSecond (clockText between day hour minute second after) = some (t, rest) := by
  obtain ⟨hone, htwelve, hfirst, hlast⟩ := day.isValid_civil
  obtain ⟨hhour, hminute, hsecond⟩ := Timestamp.ofClock?_bounds hclock
  have hlength := daysInMonth_le day.civil.year day.civil.month
  have hnumber : (day.civil.year.toNat : Int) = day.civil.year := Int.toNat_of_nonneg hyear.1
  have hbetween : (between.char == 'T' || between.char == 't' || between.char == ' ') = true := by
    cases between <;> rfl
  rw [clockText, Timestamp.renderDate_append, Timestamp.renderYear, if_pos hyear, strictSecond,
    bind_of_some (exactly_padded (by decide) (by omega) _), bind_of_some (literal_cons _ _),
    bind_of_some (exactly_padded (by decide) (by omega) _), bind_of_some (literal_cons _ _),
    bind_of_some (exactly_padded (by decide) (by omega) _), hnumber,
    bind_of_some (date_civil _ _), bind_of_some (satisfy_cons hbetween _),
    bind_of_some (exactly_padded (by decide) (by omega) _), bind_of_some (literal_cons _ _),
    bind_of_some (exactly_padded (by decide) (by omega) _), bind_of_some (literal_cons _ _),
    bind_of_some (exactly_padded (by decide) (by omega) _), bind_of_some hafter, hclock]
  rfl

/-- The strict form does not start with a sign. -/
theorem strictSecond_clockText_of_signed (hyear : ¬(0 ≤ day.civil.year ∧ day.civil.year ≤ 9999)) :
    strictSecond (clockText between day hour minute second after) = none := by
  rw [clockText, Timestamp.renderDate_append, Timestamp.renderYear, if_neg hyear, strictSecond]
  refine bind_of_none (bind_of_none (digits_of_not_digit ?_ 3 _) _) _
  split <;> rfl

/-! ### The forms without an offset -/

theorem whole_of_end {α : Type} {reader : Reader α} {text : List Char} {a : α}
    (h : reader text = some (a, [])) : whole reader text = some a := by
  rw [whole, h]

theorem whole_of_none {α : Type} {reader : Reader α} {text : List Char} (h : reader text = none) :
    whole reader text = none := by
  rw [whole, h]

/-- A timestamp is not read if the offset that is wanted behind it does not follow. -/
theorem whole_toUtc_of_offset_eq_none {reader : Reader Timestamp} {offset : Reader Int}
    {text rest : List Char} {t : Timestamp} (h : reader text = some (t, rest))
    (hoffset : offset rest = none) : whole (toUtc reader offset) text = none := by
  rw [toUtc]
  exact whole_of_none (by rw [bind_of_some h, bind_of_none hoffset])

theorem whole_toUtc_of_none {reader : Reader Timestamp} {text : List Char}
    (h : reader text = none) (offset : Reader Int) :
    whole (toUtc reader offset) text = none := by
  rw [toUtc]
  exact whole_of_none (bind_of_none h _)

/-- A text without an offset is left to the lenient form with its separator. -/
theorem findSome?_forms_clockText (hafter : fraction after = some (nano, []))
    (hclock : Timestamp.ofClock? day hour minute second nano = some t) :
    forms.findSome? (whole · (clockText between day hour minute second after)) = some t := by
  have hstrict : whole (toUtc strictSecond strictOffset)
      (clockText between day hour minute second after) = none := by
    by_cases hyear : 0 ≤ day.civil.year ∧ day.civil.year ≤ 9999
    · exact whole_toUtc_of_offset_eq_none (strictSecond_clockText hyear hafter hclock) rfl
    · exact whole_toUtc_of_none (strictSecond_clockText_of_signed hyear) _
  have hown : whole (toUtc (lenientSecond between) lenientOffset)
      (clockText between day hour minute second after) = none :=
    whole_toUtc_of_offset_eq_none (lenientSecond_clockText hafter hclock) rfl
  have hother {other : Separator} (hne : other ≠ between) :
      whole (toUtc (lenientSecond other) lenientOffset)
          (clockText between day hour minute second after) = none ∧
        whole (lenientSecond other) (clockText between day hour minute second after) = none :=
    ⟨whole_toUtc_of_none (lenientSecond_clockText_of_ne hne _ _ _ _ _) _,
      whole_of_none (lenientSecond_clockText_of_ne hne _ _ _ _ _)⟩
  have hwhole : whole (lenientSecond between) (clockText between day hour minute second after) =
      some t :=
    whole_of_end (lenientSecond_clockText hafter hclock)
  cases between with
  | letter =>
    obtain ⟨hgap, -⟩ := hother (show Separator.gap ≠ .letter by decide)
    simp only [forms, List.findSome?_cons, hstrict, hgap, hown, hwhole]
  | gap =>
    obtain ⟨hletter, hplain⟩ := hother (show Separator.letter ≠ .gap by decide)
    simp only [forms, List.findSome?_cons, hstrict, hown, hletter, hplain, hwhole]

end Reader

/-! ### The whole text -/

theorem trim_of_ends {text : List Char} (hfirst : ∀ c ∈ text.head?, isBlank c = false)
    (hlast : ∀ c ∈ text.getLast?, isBlank c = false) : Text.trim text = text := by
  have hstart {run : List Char} (h : ∀ c ∈ run.head?, isBlank c = false) :
      Text.trimStart run = run := by
    cases run with
    | nil => rfl
    | cons c cs =>
      exact List.dropWhile_cons_of_neg (by rw [h c rfl]; exact Bool.false_ne_true)
  rw [Text.trim, hstart hfirst, hstart (by rwa [List.head?_reverse]), List.reverse_reverse]

namespace Timestamp

theorem renderYear_ne_nil (year : Int) : renderYear year ≠ [] := by
  unfold renderYear
  split
  · exact padded_ne_nil _ _
  · exact List.cons_ne_nil _ _

/-- A year starts with a digit or a sign. -/
theorem isBlank_head_renderYear (year : Int) :
    ∀ c ∈ (renderYear year).head?, isBlank c = false := by
  intro c hc
  unfold renderYear at hc
  split at hc
  · exact isBlank_of_mem_padded (List.mem_of_mem_head? hc)
  · split at hc <;> cases hc <;> decide

/-- A text has no blanks at its ends if none follow the seconds. -/
theorem trim_clockText (between : Reader.Separator) (day : Date) (hour minute second : Nat)
    {after : List Char} (hafter : ∀ c ∈ after, isBlank c = false) :
    Text.trim (clockText between day hour minute second after) =
      clockText between day hour minute second after := by
  have hhead : (clockText between day hour minute second after).head? =
      (renderYear day.civil.year).head? := by
    rw [clockText, renderDate_append, List.head?_append_of_ne_nil _ (renderYear_ne_nil _)]
  have hsplit : clockText between day hour minute second after =
      (renderDate day ++ between.char :: (padded 2 hour ++ ':' :: (padded 2 minute ++ [':']))) ++
        (padded 2 second ++ after) := by
    simp only [clockText, List.append_assoc, List.cons_append, List.nil_append]
  have hlast : (clockText between day hour minute second after).getLast? =
      (padded 2 second ++ after).getLast? := by
    rw [hsplit]
    exact List.getLast?_append_of_ne_nil _
      (List.append_ne_nil_of_left_ne_nil (padded_ne_nil 2 second) after)
  refine trim_of_ends (fun c hc ↦ isBlank_head_renderYear _ c (hhead ▸ hc)) (fun c hc ↦ ?_)
  rcases List.mem_append.1 (List.mem_of_getLast? (hlast ▸ hc)) with hdigit | hrest
  · exact isBlank_of_mem_padded hdigit
  · exact hafter c hrest

/-- A date and a time of day are read from their text. -/
theorem parse?_clockText {between : Reader.Separator} {day : Date} {hour minute second nano : Nat}
    {after : List Char} {t : Timestamp} (hblank : ∀ c ∈ after, isBlank c = false)
    (hafter : Reader.fraction after = some (nano, []))
    (hclock : ofClock? day hour minute second nano = some t) :
    parse? (String.ofList (clockText between day hour minute second after)) = some t := by
  rw [parse?, String.toList_ofList, trim_clockText between day hour minute second hblank,
    Reader.findSome?_forms_clockText hafter hclock]

end Timestamp

end SemanticLayer.Calendar
