import SemanticLayer.Calendar.Timestamp
import SemanticLayer.Text.Blank

/-!
# Reading timestamps

A timestamp is read from several written forms, and the first form that takes the whole text wins:

1. the strict form: four, two and two digits, a `T`, `t` or space, two, two and two digits, an
   optional fraction, then `Z` or a signed offset `hh:mm`;
2. the lenient forms with an offset;
3. the lenient forms without one, to the second with an optional fraction or to the minute;
4. a bare date, which means its midnight.

A lenient form is built from *fields*: a field skips blanks and takes one or two digits, a year one
to four, or any number of digits after a sign. A blank between date and time stands for any number
of blanks, none included. A value with an offset is moved to UTC.

Each reader takes characters from the front of a text and returns what is left. None of them
backtracks: a field takes as many digits as it may.
-/

namespace SemanticLayer.Calendar

/-- A reader of one part: the value and the rest of the text, or nothing. -/
abbrev Reader := StateT (List Char) Option

namespace Reader

/-! ### Characters and digits -/

/-- Takes one character that satisfies a test. -/
def satisfy (test : Char → Bool) : Reader Char
  | c :: rest => if test c then some (c, rest) else none
  | [] => none

/-- Takes exactly the given character. -/
def literal (c : Char) : Reader Unit := do
  let _ ← satisfy (· == c)

/-- Skips blanks. -/
def blanks : Reader Unit
  | text => some ((), Text.trimStart text)

/-- Takes the longest run of digits, at most `most` of them and at least one. -/
def digits (most : Nat) : Reader (List Char)
  | text =>
    let run := (text.take most).takeWhile Char.isDigit
    if run.isEmpty then none else some (run, text.drop run.length)

/-- Takes every digit from here on; at least one. -/
def allDigits : Reader (List Char)
  | text =>
    let run := text.takeWhile Char.isDigit
    if run.isEmpty then none else some (run, text.dropWhile Char.isDigit)

/-- The number that a run of digits stands for. -/
def value (run : List Char) : Nat :=
  Nat.ofDigitChars 10 run 0

/-- A number of exactly `count` digits. -/
def exactly (count : Nat) : Reader Nat := do
  let run ← digits count
  if run.length = count then pure (value run) else failure

/-- A number of one or two digits, after blanks. -/
def field : Reader Nat := do
  blanks
  value <$> digits 2

/-- A year, after blanks: up to four digits, or a sign and any number of them. -/
def year : Reader Int := do
  blanks
  match (← get).head? with
  | some '-' =>
    literal '-'
    return -(value (← allDigits) : Int)
  | some '+' =>
    literal '+'
    return value (← allDigits)
  | _ => return value (← digits 4)

/-- The nanoseconds of a fraction: a point and digits, of which nine count; none without a
point. -/
def fraction : Reader Nat := do
  match (← get).head? with
  | some '.' =>
    literal '.'
    let run ← allDigits
    let kept := run.take 9
    return value kept * Nat.pow 10 (9 - kept.length)
  | _ => return 0

/-! ### Dates and times -/

/-- The date with a given civil form. -/
def date (year : Int) (month day : Nat) : Reader Date :=
  StateT.lift (Date.ofCivil? ⟨year, month, day⟩)

/-- A lenient date: a year and two fields. -/
def lenientDate : Reader Date := do
  let y ← year
  literal '-'
  let m ← field
  literal '-'
  let d ← field
  date y m d

/-- What stands between a date and a time. -/
inductive Separator where
  /-- The letter `T`. -/
  | letter
  /-- Any number of blanks. -/
  | gap
  deriving DecidableEq, Repr

/-- Takes a separator. -/
def separator : Separator → Reader Unit
  | .letter => literal 'T'
  | .gap => blanks

/-- A lenient date and time to the second, with an optional fraction. -/
def lenientSecond (between : Separator) : Reader Timestamp := do
  let date ← lenientDate
  separator between
  let hour ← field
  literal ':'
  let minute ← field
  literal ':'
  let second ← field
  let nano ← fraction
  StateT.lift (Timestamp.ofClock? date hour minute second nano)

/-- A lenient date and time to the minute. -/
def lenientMinute (between : Separator) : Reader Timestamp := do
  let date ← lenientDate
  separator between
  let hour ← field
  literal ':'
  let minute ← field
  StateT.lift (Timestamp.ofClock? date hour minute 0 0)

/-! ### Offsets -/

/-- Takes a sign, which may be the typographic minus; true for a minus. -/
def sign : Reader Bool := do
  let c ← satisfy fun c ↦ c == '+' || c == '-' || c == '−'
  return c != '+'

/-- A signed offset in minutes, if it is less than a day. -/
def offsetMinutes (negative : Bool) (hours minutes : Nat) : Reader Int :=
  if hours < 24 ∧ minutes < 60 then
    let size : Int := 60 * hours + minutes
    return if negative then -size else size
  else failure

/-- A strict offset: `Z`, or a sign and `hh:mm`. -/
def strictOffset : Reader Int := do
  match (← get).head? with
  | some 'Z' | some 'z' =>
    let _ ← satisfy fun _ ↦ true
    return 0
  | _ =>
    let negative ← sign
    let hours ← exactly 2
    literal ':'
    offsetMinutes negative hours (← exactly 2)

/-- A lenient offset: `Z`, or a sign and `hh`, with `mm` after any colons and blanks if anything
follows. -/
def lenientOffset : Reader Int := do
  blanks
  match (← get).head? with
  | some 'Z' | some 'z' =>
    let _ ← satisfy fun _ ↦ true
    return 0
  | _ =>
    let negative ← sign
    let hours ← exactly 2
    modify (·.dropWhile fun c ↦ c == ':' || Text.isBlank c)
    if (← get).isEmpty then offsetMinutes negative hours 0
    else offsetMinutes negative hours (← exactly 2)

/-- A timestamp followed by its offset, moved to UTC. -/
def toUtc (reader : Reader Timestamp) (offset : Reader Int) : Reader Timestamp := do
  let t ← reader
  let minutes ← offset
  StateT.lift (t.minusMinutes? minutes)

/-! ### The forms -/

/-- The strict form of a date and time, without its offset. -/
def strictSecond : Reader Timestamp := do
  let y ← exactly 4
  literal '-'
  let m ← exactly 2
  literal '-'
  let d ← exactly 2
  let day ← date y m d
  let _ ← satisfy fun c ↦ c == 'T' || c == 't' || c == ' '
  let hour ← exactly 2
  literal ':'
  let minute ← exactly 2
  literal ':'
  let second ← exactly 2
  let nano ← fraction
  StateT.lift (Timestamp.ofClock? day hour minute second nano)

/-- The value a reader finds when it takes the whole text. -/
def whole {α : Type} (reader : Reader α) (text : List Char) : Option α :=
  match reader text with
  | some (a, []) => some a
  | _ => none

/-- The forms of a timestamp, in the order in which they are tried. -/
def forms : List (Reader Timestamp) :=
  [toUtc strictSecond strictOffset,
   toUtc (lenientSecond .gap) lenientOffset,
   toUtc (lenientSecond .letter) lenientOffset,
   lenientSecond .letter,
   lenientSecond .gap,
   lenientMinute .letter,
   lenientMinute .gap,
   Timestamp.midnight <$> lenientDate]

end Reader

/-- Reads a bare date, with blanks around it. -/
def Date.parse? (text : String) : Option Date :=
  Reader.whole Reader.lenientDate (Text.trim text.toList)

/-- Reads a timestamp, with blanks around it, by the first form that takes the whole text. -/
def Timestamp.parse? (text : String) : Option Timestamp :=
  Reader.forms.findSome? (Reader.whole · (Text.trim text.toList))

end SemanticLayer.Calendar
