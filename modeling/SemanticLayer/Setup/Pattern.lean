import SemanticLayer.Json.Quoted
import SemanticLayer.Text.Alphanumeric
import SemanticLayer.Text.Blank
import SemanticLayer.Text.DecimalDigit

/-!
# Patterns

The value of a field in a log filter may be a pattern: a regular expression of alternatives, groups,
repetitions, classes of characters and escapes. Only its form matters here, that is, which texts are
patterns at all (`isPattern`).

A value stands in braces and ends at the first closing one. Whatever a closing brace would complete
is therefore never complete: the count of a repetition, and the number or the name that an escape
may have in braces. So an opening brace is refused unless it is escaped itself or stands in a class,
and of the properties of characters only those named by one letter remain.

Flags hold to the end of the group that they stand in. Two of them decide what is a pattern. Where
`u` is on, characters are those of all scripts, and there are no boundaries of words; where it is
off, there are, but nothing that might take a part of a character: no point, no negated class, and
no class that goes beyond ASCII. Where `x` is on, blanks and comments are skipped.

How deep groups may be nested is not limited here.
-/

namespace SemanticLayer.Setup.Pattern

open Text (isBlank isAlphanumeric isDecimalDigit)

/-! ### Flags -/

/-- How a part of a pattern is read. -/
structure Mode where
  /-- Whether characters are those of all scripts. -/
  unicode : Bool
  /-- Whether blanks are skipped, and comments, from a hash sign to the end of the line. -/
  verbose : Bool

namespace Mode

/-- Skips some characters and, where they are skipped, blanks and comments; `inComment` tells
whether a comment has begun. -/
def skipAnd (mode : Mode) (also : Char → Bool) (inComment : Bool) : List Char → List Char
  | [] => []
  | c :: rest =>
    if inComment then mode.skipAnd also (c != '\n') rest
    else if also c || (mode.verbose && isBlank c) then mode.skipAnd also false rest
    else if mode.verbose && c == '#' then mode.skipAnd also true rest
    else c :: rest

/-- Skips blanks and comments where they are skipped. -/
def skip (mode : Mode) (text : List Char) : List Char :=
  mode.skipAnd (fun _ ↦ false) false text

/-- Sets flags. Those behind a hyphen are switched off. -/
def set (mode : Mode) (flags : List Char) : Mode :=
  let on := flags.takeWhile (· != '-')
  let off := flags.dropWhile (· != '-')
  ⟨(mode.unicode || on.contains 'u') && !off.contains 'u',
    (mode.verbose || on.contains 'x') && !off.contains 'x'⟩

end Mode

/-- Whether characters are flags: every flag at most once, and perhaps a hyphen in front of some. -/
def areFlags (flags : List Char) : Bool :=
  flags.all ['i', 'm', 's', 'U', 'u', 'R', 'x', '-'].contains && decide flags.Nodup &&
    flags.getLast? != some '-'

/-! ### Escapes -/

/-- The parts of a pattern that stand at one place. -/
inductive Atom where
  /-- A character. -/
  | char (c : Char)
  /-- A kind of characters. -/
  | kind
  /-- A condition on the place. -/
  | place

/-- Takes the number written by so many hexadecimal digits, after the number read so far. -/
def takeHex? (mode : Mode) : Nat → Nat → List Char → Option (Nat × List Char)
  | 0, read, text => some (read, text)
  | count + 1, read, text =>
    match mode.skip text with
    | c :: rest => do takeHex? mode count (16 * read + (← Json.Quoted.hexValue? c)) rest
    | [] => none

/-- Takes a character named by so many hexadecimal digits. Two digits name a byte where characters
are not those of all scripts. -/
def takeCodePoint? (mode : Mode) (count : Nat) (text : List Char) :
    Option (Atom × List Char) := do
  let (value, rest) ← takeHex? mode count 0 text
  if value.isValidChar && (mode.unicode || count != 2 || value < 128) then
    return (.char (Char.ofNat value), rest)
  else none

/-- Takes an escape, after the backslash. -/
def takeEscape? (mode : Mode) : List Char → Option (Atom × List Char)
  | [] => none
  | c :: rest =>
    match c with
    | 'x' => takeCodePoint? mode 2 rest
    | 'u' => takeCodePoint? mode 4 rest
    | 'U' => takeCodePoint? mode 8 rest
    | 'p' | 'P' =>
      match mode.skip rest with
      | name :: rest =>
        if mode.unicode && ['C', 'L', 'M', 'N', 'P', 'S', 'Z'].contains name.toUpper then
          some (.kind, rest)
        else none
      | [] => none
    | 'd' | 's' | 'w' => some (.kind, rest)
    | 'D' | 'S' | 'W' => if mode.unicode then some (.kind, rest) else none
    | 'A' | 'z' => some (.place, rest)
    | 'b' | 'B' | '<' | '>' => if mode.unicode then none else some (.place, rest)
    | 'a' => some (.char '\x07', rest)
    | 'f' => some (.char '\x0c', rest)
    | 't' => some (.char '\t', rest)
    | 'n' => some (.char '\n', rest)
    | 'r' => some (.char '\r', rest)
    | 'v' => some (.char '\x0b', rest)
    | c => if c.toNat < 128 && !c.isAlphanum then some (.char c, rest) else none

/-! ### Classes -/

/-- Skips what may open a class, after its bracket: a negation, and hyphens or else a closing
bracket, which stand for themselves. -/
def openClass? (mode : Mode) (text : List Char) : Option (List Char) :=
  match mode.skip text with
  | '^' :: rest => if mode.unicode then some (front (mode.skip rest)) else none
  | rest => some (front rest)
where
  /-- The text behind hyphens or a closing bracket. -/
  front : List Char → List Char
    | ']' :: rest => rest
    | text => mode.skipAnd (· == '-') false text

/-- Takes a kind of characters by its name between colons and brackets, after the first bracket, and
tells whether it is negated. -/
def takeNamedClass? : List Char → Option (Bool × List Char)
  | ':' :: rest =>
    let negated := rest.head? == some '^'
    let rest := if negated then rest.drop 1 else rest
    match rest.dropWhile (· != ':') with
    | ':' :: ']' :: after =>
      if ["alnum", "alpha", "ascii", "blank", "cntrl", "digit", "graph", "lower", "print", "punct",
          "space", "upper", "word", "xdigit"].contains
            (String.ofList (rest.takeWhile (· != ':'))) then
        some (negated, after)
      else none
    | _ => none
  | _ => none

/-- Takes a character or an escape of a class. -/
def takeMember? (mode : Mode) : List Char → Option (Atom × List Char)
  | [] => none
  | '\\' :: rest => takeEscape? mode rest
  | c :: rest => some (.char c, rest)

/-- Whether an atom may stand in a class. -/
def isMember (mode : Mode) : Atom → Bool
  | .char c => mode.unicode || c.toNat < 128
  | .kind => true
  | .place => false

/-- Takes a member of a class, or a range of characters, of which the last is not before the
first. -/
def takeRange? (mode : Mode) (text : List Char) : Option (List Char) := do
  let (first, rest) ← takeMember? mode text
  let alone := if isMember mode first then some rest else none
  match mode.skip rest with
  | '-' :: after =>
    match mode.skip after with
    -- the hyphen is a member itself, or a part of an operator
    | ']' :: _ | '-' :: _ => alone
    | after =>
      let (last, rest) ← takeMember? mode after
      match first, last with
      | .char a, .char b =>
        if a ≤ b && isMember mode first && isMember mode last then return rest else none
      | _, _ => none
  | _ => alone

/-- Takes the rest of a class that stands in so many others. -/
def takeClass? (mode : Mode) : Nat → Nat → List Char → Option (List Char)
  | 0, _, _ => none
  | fuel + 1, depth, text =>
    match mode.skip text with
    | [] => none
    | ']' :: rest =>
      match depth with
      | 0 => some rest
      | depth + 1 => takeClass? mode fuel depth rest
    | '[' :: rest =>
      match takeNamedClass? rest with
      | some (negated, rest) =>
        if negated && !mode.unicode then none else takeClass? mode fuel depth rest
      | none => do takeClass? mode fuel (depth + 1) (← openClass? mode rest)
    | '&' :: '&' :: rest | '-' :: '-' :: rest | '~' :: '~' :: rest =>
      takeClass? mode fuel depth rest
    | text => do takeClass? mode fuel depth (← takeRange? mode text)

/-! ### Groups -/

/-- What a parenthesis opens. -/
inductive Opening where
  /-- A group, perhaps with a name. -/
  | group (mode : Mode) (name : Option (List Char))
  /-- Flags for the rest of the group around them. -/
  | flags (mode : Mode)

/-- Whether characters are the name of a group. -/
def isName : List Char → Bool
  | [] => false
  | c :: rest =>
    (c == '_' || (isAlphanumeric c && !isDecimalDigit c)) &&
      rest.all fun c ↦ isAlphanumeric c || ['_', '.', '[', ']'].contains c

/-- Takes the name of a group, after its angle bracket. -/
def takeName? (mode : Mode) (text : List Char) : Option (Opening × List Char) :=
  let name := text.takeWhile (· != '>')
  match text.dropWhile (· != '>') with
  | _ :: rest => if isName name then some (.group mode (some name), rest) else none
  | [] => none

/-- Takes what a parenthesis opens, after the parenthesis. -/
def takeOpening? (mode : Mode) (text : List Char) : Option (Opening × List Char) :=
  match mode.skip text with
  | '?' :: 'P' :: '<' :: rest | '?' :: '<' :: rest => takeName? mode rest
  | '?' :: rest =>
    let flags := rest.takeWhile fun c ↦ c != ':' && c != ')'
    match rest.dropWhile fun c ↦ c != ':' && c != ')' with
    | ':' :: rest =>
      if areFlags flags then some (.group (mode.set flags) none, rest) else none
    | _ :: rest =>
      if areFlags flags && !flags.isEmpty then some (.flags (mode.set flags), rest) else none
    | [] => none
  | rest => some (.group mode none, rest)

/-! ### Patterns -/

/-- How far a pattern has been read. -/
structure Reading where
  /-- How the rest of the group is read. -/
  mode : Mode
  /-- How the groups around it are read, from the inside. -/
  outer : List Mode
  /-- The names of groups. -/
  names : List (List Char)
  /-- Whether the last part may be repeated. -/
  isRepeatable : Bool

namespace Reading

/-- The beginning. -/
def start : Reading :=
  ⟨⟨true, false⟩, [], [], false⟩

/-- Takes the part that starts with a character. -/
def step? (reading : Reading) (c : Char) (rest : List Char) : Option (Reading × List Char) :=
  let mode := reading.mode
  let behindPart := { reading with isRepeatable := true }
  match c with
  | '(' =>
    match takeOpening? mode rest with
    | some (.group inner name, rest) =>
      if name.any reading.names.contains then none
      else some (⟨inner, mode :: reading.outer, name.toList ++ reading.names, false⟩, rest)
    | some (.flags mode, rest) => some ({ reading with mode := mode, isRepeatable := false }, rest)
    | none => none
  | ')' =>
    match reading.outer with
    | around :: outer => some ({ behindPart with mode := around, outer := outer }, rest)
    | [] => none
  | '|' => some ({ reading with isRepeatable := false }, rest)
  | '?' | '*' | '+' => if reading.isRepeatable then some (reading, rest) else none
  | '[' => do
    return (behindPart, ← takeClass? mode (rest.length + 1) 0 (← openClass? mode rest))
  | '\x7b' => none
  | '.' => if mode.unicode then some (behindPart, rest) else none
  | '\\' => (takeEscape? mode rest).map fun (_, rest) ↦ (behindPart, rest)
  | _ => some (behindPart, rest)

/-- Whether the rest of a text completes what has been read. -/
def isCompletedBy : Nat → Reading → List Char → Bool
  | 0, _, _ => false
  | fuel + 1, reading, text =>
    match reading.mode.skip text with
    | [] => reading.outer.isEmpty
    | c :: rest =>
      match reading.step? c rest with
      | some (reading, rest) => isCompletedBy fuel reading rest
      | none => false

end Reading

/-- Whether a text is a pattern. -/
def isPattern (text : List Char) : Bool :=
  Reading.start.isCompletedBy (text.length + 1) text

end SemanticLayer.Setup.Pattern
