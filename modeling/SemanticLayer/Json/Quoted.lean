/-!
# Strings in documents

A string is written between quotes. Quotes, backslashes and control characters are escaped; every
other character stands for itself. When a string is read, an escape may also name a 16-bit unit,
and characters outside the basic plane are then two units, a high surrogate and a low one.

Reading has two steps. `takeUnits` finds where a string ends and what its parts are; it fails only
where the text is not a string at all. `ofUnits?` then joins surrogates, and finds no string if one
of them stands alone. A part of a document that is not looked at needs only the first step.
-/

namespace SemanticLayer.Json.Quoted

/-! ### Writing -/

/-- The small hexadecimal digit of a number below sixteen. -/
def hexDigit (n : Nat) : Char :=
  Nat.digitChar n

/-- A character as it stands between the quotes. -/
def escapeChar (c : Char) : List Char :=
  if c = '"' then ['\\', '"']
  else if c = '\\' then ['\\', '\\']
  else if c = '\n' then ['\\', 'n']
  else if c = '\r' then ['\\', 'r']
  else if c = '\t' then ['\\', 't']
  else if c = '\x08' then ['\\', 'b']
  else if c = '\x0c' then ['\\', 'f']
  else if c.toNat < 0x20 then
    ['\\', 'u', '0', '0', hexDigit (c.toNat / 16), hexDigit (c.toNat % 16)]
  else [c]

/-- A string in quotes. -/
def quote (text : String) : String :=
  String.ofList ('"' :: (text.toList.flatMap escapeChar ++ ['"']))

/-! ### Reading -/

/-- A part of a written string: a character, or a 16-bit unit named by an escape. -/
inductive StringUnit where
  /-- A character that stands for itself or has a short escape. -/
  | char (c : Char)
  /-- A unit named by four hexadecimal digits. -/
  | code (unit : Nat)
  deriving DecidableEq, Repr

/-- The value of a hexadecimal digit. -/
def hexValue? (c : Char) : Option Nat :=
  if '0' ≤ c ∧ c ≤ '9' then some (c.toNat - '0'.toNat)
  else if 'a' ≤ c ∧ c ≤ 'f' then some (c.toNat - 'a'.toNat + 10)
  else if 'A' ≤ c ∧ c ≤ 'F' then some (c.toNat - 'A'.toNat + 10)
  else none

/-- The unit named by four hexadecimal digits. -/
def unit? (a b c d : Char) : Option Nat := do
  return 4096 * (← hexValue? a) + 256 * (← hexValue? b) + 16 * (← hexValue? c) + (← hexValue? d)

/-- The character of a short escape. -/
def shortEscape? : Char → Option Char
  | '"' => some '"'
  | '\\' => some '\\'
  | '/' => some '/'
  | 'b' => some '\x08'
  | 'f' => some '\x0c'
  | 'n' => some '\n'
  | 'r' => some '\r'
  | 't' => some '\t'
  | _ => none

/-- Takes the parts of a string up to its closing quote, after those already `read`, in reverse. -/
def takeUnits (read : List StringUnit) : List Char → Option (List StringUnit × List Char)
  | '"' :: rest => some (read.reverse, rest)
  | '\\' :: 'u' :: a :: b :: c :: d :: rest =>
    match unit? a b c d with
    | some unit => takeUnits (.code unit :: read) rest
    | none => none
  | '\\' :: c :: rest =>
    match shortEscape? c with
    | some c => takeUnits (.char c :: read) rest
    | none => none
  | c :: rest => if c.toNat < 0x20 then none else takeUnits (.char c :: read) rest
  | [] => none

/-- Whether a unit is the first of a pair of surrogates. -/
def isHigh (unit : Nat) : Bool :=
  0xD800 ≤ unit && unit < 0xDC00

/-- Whether a unit is the second of a pair of surrogates. -/
def isLow (unit : Nat) : Bool :=
  0xDC00 ≤ unit && unit < 0xE000

/-- The characters that the parts stand for; none if a surrogate stands alone. -/
def charsOfUnits? : List StringUnit → Option (List Char)
  | [] => some []
  | .char c :: rest => (charsOfUnits? rest).map (c :: ·)
  | .code high :: .code low :: rest =>
    if isHigh high then
      if isLow low then
        (charsOfUnits? rest).map
          (Char.ofNat (0x10000 + 0x400 * (high - 0xD800) + (low - 0xDC00)) :: ·)
      else none
    else if isLow high then none
    else (charsOfUnits? (.code low :: rest)).map (Char.ofNat high :: ·)
  | .code unit :: rest =>
    if isHigh unit || isLow unit then none
    else (charsOfUnits? rest).map (Char.ofNat unit :: ·)

/-- The string that the parts stand for. -/
def ofUnits? (units : List StringUnit) : Option String :=
  (charsOfUnits? units).map String.ofList

end SemanticLayer.Json.Quoted
