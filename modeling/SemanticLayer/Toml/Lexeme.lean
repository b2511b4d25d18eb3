/-!
# Lexemes of TOML

Characters, blanks, strings and keys of TOML 1.1. Every reader takes characters from the front of a
text and returns what is left.

A text may not hold control characters other than the tab, nor the character 0x7F, except for line
ends, which are a line feed with or without a carriage return before it.
-/

namespace SemanticLayer.Toml

/-! ### Characters and blanks -/

/-- The blanks within a line. -/
def isSpace (c : Char) : Bool :=
  c == ' ' || c == '\t'

/-- The characters that may stand in comments and literal strings. -/
def isPrintable (c : Char) : Bool :=
  c == '\t' || (0x20 ≤ c.toNat && c.toNat != 0x7F)

/-- The characters of a key without quotes. -/
def isBareKeyChar (c : Char) : Bool :=
  c.isAlphanum || c == '_' || c == '-'

/-- Skips blanks within a line. -/
def skipSpace (text : List Char) : List Char :=
  text.dropWhile isSpace

/-- Takes a line end. -/
def takeLineEnd? : List Char → Option (List Char)
  | '\n' :: rest => some rest
  | '\r' :: '\n' :: rest => some rest
  | _ => none

/-- Skips a comment, if one follows, up to its line end. -/
def skipComment : List Char → List Char
  | '#' :: rest => rest.dropWhile isPrintable
  | text => text

/-- Skips blanks, line ends and comments; `inComment` tells whether a comment has begun. -/
def skipTrivia (inComment : Bool) : List Char → List Char
  | [] => []
  | c :: rest =>
    let endsLine := c == '\n' || (c == '\r' && rest.head? == some '\n')
    if endsLine then skipTrivia false rest
    else if inComment then
      if isPrintable c then skipTrivia true rest else c :: rest
    else if isSpace c then skipTrivia false rest
    else if c == '#' then skipTrivia true rest
    else c :: rest

/-! ### Escapes -/

/-- The value of hexadecimal digits. -/
def hexValue? (digits : List Char) : Option Nat :=
  digits.foldlM
    (fun value c ↦
      if '0' ≤ c ∧ c ≤ '9' then some (16 * value + (c.toNat - '0'.toNat))
      else if 'a' ≤ c ∧ c ≤ 'f' then some (16 * value + (c.toNat - 'a'.toNat + 10))
      else if 'A' ≤ c ∧ c ≤ 'F' then some (16 * value + (c.toNat - 'A'.toNat + 10))
      else none) 0

/-- Takes the character named by a number of hexadecimal digits. -/
def takeCodePoint (count : Nat) (text : List Char) : Option (Char × List Char) := do
  let digits := text.take count
  if digits.length = count then
    let value ← hexValue? digits
    if value.isValidChar then return (Char.ofNat value, text.drop count) else none
  else none

/-- Takes an escaped character, after the backslash. -/
def takeEscape : List Char → Option (Char × List Char)
  | 'b' :: rest => some ('\x08', rest)
  | 't' :: rest => some ('\t', rest)
  | 'n' :: rest => some ('\n', rest)
  | 'f' :: rest => some ('\x0c', rest)
  | 'r' :: rest => some ('\r', rest)
  | 'e' :: rest => some ('\x1b', rest)
  | '"' :: rest => some ('"', rest)
  | '\\' :: rest => some ('\\', rest)
  | 'x' :: rest => takeCodePoint 2 rest
  | 'u' :: rest => takeCodePoint 4 rest
  | 'U' :: rest => takeCodePoint 8 rest
  | _ => none

/-! ### Strings -/

/-- Takes the rest of a basic string on one line, after the characters already `read`, in
reverse. -/
def takeBasic : Nat → List Char → List Char → Option (String × List Char)
  | 0, _, _ => none
  | fuel + 1, read, text =>
    match text with
    | '"' :: rest => some (String.ofList read.reverse, rest)
    | '\\' :: rest => (takeEscape rest).bind fun (c, rest) ↦ takeBasic fuel (c :: read) rest
    | c :: rest => if isPrintable c then takeBasic fuel (c :: read) rest else none
    | [] => none

/-- Takes the rest of a literal string on one line. -/
def takeLiteral (text : List Char) : Option (String × List Char) :=
  match text.dropWhile fun c ↦ c != '\'' && isPrintable c with
  | '\'' :: rest =>
    some (String.ofList (text.takeWhile fun c ↦ c != '\'' && isPrintable c), rest)
  | _ => none

/-- The quotes that follow the closing ones of a multi-line string and belong to its content, of
which there are at most two. -/
def trailingQuotes (quote : Char) (text : List Char) : List Char :=
  (text.take 2).takeWhile (· == quote)

/-- Whether a backslash before this text ends its line: only blanks stand before the line end. -/
def continuesLine (text : List Char) : Bool :=
  (takeLineEnd? (skipSpace text)).isSome

/-- Skips blanks and line ends. -/
def skipLines : List Char → List Char
  | [] => []
  | c :: rest =>
    if isSpace c || c == '\n' || (c == '\r' && rest.head? == some '\n') then skipLines rest
    else c :: rest

/-- Takes the rest of a basic string over several lines. -/
def takeMultiBasic : Nat → List Char → List Char → Option (String × List Char)
  | 0, _, _ => none
  | fuel + 1, read, text =>
    match text with
    | '"' :: '"' :: '"' :: rest =>
      let quotes := trailingQuotes '"' rest
      some (String.ofList (read.reverse ++ quotes), rest.drop quotes.length)
    | '\\' :: rest =>
      if continuesLine rest then takeMultiBasic fuel read (skipLines rest)
      else (takeEscape rest).bind fun (c, rest) ↦ takeMultiBasic fuel (c :: read) rest
    | '\r' :: '\n' :: rest => takeMultiBasic fuel ('\n' :: '\r' :: read) rest
    | c :: rest =>
      if isPrintable c || c == '\n' then takeMultiBasic fuel (c :: read) rest else none
    | [] => none

/-- Takes the rest of a literal string over several lines. -/
def takeMultiLiteral : Nat → List Char → List Char → Option (String × List Char)
  | 0, _, _ => none
  | fuel + 1, read, text =>
    match text with
    | '\'' :: '\'' :: '\'' :: rest =>
      let quotes := trailingQuotes '\'' rest
      some (String.ofList (read.reverse ++ quotes), rest.drop quotes.length)
    | '\r' :: '\n' :: rest => takeMultiLiteral fuel ('\n' :: '\r' :: read) rest
    | c :: rest =>
      if isPrintable c || c == '\n' then takeMultiLiteral fuel (c :: read) rest else none
    | [] => none

/-- Skips the line end that may follow the opening quotes of a multi-line string. -/
def skipLineEnd (text : List Char) : List Char :=
  (takeLineEnd? text).getD text

/-- Takes a string of any kind. -/
def takeString (text : List Char) : Option (String × List Char) :=
  let fuel := text.length
  match text with
  | '"' :: '"' :: '"' :: rest => takeMultiBasic fuel [] (skipLineEnd rest)
  | '\'' :: '\'' :: '\'' :: rest => takeMultiLiteral fuel [] (skipLineEnd rest)
  | '"' :: rest => takeBasic fuel [] rest
  | '\'' :: rest => takeLiteral rest
  | _ => none

/-! ### Keys -/

/-- Takes a key without points: bare, or a string on one line. -/
def takeSimpleKey (text : List Char) : Option (String × List Char) :=
  match text with
  | '"' :: rest => takeBasic text.length [] rest
  | '\'' :: rest => takeLiteral rest
  | text =>
    let run := text.takeWhile isBareKeyChar
    if run.isEmpty then none else some (String.ofList run, text.dropWhile isBareKeyChar)

/-- Takes the further parts of a key, after points. -/
def takeKeyTail : Nat → List Char → Option (List String × List Char)
  | 0, _ => none
  | fuel + 1, text =>
    match skipSpace text with
    | '.' :: rest => do
      let (part, rest) ← takeSimpleKey (skipSpace rest)
      let (parts, rest) ← takeKeyTail fuel rest
      return (part :: parts, rest)
    | rest => some ([], rest)

/-- Takes a key of one or more parts, and the blanks after it. -/
def takeKey (text : List Char) : Option (List String × List Char) := do
  let (part, rest) ← takeSimpleKey text
  let (parts, rest) ← takeKeyTail text.length rest
  return (part :: parts, rest)

end SemanticLayer.Toml
