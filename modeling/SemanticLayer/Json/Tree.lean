import SemanticLayer.Json.Number
import SemanticLayer.Json.Quoted

/-!
# Documents as they are written

A `Tree` is a document after its grammar has been checked and before anything in it has been
understood: entries stay in the order of the text, repeated keys stay, and a number or string that
is well-formed but stands for no value is kept as a leaf without one.

The distinction matters because a reader of a record skips the fields it does not know. What is
skipped must be well-formed, but its numbers may be too large, its strings may hold a lone
surrogate and it may be nested to any depth. `Tree.isLegible` says that a tree holds none of these,
within a limit of nesting; it is asked of whole documents where a document is read before it is
known what it should be.
-/

namespace SemanticLayer.Json

/-- A well-formed document. -/
inductive Tree where
  /-- The literal `null`. -/
  | null
  /-- A truth value. -/
  | bool (value : Bool)
  /-- A number, if it is not too large. -/
  | number (value : Option Number)
  /-- A string, if it has no lone surrogate. -/
  | string (value : Option String)
  /-- A list. -/
  | array (items : List Tree)
  /-- Keys and values in the order of the text. -/
  | object (entries : List (Option String × Tree))

namespace Tree

/-! ### The grammar -/

/-- The blanks of a document. -/
def isSpace (c : Char) : Bool :=
  c == ' ' || c == '\t' || c == '\n' || c == '\r'

/-- Skips the blanks of a document. -/
def skipSpace (text : List Char) : List Char :=
  text.dropWhile isSpace

/-- Takes a string after its opening quote. -/
def takeString (text : List Char) : Option (Option String × List Char) :=
  (Quoted.takeUnits [] text).map fun (units, rest) ↦ (Quoted.ofUnits? units, rest)

mutual

/-- Takes a value from the front of a text that does not start with a blank. -/
def take : Nat → List Char → Option (Tree × List Char)
  | 0, _ => none
  | fuel + 1, text =>
    match text with
    | 'n' :: 'u' :: 'l' :: 'l' :: rest => some (null, rest)
    | 't' :: 'r' :: 'u' :: 'e' :: rest => some (bool true, rest)
    | 'f' :: 'a' :: 'l' :: 's' :: 'e' :: rest => some (bool false, rest)
    | '"' :: rest => (takeString rest).map fun (value, rest) ↦ (string value, rest)
    | '[' :: rest =>
      match skipSpace rest with
      | ']' :: rest => some (array [], rest)
      | rest => (takeItems fuel [] rest).map fun (items, rest) ↦ (array items, rest)
    | '\x7b' :: rest =>
      match skipSpace rest with
      | '\x7d' :: rest => some (object [], rest)
      | rest => (takeEntries fuel [] rest).map fun (entries, rest) ↦ (object entries, rest)
    | text => (Number.takeLiteral text).map fun (l, rest) ↦ (number (Number.ofLiteral? l), rest)

/-- Takes the items of a list up to its closing bracket, after those already `read`, in
reverse. -/
def takeItems : Nat → List Tree → List Char → Option (List Tree × List Char)
  | 0, _, _ => none
  | fuel + 1, read, text =>
    match take fuel (skipSpace text) with
    | none => none
    | some (item, rest) =>
      match skipSpace rest with
      | ',' :: rest => takeItems fuel (item :: read) rest
      | ']' :: rest => some ((item :: read).reverse, rest)
      | _ => none

/-- Takes the entries of an object up to its closing brace, after those already `read`, in
reverse. -/
def takeEntries : Nat → List (Option String × Tree) → List Char →
    Option (List (Option String × Tree) × List Char)
  | 0, _, _ => none
  | fuel + 1, read, text =>
    match skipSpace text with
    | '"' :: rest =>
      match takeString rest with
      | none => none
      | some (key, rest) =>
        match skipSpace rest with
        | ':' :: rest =>
          match take fuel (skipSpace rest) with
          | none => none
          | some (value, rest) =>
            match skipSpace rest with
            | ',' :: rest => takeEntries fuel ((key, value) :: read) rest
            | '\x7d' :: rest => some (((key, value) :: read).reverse, rest)
            | _ => none
        | _ => none
    | _ => none

end

/-- The value at the front of a text, after blanks, and what follows it. Every step of the grammar
takes a character or descends into a value that does, so twice the length bounds the steps. -/
def front? (text : List Char) : Option (Tree × List Char) :=
  take (2 * text.length + 2) (skipSpace text)

/-- The document that a text is. -/
def parse? (text : String) : Option Tree :=
  match front? text.toList with
  | some (tree, rest) => if (skipSpace rest).isEmpty then some tree else none
  | none => none

/-! ### Legible documents -/

/-- The number of nested lists and objects that a document may open. -/
def depthLimit : Nat := 127

mutual

/-- Whether every leaf has a value and lists and objects nest at most `depth` deep. -/
def isLegible : Nat → Tree → Bool
  | _, null => true
  | _, bool _ => true
  | _, number value => value.isSome
  | _, string value => value.isSome
  | 0, array _ => false
  | 0, object _ => false
  | depth + 1, array items => areLegible depth items
  | depth + 1, object entries => areEntriesLegible depth entries

/-- Whether all items of a list are legible. -/
def areLegible : Nat → List Tree → Bool
  | _, [] => true
  | depth, item :: items => isLegible depth item && areLegible depth items

/-- Whether all keys and values of an object are legible. -/
def areEntriesLegible : Nat → List (Option String × Tree) → Bool
  | _, [] => true
  | depth, (key, value) :: entries =>
    key.isSome && isLegible depth value && areEntriesLegible depth entries

end

end Tree

end SemanticLayer.Json
