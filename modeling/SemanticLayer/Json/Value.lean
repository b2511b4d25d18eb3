import SemanticLayer.Json.Number
import SemanticLayer.Json.Quoted

/-!
# Documents as values

A `Value` is a document to be written: every leaf has a value, and the entries of an object stand
in the order in which they are written. There are two written forms, on one line without blanks and
indented by two blanks a level.
-/

namespace SemanticLayer.Json

/-- A document. -/
inductive Value where
  /-- The literal `null`. -/
  | null
  /-- A truth value. -/
  | bool (value : Bool)
  /-- A number. -/
  | number (value : Number)
  /-- A string. -/
  | string (value : String)
  /-- A list. -/
  | array (items : List Value)
  /-- Keys and values in written order. -/
  | object (entries : List (String × Value))

namespace Value

/-- A list of strings. -/
def strings (items : List String) : Value :=
  array (items.map string)

/-- An entry that is left out when it has no value. -/
def entry? {α : Type} (key : String) (encode : α → Value) (value : Option α) :
    List (String × Value) :=
  (value.map fun a ↦ (key, encode a)).toList

/-! ### One line -/

/-- The opening brace of an object. -/
def openBrace : String := "\x7b"

/-- The closing brace of an object. -/
def closeBrace : String := "\x7d"

mutual

/-- The document on one line. -/
def render : Value → String
  | null => "null"
  | bool value => if value then "true" else "false"
  | number value => value.render
  | string value => Quoted.quote value
  | array items => "[" ++ renderItems items ++ "]"
  | object entries => openBrace ++ renderEntries entries ++ closeBrace

/-- Items with commas between them. -/
def renderItems : List Value → String
  | [] => ""
  | [item] => render item
  | item :: items => render item ++ "," ++ renderItems items

/-- Entries with commas between them. -/
def renderEntries : List (String × Value) → String
  | [] => ""
  | [(key, value)] => Quoted.quote key ++ ":" ++ render value
  | (key, value) :: entries =>
    Quoted.quote key ++ ":" ++ render value ++ "," ++ renderEntries entries

end

/-! ### Indented -/

/-- A line break and the blanks of a level. -/
def newLine (level : Nat) : String :=
  String.ofList ('\n' :: List.replicate (2 * level) ' ')

mutual

/-- The document with one item or entry a line, from the given level on. An empty list or object
stays on its line. -/
def renderIndented : Nat → Value → String
  | _, null => "null"
  | _, bool value => if value then "true" else "false"
  | _, number value => value.render
  | _, string value => Quoted.quote value
  | _, array [] => "[]"
  | level, array (item :: items) =>
    "[" ++ indentItems (level + 1) (item :: items) ++ newLine level ++ "]"
  | _, object [] => openBrace ++ closeBrace
  | level, object (entry :: entries) =>
    openBrace ++ indentEntries (level + 1) (entry :: entries) ++ newLine level ++ closeBrace

/-- Items, each on a line of its own. -/
def indentItems : Nat → List Value → String
  | _, [] => ""
  | level, [item] => newLine level ++ renderIndented level item
  | level, item :: items =>
    newLine level ++ renderIndented level item ++ "," ++ indentItems level items

/-- Entries, each on a line of its own. -/
def indentEntries : Nat → List (String × Value) → String
  | _, [] => ""
  | level, [(key, value)] => newLine level ++ Quoted.quote key ++ ": " ++ renderIndented level value
  | level, (key, value) :: entries =>
    newLine level ++ Quoted.quote key ++ ": " ++ renderIndented level value ++ "," ++
      indentEntries level entries

end

/-- The document indented by two blanks a level. -/
def renderPretty (value : Value) : String :=
  renderIndented 0 value

end Value

end SemanticLayer.Json
