import SemanticLayer.Sql.Dialect
import SemanticLayer.Text.DecimalDigit

/-!
# Parameters

Values never stand in SQL text. While a statement is put together, each value is allocated and a
marker stands in its place: its index between two dollar signs. Once the statement is complete,
`resolve` replaces the markers, in the order in which they occur, by the placeholders of a dialect
and lists the values in the same order. A marker that occurs twice takes its value twice, and a
value whose marker does not occur is left out.

`pieces` reads a statement as ordinary characters and markers. Markers are found from the left and
do not overlap. Their digits may be of any script, but only ASCII digits name an index. Indices are
words: an error shows every larger number, and every other script, as the largest word. A look-up
finds nothing at such an index, since no list of parameters is that long.
-/

namespace SemanticLayer.Sql

/-! ### Allocation -/

/-- The values of the parameters of a statement, in order of allocation. -/
abbrev Parameters := List String

/-- The marker of the parameter at an index. -/
def marker (index : Nat) : String :=
  "$" ++ index.repr ++ "$"

/-- Adds a value, and gives its marker. -/
def Parameters.allocate (parameters : Parameters) (value : String) : String × Parameters :=
  (marker parameters.length, parameters ++ [value])

/-! ### Statements as pieces -/

/-- A part of a statement. -/
inductive Piece where
  /-- A character that belongs to no marker. -/
  | char (c : Char)
  /-- A marker, by its digits. -/
  | marker (digits : List Char)
  deriving DecidableEq, Repr

/-- The digits of a marker whose first dollar sign has been taken, and what follows the second. -/
def markerTail? (text : List Char) : Option (List Char × List Char) :=
  let digits := text.takeWhile Text.isDecimalDigit
  match digits, text.dropWhile Text.isDecimalDigit with
  | _ :: _, '$' :: rest => some (digits, rest)
  | _, _ => none

theorem length_of_markerTail? {text digits rest : List Char}
    (h : markerTail? text = some (digits, rest)) :
    text.length = digits.length + 1 + rest.length := by
  have split := congrArg List.length
    (List.takeWhile_append_dropWhile (p := Text.isDecimalDigit) (l := text))
  rw [List.length_append] at split
  unfold markerTail? at h
  simp only at h
  split at h
  · next found =>
    injection h with h
    injection h with hd hr
    subst hr
    rw [← split, ← hd, found, List.length_cons]
    omega
  · cases h

/-- The pieces of a statement, from the left. -/
def pieces : List Char → List Piece
  | [] => []
  | c :: text =>
    if c = '$' then
      match _h : markerTail? text with
      | some (digits, rest) => .marker digits :: pieces rest
      | none => .char c :: pieces text
    else .char c :: pieces text
termination_by text => text.length
decreasing_by
  · have := length_of_markerTail? _h
    simp only [List.length_cons]
    omega
  · simp
  · simp

/-- The largest index, `2 ^ 64 - 1`. -/
def maxIndex : Nat := 18446744073709551615

/-- The index that the digits of a marker name, if they are ASCII digits. -/
def markerIndex? (digits : List Char) : Option Nat :=
  if digits.all Char.isDigit then some (Nat.ofDigitChars 10 digits 0) else none

/-- The index that an error shows for the digits of a marker. -/
def shownIndex (digits : List Char) : Nat :=
  min ((markerIndex? digits).getD maxIndex) maxIndex

/-- The value that the digits of a marker stand for. -/
def Parameters.value? (parameters : Parameters) (digits : List Char) : Option String :=
  (markerIndex? digits).bind (parameters[·]?)

/-! ### Resolution -/

/-- A complete statement. -/
structure Statement where
  /-- The text, with placeholders. -/
  sql : String
  /-- The values of the placeholders, in order. -/
  parameters : List String
  deriving DecidableEq, Repr

/-- The text and the values of pieces, of which the first marker takes the placeholder at
`position`. -/
def resolvePieces (dialect : Dialect) (parameters : Parameters) (position : Nat) :
    List Piece → Except SqlError (List Char × List String)
  | [] => .ok ([], [])
  | .char c :: rest => do
    let (text, values) ← resolvePieces dialect parameters position rest
    return (c :: text, values)
  | .marker digits :: rest =>
    match parameters.value? digits with
    | none => .error (.unknownParameter (shownIndex digits))
    | some value => do
      let (text, values) ← resolvePieces dialect parameters (position + 1) rest
      return ((dialect.placeholder position).toList ++ text, value :: values)

/-- The complete statement of a text with markers. -/
def Parameters.resolve (parameters : Parameters) (dialect : Dialect) (text : String) :
    Except SqlError Statement := do
  let (sql, values) ← resolvePieces dialect parameters 1 (pieces text.toList)
  return ⟨String.ofList sql, values⟩

end SemanticLayer.Sql
