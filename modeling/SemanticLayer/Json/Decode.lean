import SemanticLayer.Json.Tree
import SemanticLayer.Json.Value

/-!
# Reading values out of documents

A decoder turns a tree into a value of some type, or finds that the tree is none. It is told how
many levels of lists and objects may still be opened; opening one uses up a level.

## Records

A record is written as an object, or as a list of its fields in their order. As an object, it must
not repeat a known field, and fields it does not know are skipped. As a list, it may stop early but
must not go on too long. Both give the same thing, the list of the fields that are present, from
which each field is then taken as required, defaulted or optional. An optional field may also be
`null`; a defaulted one may only be absent.
-/

namespace SemanticLayer.Json

/-- A reader of trees, given the number of levels that may still be opened. -/
abbrev Decoder (α : Type) := Nat → Tree → Option α

namespace Decoder

/-! ### Leaves and lists -/

/-- A string. -/
def string : Decoder String
  | _, .string value => value
  | _, _ => none

/-- A truth value. -/
def bool : Decoder Bool
  | _, .bool value => some value
  | _, _ => none

/-- A whole number from zero to the largest of 64 bits. -/
def unsigned : Decoder UInt64
  | _, .number (some value) => value.toUInt64?
  | _, _ => none

/-- A list of items of one kind. -/
def list {α : Type} (item : Decoder α) : Decoder (List α)
  | depth + 1, .array items => items.mapM (item depth)
  | _, _ => none

/-- The keys and values of an object, in the order of the text. -/
def entries {α : Type} (value : Decoder α) : Decoder (List (String × α))
  | depth + 1, .object entries => entries.mapM fun (key, tree) ↦ do
      return (← key, ← value depth tree)
  | _, _ => none

/-- A name: a string, or an object whose only entry has that key and the value `null`. -/
def name : Decoder String
  | _, .string value => value
  | _ + 1, .object [(key, .null)] => key
  | _, _ => none

/-- A value of a type whose members are known by name. -/
def named {α : Type} (ofName? : String → Option α) : Decoder α :=
  fun depth tree ↦ (name depth tree).bind ofName?

/-- Reads a tree only if all of it is legible. -/
def legible {α : Type} (decoder : Decoder α) : Decoder α :=
  fun depth tree ↦ if tree.isLegible depth then decoder depth tree else none

/-! ### Records -/

/-- The entries with known names, if all names are legible and no known one is repeated. -/
def knownFields (names : List String) : List (Option String × Tree) →
    Option (List (String × Tree))
  | [] => some []
  | (none, _) :: _ => none
  | (some key, value) :: entries => do
    let rest ← knownFields names entries
    if names.contains key then
      if (rest.lookup key).isSome then none else some ((key, value) :: rest)
    else some rest

/-- The fields of a record that are present, and the levels that are left inside it. -/
def fields (names : List String) : Decoder (Nat × List (String × Tree))
  | depth + 1, .array items =>
    if items.length ≤ names.length then some (depth, names.zip items) else none
  | depth + 1, .object entries => (knownFields names entries).map fun present ↦ (depth, present)
  | _, _ => none

/-- A record, given how to build it from its fields. -/
def record {α : Type} (names : List String) (build : Nat → List (String × Tree) → Option α) :
    Decoder α :=
  fun depth tree ↦ (fields names depth tree).bind fun (depth, present) ↦ build depth present

/-- A field that must be present. -/
def required {α : Type} (decoder : Decoder α) (depth : Nat) (present : List (String × Tree))
    (key : String) : Option α :=
  (present.lookup key).bind (decoder depth)

/-- A field with a value for when it is absent. -/
def defaulted {α : Type} (decoder : Decoder α) (absent : α) (depth : Nat)
    (present : List (String × Tree)) (key : String) : Option α :=
  match present.lookup key with
  | none => some absent
  | some tree => decoder depth tree

/-- A field that may be absent or `null`. -/
def optional {α : Type} (decoder : Decoder α) (depth : Nat) (present : List (String × Tree))
    (key : String) : Option (Option α) :=
  match present.lookup key with
  | none => some none
  | some .null => some none
  | some tree => (decoder depth tree).map some

/-! ### Whole texts -/

/-- The value that a text is the document of. -/
def ofText? {α : Type} (decoder : Decoder α) (text : String) : Option α :=
  (Tree.parse? text).bind (decoder Tree.depthLimit)

end Decoder

/-! ### Free-form values -/

/-- Puts an entry into an object whose keys are sorted, replacing one with the same key. -/
def insertSorted (key : String) (value : Value) : List (String × Value) → List (String × Value)
  | [] => [(key, value)]
  | (other, old) :: entries =>
    if key < other then (key, value) :: (other, old) :: entries
    else if key = other then (key, value) :: entries
    else (other, old) :: insertSorted key value entries

mutual

/-- A document of any form. Keys are sorted, and the last of repeated ones counts. -/
def Tree.value? : Tree → Option Value
  | .null => some .null
  | .bool value => some (.bool value)
  | .number value => value.map .number
  | .string value => value.map .string
  | .array items => (Tree.values? items).map .array
  | .object entries => (Tree.sortedEntries? [] entries).map .object

/-- The items of a list. -/
def Tree.values? : List Tree → Option (List Value)
  | [] => some []
  | item :: items => do return (← item.value?) :: (← Tree.values? items)

/-- The entries of an object, put one after another into those already there. -/
def Tree.sortedEntries? (sorted : List (String × Value)) :
    List (Option String × Tree) → Option (List (String × Value))
  | [] => some sorted
  | (key, value) :: entries => do
    Tree.sortedEntries? (insertSorted (← key) (← value.value?) sorted) entries

end

/-- A document of any form, legible throughout. -/
def Decoder.value : Decoder Value :=
  Decoder.legible fun _ tree ↦ tree.value?

end SemanticLayer.Json
