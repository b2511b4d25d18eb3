import SemanticLayer.Toml.Scalar

/-!
# TOML documents

A document is read into a tree of values. Its lines assign values to keys; headers choose the table
that the following lines assign to.

While a document is read, each table remembers how it came about, because that decides what may
still be added to it: a header may define a table that so far only stood above another, but never
one that has been defined; a key with points may add to tables that such keys have made. Arrays of
tables grow by one table with each of their headers, and a path into one leads into its last table.
Values on a line, tables in braces included, are closed.
-/

namespace SemanticLayer.Toml

/-! ### Values -/

/-- A value of a document. -/
inductive Value where
  | string (value : String)
  | scalar (value : Scalar)
  | array (items : List Value)
  | table (entries : List (String × Value))

/-- How a table came about. -/
inductive Origin where
  /-- By a header of its own, or as a table of an array. -/
  | header
  /-- As part of the path of a header. -/
  | path
  /-- As part of a key with points. -/
  | dotted
  deriving DecidableEq, Repr

/-- A part of a document that is being read. -/
inductive Node where
  /-- A value, to which nothing can be added. -/
  | closed (value : Value)
  /-- A table. -/
  | table (origin : Origin) (entries : List (String × Node))
  /-- An array of tables, with its last table apart. -/
  | tables (earlier : List (List (String × Node))) (last : List (String × Node))

/-- The keys of a table and what they stand for. -/
abbrev Nodes := List (String × Node)

mutual

/-- The value that a part of a document has become. -/
def Node.value : Node → Value
  | .closed value => value
  | .table _ entries => .table (entryValues entries)
  | .tables earlier last => .array (tableValues earlier ++ [.table (entryValues last)])

/-- The values of the keys of a table. -/
def entryValues : List (String × Node) → List (String × Value)
  | [] => []
  | (key, node) :: rest => (key, node.value) :: entryValues rest

/-- The values of the tables of an array. -/
def tableValues : List (List (String × Node)) → List Value
  | [] => []
  | entries :: rest => .table (entryValues entries) :: tableValues rest

end

/-! ### Adding to tables -/

/-- Changes what a key stands for, if the change can be made. A new key comes last. -/
def alter (key : String) (change : Option Node → Option Node) : Nodes → Option Nodes
  | [] => (change none).map fun node ↦ [(key, node)]
  | (other, node) :: rest =>
    if other = key then (change (some node)).map fun node ↦ (key, node) :: rest
    else (alter key change rest).map ((other, node) :: ·)

/-- Changes the table at the path of a header, making the tables on the way that are missing. -/
def within (change : Nodes → Option Nodes) : List String → Nodes → Option Nodes
  | [], entries => change entries
  | key :: path, entries =>
    alter key (fun
      | none => (within change path []).map (.table .path)
      | some (.table origin inner) => (within change path inner).map (.table origin)
      | some (.tables earlier last) => (within change path last).map (.tables earlier)
      | some (.closed _) => none) entries

/-- Defines a table by a header. -/
def defineTable (key : String) : Nodes → Option Nodes :=
  alter key fun
    | none => some (.table .header [])
    | some (.table .path entries) => some (.table .header entries)
    | some _ => none

/-- Adds a table to an array by a header. -/
def addTable (key : String) : Nodes → Option Nodes :=
  alter key fun
    | none => some (.tables [] [])
    | some (.tables earlier last) => some (.tables (earlier ++ [last]) [])
    | some _ => none

/-- Assigns a value to a new key. -/
def assignKey (key : String) (value : Value) : Nodes → Option Nodes :=
  alter key fun
    | none => some (.closed value)
    | some _ => none

/-- Assigns a value to a new key at the end of a path of points, inside a table of some origin.
The path must end in a table that such paths have made. -/
def assignWithin (key : String) (value : Value) :
    List String → Origin → Nodes → Option Nodes
  | [], origin, entries => if origin = .dotted then assignKey key value entries else none
  | part :: path, _, entries =>
    alter part (fun
      | none => (assignWithin key value path .dotted []).map (.table .dotted)
      | some (.table .header _) => none
      | some (.table origin inner) =>
        (assignWithin key value path origin inner).map (.table origin)
      | some (.tables earlier last) =>
        (assignWithin key value path .header last).map (.tables earlier)
      | some (.closed _) => none) entries

/-- Assigns a value to a key of one or more parts. -/
def assign (key : List String) (value : Value) (entries : Nodes) : Option Nodes :=
  match key.reverse with
  | [] => none
  | [key] => assignKey key value entries
  | last :: path => assignWithin last value path.reverse .header entries

/-! ### Reading values -/

/-- How deep arrays and tables in braces may be nested. -/
def nestingLimit : Nat := 80

mutual

/-- Takes a value; `depth` is the number of brackets that may still be opened. -/
def takeValue : Nat → Nat → List Char → Option (Value × List Char)
  | 0, _, _ => none
  | fuel + 1, depth, text =>
    match text with
    | '[' :: rest =>
      match depth with
      | 0 => none
      | depth + 1 => takeItems fuel depth [] rest
    | '\x7b' :: rest =>
      match depth with
      | 0 => none
      | depth + 1 => takeEntries fuel depth [] rest
    | '"' :: _ => (takeString text).map fun (value, rest) ↦ (.string value, rest)
    | '\'' :: _ => (takeString text).map fun (value, rest) ↦ (.string value, rest)
    | text => (Scalar.take text).map fun (value, rest) ↦ (.scalar value, rest)

/-- Takes the rest of an array, after the items already `read`, in reverse. -/
def takeItems : Nat → Nat → List Value → List Char → Option (Value × List Char)
  | 0, _, _, _ => none
  | fuel + 1, depth, read, text =>
    match skipTrivia false text with
    | ']' :: rest => some (.array read.reverse, rest)
    | text => do
      let (item, rest) ← takeValue fuel depth text
      match skipTrivia false rest with
      | ',' :: rest => takeItems fuel depth (item :: read) rest
      | ']' :: rest => return (.array (item :: read).reverse, rest)
      | _ => none

/-- Takes the rest of a table in braces, after the entries already `read`. -/
def takeEntries : Nat → Nat → Nodes → List Char → Option (Value × List Char)
  | 0, _, _, _ => none
  | fuel + 1, depth, read, text =>
    match skipTrivia false text with
    | '\x7d' :: rest => some (.table (entryValues read), rest)
    | text => do
      let (key, rest) ← takeKey text
      let rest ← Scalar.after? '=' rest
      let (value, rest) ← takeValue fuel depth (skipSpace rest)
      let read ← assign key value read
      match skipTrivia false rest with
      | ',' :: rest => takeEntries fuel depth read rest
      | '\x7d' :: rest => return (.table (entryValues read), rest)
      | _ => none

end

/-! ### Reading documents -/

/-- A document that is being read. -/
structure State where
  /-- What has been read. -/
  entries : Nodes
  /-- The path of the table that lines assign to. -/
  path : List String

/-- Takes a header, after its first bracket, and opens its table. -/
def takeHeader (state : State) (text : List Char) : Option (State × List Char) := do
  let (isArray, text) := match text with
    | '[' :: rest => (true, rest)
    | rest => (false, rest)
  let (key, rest) ← takeKey (skipSpace text)
  let rest ← Scalar.after? ']' rest
  let rest ← if isArray then Scalar.after? ']' rest else some rest
  match key.reverse with
  | [] => none
  | last :: path =>
    let open' := if isArray then addTable last else defineTable last
    let entries ← within open' path.reverse state.entries
    return (⟨entries, key⟩, rest)

/-- Takes an assignment. -/
def takeAssignment (state : State) (text : List Char) : Option (State × List Char) := do
  let (key, rest) ← takeKey text
  let rest ← Scalar.after? '=' rest
  let (value, rest) ← takeValue (2 * text.length + 2) nestingLimit (skipSpace rest)
  let entries ← within (assign key value) state.path state.entries
  return (⟨entries, state.path⟩, rest)

/-- Takes the content of a line. -/
def takeLine (state : State) (text : List Char) : Option (State × List Char) :=
  match text with
  | '[' :: rest => takeHeader state rest
  | '#' :: _ | '\n' :: _ | '\r' :: _ | [] => some (state, text)
  | text => takeAssignment state text

/-- Reads the lines of a document. -/
def readLines : Nat → State → List Char → Option State
  | 0, _, _ => none
  | fuel + 1, state, text => do
    let (state, rest) ← takeLine state (skipSpace text)
    match skipComment (skipSpace rest) with
    | [] => return state
    | rest => readLines fuel state (← takeLineEnd? rest)

/-- The entries of the document that a text is, which may start with a byte order mark. -/
def parse? (text : String) : Option (List (String × Value)) :=
  let chars := match text.toList with
    | '\uFEFF' :: rest => rest
    | chars => chars
  (readLines (chars.length + 1) ⟨[], []⟩ chars).map fun state ↦ entryValues state.entries

end SemanticLayer.Toml
