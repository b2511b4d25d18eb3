/-!
# Maps in order of first insertion

A map from strings that remembers in which order its keys were first inserted. Inserting a key that
is already there replaces its value and keeps its place. Rows of results are such maps, and so are
the members of a result.

The representation is a list of entries with distinct keys, and every search goes through it in
order. `toList` is the view through which the operations are described.
-/

namespace SemanticLayer

/-! ### Entries -/

namespace Entries

variable {α : Type}

/-- Sets the value of a key: in its place if it is there, otherwise at the end. -/
def put (key : String) (value : α) : List (String × α) → List (String × α)
  | [] => [(key, value)]
  | (other, old) :: rest =>
    if other = key then (other, value) :: rest else (other, old) :: put key value rest

/-- Setting a value adds at most its key. -/
theorem map_fst_put (key : String) (value : α) (entries : List (String × α)) :
    (put key value entries).map Prod.fst =
      if key ∈ entries.map Prod.fst then entries.map Prod.fst
      else entries.map Prod.fst ++ [key] := by
  induction entries with
  | nil => simp [put]
  | cons entry rest ih =>
    obtain ⟨other, old⟩ := entry
    by_cases same : other = key
    · simp [put, same]
    · have distinct : key ≠ other := fun h ↦ same h.symm
      by_cases mem : key ∈ rest.map Prod.fst
      · simp only [put, same, if_false, List.map_cons, ih, mem, List.mem_cons, or_true, if_true]
      · simp only [put, same, if_false, List.map_cons, ih, mem, List.mem_cons, distinct, or_self,
          List.cons_append]

/-- Setting a value keeps keys distinct. -/
theorem nodup_put {entries : List (String × α)} (h : (entries.map Prod.fst).Nodup) (key : String)
    (value : α) : ((put key value entries).map Prod.fst).Nodup := by
  rw [map_fst_put]
  split
  · exact h
  · next absent =>
    rw [List.nodup_append]
    refine ⟨h, by simp, ?_⟩
    intro a ha b hb same
    rw [List.mem_singleton] at hb
    exact absent (hb ▸ same ▸ ha)

end Entries

/-! ### The type -/

/-- A map from strings in order of first insertion. -/
structure OrderedMap (α : Type) where
  /-- The entries, in order. -/
  toList : List (String × α)
  /-- No key occurs twice. -/
  distinct : (toList.map Prod.fst).Nodup
  deriving DecidableEq

namespace OrderedMap

variable {α : Type}

/-- The map without entries. -/
def empty : OrderedMap α := ⟨[], by simp⟩

instance : Inhabited (OrderedMap α) := ⟨empty⟩

/-- Sets the value of a key, which keeps its place if it is there and comes last otherwise. -/
def insert (map : OrderedMap α) (key : String) (value : α) : OrderedMap α :=
  ⟨Entries.put key value map.toList, Entries.nodup_put map.distinct key value⟩

/-- The value of a key. -/
def get? (map : OrderedMap α) (key : String) : Option α :=
  map.toList.lookup key

/-- Whether a key has a value. -/
def contains (map : OrderedMap α) (key : String) : Bool :=
  (map.get? key).isSome

/-- The keys, in order of first insertion. -/
def keys (map : OrderedMap α) : List String :=
  map.toList.map Prod.fst

/-- The number of keys. -/
def size (map : OrderedMap α) : Nat :=
  map.toList.length

/-- Whether there are no keys. -/
def isEmpty (map : OrderedMap α) : Bool :=
  map.toList.isEmpty

/-- Inserts entries one after another. -/
def insertList (map : OrderedMap α) (entries : List (String × α)) : OrderedMap α :=
  entries.foldl (fun map entry ↦ map.insert entry.1 entry.2) map

/-- The map that results from inserting entries one after another. -/
def ofList (entries : List (String × α)) : OrderedMap α :=
  empty.insertList entries

@[simp] theorem toList_empty : (empty : OrderedMap α).toList = [] := rfl

@[simp] theorem toList_insert (map : OrderedMap α) (key : String) (value : α) :
    (map.insert key value).toList = Entries.put key value map.toList := rfl

theorem keys_insert (map : OrderedMap α) (key : String) (value : α) :
    (map.insert key value).keys = if key ∈ map.keys then map.keys else map.keys ++ [key] :=
  Entries.map_fst_put key value map.toList

end OrderedMap

end SemanticLayer
