import Mathlib.Data.String.Basic
import SemanticLayer.Json.Decode
import SemanticLayer.Proofs.Json.Depth
import SemanticLayer.Proofs.Json.Written

/-!
# Free-form documents

A document of any form is read with the keys of its objects sorted, and the last of repeated keys
counts. What can come of this is said by `Value.Sorted`: keys are strictly sorted on every level,
and no more levels are opened than may be. Such a document is read back from its own tree, since
entries with sorted keys are put one behind another (`Decoder.value_tree_of_value`).
-/

namespace SemanticLayer.Json

/-! ### Sorted entries -/

section Sorted

variable {key : String} {value : Value} {entries : List (String × Value)}

theorem mem_of_mem_insertSorted {entry : String × Value}
    (h : entry ∈ insertSorted key value entries) : entry = (key, value) ∨ entry ∈ entries := by
  induction entries with
  | nil => exact .inl (List.mem_singleton.1 h)
  | cons first entries ih =>
    obtain ⟨other, old⟩ := first
    rw [insertSorted] at h
    split at h
    · exact List.mem_cons.1 h
    split at h
    · exact (List.mem_cons.1 h).imp_right (List.mem_cons_of_mem _)
    · rcases List.mem_cons.1 h with rfl | h
      · exact .inr List.mem_cons_self
      · exact (ih h).imp_right (List.mem_cons_of_mem _)

/-- The keys of entries are strictly sorted. -/
def KeysSorted (entries : List (String × Value)) : Prop :=
  entries.Pairwise fun first second ↦ first.1 < second.1

theorem keysSorted_insertSorted (h : KeysSorted entries) (key : String) (value : Value) :
    KeysSorted (insertSorted key value entries) := by
  induction entries with
  | nil => exact List.pairwise_singleton _ _
  | cons first entries ih =>
    obtain ⟨other, old⟩ := first
    obtain ⟨hfirst, hentries⟩ := List.pairwise_cons.1 h
    rw [insertSorted]
    split
    · next hlt =>
      refine List.pairwise_cons.2 ⟨List.forall_mem_cons.2 ⟨hlt, fun entry hentry ↦ ?_⟩, h⟩
      exact lt_trans hlt (hfirst entry hentry)
    split
    · next heq => exact List.pairwise_cons.2 ⟨heq ▸ hfirst, hentries⟩
    · next hlt hne =>
      refine List.pairwise_cons.2 ⟨fun entry hentry ↦ ?_, ih hentries⟩
      rcases mem_of_mem_insertSorted hentry with rfl | hentry
      · exact lt_of_le_of_ne (not_lt.1 hlt) (Ne.symm hne)
      · exact hfirst entry hentry

/-- An entry behind all others comes last. -/
theorem insertSorted_of_lt (h : ∀ entry ∈ entries, entry.1 < key) :
    insertSorted key value entries = entries ++ [(key, value)] := by
  induction entries with
  | nil => rfl
  | cons first entries ih =>
    obtain ⟨other, old⟩ := first
    obtain ⟨hfirst, hentries⟩ := List.forall_mem_cons.1 h
    rw [insertSorted, if_neg (lt_asymm hfirst), if_neg (ne_of_gt hfirst), ih hentries,
      List.cons_append]

end Sorted

/-! ### Sorted documents -/

/-- A document with strictly sorted keys that opens at most `depth` levels. -/
inductive Value.Sorted : Nat → Value → Prop where
  | null {depth : Nat} : Sorted depth .null
  | bool {depth : Nat} (value : Bool) : Sorted depth (.bool value)
  | number {depth : Nat} (value : Number) : Sorted depth (.number value)
  | string {depth : Nat} (value : String) : Sorted depth (.string value)
  | array {depth : Nat} {items : List Value} (hitems : ∀ item ∈ items, Sorted depth item) :
      Sorted (depth + 1) (.array items)
  | object {depth : Nat} {entries : List (String × Value)} (hkeys : KeysSorted entries)
      (hentries : ∀ entry ∈ entries, Sorted depth entry.2) : Sorted (depth + 1) (.object entries)

namespace Value

theorem Sorted.isLegible_tree {depth : Nat} {value : Value} (h : value.Sorted depth) :
    value.tree.isLegible depth = true := by
  induction h with
  | null => rw [tree, Tree.isLegible]
  | bool value => rw [tree, Tree.isLegible]
  | number value => rw [tree, Tree.isLegible, Option.isSome_some]
  | string value => rw [tree, Tree.isLegible, Option.isSome_some]
  | @array depth items hitems ih =>
    rw [tree, Tree.isLegible, Tree.areLegible_iff, itemTrees_eq_map, List.forall_mem_map]
    exact ih
  | @object depth entries hkeys hentries ih =>
    rw [tree, Tree.isLegible, Tree.areEntriesLegible_iff, entryTrees_eq_map, List.forall_mem_map]
    exact fun entry hentry ↦ ⟨rfl, ih entry hentry⟩

theorem values?_itemTrees {items : List Value}
    (h : ∀ item ∈ items, item.tree.value? = some item) :
    Tree.values? (itemTrees items) = some items := by
  induction items with
  | nil => rfl
  | cons item items ih =>
    obtain ⟨hitem, hitems⟩ := List.forall_mem_cons.1 h
    rw [itemTrees, Tree.values?, hitem, ih hitems]
    rfl

/-- Sorted entries are put one behind another. -/
theorem sortedEntries?_entryTrees {sorted entries : List (String × Value)}
    (hkeys : KeysSorted (sorted ++ entries))
    (h : ∀ entry ∈ entries, entry.2.tree.value? = some entry.2) :
    Tree.sortedEntries? sorted (entryTrees entries) = some (sorted ++ entries) := by
  induction entries generalizing sorted with
  | nil => rw [entryTrees, Tree.sortedEntries?, List.append_nil]
  | cons entry entries ih =>
    obtain ⟨key, value⟩ := entry
    obtain ⟨hentry, hentries⟩ := List.forall_mem_cons.1 h
    have hlast : ∀ other ∈ sorted, other.1 < key := fun other hother ↦
      (List.pairwise_append.1 hkeys).2.2 other hother (key, value) List.mem_cons_self
    rw [List.append_cons] at hkeys ⊢
    rw [entryTrees, Tree.sortedEntries?, hentry]
    show Tree.sortedEntries? (insertSorted key value sorted) _ = _
    rw [insertSorted_of_lt hlast, ih hkeys hentries]

theorem Sorted.value?_tree {depth : Nat} {value : Value} (h : value.Sorted depth) :
    value.tree.value? = some value := by
  induction h with
  | null => rfl
  | bool value => rfl
  | number value => rfl
  | string value => rfl
  | @array depth items hitems ih =>
    rw [tree, Tree.value?, values?_itemTrees ih, Option.map_some]
  | @object depth entries hkeys hentries ih =>
    have hsorted : Tree.sortedEntries? [] (entryTrees entries) = some ([] ++ entries) :=
      sortedEntries?_entryTrees hkeys ih
    rw [tree, Tree.value?, hsorted, Option.map_some, List.nil_append]

end Value

/-! ### Reading -/

namespace Tree

mutual

/-- What is read from a legible tree is sorted. -/
theorem sorted_of_value? : ∀ {tree : Tree} {depth : Nat} {value : Value},
    tree.isLegible depth = true → tree.value? = some value → value.Sorted depth
  | null, _, _, _, h => by
    obtain rfl := Option.some.inj h
    exact .null
  | bool b, _, _, _, h => by
    obtain rfl := Option.some.inj h
    exact .bool b
  | number _, _, _, _, h => by
    obtain ⟨n, -, rfl⟩ := Option.map_eq_some_iff.1 h
    exact .number n
  | string _, _, _, _, h => by
    obtain ⟨text, -, rfl⟩ := Option.map_eq_some_iff.1 h
    exact .string text
  | array _, 0, _, hlegible, _ => by
    rw [isLegible] at hlegible
    cases hlegible
  | object _, 0, _, hlegible, _ => by
    rw [isLegible] at hlegible
    cases hlegible
  | array items, depth + 1, _, hlegible, h => by
    rw [isLegible] at hlegible
    rw [value?] at h
    obtain ⟨values, hvalues, rfl⟩ := Option.map_eq_some_iff.1 h
    exact .array (sorted_of_values? hlegible hvalues)
  | object entries, depth + 1, _, hlegible, h => by
    rw [isLegible] at hlegible
    rw [value?] at h
    obtain ⟨values, hvalues, rfl⟩ := Option.map_eq_some_iff.1 h
    obtain ⟨hkeys, hentries⟩ := sorted_of_sortedEntries? hlegible hvalues .nil
      fun entry hentry ↦ absurd hentry List.not_mem_nil
    exact .object hkeys hentries

theorem sorted_of_values? : ∀ {items : List Tree} {depth : Nat} {values : List Value},
    areLegible depth items = true → values? items = some values →
      ∀ value ∈ values, value.Sorted depth
  | [], _, _, _, h => by
    obtain rfl := Option.some.inj h
    exact fun value hvalue ↦ absurd hvalue List.not_mem_nil
  | item :: items, _, _, hlegible, h => by
    rw [areLegible, Bool.and_eq_true] at hlegible
    rw [values?] at h
    obtain ⟨value, hvalue, h⟩ := Option.bind_eq_some_iff.1 h
    obtain ⟨values, hvalues, h⟩ := Option.bind_eq_some_iff.1 h
    obtain rfl := Option.some.inj h
    exact List.forall_mem_cons.2
      ⟨sorted_of_value? hlegible.1 hvalue, sorted_of_values? hlegible.2 hvalues⟩

/-- Entries put one after another into sorted ones leave them sorted. -/
theorem sorted_of_sortedEntries? : ∀ {entries : List (Option String × Tree)} {depth : Nat}
    {sorted values : List (String × Value)}, areEntriesLegible depth entries = true →
      sortedEntries? sorted entries = some values → KeysSorted sorted →
      (∀ entry ∈ sorted, entry.2.Sorted depth) →
      KeysSorted values ∧ ∀ entry ∈ values, entry.2.Sorted depth
  | [], _, _, _, _, h, hkeys, hsorted => by
    obtain rfl := Option.some.inj h
    exact ⟨hkeys, hsorted⟩
  | (key?, tree) :: entries, _, _, _, hlegible, h, hkeys, hsorted => by
    rw [areEntriesLegible, Bool.and_eq_true, Bool.and_eq_true] at hlegible
    rw [sortedEntries?] at h
    obtain ⟨key, -, h⟩ := Option.bind_eq_some_iff.1 h
    obtain ⟨value, hvalue, h⟩ := Option.bind_eq_some_iff.1 h
    refine sorted_of_sortedEntries? hlegible.2 h (keysSorted_insertSorted hkeys key value)
      fun entry hentry ↦ ?_
    rcases mem_of_mem_insertSorted hentry with rfl | hentry
    · exact sorted_of_value? hlegible.1.2 hvalue
    · exact hsorted entry hentry

end

end Tree

theorem Decoder.value_eq_some_iff {depth : Nat} {tree : Tree} {value : Value} :
    Decoder.value depth tree = some value ↔
      tree.isLegible depth = true ∧ tree.value? = some value := by
  rw [Decoder.value, legible]
  by_cases h : tree.isLegible depth = true
  · rw [if_pos h, and_iff_right h]
  · rw [if_neg h]
    refine ⟨fun hnone ↦ ?_, fun hboth ↦ absurd hboth.1 h⟩
    cases hnone

/-- **Free-form documents.** What is read at a depth is sorted, opens no more levels, and is read
back from the tree of its own. -/
theorem Decoder.value_tree_of_value {depth : Nat} {tree : Tree} {value : Value}
    (h : Decoder.value depth tree = some value) : Decoder.value depth value.tree = some value := by
  obtain ⟨hlegible, hvalue⟩ := value_eq_some_iff.1 h
  have hsorted := Tree.sorted_of_value? hlegible hvalue
  exact value_eq_some_iff.2 ⟨hsorted.isLegible_tree, hsorted.value?_tree⟩

/-- Nothing but `null` is read as a document that is written `null`. -/
theorem Decoder.eq_null_of_value {depth : Nat} {tree : Tree} {value : Value}
    (h : Decoder.value depth tree = some value) (hnull : value.tree = .null) : tree = .null := by
  -- the document is `null` itself, since it is read back from its tree
  obtain ⟨-, hback⟩ := value_eq_some_iff.1 (value_tree_of_value h)
  rw [hnull] at hback
  obtain rfl := Option.some.inj hback
  obtain ⟨-, hvalue⟩ := value_eq_some_iff.1 h
  cases tree with
  | null => rfl
  | bool value => cases hvalue
  | number value => cases value <;> cases hvalue
  | string value => cases value <;> cases hvalue
  | array items =>
    obtain ⟨values, -, heq⟩ := Option.map_eq_some_iff.1 hvalue
    cases heq
  | object entries =>
    obtain ⟨values, -, heq⟩ := Option.map_eq_some_iff.1 hvalue
    cases heq

end SemanticLayer.Json
