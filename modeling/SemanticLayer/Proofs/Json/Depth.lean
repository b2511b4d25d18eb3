import SemanticLayer.Json.Decode
import SemanticLayer.Proofs.Sequence

/-!
# How deep documents nest

A decoder is told how many levels it may still open. It looks at this number only where a document
would open too many of them: if the document nests less deep, one level more changes nothing. This
is what `Decoder.IsStable` says of a decoder, and each way of putting decoders together keeps it.
-/

namespace SemanticLayer.Json

/-! ### The depth of a document -/

namespace Tree

mutual

/-- The number of nested lists and objects of a document. -/
def depth : Tree → Nat
  | array items => depthOfItems items + 1
  | object entries => depthOfEntries entries + 1
  | _ => 0

/-- The greatest depth of the items of a list. -/
def depthOfItems : List Tree → Nat
  | [] => 0
  | item :: items => max (depth item) (depthOfItems items)

/-- The greatest depth of the values of an object. -/
def depthOfEntries : List (Option String × Tree) → Nat
  | [] => 0
  | (_, value) :: entries => max (depth value) (depthOfEntries entries)

end

theorem depth_le_of_mem {items : List Tree} {item : Tree} (h : item ∈ items) :
    item.depth ≤ depthOfItems items := by
  induction items with
  | nil => cases h
  | cons first items ih =>
    rw [depthOfItems]
    rcases List.mem_cons.1 h with rfl | hmem
    · exact Nat.le_max_left _ _
    · exact Nat.le_trans (ih hmem) (Nat.le_max_right _ _)

theorem depth_le_of_mem_entries {entries : List (Option String × Tree)}
    {entry : Option String × Tree} (h : entry ∈ entries) :
    entry.2.depth ≤ depthOfEntries entries := by
  induction entries with
  | nil => cases h
  | cons first entries ih =>
    rw [depthOfEntries]
    rcases List.mem_cons.1 h with rfl | hmem
    · exact Nat.le_max_left _ _
    · exact Nat.le_trans (ih hmem) (Nat.le_max_right _ _)

/-- A list needs a level for itself, and its items fit below it. -/
theorem exists_inner_of_array {items : List Tree} {depth : Nat}
    (h : (array items).depth ≤ depth) :
    ∃ inner, depth = inner + 1 ∧ ∀ item ∈ items, item.depth ≤ inner := by
  cases depth with
  | zero => exact absurd h (Nat.not_succ_le_zero _)
  | succ inner =>
    exact ⟨inner, rfl, fun item hitem ↦
      Nat.le_trans (depth_le_of_mem hitem) (Nat.le_of_succ_le_succ h)⟩

/-- An object needs a level for itself, and its values fit below it. -/
theorem exists_inner_of_object {entries : List (Option String × Tree)} {depth : Nat}
    (h : (object entries).depth ≤ depth) :
    ∃ inner, depth = inner + 1 ∧ ∀ entry ∈ entries, entry.2.depth ≤ inner := by
  cases depth with
  | zero => exact absurd h (Nat.not_succ_le_zero _)
  | succ inner =>
    exact ⟨inner, rfl, fun entry hentry ↦
      Nat.le_trans (depth_le_of_mem_entries hentry) (Nat.le_of_succ_le_succ h)⟩

mutual

/-- A level more makes no document legible that does not need it. -/
theorem isLegible_succ : ∀ {tree : Tree} {depth : Nat}, tree.depth ≤ depth →
    tree.isLegible (depth + 1) = tree.isLegible depth
  | null, _, _ => by simp only [isLegible]
  | bool _, _, _ => by simp only [isLegible]
  | number _, _, _ => by simp only [isLegible]
  | string _, _, _ => by simp only [isLegible]
  | array _, 0, h => absurd h (Nat.not_succ_le_zero _)
  | object _, 0, h => absurd h (Nat.not_succ_le_zero _)
  | array items, depth + 1, h => by
    rw [isLegible, isLegible]
    exact areLegible_succ (Nat.le_of_succ_le_succ h)
  | object entries, depth + 1, h => by
    rw [isLegible, isLegible]
    exact areEntriesLegible_succ (Nat.le_of_succ_le_succ h)

theorem areLegible_succ : ∀ {items : List Tree} {depth : Nat}, depthOfItems items ≤ depth →
    areLegible (depth + 1) items = areLegible depth items
  | [], _, _ => rfl
  | item :: items, depth, h => by
    rw [depthOfItems] at h
    rw [areLegible, areLegible, isLegible_succ (Nat.le_trans (Nat.le_max_left _ _) h),
      areLegible_succ (Nat.le_trans (Nat.le_max_right _ _) h)]

theorem areEntriesLegible_succ : ∀ {entries : List (Option String × Tree)} {depth : Nat},
    depthOfEntries entries ≤ depth →
      areEntriesLegible (depth + 1) entries = areEntriesLegible depth entries
  | [], _, _ => rfl
  | (key, value) :: entries, depth, h => by
    rw [depthOfEntries] at h
    rw [areEntriesLegible, areEntriesLegible, isLegible_succ (Nat.le_trans (Nat.le_max_left _ _) h),
      areEntriesLegible_succ (Nat.le_trans (Nat.le_max_right _ _) h)]

end

/-- Items are legible in a list if each of them is. -/
theorem areLegible_iff {depth : Nat} {items : List Tree} :
    areLegible depth items = true ↔ ∀ item ∈ items, item.isLegible depth = true := by
  induction items with
  | nil => simp [areLegible]
  | cons item items ih => rw [areLegible, Bool.and_eq_true, ih, List.forall_mem_cons]

/-- Entries are legible in an object if their keys and their values are. -/
theorem areEntriesLegible_iff {depth : Nat} {entries : List (Option String × Tree)} :
    areEntriesLegible depth entries = true ↔
      ∀ entry ∈ entries, entry.1.isSome = true ∧ entry.2.isLegible depth = true := by
  induction entries with
  | nil => simp [areEntriesLegible]
  | cons entry entries ih =>
    rw [areEntriesLegible, Bool.and_eq_true, Bool.and_eq_true, ih, List.forall_mem_cons]

end Tree

/-! ### Decoders -/

namespace Decoder

variable {α β : Type} {decoder : Decoder α}

/-- A level more changes nothing for documents that do not need it. -/
def IsStable (decoder : Decoder α) : Prop :=
  ∀ (depth : Nat) (tree : Tree), tree.depth ≤ depth →
    decoder (depth + 1) tree = decoder depth tree

theorem isStable_string : IsStable string := by
  intro depth tree h
  cases tree <;> rfl

theorem isStable_bool : IsStable bool := by
  intro depth tree h
  cases tree <;> rfl

theorem isStable_unsigned : IsStable unsigned := by
  intro depth tree h
  cases tree with
  | number value => cases value <;> rfl
  | _ => rfl

theorem IsStable.map (h : decoder.IsStable) (f : α → β) :
    IsStable fun depth tree ↦ (decoder depth tree).map f := by
  intro depth tree hdepth
  simp only [h _ _ hdepth]

theorem IsStable.bind (h : decoder.IsStable) (f : α → Option β) :
    IsStable fun depth tree ↦ (decoder depth tree).bind f := by
  intro depth tree hdepth
  simp only [h _ _ hdepth]

theorem IsStable.legible (h : decoder.IsStable) : (legible decoder).IsStable := by
  intro depth tree hdepth
  simp only [Decoder.legible, Tree.isLegible_succ hdepth, h _ _ hdepth]

theorem isStable_value : IsStable value :=
  IsStable.legible fun _ _ _ ↦ rfl

theorem IsStable.list (h : decoder.IsStable) : (list decoder).IsStable := by
  intro depth tree hdepth
  cases tree with
  | array items =>
    obtain ⟨inner, rfl, hitems⟩ := Tree.exists_inner_of_array hdepth
    exact mapM_eq_of_forall₂ (List.forall₂_same.2 fun item hitem ↦ h _ _ (hitems item hitem))
  | _ => cases depth <;> rfl

theorem IsStable.entries (h : decoder.IsStable) : (entries decoder).IsStable := by
  intro depth tree hdepth
  cases tree with
  | object entries =>
    obtain ⟨inner, rfl, hentries⟩ := Tree.exists_inner_of_object hdepth
    refine mapM_eq_of_forall₂ (List.forall₂_same.2 fun entry hentry ↦ ?_)
    simp only [h _ _ (hentries entry hentry)]
  | _ => cases depth <;> rfl

theorem isStable_name : IsStable name := by
  intro depth tree hdepth
  cases tree with
  | object entries =>
    obtain ⟨inner, rfl, -⟩ := Tree.exists_inner_of_object hdepth
    match entries with
    | [] => rfl
    | [(key, value)] => cases value <;> rfl
    | (_, value) :: _ :: _ => cases value <;> rfl
  | _ => cases depth <;> rfl

theorem isStable_named (ofName? : String → Option α) : (named ofName?).IsStable :=
  isStable_name.bind ofName?

/-! ### Records -/

/-- The fields of a record nest at most so deep. -/
def FieldsFit (depth : Nat) (present : List (String × Tree)) : Prop :=
  ∀ field ∈ present, field.2.depth ≤ depth

theorem mem_of_mem_knownFields {names : List String} {entries : List (Option String × Tree)}
    {present : List (String × Tree)} (h : knownFields names entries = some present)
    {field : String × Tree} (hfield : field ∈ present) : (some field.1, field.2) ∈ entries := by
  induction entries generalizing present with
  | nil =>
    cases h
    cases hfield
  | cons entry entries ih =>
    obtain ⟨key, value⟩ := entry
    cases key with
    | none => cases h
    | some key =>
      obtain ⟨rest, hrest, h⟩ := Option.bind_eq_some_iff.1 h
      have hmem (hfield : field ∈ rest) : (some field.1, field.2) ∈ (some key, value) :: entries :=
        List.mem_cons_of_mem _ (ih hrest hfield)
      split at h
      · split at h
        · cases h
        · cases h
          rcases List.mem_cons.1 hfield with rfl | hfield
          · exact List.mem_cons_self
          · exact hmem hfield
      · cases h
        exact hmem hfield

/-- The fields of a record are less deep than the record. -/
theorem fieldsFit_of_fields {names : List String} {depth inner : Nat} {tree : Tree}
    {present : List (String × Tree)} (hdepth : tree.depth ≤ depth)
    (h : fields names depth tree = some (inner, present)) : FieldsFit inner present := by
  cases tree with
  | array items =>
    obtain ⟨inner, rfl, hitems⟩ := Tree.exists_inner_of_array hdepth
    rw [fields] at h
    split at h
    · cases h
      exact fun field hfield ↦ hitems _ (List.of_mem_zip hfield).2
    · cases h
  | object entries =>
    obtain ⟨inner, rfl, hentries⟩ := Tree.exists_inner_of_object hdepth
    obtain ⟨known, hknown, hpair⟩ := Option.map_eq_some_iff.1 h
    cases hpair
    exact fun field hfield ↦ hentries _ (mem_of_mem_knownFields hknown hfield)
  | _ => cases depth <;> cases h

theorem fields_succ {names : List String} {depth : Nat} {tree : Tree}
    (hdepth : tree.depth ≤ depth) :
    fields names (depth + 1) tree =
      (fields names depth tree).map fun (inner, present) ↦ (inner + 1, present) := by
  cases tree with
  | array items =>
    obtain ⟨inner, rfl, -⟩ := Tree.exists_inner_of_array hdepth
    rw [fields, fields]
    split <;> rfl
  | object entries =>
    obtain ⟨inner, rfl, -⟩ := Tree.exists_inner_of_object hdepth
    rw [fields, fields, Option.map_map]
    rfl
  | _ => cases depth <;> rfl

theorem mem_of_lookup {present : List (String × Tree)} {key : String} {tree : Tree}
    (h : present.lookup key = some tree) : (key, tree) ∈ present := by
  obtain ⟨before, after, rfl, -⟩ := List.lookup_eq_some_iff.1 h
  exact List.mem_append_right _ List.mem_cons_self

/-- A record is stable if what is built from its fields is. -/
theorem isStable_record {names : List String} {build : Nat → List (String × Tree) → Option α}
    (h : ∀ {depth : Nat} {present : List (String × Tree)}, FieldsFit depth present →
      build (depth + 1) present = build depth present) : (record names build).IsStable := by
  intro depth tree hdepth
  rw [record, record, fields_succ hdepth]
  cases hfields : fields names depth tree with
  | none => rfl
  | some found => exact h (fieldsFit_of_fields hdepth hfields)

variable {depth : Nat} {present : List (String × Tree)}

theorem IsStable.required (h : decoder.IsStable) (hfit : FieldsFit depth present) (key : String) :
    required decoder (depth + 1) present key = required decoder depth present key := by
  unfold Decoder.required
  cases hlookup : present.lookup key with
  | none => rfl
  | some tree => exact h _ _ (hfit _ (mem_of_lookup hlookup))

theorem IsStable.defaulted (h : decoder.IsStable) (absent : α) (hfit : FieldsFit depth present)
    (key : String) :
    defaulted decoder absent (depth + 1) present key =
      defaulted decoder absent depth present key := by
  unfold Decoder.defaulted
  cases hlookup : present.lookup key with
  | none => rfl
  | some tree => exact h _ _ (hfit _ (mem_of_lookup hlookup))

theorem IsStable.optional (h : decoder.IsStable) (hfit : FieldsFit depth present) (key : String) :
    optional decoder (depth + 1) present key = optional decoder depth present key := by
  unfold Decoder.optional
  cases hlookup : present.lookup key with
  | none => rfl
  | some tree =>
    have htree := h _ _ (hfit _ (mem_of_lookup hlookup))
    cases tree with
    | null => rfl
    | _ => exact congrArg (Option.map some) htree

end Decoder

end SemanticLayer.Json
