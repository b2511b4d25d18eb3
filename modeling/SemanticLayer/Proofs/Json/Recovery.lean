import SemanticLayer.Json.Decode
import SemanticLayer.Proofs.Json.Depth
import SemanticLayer.Proofs.Json.Written

/-!
# Values recovered from their documents

A decoder recovers a value from the document that the value is written as, if it finds the value in
the tree of that document (`Decoder.Recovers`). Each way of putting decoders together recovers what
its parts recover.

A record is described by its fields, each with the document of its value, or without one if the
field is left out (`Value.fields`). What is found under a name is then what was written there
(`Decoder.Holds`), whether the field is required, defaulted or optional. Since an optional field may
also be `null`, no value may be written so.
-/

namespace SemanticLayer.Json

/-! ### Fields of records -/

/-- The entries of a record: its fields that have a value. -/
def Value.fields (fields : List (String × Option Value)) : List (String × Value) :=
  fields.filterMap fun field ↦ field.2.map (field.1, ·)

@[simp] theorem Value.fields_nil : Value.fields [] = [] := rfl

@[simp] theorem Value.fields_cons_none (key : String) (rest : List (String × Option Value)) :
    Value.fields ((key, none) :: rest) = Value.fields rest := rfl

@[simp] theorem Value.fields_cons_some (key : String) (value : Value)
    (rest : List (String × Option Value)) :
    Value.fields ((key, some value) :: rest) = (key, value) :: Value.fields rest := rfl

@[simp] theorem Value.fields_cons_map {α : Type} (key : String) (encode : α → Value)
    (a? : Option α) (rest : List (String × Option Value)) :
    Value.fields ((key, a?.map encode) :: rest) =
      Value.entry? key encode a? ++ Value.fields rest := by
  cases a? <;> rfl

/-- The numbers of a record are those of its fields. -/
theorem Value.readsBack_fields_iff {fields : List (String × Option Value)} :
    (object (Value.fields fields)).ReadsBack ↔
      ∀ field ∈ fields, ∀ value ∈ field.2, value.ReadsBack := by
  induction fields with
  | nil => simp [ReadsBack, numbers, entryNumbers]
  | cons field fields ih =>
    obtain ⟨key, value?⟩ := field
    rw [List.forall_mem_cons, ← ih]
    cases value? with
    | none => simp
    | some value => simp [readsBack_object_iff]

namespace Decoder

variable {α β : Type} {decoder : Decoder α} {depth : Nat} {a : α} {value : Value}
  {fields : List (String × Option Value)} {present : List (String × Tree)} {key : String}

/-- A decoder finds a value in the tree of a document other than `null`. -/
structure Recovers (decoder : Decoder α) (depth : Nat) (a : α) (value : Value) : Prop where
  ne_null : value.tree ≠ .null
  decode_eq : decoder depth value.tree = some a

/-! ### Leaves and lists -/

theorem recovers_string (depth : Nat) (text : String) :
    string.Recovers depth text (.string text) where
  ne_null := Tree.noConfusion
  decode_eq := rfl

theorem recovers_bool (depth : Nat) (b : Bool) : bool.Recovers depth b (.bool b) where
  ne_null := Tree.noConfusion
  decode_eq := rfl

theorem recovers_unsigned (depth : Nat) (n : UInt64) :
    unsigned.Recovers depth n (.number (.ofUInt64 n)) where
  ne_null := Tree.noConfusion
  decode_eq := Number.toUInt64?_ofUInt64 n

theorem recovers_named {ofName? : String → Option α} {name : String} (h : ofName? name = some a)
    (depth : Nat) : (named ofName?).Recovers depth a (.string name) where
  ne_null := Tree.noConfusion
  decode_eq := h

theorem Recovers.map (h : decoder.Recovers depth a value) (f : α → β) :
    Recovers (fun depth tree ↦ (decoder depth tree).map f) depth (f a) value where
  ne_null := h.ne_null
  decode_eq := by rw [h.decode_eq, Option.map_some]

theorem Recovers.list {encode : α → Value} {items : List α}
    (h : ∀ item ∈ items, decoder.Recovers depth item (encode item)) :
    (list decoder).Recovers (depth + 1) items (.array (items.map encode)) where
  ne_null := Tree.noConfusion
  decode_eq := by
    rw [Value.tree, Value.itemTrees_eq_map, List.map_map, Decoder.list, mapM_eq_some_iff,
      List.forall₂_map_left_iff, List.forall₂_same]
    exact fun item hitem ↦ (h item hitem).decode_eq

/-! ### Records -/

/-- The fields of a record as they are found in its tree. -/
def found (fields : List (String × Option Value)) : List (String × Tree) :=
  (Value.fields fields).map (Prod.map id Value.tree)

theorem found_cons (key : String) (value? : Option Value) (rest : List (String × Option Value)) :
    found ((key, value?) :: rest) =
      (value?.map fun value ↦ (key, value.tree)).toList ++ found rest := by
  cases value? <;> rfl

theorem lookup_found_of_not_mem (h : key ∉ fields.map Prod.fst) :
    (found fields).lookup key = none := by
  rw [List.lookup_eq_none_iff]
  intro entry hentry
  obtain ⟨entry, hwritten, rfl⟩ := List.mem_map.1 hentry
  obtain ⟨field, hfield, hvalue⟩ := List.mem_filterMap.1 hwritten
  obtain ⟨value, -, rfl⟩ := Option.map_eq_some_iff.1 hvalue
  exact bne_iff_ne.2 fun heq ↦ h (heq ▸ List.mem_map_of_mem hfield)

/-- What is found under the names of fields is what is written there. -/
def Holds (fields : List (String × Option Value)) (present : List (String × Tree)) : Prop :=
  ∀ (key : String) (value? : Option Value), fields.lookup key = some value? →
    present.lookup key = value?.map Value.tree

theorem holds_found (h : (fields.map Prod.fst).Nodup) : Holds fields (found fields) := by
  induction fields with
  | nil =>
    intro key value? hfield
    cases hfield
  | cons field fields ih =>
    obtain ⟨name, value?⟩ := field
    obtain ⟨hname, hnodup⟩ := List.nodup_cons.1 h
    intro key other? hfield
    rw [found_cons]
    by_cases hkey : key = name
    · subst hkey
      rw [List.lookup_cons_self] at hfield
      obtain rfl := Option.some.inj hfield
      cases value? with
      | none => exact lookup_found_of_not_mem hname
      | some value => exact List.lookup_cons_self
    · have hne : (key == name) = false := beq_eq_false_iff_ne.2 hkey
      rw [List.lookup_cons, hne] at hfield
      cases value? with
      | none => exact ih hnodup _ _ hfield
      | some value =>
        show List.lookup key ((name, value.tree) :: found fields) = _
        rw [List.lookup_cons, hne]
        exact ih hnodup _ _ hfield

/-- The entries of a record are known, and none is repeated. -/
theorem knownFields_entryTrees {names : List String} (hknown : ∀ field ∈ fields, field.1 ∈ names)
    (hnodup : (fields.map Prod.fst).Nodup) :
    knownFields names (Value.entryTrees (Value.fields fields)) = some (found fields) := by
  induction fields with
  | nil => rfl
  | cons field fields ih =>
    obtain ⟨key, value?⟩ := field
    obtain ⟨hkey, hfields⟩ := List.forall_mem_cons.1 hknown
    obtain ⟨hfresh, hrest⟩ := List.nodup_cons.1 hnodup
    cases value? with
    | none => exact ih hfields hrest
    | some value =>
      rw [Value.fields_cons_some, Value.entryTrees, knownFields, ih hfields hrest]
      show (if names.contains key = true then
        if ((found fields).lookup key).isSome = true then _ else _ else _) = _
      rw [if_pos (List.contains_iff_mem.2 hkey), lookup_found_of_not_mem hfresh]
      rfl

/-- The fields of a record are one level below it. -/
theorem depth_eq_of_fields {names : List String} {tree : Tree} {inner : Nat}
    (h : Decoder.fields names depth tree = some (inner, present)) : depth = inner + 1 := by
  cases depth with
  | zero => cases tree <;> cases h
  | succ depth =>
    cases tree with
    | array items =>
      rw [Decoder.fields] at h
      split at h
      · cases h
        rfl
      · cases h
    | object entries =>
      obtain ⟨known, -, heq⟩ := Option.map_eq_some_iff.1 h
      cases heq
      rfl
    | _ => cases h

/-- A record is recovered if it is built from what its fields hold. -/
theorem recovers_record {names : List String} {build : Nat → List (String × Tree) → Option α}
    (hnames : fields.map Prod.fst = names) (hnodup : names.Nodup)
    (hbuild : ∀ {present : List (String × Tree)}, Holds fields present →
      build depth present = some a) :
    (record names build).Recovers (depth + 1) a (.object (Value.fields fields)) where
  ne_null := Tree.noConfusion
  decode_eq := by
    subst hnames
    have hknown : ∀ field ∈ fields, field.1 ∈ fields.map Prod.fst :=
      fun field hfield ↦ List.mem_map_of_mem hfield
    rw [record, Value.tree, Decoder.fields, knownFields_entryTrees hknown hnodup]
    exact hbuild (holds_found hnodup)

theorem Recovers.required (h : decoder.Recovers depth a value) (hholds : Holds fields present)
    (key : String) (hfield : fields.lookup key = some (some value)) :
    required decoder depth present key = some a := by
  rw [Decoder.required, hholds _ _ hfield]
  exact h.decode_eq

theorem Recovers.defaulted (h : decoder.Recovers depth a value) (absent : α)
    (hholds : Holds fields present) (key : String)
    (hfield : fields.lookup key = some (some value)) :
    defaulted decoder absent depth present key = some a := by
  rw [Decoder.defaulted, hholds _ _ hfield]
  exact h.decode_eq

theorem optional_of_recovers {encode : α → Value} {a? : Option α}
    (h : ∀ a ∈ a?, decoder.Recovers depth a (encode a)) (hholds : Holds fields present)
    (key : String) (hfield : fields.lookup key = some (a?.map encode)) :
    optional decoder depth present key = some a? := by
  rw [Decoder.optional, hholds _ _ hfield]
  cases a? with
  | none => rfl
  | some a =>
    obtain ⟨hnull, hdecode⟩ := h a rfl
    rw [Option.map_some, Option.map_some]
    split
    · next heq => cases heq
    · next heq => exact absurd (Option.some.inj heq) hnull
    · next tree _ heq =>
      obtain rfl := Option.some.inj heq
      rw [hdecode, Option.map_some]

/-- **A value is recovered from its written document.** -/
theorem Recovers.ofText? (h : decoder.Recovers Tree.depthLimit a value) (hreads : value.ReadsBack) :
    decoder.ofText? value.render = some a := by
  rw [Decoder.ofText?, Value.parse?_render hreads]
  exact h.decode_eq

end Decoder

end SemanticLayer.Json
