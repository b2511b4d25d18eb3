import Mathlib.Data.Finset.Card
import Mathlib.Data.List.Basic
import Mathlib.Data.List.Induction
import Mathlib.Data.Prod.Basic
import SemanticLayer.OrderedMap

/-!
# Look-up in ordered maps

What a map answers for a key (`get?`) after each operation. An insertion decides the answer for its
own key and for no other (`get?_insert`), so of several insertions of one key the last one counts.
An entry is what the map answers for its key, since keys are distinct (`get?_of_mem`), and a key
is there exactly if it is answered (`mem_keys_iff`).

A map made from a listing is described by the listing alone (`Settles`): its names stand where they
first occur in the listing, and each has the value of its last occurrence (`settles_ofList`). Values
may as well be changed before as after (`map_toList_ofList`). A single insertion sets its key in
place or adds it behind the others (`Entries.Sets`, `Entries.sets_put`).

Rows of results, rows of responses and the members of a response are such maps, made by one
insertion after another. What any insertions leave behind is gathered in `Reflects`: which keys
there are and in which order, what each is answered with, and that the entries alone make the map
again (`reflects_insertList`).
-/

namespace SemanticLayer

namespace Entries

variable {α : Type}

theorem lookup_cons_eq_ite (key : String) (value : α) (rest : List (String × α)) (name : String) :
    List.lookup name ((key, value) :: rest) =
      if name = key then some value else rest.lookup name := by
  by_cases h : name = key
  · rw [if_pos h, h, List.lookup_cons_self]
  · rw [if_neg h, List.lookup_cons, beq_eq_false_iff_ne.2 h]

theorem lookup_put (key : String) (value : α) (entries : List (String × α)) (name : String) :
    (put key value entries).lookup name =
      if name = key then some value else entries.lookup name := by
  induction entries with
  | nil => exact lookup_cons_eq_ite key value [] name
  | cons entry rest ih =>
    obtain ⟨other, old⟩ := entry
    by_cases hother : other = key
    · rw [put, if_pos hother, hother, lookup_cons_eq_ite, lookup_cons_eq_ite]
      by_cases h : name = key
      · rw [if_pos h, if_pos h]
      · rw [if_neg h, if_neg h, if_neg h]
    · rw [put, if_neg hother, lookup_cons_eq_ite, lookup_cons_eq_ite, ih]
      by_cases h : name = other
      · rw [if_pos h, if_neg (h ▸ hother), if_pos h]
      · rw [if_neg h, if_neg h]

theorem map_put {β : Type} (f : α → β) (key : String) (value : α) (entries : List (String × α)) :
    (put key value entries).map (Prod.map id f) =
      put key (f value) (entries.map (Prod.map id f)) := by
  induction entries with
  | nil => rfl
  | cons entry rest ih =>
    obtain ⟨other, old⟩ := entry
    show _ = put key (f value) ((other, f old) :: rest.map (Prod.map id f))
    by_cases hother : other = key
    · rw [put, put, if_pos hother, if_pos hother]
      rfl
    · rw [put, put, if_neg hother, if_neg hother, ← ih]
      rfl

theorem put_of_absent {key : String} {entries : List (String × α)}
    (h : key ∉ entries.map Prod.fst) (value : α) :
    put key value entries = entries ++ [(key, value)] := by
  induction entries with
  | nil => rfl
  | cons entry rest ih =>
    obtain ⟨hentry, hrest⟩ := not_or.1 (mt List.mem_cons.2 h)
    rw [put, if_neg (Ne.symm hentry), ih hrest, List.cons_append]

/-- A name is set to a value in entries: it comes last, or it keeps the only place that it has. -/
inductive Sets (name : String) (value : α) : List (String × α) → List (String × α) → Prop where
  | last {entries : List (String × α)} (habsent : name ∉ entries.map Prod.fst) :
      Sets name value entries (entries ++ [(name, value)])
  | inPlace {front rest : List (String × α)} {old : α} (hfront : name ∉ front.map Prod.fst)
      (hrest : name ∉ rest.map Prod.fst) :
      Sets name value (front ++ (name, old) :: rest) (front ++ (name, value) :: rest)

theorem Sets.cons {name other : String} {value old : α} {entries others : List (String × α)}
    (h : Sets name value entries others) (hname : name ≠ other) :
    Sets name value ((other, old) :: entries) ((other, old) :: others) := by
  cases h with
  | last habsent => exact .last (List.not_mem_cons_of_ne_of_not_mem hname habsent)
  | @inPlace front _ _ hfront hrest =>
    have hcons : name ∉ ((other, old) :: front).map Prod.fst :=
      List.not_mem_cons_of_ne_of_not_mem hname hfront
    exact .inPlace hcons hrest

theorem sets_put {entries : List (String × α)} (h : (entries.map Prod.fst).Nodup) (name : String)
    (value : α) : Sets name value entries (put name value entries) := by
  induction entries with
  | nil => exact .last List.not_mem_nil
  | cons entry rest ih =>
    obtain ⟨other, old⟩ := entry
    obtain ⟨hother, hrest⟩ := List.nodup_cons.1 h
    by_cases hname : other = name
    · subst hname
      have hfront : other ∉ ([] : List (String × α)).map Prod.fst := List.not_mem_nil
      rw [put, if_pos rfl]
      exact .inPlace hfront hother
    · rw [put, if_neg hname]
      exact (ih hrest).cons (Ne.symm hname)

end Entries

namespace OrderedMap

variable {α : Type}

/-! ### Entries and keys -/

/-- Maps with the same entries are the same. -/
theorem eq_of_toList_eq {map other : OrderedMap α} (h : map.toList = other.toList) :
    map = other := by
  cases map
  cases other
  exact (OrderedMap.mk.injEq ..).mpr h

theorem get?_of_mem {map : OrderedMap α} {key : String} {value : α}
    (h : (key, value) ∈ map.toList) : map.get? key = some value := by
  obtain ⟨before, after, hsplit⟩ := List.append_of_mem h
  have hdistinct := map.distinct
  rw [hsplit, List.map_append, List.nodup_append] at hdistinct
  obtain ⟨-, -, hdisjoint⟩ := hdistinct
  refine List.lookup_eq_some_iff.2 ⟨before, after, hsplit, fun entry hentry ↦ bne_iff_ne.2 ?_⟩
  exact (hdisjoint _ (List.mem_map_of_mem hentry) key List.mem_cons_self).symm

theorem mem_of_get? {map : OrderedMap α} {key : String} {value : α}
    (h : map.get? key = some value) : (key, value) ∈ map.toList := by
  obtain ⟨before, after, hsplit, -⟩ := List.lookup_eq_some_iff.1 h
  rw [hsplit]
  exact List.mem_append_right _ List.mem_cons_self

/-- A key is there exactly if it has a value. -/
theorem mem_keys_iff {map : OrderedMap α} {key : String} :
    key ∈ map.keys ↔ ∃ value, map.get? key = some value := by
  constructor
  · intro h
    obtain ⟨entry, hentry, rfl⟩ := List.mem_map.1 h
    exact ⟨entry.2, get?_of_mem hentry⟩
  · rintro ⟨value, h⟩
    exact List.mem_map_of_mem (mem_of_get? h)

theorem contains_iff {map : OrderedMap α} {key : String} :
    map.contains key = true ↔ key ∈ map.keys := by
  rw [contains, Option.isSome_iff_exists, mem_keys_iff]

/-! ### Insertions -/

@[simp] theorem get?_empty (name : String) : (empty : OrderedMap α).get? name = none := rfl

/-- An insertion decides the answer for its own key only. -/
theorem get?_insert (map : OrderedMap α) (key : String) (value : α) (name : String) :
    (map.insert key value).get? name = if name = key then some value else map.get? name :=
  Entries.lookup_put key value map.toList name

/-- One value under several names. -/
theorem get?_insertList_map (map : OrderedMap α) (names : List String) (value : α)
    (name : String) :
    (map.insertList (names.map (·, value))).get? name =
      if name ∈ names then some value else map.get? name := by
  induction names generalizing map with
  | nil => rw [if_neg List.not_mem_nil]; rfl
  | cons key names ih =>
    show ((map.insert key value).insertList (names.map (·, value))).get? name = _
    rw [ih, get?_insert]
    by_cases hname : name ∈ names
    · rw [if_pos hname, if_pos (List.mem_cons_of_mem key hname)]
    · by_cases hkey : name = key
      · rw [if_neg hname, if_pos hkey, if_pos (hkey ▸ List.mem_cons_self)]
      · rw [if_neg hname, if_neg hkey, if_neg (List.not_mem_cons_of_ne_of_not_mem hkey hname)]

/-! ### Maps from listings -/

/-- The value that a name has where it occurs for the last time in a listing. -/
def LastValue (listing : List (String × α)) (name : String) (value : α) : Prop :=
  ∃ before after, listing = before ++ (name, value) :: after ∧ ∀ later ∈ after, later.1 ≠ name

/-- Entries settle a listing: its names stand where they first occur in it, and each has the value
of its last occurrence. -/
structure Settles (listing entries : List (String × α)) : Prop where
  names_eq : entries.map Prod.fst = (listing.map Prod.fst).eraseDups
  lastValue : ∀ name value, (name, value) ∈ entries → LastValue listing name value

theorem ofList_append (listing : List (String × α)) (name : String) (value : α) :
    ofList (listing ++ [(name, value)]) = (ofList listing).insert name value := by
  rw [ofList, insertList, List.foldl_append]
  rfl

theorem keys_ofList (listing : List (String × α)) :
    (ofList listing).keys = (listing.map Prod.fst).eraseDups := by
  induction listing using List.reverseRecOn with
  | nil => rfl
  | append_singleton listing entry ih =>
    rw [ofList_append, keys_insert, ih, List.map_append, List.eraseDups_append, List.map_singleton,
      List.cons_removeAll, List.nil_removeAll]
    by_cases hname : entry.1 ∈ listing.map Prod.fst
    · rw [if_pos (List.mem_eraseDups.2 hname), List.contains_iff_mem.2 hname]
      exact (List.append_nil _).symm
    · rw [if_neg (mt List.mem_eraseDups.1 hname),
        Bool.eq_false_iff.2 (mt List.contains_iff_mem.1 hname)]
      rfl

/-- Names that do not occur in a listing keep their answers. -/
theorem get?_insertList_of_absent (map : OrderedMap α) {listing : List (String × α)} {name : String}
    (h : ∀ entry ∈ listing, entry.1 ≠ name) :
    (map.insertList listing).get? name = map.get? name := by
  induction listing generalizing map with
  | nil => rfl
  | cons entry listing ih =>
    obtain ⟨hentry, hlisting⟩ := List.forall_mem_cons.1 h
    show ((map.insert entry.1 entry.2).insertList listing).get? name = _
    rw [ih _ hlisting, get?_insert, if_neg (Ne.symm hentry)]

/-- The map from a listing answers a name with the value of its last occurrence. -/
theorem get?_ofList_eq_some_iff {listing : List (String × α)} {name : String} {value : α} :
    (ofList listing).get? name = some value ↔ LastValue listing name value := by
  constructor
  · intro h
    induction listing using List.reverseRecOn with
    | nil => cases h
    | append_singleton listing entry ih =>
      obtain ⟨key, last⟩ := entry
      rw [ofList_append, get?_insert] at h
      by_cases hname : name = key
      · rw [if_pos hname] at h
        obtain rfl := Option.some.inj h
        exact ⟨listing, [], hname ▸ rfl, fun later hlater ↦ absurd hlater List.not_mem_nil⟩
      · rw [if_neg hname] at h
        obtain ⟨before, after, rfl, hafter⟩ := ih h
        refine ⟨before, after ++ [(key, last)], ?_, ?_⟩
        · rw [List.append_assoc, List.cons_append]
        · exact List.forall_mem_append.2 ⟨hafter, List.forall_mem_singleton.2 (Ne.symm hname)⟩
  · rintro ⟨before, after, rfl, hafter⟩
    rw [ofList, insertList, List.foldl_append, List.foldl_cons, ← insertList,
      get?_insertList_of_absent _ hafter, get?_insert, if_pos rfl]

theorem settles_ofList (listing : List (String × α)) : Settles listing (ofList listing).toList where
  names_eq := keys_ofList listing
  lastValue _ _ hentry := get?_ofList_eq_some_iff.1 (get?_of_mem hentry)

/-- Entries that settle a listing are their names, each with what the map from the listing
answers. -/
theorem Settles.map_some_eq {listing entries : List (String × α)} (h : Settles listing entries) :
    entries.map (Prod.map id some) =
      (listing.map Prod.fst).eraseDups.map fun name ↦ (name, (ofList listing).get? name) := by
  rw [← h.names_eq, List.map_map]
  refine List.map_congr_left fun entry hentry ↦ ?_
  show (entry.1, some entry.2) = (entry.1, (ofList listing).get? entry.1)
  rw [get?_ofList_eq_some_iff.2 (h.lastValue entry.1 entry.2 hentry)]

/-- Only one map settles a listing. -/
theorem Settles.eq_ofList {listing : List (String × α)} {map : OrderedMap α}
    (h : Settles listing map.toList) : map = ofList listing := by
  have hinjective : Function.Injective (Prod.map (id : String → String) (some : α → Option α)) :=
    Function.injective_id.prodMap fun _ _ ↦ Option.some.inj
  have hlist : map.toList = (ofList listing).toList := List.map_injective_iff.2 hinjective
    (h.map_some_eq.trans (settles_ofList listing).map_some_eq.symm)
  exact eq_of_toList_eq hlist

/-- Distinct names stay where they are listed. -/
theorem toList_ofList {listing : List (String × α)} (h : (listing.map Prod.fst).Nodup) :
    (ofList listing).toList = listing := by
  induction listing using List.reverseRecOn with
  | nil => rfl
  | append_singleton listing entry ih =>
    obtain ⟨name, value⟩ := entry
    rw [List.map_append, List.map_singleton, List.nodup_append] at h
    obtain ⟨hlisting, -, hdisjoint⟩ := h
    have habsent : name ∉ listing.map Prod.fst :=
      fun hmem ↦ hdisjoint name hmem name List.mem_cons_self rfl
    rw [ofList_append, toList_insert, ih hlisting, Entries.put_of_absent habsent]

/-- Values may be changed in the listing or in the map. -/
theorem map_toList_ofList {β : Type} (f : α → β) (listing : List (String × α)) :
    (ofList listing).toList.map (Prod.map id f) =
      (ofList (listing.map (Prod.map id f))).toList := by
  induction listing using List.reverseRecOn with
  | nil => rfl
  | append_singleton listing entry ih =>
    obtain ⟨key, value⟩ := entry
    rw [ofList_append, toList_insert, Entries.map_put, ih, List.map_append]
    exact (congrArg toList (ofList_append _ key (f value))).symm

/-! ### Sequences of insertions -/

/-- A map is what a sequence of insertions into a new map leaves behind. -/
structure Reflects (inserted : List (String × α)) (map : OrderedMap α) : Prop where
  /-- No key is there twice. -/
  nodup : map.keys.Nodup
  /-- The keys are those that were inserted. -/
  mem_keys_iff : ∀ name, name ∈ map.keys ↔ name ∈ inserted.map Prod.fst
  /-- Of two keys, the one that was inserted first for the first time stands before the other. -/
  inOrder : map.keys.Pairwise fun name other ↦
    (inserted.map Prod.fst).idxOf name < (inserted.map Prod.fst).idxOf other
  /-- A key has the value of its last insertion. -/
  get?_eq_some_iff : ∀ name value, map.get? name = some value ↔ LastValue inserted name value
  /-- A key that was not inserted has none. -/
  get?_eq_none_iff : ∀ name, map.get? name = none ↔ name ∉ inserted.map Prod.fst
  /-- Going through the entries shows what the look-up of each key does. -/
  mem_toList_iff : ∀ name value, (name, value) ∈ map.toList ↔ map.get? name = some value
  /-- There are as many keys as different ones were inserted. -/
  size_eq : map.size = (inserted.map Prod.fst).toFinset.card
  /-- The map is made again from its own entries. -/
  ofList_toList : ofList map.toList = map

theorem ofList_toList (map : OrderedMap α) : ofList map.toList = map :=
  eq_of_toList_eq (toList_ofList map.distinct)

/-- Insertions into a map are insertions behind its entries. -/
theorem insertList_eq_ofList (map : OrderedMap α) (inserts : List (String × α)) :
    map.insertList inserts = ofList (map.toList ++ inserts) := by
  rw [ofList, insertList, insertList, List.foldl_append]
  exact congrArg (fun start ↦ insertList start inserts) map.ofList_toList.symm

theorem mem_keys_ofList_iff {listing : List (String × α)} {name : String} :
    name ∈ (ofList listing).keys ↔ name ∈ listing.map Prod.fst := by
  rw [keys_ofList, List.mem_eraseDups]

/-- An insertion puts a new key behind the others, where it also stands in the listing. -/
theorem pairwise_keys_ofList (listing : List (String × α)) :
    (ofList listing).keys.Pairwise fun name other ↦
      (listing.map Prod.fst).idxOf name < (listing.map Prod.fst).idxOf other := by
  induction listing using List.reverseRecOn with
  | nil => exact List.Pairwise.nil
  | append_singleton listing entry ih =>
    have hold {name : String} (h : name ∈ (ofList listing).keys) :
        (listing.map Prod.fst ++ [entry.1]).idxOf name = (listing.map Prod.fst).idxOf name := by
      rw [List.idxOf_append, if_pos (mem_keys_ofList_iff.1 h)]
    have hkeys : (ofList listing).keys.Pairwise fun name other ↦
        (listing.map Prod.fst ++ [entry.1]).idxOf name <
          (listing.map Prod.fst ++ [entry.1]).idxOf other :=
      ih.imp_of_mem fun hname hother hlt ↦ by rwa [hold hname, hold hother]
    rw [ofList_append, keys_insert, List.map_append, List.map_singleton]
    split
    · exact hkeys
    · next habsent =>
      refine List.pairwise_append.2 ⟨hkeys, List.pairwise_singleton _ _, ?_⟩
      intro name hname other hother
      obtain rfl := List.mem_singleton.1 hother
      have hlt := List.idxOf_lt_length_iff.2 (mem_keys_ofList_iff.1 hname)
      rw [hold hname, List.idxOf_append, if_neg (mt mem_keys_ofList_iff.2 habsent)]
      exact Nat.lt_add_left _ hlt

theorem size_ofList (listing : List (String × α)) :
    (ofList listing).size = (listing.map Prod.fst).toFinset.card := by
  have hkeys : (ofList listing).keys.toFinset = (listing.map Prod.fst).toFinset := by
    ext name
    rw [List.mem_toFinset, List.mem_toFinset, mem_keys_ofList_iff]
  have hnodup : (ofList listing).keys.Nodup := (ofList listing).distinct
  rw [← hkeys, List.toFinset_card_of_nodup hnodup, keys, List.length_map, size]

theorem get?_eq_none_iff {map : OrderedMap α} {name : String} :
    map.get? name = none ↔ name ∉ map.keys := by
  rw [mem_keys_iff, ← Option.isSome_iff_exists, Option.not_isSome_iff_eq_none]

theorem reflects_ofList (listing : List (String × α)) : Reflects listing (ofList listing) where
  nodup := (ofList listing).distinct
  mem_keys_iff _ := mem_keys_ofList_iff
  inOrder := pairwise_keys_ofList listing
  get?_eq_some_iff _ _ := get?_ofList_eq_some_iff
  get?_eq_none_iff _ := get?_eq_none_iff.trans (not_congr mem_keys_ofList_iff)
  mem_toList_iff _ _ := ⟨get?_of_mem, mem_of_get?⟩
  size_eq := size_ofList listing
  ofList_toList := (ofList listing).ofList_toList

/-- **Maps in order of first insertion.** Whatever is inserted into a new map, one entry after
another, the map reflects these insertions; what is inserted into a map that has entries comes after
the insertions of those. -/
theorem reflects_insertList (inserts : List (String × α)) :
    Reflects inserts (ofList inserts) ∧
      ∀ map : OrderedMap α, Reflects (map.toList ++ inserts) (map.insertList inserts) := by
  refine ⟨reflects_ofList inserts, fun map ↦ ?_⟩
  rw [insertList_eq_ofList]
  exact reflects_ofList (map.toList ++ inserts)

example : (ofList [("b", 1), ("a", 2), ("b", 3)]).toList = [("b", 3), ("a", 2)] := by decide

end OrderedMap

end SemanticLayer
