import SemanticLayer.Json.Decode
import SemanticLayer.Proofs.Json.Written

/-!
# Documents inside objects

Documents that are read one by one are read as the values of an object, when they are written
between braces, each behind a key and a colon, with commas between them
(`Tree.parse?_objectText`). Keys and values may have blanks around them, and keys may be written
with escapes: all that counts is what they are read as. Keys may also be repeated. That matters
where an object is read as a record, whose known fields must not be; which of them are known does
not depend on their values (`Decoder.knownFields_replace`).
-/

namespace SemanticLayer.Json

/-- Texts of keys and values between braces, with colons and commas between them. -/
def objectText (entries : List (String × String)) : String :=
  Value.openBrace ++ ",".intercalate (entries.map fun entry ↦ entry.1 ++ ":" ++ entry.2) ++
    Value.closeBrace

/-- An entry of an object, with what follows it. -/
def entryFront (entry : String × String) (rest : List Char) : List Char :=
  entry.1.toList ++ ':' :: (entry.2.toList ++ rest)

/-- What follows the first entry of an object. -/
def objectTail : List (String × String) → List Char
  | [] => ['\x7d']
  | entry :: entries => ',' :: entryFront entry (objectTail entries)

theorem length_entryFront (entry : String × String) (rest : List Char) :
    (entryFront entry rest).length =
      entry.1.toList.length + (entry.2.toList.length + rest.length + 1) := by
  rw [entryFront, List.length_append, List.length_cons, List.length_append]

theorem toList_objectText_cons (entry : String × String) (entries : List (String × String)) :
    (objectText (entry :: entries)).toList = '\x7b' :: entryFront entry (objectTail entries) := by
  have htail (entry : String × String) (entries : List (String × String)) :
      (",".intercalate ((entry :: entries).map fun entry ↦ entry.1 ++ ":" ++ entry.2)).toList ++
        ['\x7d'] = entryFront entry (objectTail entries) := by
    induction entries generalizing entry with
    | nil =>
      rw [List.map_cons, List.map_nil, String.intercalate_singleton, objectTail, entryFront,
        String.toList_append, String.toList_append, List.append_assoc, List.append_assoc]
      rfl
    | cons next entries ih =>
      have hnext := ih next
      rw [List.map_cons] at hnext
      rw [List.map_cons, List.map_cons, String.intercalate_cons_cons, String.toList_append,
        String.toList_append, String.toList_append, String.toList_append, List.append_assoc,
        List.append_assoc, List.append_assoc, List.append_assoc, hnext, objectTail, entryFront]
      rfl
  rw [objectText, String.toList_append, String.toList_append, ← htail, List.append_assoc]
  rfl

namespace Tree

theorem closes_colon : Closes ':' :=
  ⟨by decide, Number.ends_cons (by decide)⟩

/-- An entry of an object is read as a key and a value. -/
structure EntryParses (entry : String × String) (found : Option String × Tree) : Prop where
  key : parse? entry.1 = some (.string found.1)
  value : parse? entry.2 = some found.2

/-- What is taken as a string starts with a quote. -/
theorem takeString_of_take {fuel : Nat} {text rest : List Char} {value : Option String}
    (h : take fuel text = some (.string value, rest)) :
    ∃ inside, text = '"' :: inside ∧ takeString inside = some (value, rest) := by
  cases fuel with
  | zero => cases h
  | succ fuel =>
    unfold take at h
    split at h
    · cases h
    · cases h
    · cases h
    · next inside =>
      obtain ⟨⟨value', rest'⟩, hstring, hpair⟩ := Option.map_eq_some_iff.1 h
      cases hpair
      exact ⟨inside, rfl, hstring⟩
    · split at h
      · cases h
      · obtain ⟨_, _, hpair⟩ := Option.map_eq_some_iff.1 h
        cases hpair
    · split at h
      · cases h
      · obtain ⟨_, _, hpair⟩ := Option.map_eq_some_iff.1 h
        cases hpair
    · obtain ⟨_, _, hpair⟩ := Option.map_eq_some_iff.1 h
      cases hpair

/-- The key at the front of an entry is found, and what follows the colon is left. -/
theorem takeString_entryFront {entry : String × String} {key : Option String}
    (h : parse? entry.1 = some (.string key)) (rest : List Char) :
    ∃ inside after, skipSpace (entryFront entry rest) = '"' :: inside ∧
      takeString inside = some (key, after) ∧
      skipSpace after = ':' :: (entry.2.toList ++ rest) := by
  obtain ⟨after, htake, hcolon⟩ := take_of_parse? h (Nat.le_refl _) closes_colon
    (entry.2.toList ++ rest)
  obtain ⟨inside, hquote, hstring⟩ := takeString_of_take htake
  exact ⟨inside, after, hquote, hstring, hcolon⟩

/-- An entry is taken in front of the next one. -/
theorem takeEntries_entryFront_comma {entry : String × String} {found : Option String × Tree}
    (h : EntryParses entry found) {fuel : Nat} (hfuel : 2 * entry.2.toList.length + 2 ≤ fuel)
    (read : List (Option String × Tree)) (rest : List Char) :
    takeEntries (fuel + 1) read (entryFront entry (',' :: rest)) =
      takeEntries fuel (found :: read) rest := by
  obtain ⟨inside, after, hquote, hstring, hcolon⟩ := takeString_entryFront h.key (',' :: rest)
  obtain ⟨left, htake, hcomma⟩ := take_of_parse? h.value hfuel closes_comma rest
  rw [takeEntries, hquote]
  simp only [hstring, hcolon, htake, hcomma]

/-- An entry is taken in front of the closing brace. -/
theorem takeEntries_entryFront_brace {entry : String × String} {found : Option String × Tree}
    (h : EntryParses entry found) {fuel : Nat} (hfuel : 2 * entry.2.toList.length + 2 ≤ fuel)
    (read : List (Option String × Tree)) (rest : List Char) :
    takeEntries (fuel + 1) read (entryFront entry ('\x7d' :: rest)) =
      some (read.reverse ++ [found], rest) := by
  obtain ⟨inside, after, hquote, hstring, hcolon⟩ := takeString_entryFront h.key ('\x7d' :: rest)
  obtain ⟨left, htake, hbrace⟩ := take_of_parse? h.value hfuel closes_brace rest
  rw [takeEntries, hquote]
  simp only [hstring, hcolon, htake, hbrace, List.reverse_cons]

/-- Entries with commas between them are read as the entries of an object. -/
theorem takeEntries_objectTail {entry : String × String} {found : Option String × Tree}
    {entries : List (String × String)} {founds : List (Option String × Tree)}
    (h : List.Forall₂ EntryParses (entry :: entries) (found :: founds)) {fuel : Nat}
    {read : List (Option String × Tree)}
    (hfuel : 2 * (entryFront entry (objectTail entries)).length + 2 ≤ fuel) :
    takeEntries fuel read (entryFront entry (objectTail entries)) =
      some (read.reverse ++ found :: founds, []) := by
  induction entries generalizing entry found founds fuel read with
  | nil =>
    obtain ⟨hentry, hrest⟩ := List.forall₂_cons.1 h
    cases hrest
    obtain ⟨fuel, rfl⟩ : ∃ n, fuel = n + 1 := ⟨fuel - 1, by omega⟩
    rw [length_entryFront] at hfuel
    exact takeEntries_entryFront_brace hentry (by omega) read []
  | cons next entries ih =>
    obtain ⟨hentry, hrest⟩ := List.forall₂_cons.1 h
    cases founds with
    | nil => cases hrest
    | cons nextFound founds =>
      obtain ⟨fuel, rfl⟩ : ∃ n, fuel = n + 1 := ⟨fuel - 1, by omega⟩
      rw [length_entryFront, objectTail, List.length_cons] at hfuel
      rw [objectTail, takeEntries_entryFront_comma hentry (by omega), ih hrest (by omega),
        List.reverse_cons, List.append_assoc, List.singleton_append]

/-- **An object of documents.** Keys and documents that are read one by one are read as the entries
of the object that they are written as. -/
theorem parse?_objectText {entries : List (String × String)}
    {founds : List (Option String × Tree)} (h : List.Forall₂ EntryParses entries founds) :
    parse? (objectText entries) = some (object founds) := by
  refine parse?_eq_some_iff.2 ⟨[], ?_, rfl⟩
  cases h with
  | nil => rfl
  | @cons entry found entries founds hentry hrest =>
    rw [toList_objectText_cons, front?, skipSpace_cons (by decide), List.length_cons]
    exact take_of_takeEntries (takeEntries_objectTail (.cons hentry hrest) (by omega))

theorem parse?_listText {texts : List String} {trees : List Tree}
    (h : List.Forall₂ (fun text tree ↦ parse? text = some tree) texts trees) :
    parse? (listText texts) = some (array trees) :=
  parse?_eq_some_iff.2 ⟨[], front?_listText h, rfl⟩

end Tree

/-! ### Records that differ in one field -/

namespace Decoder

section Lookup

variable {front back : List (String × Tree)} {key name : String}

theorem lookup_middle (h : front.lookup key = none) (value : Tree) :
    (front ++ (key, value) :: back).lookup key = some value := by
  rw [List.lookup_append, h, Option.none_or, List.lookup_cons_self]

theorem lookup_middle_of_ne (h : name ≠ key) (value : Tree) :
    (front ++ (key, value) :: back).lookup name = (front ++ back).lookup name := by
  rw [List.lookup_append, List.lookup_cons, beq_eq_false_iff_ne.2 h, List.lookup_append]

end Lookup

theorem knownFields_cons {names : List String} (key : String) (value : Tree)
    (entries : List (Option String × Tree)) :
    knownFields names ((some key, value) :: entries) = (knownFields names entries).bind fun rest ↦
      if key ∈ names then
        if (rest.lookup key).isSome = true then none else some ((key, value) :: rest)
      else some rest := by
  simp only [← List.contains_iff_mem]
  rfl

/-- Whether the fields of a record are known and what the others are does not depend on the value
of one of them. -/
theorem knownFields_replace {names : List String} {key : String} (hkey : key ∈ names)
    (before after : List (Option String × Tree)) :
    (∀ value, knownFields names (before ++ (some key, value) :: after) = none) ∨
    ∃ front back, front.lookup key = none ∧ ∀ value,
      knownFields names (before ++ (some key, value) :: after) =
        some (front ++ (key, value) :: back) := by
  induction before with
  | nil =>
    simp only [List.nil_append, knownFields_cons, if_pos hkey]
    cases hafter : knownFields names after with
    | none => exact .inl fun value ↦ rfl
    | some back =>
      by_cases hback : (back.lookup key).isSome = true
      · exact .inl fun value ↦ if_pos hback
      · exact .inr ⟨[], back, rfl, fun value ↦ if_neg hback⟩
  | cons entry before ih =>
    obtain ⟨name, found⟩ := entry
    cases name with
    | none => exact .inl fun value ↦ rfl
    | some name =>
      simp only [List.cons_append, knownFields_cons]
      rcases ih with hnone | ⟨front, back, hfront, hsome⟩
      · exact .inl fun value ↦ by rw [hnone, Option.bind_none]
      -- what decides about an entry in front is whether its name is known and comes again
      · simp only [hsome, Option.bind_some]
        by_cases hname : name ∈ names
        · simp only [if_pos hname]
          by_cases heq : name = key
          · subst heq
            refine .inl fun value ↦ if_pos ?_
            rw [lookup_middle hfront, Option.isSome_some]
          · simp only [lookup_middle_of_ne heq]
            by_cases hrest : ((front ++ back).lookup name).isSome = true
            · exact .inl fun value ↦ if_pos hrest
            · refine .inr ⟨(name, found) :: front, back, ?_, fun value ↦ if_neg hrest⟩
              rw [List.lookup_cons, beq_eq_false_iff_ne.2 (Ne.symm heq)]
              exact hfront
        · exact .inr ⟨front, back, hfront, fun value ↦ if_neg hname⟩

end Decoder

end SemanticLayer.Json
