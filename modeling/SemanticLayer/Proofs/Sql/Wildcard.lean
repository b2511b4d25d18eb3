import Mathlib
import SemanticLayer.Sql.Dialect

/-!
# Wildcards

A pattern is read as a list of atoms: `%` stands for any text, `_` for any one character, and every
other character, or any character behind a backslash, for itself. A text matches if it can be cut
into what the atoms stand for, one after another (`matchesAtoms_cons`), ignoring case. A pattern
that ends with a backslash of its own has no atoms, and no text matches it.

The kinds of match put wildcards around a value (`surround`). Between them the value should be
looked for as it is: as a part of the text, as its beginning, as its end or as all of it (`IsPart`).
But it is read as a pattern as well. `forall_likes_iff` says for which values this makes no
difference: for exactly those that have none of the three special characters. A pattern that has one
matches a text that is shorter or has another character in its place (`exists_sample`), and a
backslash at the end takes the wildcard behind it away (`atoms?_append_of_eq_none`).
-/

namespace SemanticLayer.Sql.Like

open Query (MatchKind)

/-! ### Patterns -/

/-- A part of a pattern. -/
inductive Atom where
  /-- Any text. -/
  | any
  /-- Any one character. -/
  | one
  /-- A character. -/
  | char (c : Char)
  deriving DecidableEq, Repr

/-- The characters that do not stand for themselves. -/
def isSpecial (c : Char) : Bool :=
  c == '%' || c == '_' || c == '\\'

/-- What a character stands for that has no backslash in front of it and is none. -/
def Atom.ofChar (c : Char) : Atom :=
  if c = '%' then any else if c = '_' then one else char c

/-- The atoms of a pattern. -/
def atoms? : List Char → Option (List Atom)
  | [] => some []
  | c :: pattern =>
    if c = '\\' then
      match pattern with
      | [] => none
      | c :: pattern => (atoms? pattern).map (.char c :: ·)
    else (atoms? pattern).map (.ofChar c :: ·)

/-- A way to ignore case: a common form for the characters that differ only in case, which the
special characters share with no other. -/
structure CaseFolding where
  /-- The common form. -/
  fold : Char → Char
  /-- A special character is the only one of its form. -/
  fold_special : ∀ c special, isSpecial special = true → fold c = fold special → c = special

/-- Special characters have no case. -/
theorem eq_of_toLower_eq {c special : Char} (hspecial : isSpecial special = true)
    (h : c.toLower = special.toLower) : c = special := by
  have hcases : special = '%' ∨ special = '_' ∨ special = '\\' := by
    simpa [isSpecial, or_assoc] using hspecial
  have hself : special.toLower = special := by
    rcases hcases with rfl | rfl | rfl <;> rfl
  rw [hself, Char.toLower] at h
  split at h
  · next hupper =>
    have hval := congrArg Char.val h
    obtain ⟨hlow, hhigh⟩ := hupper
    rw [ge_iff_le] at hlow
    rw [UInt32.le_iff_toNat_le] at hlow hhigh
    rcases hcases with rfl | rfl | rfl <;>
      simp [← UInt32.toNat_inj, UInt32.toNat_add] at hval hlow hhigh <;> omega
  · exact h

/-- Letters of the alphabet are the same in capitals or not. -/
def CaseFolding.ascii : CaseFolding :=
  ⟨Char.toLower, fun _ _ ↦ eq_of_toLower_eq⟩

variable (folding : CaseFolding)

/-- Whether a text consists of what the atoms stand for, one after another. -/
def matchesAtoms : List Atom → List Char → Bool
  | [], text => text.isEmpty
  | .any :: atoms, text => text.tails.any (matchesAtoms atoms)
  | .one :: atoms, text =>
    match text with
    | [] => false
    | _ :: text => matchesAtoms atoms text
  | .char c :: atoms, text =>
    match text with
    | [] => false
    | d :: text => folding.fold c == folding.fold d && matchesAtoms atoms text

/-- Whether a text matches a pattern. -/
def likes (pattern text : List Char) : Bool :=
  (atoms? pattern).any (matchesAtoms folding · text)

/-- The pattern of a kind of match for a value. -/
def surround (kind : MatchKind) (value : List Char) : List Char :=
  (wildcards kind).1.toList ++ value ++ (wildcards kind).2.toList

/-- How a kind of match relates what it matches to the whole text. -/
def IsPart {α : Type} (kind : MatchKind) (part text : List α) : Prop :=
  match kind with
  | .contains => part <:+: text
  | .startsWith => part <+: text
  | .endsWith => part <:+ text
  | .equals => part = text

/-- A value without special characters. -/
def IsPlain (value : List Char) : Prop :=
  ∀ c ∈ value, isSpecial c = false

variable {folding}

/-! ### Matching -/

/-- What an atom stands for. -/
def Atom.Takes (folding : CaseFolding) : Atom → List Char → Prop
  | any, _ => True
  | one, text => ∃ c, text = [c]
  | char c, text => ∃ d, text = [d] ∧ folding.fold c = folding.fold d

/-- An atom takes a part of the text from the front. -/
theorem matchesAtoms_cons {atom : Atom} {atoms : List Atom} {text : List Char} :
    matchesAtoms folding (atom :: atoms) text = true ↔
      ∃ front back, text = front ++ back ∧ atom.Takes folding front ∧
        matchesAtoms folding atoms back = true := by
  cases atom with
  | any =>
    simp only [matchesAtoms, List.any_eq_true, List.mem_tails, Atom.Takes, true_and]
    constructor
    · rintro ⟨back, ⟨front, rfl⟩, hback⟩
      exact ⟨front, back, rfl, hback⟩
    · rintro ⟨front, back, rfl, hback⟩
      exact ⟨back, List.suffix_append front back, hback⟩
  | one =>
    rcases text with - | ⟨c, text⟩
    · simp [matchesAtoms, Atom.Takes]
    · simp [matchesAtoms, Atom.Takes]
  | char c =>
    rcases text with - | ⟨d, text⟩
    · simp [matchesAtoms, Atom.Takes]
    · simp [matchesAtoms, Atom.Takes]

theorem matchesAtoms_nil {text : List Char} : matchesAtoms folding [] text = true ↔ text = [] :=
  List.isEmpty_iff

theorem matchesAtoms_append {first rest : List Atom} {text : List Char} :
    matchesAtoms folding (first ++ rest) text = true ↔
      ∃ front back, text = front ++ back ∧ matchesAtoms folding first front = true ∧
        matchesAtoms folding rest back = true := by
  induction first generalizing text with
  | nil => simp [matchesAtoms_nil]
  | cons atom first ih =>
    simp only [List.cons_append, matchesAtoms_cons, ih]
    constructor
    · rintro ⟨front, -, rfl, hatom, middle, back, rfl, hmiddle, hback⟩
      exact ⟨front ++ middle, back, (List.append_assoc _ _ _).symm,
        ⟨front, middle, rfl, hatom, hmiddle⟩, hback⟩
    · rintro ⟨-, back, rfl, ⟨front, middle, rfl, hatom, hmiddle⟩, hback⟩
      exact ⟨front, middle ++ back, List.append_assoc _ _ _, hatom, middle, back, rfl, hmiddle,
        hback⟩

theorem matchesAtoms_any {text : List Char} : matchesAtoms folding [.any] text = true :=
  matchesAtoms_cons.2 ⟨text, [], (List.append_nil _).symm, trivial, rfl⟩

theorem matchesAtoms_any_cons {atoms : List Atom} {text : List Char} :
    matchesAtoms folding (.any :: atoms) text = true ↔
      ∃ back, back <:+ text ∧ matchesAtoms folding atoms back = true := by
  simp only [matchesAtoms, List.any_eq_true, List.mem_tails]

theorem matchesAtoms_concat_any {atoms : List Atom} {text : List Char} :
    matchesAtoms folding (atoms ++ [.any]) text = true ↔
      ∃ front, front <+: text ∧ matchesAtoms folding atoms front = true := by
  simp only [matchesAtoms_append, matchesAtoms_any, and_true]
  constructor
  · rintro ⟨front, back, rfl, hfront⟩
    exact ⟨front, List.prefix_append front back, hfront⟩
  · rintro ⟨front, ⟨back, rfl⟩, hfront⟩
    exact ⟨front, back, rfl, hfront⟩

/-- Characters that stand for themselves match what differs from them only in case. -/
theorem matchesAtoms_chars {value text : List Char} :
    matchesAtoms folding (value.map .char) text = true ↔
      value.map folding.fold = text.map folding.fold := by
  induction value generalizing text with
  | nil => exact matchesAtoms_nil.trans ⟨fun h ↦ by rw [h], fun h ↦ List.map_eq_nil_iff.1 h.symm⟩
  | cons c value ih =>
    rcases text with - | ⟨d, text⟩
    · simp [matchesAtoms]
    · simp [matchesAtoms, ih]

/-! ### Atoms of patterns -/

theorem atoms?_backslash_cons (c : Char) (pattern : List Char) :
    atoms? ('\\' :: c :: pattern) = (atoms? pattern).map (.char c :: ·) := by
  rw [atoms?, if_pos rfl]

theorem atoms?_cons_of_ne {c : Char} (hc : c ≠ '\\') (pattern : List Char) :
    atoms? (c :: pattern) = (atoms? pattern).map (.ofChar c :: ·) := by
  rw [atoms?.eq_def]
  exact if_neg hc

theorem atoms?_append {pattern : List Char} {atoms : List Atom} (h : atoms? pattern = some atoms)
    (rest : List Char) : atoms? (pattern ++ rest) = (atoms? rest).map (atoms ++ ·) := by
  fun_induction atoms? pattern generalizing atoms with
  | case1 =>
    cases h
    exact Option.map_id'.symm
  | case2 => cases h
  | case3 c pattern ih =>
    obtain ⟨atoms, hatoms, rfl⟩ := Option.map_eq_some_iff.1 h
    rw [List.cons_append, List.cons_append, atoms?_backslash_cons, ih hatoms, Option.map_map]
    rfl
  | case4 c pattern hc ih =>
    obtain ⟨atoms, hatoms, rfl⟩ := Option.map_eq_some_iff.1 h
    rw [List.cons_append, atoms?_cons_of_ne hc, ih hatoms, Option.map_map]
    rfl

/-- A pattern without atoms ends with a backslash of its own, which makes the next character stand
for itself. -/
theorem atoms?_append_of_eq_none {pattern : List Char} (h : atoms? pattern = none) :
    ∃ front atoms, pattern = front ++ ['\\'] ∧
      ∀ c rest, atoms? (pattern ++ c :: rest) = (atoms? rest).map (atoms ++ .char c :: ·) := by
  fun_induction atoms? pattern with
  | case1 => cases h
  | case2 => exact ⟨[], [], rfl, atoms?_backslash_cons⟩
  | case3 c pattern ih =>
    obtain ⟨front, atoms, rfl, hatoms⟩ := ih (Option.map_eq_none_iff.1 h)
    refine ⟨'\\' :: c :: front, .char c :: atoms, rfl, fun d rest ↦ ?_⟩
    rw [List.cons_append, List.cons_append, atoms?_backslash_cons, hatoms, Option.map_map]
    rfl
  | case4 c pattern hc ih =>
    obtain ⟨front, atoms, rfl, hatoms⟩ := ih (Option.map_eq_none_iff.1 h)
    refine ⟨c :: front, .ofChar c :: atoms, rfl, fun d rest ↦ ?_⟩
    rw [List.cons_append, atoms?_cons_of_ne hc, hatoms, Option.map_map]
    rfl

theorem isSpecial_eq_false_iff {c : Char} :
    isSpecial c = false ↔ c ≠ '%' ∧ c ≠ '_' ∧ c ≠ '\\' := by
  simp [isSpecial, and_assoc]

theorem atoms?_of_isPlain {value : List Char} (h : IsPlain value) :
    atoms? value = some (value.map .char) := by
  induction value with
  | nil => rfl
  | cons c value ih =>
    obtain ⟨hc, hvalue⟩ := List.forall_mem_cons.1 h
    obtain ⟨hany, hone, hbackslash⟩ := isSpecial_eq_false_iff.1 hc
    rw [atoms?_cons_of_ne hbackslash, ih hvalue, Atom.ofChar, if_neg hany, if_neg hone]
    rfl

/-! ### Values in patterns -/

theorem IsPart.refl {α : Type} (kind : MatchKind) (text : List α) : IsPart kind text text := by
  cases kind with
  | contains => exact List.infix_refl text
  | startsWith => exact List.prefix_refl text
  | endsWith => exact List.suffix_refl text
  | equals => rfl

theorem IsPart.isInfix {α : Type} {kind : MatchKind} {part text : List α}
    (h : IsPart kind part text) : part <:+: text := by
  cases kind with
  | contains => exact h
  | startsWith => exact List.IsPrefix.isInfix h
  | endsWith => exact List.IsSuffix.isInfix h
  | equals =>
    obtain rfl : part = text := h
    exact List.infix_refl part

theorem isPart_map_iff {α : Type} {kind : MatchKind} {f : α → α} {part text : List α} :
    IsPart kind part (text.map f) ↔ ∃ other, IsPart kind other text ∧ part = other.map f := by
  cases kind with
  | contains => exact List.infix_map_iff
  | startsWith => exact List.prefix_map_iff
  | endsWith => exact List.suffix_map_iff
  | equals => simp only [IsPart, exists_eq_left]

theorem atoms?_surround (kind : MatchKind) {value : List Char} {atoms : List Atom}
    (h : atoms? value = some atoms) :
    atoms? (surround kind value) = some ((wildcards kind).1.toList.map .ofChar ++
      (atoms ++ (wildcards kind).2.toList.map .ofChar)) := by
  have hbefore : atoms? (wildcards kind).1.toList =
      some ((wildcards kind).1.toList.map .ofChar) := by
    cases kind <;> rfl
  have hafter : atoms? (wildcards kind).2.toList =
      some ((wildcards kind).2.toList.map .ofChar) := by
    cases kind <;> rfl
  rw [surround, List.append_assoc, atoms?_append hbefore, atoms?_append h, hafter,
    Option.map_some, Option.map_some]

/-- Between its wildcards, a value matches the part of the text that belongs to the kind. -/
theorem likes_surround (kind : MatchKind) {value : List Char} {atoms : List Atom}
    (h : atoms? value = some atoms) (text : List Char) :
    likes folding (surround kind value) text = true ↔
      ∃ part, IsPart kind part text ∧ matchesAtoms folding atoms part = true := by
  rw [likes, atoms?_surround kind h, Option.any_some]
  cases kind with
  | contains =>
    show matchesAtoms folding (.any :: (atoms ++ [.any])) text = true ↔ _
    simp only [matchesAtoms_any_cons, matchesAtoms_concat_any, IsPart,
      List.infix_iff_prefix_suffix]
    constructor
    · rintro ⟨back, hback, part, hpart, hmatches⟩
      exact ⟨part, ⟨back, hpart, hback⟩, hmatches⟩
    · rintro ⟨part, ⟨back, hpart, hback⟩, hmatches⟩
      exact ⟨back, hback, part, hpart, hmatches⟩
  | startsWith => exact matchesAtoms_concat_any
  | endsWith =>
    show matchesAtoms folding (.any :: (atoms ++ [])) text = true ↔ _
    rw [List.append_nil, matchesAtoms_any_cons]
    rfl
  | equals =>
    show matchesAtoms folding (atoms ++ []) text = true ↔ _
    simp only [List.append_nil, IsPart, exists_eq_left]

/-- A value without special characters is meant literally. -/
theorem likes_of_isPlain (kind : MatchKind) {value : List Char} (h : IsPlain value)
    (text : List Char) : likes folding (surround kind value) text = true ↔
      IsPart kind (value.map folding.fold) (text.map folding.fold) := by
  rw [likes_surround kind (atoms?_of_isPlain h), isPart_map_iff]
  simp only [matchesAtoms_chars]

/-! ### Special characters in values -/

theorem map_ne_map_of_length_lt {α β : Type} (f : α → β) {first rest : List α}
    (h : rest.length < first.length) : first.map f ≠ rest.map f := by
  intro heq
  have hlength := congrArg List.length heq
  rw [List.length_map, List.length_map] at hlength
  exact h.ne hlength.symm

/-- A pattern with atoms matches a text that is not longer, and is the pattern itself only if there
are no special characters in it. -/
theorem exists_sample (folding : CaseFolding) {pattern : List Char} {atoms : List Atom}
    (h : atoms? pattern = some atoms) :
    ∃ text : List Char, matchesAtoms folding atoms text = true ∧ text.length ≤ pattern.length ∧
      (pattern.map folding.fold = text.map folding.fold → IsPlain pattern) := by
  fun_induction atoms? pattern generalizing atoms with
  | case1 =>
    cases h
    exact ⟨[], rfl, Nat.le_refl _, fun _ ↦ List.forall_mem_nil _⟩
  | case2 => cases h
  | case3 c pattern ih =>
    obtain ⟨atoms, hatoms, rfl⟩ := Option.map_eq_some_iff.1 h
    obtain ⟨text, hmatches, hlength, -⟩ := ih hatoms
    -- the backslash makes the pattern longer
    have hshorter : (c :: text).length < ('\\' :: c :: pattern).length :=
      Nat.succ_lt_succ (Nat.lt_succ_of_le hlength)
    exact ⟨c :: text, matchesAtoms_cons.2 ⟨[c], text, rfl, ⟨c, rfl, rfl⟩, hmatches⟩, hshorter.le,
      fun heq ↦ absurd heq (map_ne_map_of_length_lt _ hshorter)⟩
  | case4 c pattern hc ih =>
    obtain ⟨atoms, hatoms, rfl⟩ := Option.map_eq_some_iff.1 h
    obtain ⟨text, hmatches, hlength, hplain⟩ := ih hatoms
    by_cases hany : c = '%'
    · subst hany
      have hshorter : text.length < ('%' :: pattern).length := Nat.lt_succ_of_le hlength
      exact ⟨text, matchesAtoms_any_cons.2 ⟨text, List.suffix_refl text, hmatches⟩, hshorter.le,
        fun heq ↦ absurd heq (map_ne_map_of_length_lt _ hshorter)⟩
    by_cases hone : c = '_'
    · subst hone
      refine ⟨'a' :: text, matchesAtoms_cons.2 ⟨['a'], text, rfl, ⟨'a', rfl⟩, hmatches⟩,
        Nat.succ_le_succ hlength, fun heq ↦ ?_⟩
      exact absurd (folding.fold_special 'a' '_' rfl (List.cons.inj heq).1.symm) (by decide)
    · rw [Atom.ofChar, if_neg hany, if_neg hone]
      refine ⟨c :: text, matchesAtoms_cons.2 ⟨[c], text, rfl, ⟨c, rfl, rfl⟩, hmatches⟩,
        Nat.succ_le_succ hlength, fun heq ↦ ?_⟩
      exact List.forall_mem_cons.2 ⟨isSpecial_eq_false_iff.2 ⟨hany, hone, hc⟩,
        hplain (List.cons.inj heq).2⟩

/-- A percent sign that stands for itself is not matched by a backslash. -/
theorem matchesAtoms_concat_percent (atoms : List Atom) (front : List Char) :
    matchesAtoms folding (atoms ++ [.char '%']) (front ++ ['\\']) = false := by
  rw [Bool.eq_false_iff]
  intro hmatches
  obtain ⟨first, last, heq, -, hlast⟩ := matchesAtoms_append.1 hmatches
  have hpercent : ['%'].map folding.fold = last.map folding.fold := matchesAtoms_chars.1 hlast
  obtain ⟨d, rfl, hd⟩ := List.map_eq_singleton_iff.1 hpercent.symm
  obtain rfl := List.singleton_injective (List.append_inj' heq rfl).2
  exact absurd (folding.fold_special '\\' '%' rfl hd) (by decide)

/-- A pattern without atoms does not match itself, also with wildcards around it: one behind it
becomes a percent sign that stands for itself. -/
theorem likes_surround_self (kind : MatchKind) {value : List Char} (h : atoms? value = none) :
    likes folding (surround kind value) value = false := by
  obtain ⟨front, atoms, hvalue, hrest⟩ := atoms?_append_of_eq_none h
  have hbehind : atoms? (value ++ ['%']) = some (atoms ++ [.char '%']) := hrest '%' []
  have hbefore (pattern : List Char) :
      atoms? ('%' :: pattern) = (atoms? pattern).map (.any :: ·) := atoms?_cons_of_ne (by decide) _
  cases kind with
  | contains =>
    show likes folding ('%' :: (value ++ ['%'])) value = false
    rw [likes, hbefore, hbehind, Option.map_some, Option.any_some, hvalue]
    exact matchesAtoms_concat_percent (.any :: atoms) front
  | startsWith =>
    show likes folding (value ++ ['%']) value = false
    rw [likes, hbehind, Option.any_some, hvalue]
    exact matchesAtoms_concat_percent atoms front
  | endsWith =>
    show likes folding ('%' :: (value ++ [])) value = false
    rw [List.append_nil, likes, hbefore, h]
    rfl
  | equals =>
    show likes folding (value ++ []) value = false
    rw [List.append_nil, likes, h]
    rfl

/-- **Which values are meant literally**: those without special characters, for each kind of
match. -/
theorem forall_likes_iff (folding : CaseFolding) (kind : MatchKind) (value : List Char) :
    (∀ text, likes folding (surround kind value) text = true ↔
      IsPart kind (value.map folding.fold) (text.map folding.fold)) ↔ IsPlain value := by
  constructor
  · intro h
    cases hatoms : atoms? value with
    | none =>
      have hself := (h value).2 (.refl kind _)
      rw [likes_surround_self kind hatoms] at hself
      cases hself
    | some atoms =>
      obtain ⟨text, hmatches, hlength, hplain⟩ := exists_sample folding hatoms
      have hpart := (h text).1 ((likes_surround kind hatoms text).2 ⟨text, .refl kind _, hmatches⟩)
      refine hplain (hpart.isInfix.eq_of_length_le ?_)
      rwa [List.length_map, List.length_map]
  · exact likes_of_isPlain kind

end SemanticLayer.Sql.Like
