import Mathlib.Data.List.DropRight
import Mathlib.Data.List.Forall2
import Mathlib.Data.List.TakeWhile
import SemanticLayer.Json.Tree
import SemanticLayer.Proofs.Sequence

/-!
# Documents inside longer texts

What the grammar takes from the front of a text it also takes when more text follows, and with more
steps to spare. A number is the one exception, since it might go on with what follows
(`Number.Ends`); but a number inside a list or an object is always followed by something that ends
it.

So documents that are read one by one are also read as the items of a list, when they are written
between brackets with commas (`Tree.front?_listText`).
-/

namespace SemanticLayer.Json

variable {α : Type}

/-- No number goes on with what follows. -/
def Number.Ends (rest : List Char) : Prop :=
  ∀ c ∈ rest.head?, c.isDigit = false ∧ c ≠ '.' ∧ c ≠ 'e' ∧ c ≠ 'E'

/-- What is taken from the front of a text is taken from a longer text as well, unless it goes up to
the end of the one and might go on in the other. -/
def Extends (taker : List Char → Option (α × List Char)) : Prop :=
  ∀ {text : List Char} {a : α} {rest : List Char}, taker text = some (a, rest) →
    ∀ {suffix : List Char}, (rest = [] → Number.Ends suffix) →
      taker (text ++ suffix) = some (a, rest ++ suffix)

theorem dropWhile_append_of_ne_nil {p : Char → Bool} {text : List Char}
    (h : text.dropWhile p ≠ []) (suffix : List Char) :
    (text ++ suffix).dropWhile p = text.dropWhile p ++ suffix := by
  rw [List.dropWhile_append, if_neg (by rwa [List.isEmpty_iff])]

/-! ### Numbers -/

namespace Number

theorem ends_nil : Ends [] := by
  intro c hc
  cases hc

theorem ends_cons {c : Char} (h : c.isDigit = false ∧ c ≠ '.' ∧ c ≠ 'e' ∧ c ≠ 'E')
    (rest : List Char) : Ends (c :: rest) := by
  rintro _ ⟨⟩
  exact h

theorem takeDigits_append {run : List Char} (hrun : ∀ c ∈ run, c.isDigit = true) (hne : run ≠ [])
    {rest : List Char} (hrest : ∀ c ∈ rest.head?, c.isDigit = false) :
    takeDigits (run ++ rest) = some (run, rest) := by
  obtain ⟨htake, hdrop⟩ := takeWhile_dropWhile_append hrun hrest
  have hempty : run.isEmpty = false := by rwa [List.isEmpty_eq_false_iff]
  simp only [takeDigits, htake, hdrop, hempty]
  rfl

theorem Ends.takeFraction {rest : List Char} (h : Ends rest) :
    takeFraction rest = some (none, rest) := by
  cases rest with
  | nil => rfl
  | cons c rest =>
    obtain ⟨-, hpoint, -⟩ := h c rfl
    rw [Number.takeFraction]
    exact fun tail htail ↦ hpoint (List.cons.inj htail).1

theorem extends_takeDigits : Extends takeDigits := by
  intro text run rest h suffix hends
  simp only [takeDigits] at h
  split at h
  · cases h
  · next hrun =>
    cases h
    have hdigits : ∀ c ∈ text.takeWhile Char.isDigit, c.isDigit = true :=
      fun c hc ↦ List.mem_takeWhile_imp hc
    have hrest : ∀ c ∈ (text.dropWhile Char.isDigit ++ suffix).head?, c.isDigit = false := by
      intro c hc
      cases hdrop : text.dropWhile Char.isDigit with
      | nil =>
        rw [hdrop] at hc
        exact (hends hdrop c hc).1
      | cons first after =>
        rw [hdrop] at hc
        exact head_dropWhile text c (by rw [hdrop]; exact hc)
    have htake := takeDigits_append hdigits (mt List.isEmpty_iff.2 hrun) hrest
    rwa [← List.append_assoc, List.takeWhile_append_dropWhile] at htake

theorem extends_takeWhole : Extends takeWhole := by
  intro text run rest h suffix hends
  unfold takeWhole at h
  split at h
  · split at h
    · next c cs =>
      split at h
      · cases h
      · next hdigit =>
        cases h
        simp only [List.cons_append, takeWhole, if_neg hdigit]
    · cases h
      cases suffix with
      | nil => rfl
      | cons c cs =>
        have hdigit : ¬c.isDigit = true := Bool.eq_false_iff.1 (hends rfl c rfl).1
        simp only [List.cons_append, List.nil_append, takeWhole, if_neg hdigit]
  · next hzero =>
    have hlong := extends_takeDigits h hends
    cases text with
    | nil => cases h
    | cons c cs =>
      have hc : c ≠ '0' := fun hc ↦ hzero cs (hc ▸ rfl)
      rw [List.cons_append, takeWhole, ← List.cons_append]
      · exact hlong
      · intro tail htail
        exact hc (List.cons.inj htail).1

theorem extends_takeFraction : Extends takeFraction := by
  intro text places rest h suffix hends
  unfold takeFraction at h
  split at h
  · obtain ⟨⟨run, rest⟩, hrun, hpair⟩ := Option.map_eq_some_iff.1 h
    cases hpair
    rw [List.cons_append, takeFraction, extends_takeDigits hrun hends]
    rfl
  · next hpoint =>
    cases h
    cases text with
    | nil => exact (hends rfl).takeFraction
    | cons c cs =>
      rw [List.cons_append, takeFraction]
      intro tail htail
      exact hpoint cs (by rw [(List.cons.inj htail).1])

/-- The sign of an exponent, and what follows it. -/
def takeSign : List Char → Bool × List Char
  | '-' :: rest => (true, rest)
  | '+' :: rest => (false, rest)
  | rest => (false, rest)

theorem takeSign_append {text : List Char} (h : text ≠ []) (suffix : List Char) :
    takeSign (text ++ suffix) = ((takeSign text).1, (takeSign text).2 ++ suffix) := by
  cases text with
  | nil => exact absurd rfl h
  | cons c cs =>
    rw [List.cons_append]
    by_cases hminus : c = '-'
    · subst hminus
      rfl
    · by_cases hplus : c = '+'
      · subst hplus
        rfl
      · have hother (rest : List Char) : takeSign (c :: rest) = (false, c :: rest) := by
          rw [takeSign]
          · exact fun tail htail ↦ hminus (List.cons.inj htail).1
          · exact fun tail htail ↦ hplus (List.cons.inj htail).1
        rw [hother, hother]
        rfl

theorem takeExponent_cons (c : Char) (rest : List Char) :
    takeExponent (c :: rest) = if c = 'e' ∨ c = 'E' then
      (takeDigits (takeSign rest).2).map fun (run, after) ↦ (some ((takeSign rest).1, run), after)
      else some (none, c :: rest) := by
  rfl

theorem Ends.takeExponent {rest : List Char} (h : Ends rest) :
    takeExponent rest = some (none, rest) := by
  cases rest with
  | nil => rfl
  | cons c rest =>
    obtain ⟨-, -, hsmall, hlarge⟩ := h c rfl
    rw [takeExponent_cons, if_neg (not_or.2 ⟨hsmall, hlarge⟩)]

theorem extends_takeExponent : Extends takeExponent := by
  intro text exponent rest h suffix hends
  cases text with
  | nil =>
    cases h
    exact (hends rfl).takeExponent
  | cons c cs =>
    rw [List.cons_append]
    rw [takeExponent_cons] at h ⊢
    by_cases hc : c = 'e' ∨ c = 'E'
    · rw [if_pos hc] at h ⊢
      obtain ⟨⟨run, rest⟩, hrun, hpair⟩ := Option.map_eq_some_iff.1 h
      cases hpair
      have hcs : cs ≠ [] := by
        rintro rfl
        cases hrun
      rw [takeSign_append hcs, extends_takeDigits hrun hends]
      rfl
    · rw [if_neg hc] at h ⊢
      cases h
      rfl

/-- The parts of a number after its sign. -/
def takeUnsigned (negative : Bool) (text : List Char) : Option (Literal × List Char) := do
  let (digits, rest) ← takeWhole text
  let (places, rest) ← takeFraction rest
  let (exponent, rest) ← takeExponent rest
  return (⟨negative, digits, places, exponent⟩, rest)

theorem takeLiteral_minus (rest : List Char) : takeLiteral ('-' :: rest) = takeUnsigned true rest :=
  rfl

theorem takeLiteral_of_ne_minus {text : List Char} (h : text.head? ≠ some '-') :
    takeLiteral text = takeUnsigned false text := by
  unfold takeLiteral
  split
  next negative rest hsign =>
    split at hsign
    · exact absurd rfl h
    · cases hsign
      rfl

theorem extends_takeUnsigned (negative : Bool) : Extends (takeUnsigned negative) := by
  intro text l rest h suffix hends
  obtain ⟨⟨digits, rest₁⟩, hwhole, h⟩ := Option.bind_eq_some_iff.1 h
  obtain ⟨⟨places, rest₂⟩, hfraction, h⟩ := Option.bind_eq_some_iff.1 h
  obtain ⟨⟨exponent, rest₃⟩, hexponent, h⟩ := Option.bind_eq_some_iff.1 h
  cases h
  -- what ends with the text before its last part has no further part
  have hends₂ : rest₂ = [] → Ends suffix := by
    rintro rfl
    cases hexponent
    exact hends rfl
  have hends₁ : rest₁ = [] → Ends suffix := by
    rintro rfl
    cases hfraction
    exact hends₂ rfl
  rw [takeUnsigned, extends_takeWhole hwhole hends₁]
  show (takeFraction (rest₁ ++ suffix)).bind _ = _
  rw [extends_takeFraction hfraction hends₂]
  show (takeExponent (rest₂ ++ suffix)).bind _ = _
  rw [extends_takeExponent hexponent hends]
  rfl

/-- A number starts with a digit or a minus sign. -/
theorem head_of_takeLiteral {text : List Char} {l : Literal} {rest : List Char}
    (h : takeLiteral text = some (l, rest)) : ∃ c cs, text = c :: cs ∧ (c = '-' ∨ c.isDigit) := by
  cases text with
  | nil => cases h
  | cons c cs =>
    refine ⟨c, cs, rfl, ?_⟩
    by_cases hminus : c = '-'
    · exact .inl hminus
    · refine .inr ?_
      rw [takeLiteral_of_ne_minus (by simpa using hminus)] at h
      obtain ⟨⟨digits, rest₁⟩, hwhole, -⟩ := Option.bind_eq_some_iff.1 h
      unfold takeWhole at hwhole
      split at hwhole
      · next heq =>
        rw [(List.cons.inj heq).1]
        rfl
      · by_contra hdigit
        simp [takeDigits, hdigit] at hwhole

theorem extends_takeLiteral : Extends takeLiteral := by
  intro text l rest h suffix hends
  obtain ⟨c, cs, rfl, -⟩ := head_of_takeLiteral h
  by_cases hminus : c = '-'
  · subst hminus
    rw [takeLiteral_minus] at h
    rw [List.cons_append, takeLiteral_minus]
    exact extends_takeUnsigned true h hends
  · rw [takeLiteral_of_ne_minus (by simpa using hminus)] at h
    rw [takeLiteral_of_ne_minus (by simpa using hminus)]
    exact extends_takeUnsigned false h hends

end Number

/-! ### Strings -/

namespace Quoted

/-- A string ends at its closing quote, whatever follows. -/
theorem takeUnits_append {read units : List StringUnit} {text rest : List Char}
    (h : takeUnits read text = some (units, rest)) (suffix : List Char) :
    takeUnits read (text ++ suffix) = some (units, rest ++ suffix) := by
  induction read, text using takeUnits.induct with
  | case1 read rest' =>
    cases h
    rfl
  | case2 read a b c d rest' unit hunit ih =>
    simp only [takeUnits, hunit] at h
    simp only [List.cons_append, takeUnits, hunit]
    exact ih h
  | case3 read a b c d rest' hunit =>
    simp only [takeUnits, hunit] at h
    cases h
  | case4 read c rest' hshort c' hescape ih =>
    have hu : c ≠ 'u' := by
      rintro rfl
      cases hescape
    rw [takeUnits, hescape] at h
    · rw [List.cons_append, List.cons_append, takeUnits, hescape]
      · exact ih h
      · exact fun _ _ _ _ _ hc ↦ absurd hc hu
    · exact hshort
  | case5 read c rest' hshort hescape =>
    rw [takeUnits, hescape] at h
    · cases h
    · exact hshort
  | case6 read c rest' hquote hunit hescape hcontrol =>
    rw [takeUnits, if_pos hcontrol] at h
    · cases h
    · exact hquote
    · exact hunit
    · exact hescape
  | case7 read c rest' hquote hunit hescape hcontrol ih =>
    rw [takeUnits, if_neg hcontrol] at h
    · have hc : c ≠ '\\' := by
        rintro rfl
        cases rest' with
        | nil => cases h
        | cons c' cs => exact hescape c' cs rfl rfl
      rw [List.cons_append, takeUnits, if_neg hcontrol]
      · exact ih h
      · exact hquote
      · exact fun _ _ _ _ _ heq ↦ absurd heq hc
      · exact fun _ _ heq ↦ absurd heq hc
    · exact hquote
    · exact hunit
    · exact hescape
  | case8 read => cases h

end Quoted

/-! ### Trees -/

namespace Tree

theorem takeString_append {text rest : List Char} {value : Option String}
    (h : takeString text = some (value, rest)) (suffix : List Char) :
    takeString (text ++ suffix) = some (value, rest ++ suffix) := by
  obtain ⟨⟨units, rest⟩, hunits, hpair⟩ := Option.map_eq_some_iff.1 h
  cases hpair
  rw [takeString, Quoted.takeUnits_append hunits suffix]
  rfl

theorem ne_nil_of_skipSpace {text : List Char} (h : skipSpace text ≠ []) : text ≠ [] := by
  rintro rfl
  exact h rfl

theorem skipSpace_append {text : List Char} (h : skipSpace text ≠ []) (suffix : List Char) :
    skipSpace (text ++ suffix) = skipSpace text ++ suffix :=
  dropWhile_append_of_ne_nil h suffix

theorem skipSpace_append_of_blank {text : List Char} (h : skipSpace text = [])
    (suffix : List Char) : skipSpace (text ++ suffix) = skipSpace suffix := by
  unfold skipSpace at h ⊢
  rw [List.dropWhile_append, h]
  rfl

theorem skipSpace_cons {c : Char} (h : isSpace c = false) (rest : List Char) :
    skipSpace (c :: rest) = c :: rest :=
  List.dropWhile_cons_of_neg (by rw [h]; exact Bool.false_ne_true)

theorem skipSpace_skipSpace (text : List Char) : skipSpace (skipSpace text) = skipSpace text := by
  rw [skipSpace, skipSpace, List.dropWhile_idempotent]

theorem take_nil (fuel : Nat) : take fuel [] = none := by
  cases fuel <;> rfl

theorem takeItems_nil (fuel : Nat) (read : List Tree) : takeItems fuel read [] = none := by
  cases fuel with
  | zero => rfl
  | succ fuel =>
    have hblank : skipSpace [] = [] := rfl
    rw [takeItems, hblank, take_nil]

theorem takeItems_skipSpace (fuel : Nat) (read : List Tree) (text : List Char) :
    takeItems fuel read (skipSpace text) = takeItems fuel read text := by
  cases fuel with
  | zero => rfl
  | succ fuel => rw [takeItems, takeItems, skipSpace_skipSpace]

theorem takeEntries_nil (fuel : Nat) (read : List (Option String × Tree)) :
    takeEntries fuel read [] = none := by
  cases fuel <;> rfl

/-- What starts with a digit or a minus sign is a number. -/
theorem take_number (fuel : Nat) {c : Char} (h : c = '-' ∨ c.isDigit) (rest : List Char) :
    take (fuel + 1) (c :: rest) = (Number.takeLiteral (c :: rest)).map fun (l, rest) ↦
      (number (Number.ofLiteral? l), rest) := by
  unfold take
  split
  next heq => cases heq; exact absurd h (by decide)
  next heq => cases heq; exact absurd h (by decide)
  next heq => cases heq; exact absurd h (by decide)
  next heq => cases heq; exact absurd h (by decide)
  next heq => cases heq; exact absurd h (by decide)
  next heq => cases heq; exact absurd h (by decide)
  next => rfl

theorem skipSpace_append_ne_cons {text : List Char} (hne : skipSpace text ≠ []) {c : Char}
    (h : ∀ cs, skipSpace text ≠ c :: cs) (suffix cs : List Char) :
    skipSpace (text ++ suffix) ≠ c :: cs := by
  rw [skipSpace_append hne]
  intro heq
  cases hskip : skipSpace text with
  | nil => exact hne hskip
  | cons c' cs' =>
    rw [hskip, List.cons_append] at heq
    exact h cs' (hskip.trans (by rw [(List.cons.inj heq).1]))

theorem take_array_nil (fuel : Nat) {text rest : List Char} (h : skipSpace text = ']' :: rest) :
    take (fuel + 1) ('[' :: text) = some (array [], rest) := by
  rw [take, h]
  rfl

theorem take_array (fuel : Nat) {text : List Char} (h : ∀ rest, skipSpace text ≠ ']' :: rest) :
    take (fuel + 1) ('[' :: text) = (takeItems fuel [] (skipSpace text)).map fun (items, rest) ↦
      (array items, rest) := by
  rw [take]
  split
  · next heq => exact absurd heq (h _)
  · rfl

theorem take_object_nil (fuel : Nat) {text rest : List Char} (h : skipSpace text = '\x7d' :: rest) :
    take (fuel + 1) ('\x7b' :: text) = some (object [], rest) := by
  rw [take, h]
  rfl

theorem take_object (fuel : Nat) {text : List Char} (h : ∀ rest, skipSpace text ≠ '\x7d' :: rest) :
    take (fuel + 1) ('\x7b' :: text) = (takeEntries fuel [] (skipSpace text)).map
      fun (entries, rest) ↦ (object entries, rest) := by
  rw [take]
  split
  · next heq => exact absurd heq (h _)
  · rfl

/-- What is taken with `fuel` steps is taken from a longer text, and with more steps to spare. A
number that goes up to the end must not go on in the longer text. -/
structure Longer (fuel : Nat) : Prop where
  take : ∀ {text : List Char} {tree : Tree} {rest : List Char},
    Tree.take fuel text = some (tree, rest) → ∀ {more : Nat}, fuel ≤ more →
      ∀ {suffix : List Char}, (rest = [] → Number.Ends suffix) →
        Tree.take more (text ++ suffix) = some (tree, rest ++ suffix)
  items : ∀ {read items : List Tree} {text rest : List Char},
    takeItems fuel read text = some (items, rest) → ∀ {more : Nat}, fuel ≤ more → ∀ suffix,
      takeItems more read (text ++ suffix) = some (items, rest ++ suffix)
  entries : ∀ {read entries : List (Option String × Tree)} {text rest : List Char},
    takeEntries fuel read text = some (entries, rest) → ∀ {more : Nat}, fuel ≤ more → ∀ suffix,
      takeEntries more read (text ++ suffix) = some (entries, rest ++ suffix)

namespace Longer

variable {fuel : Nat}

theorem take_succ (h : Longer fuel) {text : List Char} {tree : Tree} {rest : List Char}
    (htake : Tree.take (fuel + 1) text = some (tree, rest)) {more : Nat} (hmore : fuel ≤ more)
    {suffix : List Char} (hends : rest = [] → Number.Ends suffix) :
    Tree.take (more + 1) (text ++ suffix) = some (tree, rest ++ suffix) := by
  unfold Tree.take at htake
  split at htake
  · cases htake
    rfl
  · cases htake
    rfl
  · cases htake
    rfl
  · next rest' =>
    obtain ⟨⟨value, rest⟩, hstring, hpair⟩ := Option.map_eq_some_iff.1 htake
    cases hpair
    show (takeString (rest' ++ suffix)).map _ = _
    rw [takeString_append hstring suffix]
    rfl
  · next rest' =>
    rw [List.cons_append]
    split at htake
    · next heq =>
      cases htake
      refine take_array_nil more ?_
      rw [skipSpace_append (by rw [heq]; exact List.cons_ne_nil _ _), heq, List.cons_append]
    · next hclose =>
      obtain ⟨⟨items, rest⟩, hitems, hpair⟩ := Option.map_eq_some_iff.1 htake
      cases hpair
      have hne : skipSpace rest' ≠ [] := fun hnil ↦ by
        rw [hnil, takeItems_nil] at hitems
        cases hitems
      rw [take_array more (skipSpace_append_ne_cons hne hclose suffix), skipSpace_append hne,
        h.items hitems hmore suffix]
      rfl
  · next rest' =>
    rw [List.cons_append]
    split at htake
    · next heq =>
      cases htake
      refine take_object_nil more ?_
      rw [skipSpace_append (by rw [heq]; exact List.cons_ne_nil _ _), heq, List.cons_append]
    · next hclose =>
      obtain ⟨⟨entries, rest⟩, hentries, hpair⟩ := Option.map_eq_some_iff.1 htake
      cases hpair
      have hne : skipSpace rest' ≠ [] := fun hnil ↦ by
        rw [hnil, takeEntries_nil] at hentries
        cases hentries
      rw [take_object more (skipSpace_append_ne_cons hne hclose suffix), skipSpace_append hne,
        h.entries hentries hmore suffix]
      rfl
  · obtain ⟨⟨l, rest⟩, hliteral, hpair⟩ := Option.map_eq_some_iff.1 htake
    cases hpair
    obtain ⟨c, cs, rfl, hc⟩ := Number.head_of_takeLiteral hliteral
    rw [List.cons_append, take_number more hc, ← List.cons_append,
      Number.extends_takeLiteral hliteral hends]
    rfl

theorem items_succ (h : Longer fuel) {read items : List Tree} {text rest : List Char}
    (htake : takeItems (fuel + 1) read text = some (items, rest)) {more : Nat} (hmore : fuel ≤ more)
    (suffix : List Char) :
    takeItems (more + 1) read (text ++ suffix) = some (items, rest ++ suffix) := by
  rw [takeItems] at htake ⊢
  split at htake
  · cases htake
  · next item rest' hitem =>
    have hne : skipSpace text ≠ [] := fun hnil ↦ by
      rw [hnil, take_nil] at hitem
      cases hitem
    -- a comma or a bracket follows the item, so something is left after it
    have hrest : skipSpace rest' ≠ [] := fun hnil ↦ by
      simp only [hnil] at htake
      cases htake
    have hends : rest' = [] → Number.Ends suffix :=
      fun hnil ↦ absurd hnil (ne_nil_of_skipSpace hrest)
    have hlong := h.take hitem hmore hends
    simp only [skipSpace_append hne, hlong, skipSpace_append hrest]
    split at htake
    · next heq =>
      simp only [heq, List.cons_append]
      exact h.items htake hmore suffix
    · next heq =>
      cases htake
      simp only [heq, List.cons_append]
    · cases htake

theorem entries_succ (h : Longer fuel) {read entries : List (Option String × Tree)}
    {text rest : List Char} (htake : takeEntries (fuel + 1) read text = some (entries, rest))
    {more : Nat} (hmore : fuel ≤ more) (suffix : List Char) :
    takeEntries (more + 1) read (text ++ suffix) = some (entries, rest ++ suffix) := by
  rw [takeEntries] at htake ⊢
  split at htake
  · next keyText hkeyText =>
    rw [skipSpace_append (by rw [hkeyText]; exact List.cons_ne_nil _ _), hkeyText, List.cons_append]
    split at htake
    · cases htake
    · next key valueText hkey =>
      simp only [takeString_append hkey suffix]
      split at htake
      · next afterColon hcolon =>
        rw [skipSpace_append (by rw [hcolon]; exact List.cons_ne_nil _ _), hcolon, List.cons_append]
        split at htake
        · cases htake
        · next value rest' hvalue =>
          have hne : skipSpace afterColon ≠ [] := fun hnil ↦ by
            rw [hnil, take_nil] at hvalue
            cases hvalue
          have hrest : skipSpace rest' ≠ [] := fun hnil ↦ by
            simp only [hnil] at htake
            cases htake
          have hends : rest' = [] → Number.Ends suffix :=
            fun hnil ↦ absurd hnil (ne_nil_of_skipSpace hrest)
          have hlong := h.take hvalue hmore hends
          simp only [skipSpace_append hne, hlong, skipSpace_append hrest]
          split at htake
          · next heq =>
            simp only [heq, List.cons_append]
            exact h.entries htake hmore suffix
          · next heq =>
            cases htake
            simp only [heq, List.cons_append]
          · cases htake
      · cases htake
  · cases htake

end Longer

theorem longer (fuel : Nat) : Longer fuel := by
  induction fuel with
  | zero =>
    constructor
    · intro _ _ _ h
      cases h
    · intro _ _ _ _ h
      cases h
    · intro _ _ _ _ h
      cases h
  | succ fuel ih =>
    refine ⟨fun h more hmore suffix hends ↦ ?_, fun h more hmore suffix ↦ ?_,
      fun h more hmore suffix ↦ ?_⟩ <;>
      obtain ⟨more, rfl⟩ : ∃ n, more = n + 1 := ⟨more - 1, by omega⟩
    · exact ih.take_succ h (Nat.le_of_succ_le_succ hmore) hends
    · exact ih.items_succ h (Nat.le_of_succ_le_succ hmore) suffix
    · exact ih.entries_succ h (Nat.le_of_succ_le_succ hmore) suffix

/-! ### Lists of documents -/

/-- A text is a document if nothing but blanks follows the value at its front. -/
theorem parse?_eq_some_iff {text : String} {tree : Tree} :
    parse? text = some tree ↔ ∃ rest, front? text.toList = some (tree, rest) ∧
      skipSpace rest = [] := by
  unfold parse?
  constructor
  · intro h
    split at h
    · next found rest hfront =>
      split at h
      · next hblank =>
        cases h
        exact ⟨rest, hfront, List.isEmpty_iff.1 hblank⟩
      · cases h
    · cases h
  · rintro ⟨rest, hfront, hblank⟩
    simp only [hfront, hblank, List.isEmpty_nil, if_true]

/-- What a document may stand in front of: it is not blank, and no number goes on with it. -/
def Closes (c : Char) : Prop :=
  isSpace c = false ∧ ∀ rest, Number.Ends (c :: rest)

theorem closes_comma : Closes ',' :=
  ⟨by decide, Number.ends_cons (by decide)⟩

theorem closes_bracket : Closes ']' :=
  ⟨by decide, Number.ends_cons (by decide)⟩

theorem closes_brace : Closes '\x7d' :=
  ⟨by decide, Number.ends_cons (by decide)⟩

/-- A document is found in front of what closes it. -/
theorem take_of_parse? {text : String} {tree : Tree} (h : parse? text = some tree) {fuel : Nat}
    (hfuel : 2 * text.toList.length + 2 ≤ fuel) {c : Char} (hc : Closes c) (suffix : List Char) :
    ∃ rest, take fuel (skipSpace (text.toList ++ c :: suffix)) = some (tree, rest) ∧
      skipSpace rest = c :: suffix := by
  obtain ⟨rest, hfront, hblank⟩ := parse?_eq_some_iff.1 h
  rw [front?] at hfront
  have hne : skipSpace text.toList ≠ [] := fun hnil ↦ by
    rw [hnil, take_nil] at hfront
    cases hfront
  refine ⟨rest ++ c :: suffix, ?_, ?_⟩
  · rw [skipSpace_append hne]
    exact (longer _).take hfront hfuel fun _ ↦ hc.2 suffix
  · rw [skipSpace_append_of_blank hblank, skipSpace_cons hc.1]

end Tree

/-- Texts between brackets, with commas between them. -/
def listText (texts : List String) : String :=
  "[" ++ ",".intercalate texts ++ "]"

/-- What follows the first of texts in a list of them. -/
def listTail : List String → List Char
  | [] => [']']
  | text :: texts => ',' :: (text.toList ++ listTail texts)

theorem toList_listText_cons (text : String) (texts : List String) :
    (listText (text :: texts)).toList = '[' :: (text.toList ++ listTail texts) := by
  have htail (text : String) (texts : List String) :
      (",".intercalate (text :: texts)).toList ++ [']'] = text.toList ++ listTail texts := by
    induction texts generalizing text with
    | nil => rw [String.intercalate_singleton, listTail]
    | cons next texts ih =>
      rw [String.intercalate_cons_cons, String.toList_append, String.toList_append,
        List.append_assoc, List.append_assoc, ih, listTail]
      rfl
  rw [listText, String.toList_append, String.toList_append, ← htail, List.append_assoc]
  rfl

namespace Tree

/-- Documents with commas between them are read as the items of a list. -/
theorem takeItems_listTail {text : String} {tree : Tree} {texts : List String} {trees : List Tree}
    (h : List.Forall₂ (fun text tree ↦ parse? text = some tree) (text :: texts) (tree :: trees))
    {fuel : Nat} {read : List Tree}
    (hfuel : 2 * (text.toList ++ listTail texts).length + 2 ≤ fuel) :
    takeItems fuel read (text.toList ++ listTail texts) =
      some (read.reverse ++ tree :: trees, []) := by
  induction texts generalizing text tree trees fuel read with
  | nil =>
    obtain ⟨htree, hrest⟩ := List.forall₂_cons.1 h
    cases hrest
    obtain ⟨fuel, rfl⟩ : ∃ n, fuel = n + 1 := ⟨fuel - 1, by omega⟩
    rw [listTail, List.length_append, List.length_singleton] at hfuel
    obtain ⟨rest, htake, hclose⟩ := take_of_parse? htree (show _ ≤ fuel by omega) closes_bracket []
    rw [takeItems, listTail, htake]
    simp only [hclose, List.reverse_cons]
  | cons next texts ih =>
    obtain ⟨htree, hrest⟩ := List.forall₂_cons.1 h
    cases trees with
    | nil => cases hrest
    | cons nextTree trees =>
      obtain ⟨fuel, rfl⟩ : ∃ n, fuel = n + 1 := ⟨fuel - 1, by omega⟩
      rw [listTail, List.length_append, List.length_cons] at hfuel
      obtain ⟨rest, htake, hcomma⟩ := take_of_parse? htree (show _ ≤ fuel by omega) closes_comma
        (next.toList ++ listTail texts)
      rw [takeItems, listTail, htake]
      simp only [hcomma]
      rw [ih hrest (by omega), List.reverse_cons, List.append_assoc, List.singleton_append]

/-- **A list of documents.** Documents that are read one by one are read as the items of the list
that they are written as. -/
theorem front?_listText {texts : List String} {trees : List Tree}
    (h : List.Forall₂ (fun text tree ↦ parse? text = some tree) texts trees) :
    front? (listText texts).toList = some (array trees, []) := by
  cases h with
  | nil => rfl
  | @cons text tree texts trees htree hrest =>
    have hitems : takeItems (2 * ((text.toList ++ listTail texts).length + 1) + 1) []
        (skipSpace (text.toList ++ listTail texts)) = some (tree :: trees, []) := by
      rw [takeItems_skipSpace, takeItems_listTail (.cons htree hrest) (by omega)]
      rfl
    have hopen (rest : List Char) : skipSpace (text.toList ++ listTail texts) ≠ ']' :: rest := by
      intro hclose
      rw [hclose] at hitems
      cases hitems
    rw [toList_listText_cons, front?, skipSpace_cons (by decide), List.length_cons]
    exact (take_array _ hopen).trans (by rw [hitems]; rfl)

end Tree

end SemanticLayer.Json
