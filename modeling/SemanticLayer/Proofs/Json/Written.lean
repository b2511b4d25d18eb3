import SemanticLayer.Json.Value
import SemanticLayer.Proofs.Json.Grammar
import SemanticLayer.Proofs.Sequence

/-!
# Documents are read back as they are written

Reading the written form of a document gives the document again, as a tree in which every leaf has
its value (`Value.tree`, `Value.parse?_render`).

Strings are read back whatever they hold: each character is written as a part of its own, which is
read as a unit that stands for it (`Quoted.StandsFor`). Numbers are read back if they are integers
(`Number.IsInteger.readsBack`). Whether a fraction is depends on the digits that are chosen for it,
and nothing is said of that here; a document with fractions is read back if they are.

A value inside a list or an object is followed by a comma or a closing bracket. Only a number could
go on with what follows, so the induction is over documents with any text behind them that does not
start like the rest of a number (`Number.Ends`).
-/

namespace SemanticLayer.Json

/-! ### Numbers -/

namespace Number

/-- The number is read back from its written form wherever that ends. -/
def ReadsBack (n : Number) : Prop :=
  ∀ rest, Ends rest →
    ∃ l, takeLiteral (n.render.toList ++ rest) = some (l, rest) ∧ ofLiteral? l = some n

/-- The number is an integer of at most 64 bits. An integer that is written `-0` is one, although
its sign makes it a binary fraction. -/
def IsInteger : Number → Prop
  | whole _ _ => True
  | fraction value => value = .zero true

instance : DecidablePred IsInteger
  | whole _ _ => inferInstanceAs (Decidable True)
  | fraction value => inferInstanceAs (Decidable (value = .zero true))

/-- Only zero is written with a zero in front. -/
theorem eq_nil_of_toDigits_eq {n : Nat} {rest : List Char} (h : Nat.toDigits 10 n = '0' :: rest) :
    rest = [] := by
  induction n using Nat.strongRecOn generalizing rest with
  | ind n ih =>
    by_cases hn : n < 10
    · rw [Nat.toDigits_of_lt_base hn] at h
      exact (List.cons.inj h).2.symm
    · rw [Nat.toDigits_of_base_le (by decide) (by omega)] at h
      obtain ⟨c, digits, hdigits⟩ := List.exists_cons_of_ne_nil
        (Nat.toDigits_ne_nil (n := n / 10) (b := 10))
      rw [hdigits, List.cons_append] at h
      obtain ⟨rfl, -⟩ := List.cons.inj h
      -- a number without its last digit is not zero if there is another digit
      have hvalue := Nat.ofDigitChars_ten_toDigits (n := n / 10)
      rw [hdigits, ih (n / 10) (by omega) hdigits] at hvalue
      have hzero : Nat.ofDigitChars 10 ['0'] 0 = 0 := rfl
      omega

theorem takeWhole_toDigits (n : Nat) {rest : List Char} (h : Ends rest) :
    takeWhole (Nat.toDigits 10 n ++ rest) = some (Nat.toDigits 10 n, rest) := by
  have hdigits : ∀ c ∈ Nat.toDigits 10 n, c.isDigit = true :=
    fun c hc ↦ Nat.isDigit_of_mem_toDigits (by decide) (by decide) hc
  obtain ⟨c, digits, hcons⟩ := List.exists_cons_of_ne_nil (Nat.toDigits_ne_nil (n := n) (b := 10))
  by_cases hc : c = '0'
  · subst hc
    rw [hcons, eq_nil_of_toDigits_eq hcons]
    cases rest with
    | nil => rfl
    | cons next rest =>
      have hnext : ¬next.isDigit = true := Bool.eq_false_iff.1 (h next rfl).1
      simp only [List.cons_append, List.nil_append, takeWhole, if_neg hnext]
  · have hwhole :
        takeWhole (Nat.toDigits 10 n ++ rest) = takeDigits (Nat.toDigits 10 n ++ rest) := by
      rw [hcons, List.cons_append, takeWhole]
      exact fun tail htail ↦ hc (List.cons.inj htail).1
    rw [hwhole, takeDigits_append hdigits Nat.toDigits_ne_nil fun c hc ↦ (h c hc).1]

theorem takeUnsigned_toDigits (negative : Bool) (n : Nat) {rest : List Char} (h : Ends rest) :
    takeUnsigned negative (Nat.toDigits 10 n ++ rest) =
      some (⟨negative, Nat.toDigits 10 n, none, none⟩, rest) := by
  rw [takeUnsigned, takeWhole_toDigits n h]
  show (takeFraction rest).bind _ = _
  rw [h.takeFraction]
  show (takeExponent rest).bind _ = _
  rw [h.takeExponent]
  rfl

theorem toList_renderInt (value : Int) :
    (renderInt value).toList =
      (if value < 0 then ['-'] else []) ++ Nat.toDigits 10 value.natAbs :=
  String.toList_ofList

theorem takeLiteral_renderInt (value : Int) {rest : List Char} (h : Ends rest) :
    takeLiteral ((renderInt value).toList ++ rest) =
      some (⟨value < 0, Nat.toDigits 10 value.natAbs, none, none⟩, rest) := by
  rw [toList_renderInt, ← takeUnsigned_toDigits (value < 0) value.natAbs h]
  by_cases hnegative : value < 0
  · rw [if_pos hnegative, decide_eq_true hnegative]
    rfl
  · rw [if_neg hnegative, decide_eq_false hnegative]
    refine takeLiteral_of_ne_minus fun hminus ↦ ?_
    -- the first character is a digit
    obtain ⟨c, digits, hcons⟩ := List.exists_cons_of_ne_nil
      (Nat.toDigits_ne_nil (n := value.natAbs) (b := 10))
    have hdigit : c.isDigit = true := Nat.isDigit_of_mem_toDigits (b := 10) (by decide) (by decide)
      (hcons ▸ List.mem_cons_self)
    rw [hcons] at hminus
    obtain rfl : c = '-' := Option.some.inj hminus
    cases hdigit

/-- A whole number is read back from its digits. -/
theorem readsBack_whole (value : Int) (hword : IsWord value) : (whole value hword).ReadsBack := by
  intro rest hrest
  refine ⟨_, takeLiteral_renderInt value hrest, ?_⟩
  have hsize : digitsValue (Nat.toDigits 10 value.natAbs) = value.natAbs :=
    Nat.ofDigitChars_ten_toDigits
  have hvalue : (if value < 0 then -(value.natAbs : Int) else value.natAbs) = value := by
    split <;> omega
  have hplain : ¬(value < 0 ∧ value.natAbs = 0) := by omega
  simp only [ofLiteral?, Literal.whole?, hsize, Option.isSome_none, Bool.false_eq_true, false_or,
    decide_eq_true_eq, if_neg hplain, hvalue, ofInt?, dif_pos hword, Option.some_or]

/-- The negative zero is written with a point, and read back from that. -/
theorem readsBack_negativeZero : (fraction (.zero true)).ReadsBack := by
  intro rest hrest
  refine ⟨⟨true, ['0'], some ['0'], none⟩, ?_, by decide +kernel⟩
  have htext : (fraction (.zero true)).render.toList = ['-', '0', '.', '0'] := by decide +kernel
  have hwhole : takeWhole ('0' :: '.' :: (['0'] ++ rest)) = some (['0'], '.' :: (['0'] ++ rest)) :=
    rfl
  have hfraction : takeFraction ('.' :: (['0'] ++ rest)) = some (some ['0'], rest) := by
    rw [takeFraction, takeDigits_append (List.forall_mem_singleton.2 rfl) (List.cons_ne_nil _ _)
      fun c hc ↦ (hrest c hc).1]
    rfl
  rw [htext]
  show takeUnsigned true ('0' :: '.' :: (['0'] ++ rest)) = _
  simp only [takeUnsigned, hwhole, hfraction, hrest.takeExponent, Option.bind_eq_bind,
    Option.bind_some]
  rfl

/-- **Integers are read back as they are written.** -/
theorem IsInteger.readsBack {n : Number} (h : n.IsInteger) : n.ReadsBack := by
  cases n with
  | whole value hword => exact readsBack_whole value hword
  | fraction value =>
    obtain rfl : value = .zero true := h
    exact readsBack_negativeZero

end Number

/-! ### Strings -/

namespace Quoted

/-- A part of a written string stands for a character, by itself or as a small unit. -/
inductive StandsFor : StringUnit → Char → Prop where
  | char (c : Char) : StandsFor (.char c) c
  | code {c : Char} (h : c.toNat < 0x20) : StandsFor (.code c.toNat) c

theorem StandsFor.charsOfUnits? {unit : StringUnit} {c : Char} (h : StandsFor unit c)
    (units : List StringUnit) :
    charsOfUnits? (unit :: units) = (charsOfUnits? units).map (c :: ·) := by
  cases h with
  | char c => rw [Quoted.charsOfUnits?]
  | code h =>
    -- no surrogate is that small, so the unit is joined with nothing behind it
    have hhigh : isHigh c.toNat = false := by
      rw [isHigh, decide_eq_false (by omega), Bool.false_and]
    have hlow : isLow c.toNat = false := by
      rw [isLow, decide_eq_false (by omega), Bool.false_and]
    cases units with
    | nil => simp [Quoted.charsOfUnits?, hhigh, hlow, Char.ofNat_toNat]
    | cons next units =>
      cases next with
      | char next => simp [Quoted.charsOfUnits?, hhigh, hlow, Char.ofNat_toNat]
      | code unit => simp [Quoted.charsOfUnits?, hhigh, hlow, Char.ofNat_toNat]

theorem charsOfUnits?_of_standsFor {units : List StringUnit} {text : List Char}
    (h : List.Forall₂ StandsFor units text) : charsOfUnits? units = some text := by
  induction h with
  | nil => rw [charsOfUnits?]
  | cons hunit hunits ih => rw [hunit.charsOfUnits?, ih, Option.map_some]

/-- The digits of a small unit name it. -/
theorem unit?_hexDigit : ∀ n < 0x20,
    unit? '0' '0' (hexDigit (n / 16)) (hexDigit (n % 16)) = some n := by
  decide +kernel

/-- The characters with a short escape. -/
def shortEscaped : List Char :=
  ['"', '\\', '\n', '\r', '\t', '\x08', '\x0c']

theorem exists_shortEscape {c : Char} (h : c ∈ shortEscaped) :
    ∃ e, escapeChar c = ['\\', e] ∧ shortEscape? e = some c := by
  simp only [shortEscaped, List.mem_cons, List.not_mem_nil, or_false] at h
  rcases h with rfl | rfl | rfl | rfl | rfl | rfl | rfl
  · exact ⟨'"', rfl, rfl⟩
  · exact ⟨'\\', rfl, rfl⟩
  · exact ⟨'n', rfl, rfl⟩
  · exact ⟨'r', rfl, rfl⟩
  · exact ⟨'t', rfl, rfl⟩
  · exact ⟨'b', rfl, rfl⟩
  · exact ⟨'f', rfl, rfl⟩

theorem escapeChar_of_not_mem {c : Char} (h : c ∉ shortEscaped) :
    escapeChar c = if c.toNat < 0x20 then
      ['\\', 'u', '0', '0', hexDigit (c.toNat / 16), hexDigit (c.toNat % 16)] else [c] := by
  simp only [shortEscaped, List.mem_cons, List.not_mem_nil, or_false, not_or] at h
  obtain ⟨hquote, hescape, hline, hreturn, htab, hback, hfeed⟩ := h
  rw [escapeChar, if_neg hquote, if_neg hescape, if_neg hline, if_neg hreturn, if_neg htab,
    if_neg hback, if_neg hfeed]

theorem takeUnits_shortEscape {e c : Char} (h : shortEscape? e = some c) (read : List StringUnit)
    (rest : List Char) :
    takeUnits read ('\\' :: e :: rest) = takeUnits (.char c :: read) rest := by
  have hu : e ≠ 'u' := by
    rintro rfl
    cases h
  rw [takeUnits, h]
  exact fun _ _ _ _ _ heq ↦ absurd heq hu

theorem takeUnits_plain {c : Char} (hquote : c ≠ '"') (hescape : c ≠ '\\')
    (hcontrol : ¬c.toNat < 0x20) (read : List StringUnit) (rest : List Char) :
    takeUnits read (c :: rest) = takeUnits (.char c :: read) rest := by
  rw [takeUnits, if_neg hcontrol]
  · exact hquote
  · exact fun _ _ _ _ _ heq ↦ absurd heq hescape
  · exact fun _ _ heq ↦ absurd heq hescape

/-- A written character is taken as one part, which stands for it. -/
theorem exists_takeUnits_escapeChar (c : Char) :
    ∃ unit, StandsFor unit c ∧ ∀ read rest,
      takeUnits read (escapeChar c ++ rest) = takeUnits (unit :: read) rest := by
  by_cases hshort : c ∈ shortEscaped
  · obtain ⟨e, hescape, hchar⟩ := exists_shortEscape hshort
    rw [hescape]
    exact ⟨.char c, .char c, takeUnits_shortEscape hchar⟩
  · rw [escapeChar_of_not_mem hshort]
    by_cases hcontrol : c.toNat < 0x20
    · rw [if_pos hcontrol]
      refine ⟨.code c.toNat, .code hcontrol, fun read rest ↦ ?_⟩
      simp only [List.cons_append, List.nil_append, takeUnits, unit?_hexDigit c.toNat hcontrol]
    · rw [if_neg hcontrol]
      have hquote : c ≠ '"' := fun h ↦ hshort (h ▸ by decide)
      have hescape : c ≠ '\\' := fun h ↦ hshort (h ▸ by decide)
      exact ⟨.char c, .char c, takeUnits_plain hquote hescape hcontrol⟩

/-- Written characters are taken as parts that stand for them. -/
theorem exists_takeUnits_escaped (text : List Char) :
    ∃ units, List.Forall₂ StandsFor units text ∧ ∀ read rest,
      takeUnits read (text.flatMap escapeChar ++ '"' :: rest) =
        some (read.reverse ++ units, rest) := by
  induction text with
  | nil =>
    refine ⟨[], .nil, fun read rest ↦ ?_⟩
    rw [List.flatMap_nil, List.nil_append, takeUnits, List.append_nil]
  | cons c text ih =>
    obtain ⟨unit, hunit, htake⟩ := exists_takeUnits_escapeChar c
    obtain ⟨units, hunits, htakes⟩ := ih
    refine ⟨unit :: units, .cons hunit hunits, fun read rest ↦ ?_⟩
    rw [List.flatMap_cons, List.append_assoc, htake, htakes, List.reverse_cons, List.append_assoc,
      List.singleton_append]

theorem toList_quote (text : String) :
    (quote text).toList = '"' :: (text.toList.flatMap escapeChar ++ ['"']) :=
  String.toList_ofList

end Quoted

/-- **Strings are read back as they are written.** -/
theorem Tree.takeString_quoted (text : String) (rest : List Char) :
    takeString (text.toList.flatMap Quoted.escapeChar ++ '"' :: rest) = some (some text, rest) := by
  obtain ⟨units, hunits, htake⟩ := Quoted.exists_takeUnits_escaped text.toList
  rw [takeString, htake]
  show some (Quoted.ofUnits? units, rest) = _
  rw [Quoted.ofUnits?, Quoted.charsOfUnits?_of_standsFor hunits, Option.map_some,
    String.ofList_toList]

/-! ### Documents -/

namespace Value

mutual

/-- The document as it is found when it is read, before anything in it is understood. -/
def tree : Value → Tree
  | null => .null
  | bool value => .bool value
  | number value => .number (some value)
  | string value => .string (some value)
  | array items => .array (itemTrees items)
  | object entries => .object (entryTrees entries)

/-- The items of a list. -/
def itemTrees : List Value → List Tree
  | [] => []
  | item :: items => tree item :: itemTrees items

/-- The keys and values of an object. -/
def entryTrees : List (String × Value) → List (Option String × Tree)
  | [] => []
  | (key, value) :: entries => (some key, tree value) :: entryTrees entries

end

theorem itemTrees_eq_map (items : List Value) : itemTrees items = items.map tree := by
  induction items with
  | nil => rfl
  | cons item items ih => rw [itemTrees, ih, List.map_cons]

theorem entryTrees_eq_map (entries : List (String × Value)) :
    entryTrees entries = entries.map (Prod.map some tree) := by
  induction entries with
  | nil => rfl
  | cons entry entries ih => rw [entryTrees, ih, List.map_cons, Prod.map]

mutual

/-- The numbers of a document, in order. -/
def numbers : Value → List Number
  | number value => [value]
  | array items => itemNumbers items
  | object entries => entryNumbers entries
  | _ => []

/-- The numbers of the items of a list. -/
def itemNumbers : List Value → List Number
  | [] => []
  | item :: items => numbers item ++ itemNumbers items

/-- The numbers of the values of an object. -/
def entryNumbers : List (String × Value) → List Number
  | [] => []
  | (_, value) :: entries => numbers value ++ entryNumbers entries

end

/-- Every number of the document is read back as it is written. -/
def ReadsBack (value : Value) : Prop :=
  ∀ n ∈ value.numbers, n.ReadsBack

end Value

namespace Tree

/-- A value starts with no blank and no closing bracket. -/
theorem head_of_take {fuel : Nat} {text rest : List Char} {tree : Tree}
    (h : take fuel text = some (tree, rest)) :
    ∃ c cs, text = c :: cs ∧ isSpace c = false ∧ c ≠ ']' := by
  cases fuel with
  | zero => cases h
  | succ fuel =>
    unfold take at h
    split at h
    · exact ⟨_, _, rfl, by decide⟩
    · exact ⟨_, _, rfl, by decide⟩
    · exact ⟨_, _, rfl, by decide⟩
    · exact ⟨_, _, rfl, by decide⟩
    · exact ⟨_, _, rfl, by decide⟩
    · exact ⟨_, _, rfl, by decide⟩
    · obtain ⟨⟨l, rest⟩, hliteral, -⟩ := Option.map_eq_some_iff.1 h
      obtain ⟨c, cs, rfl, hc⟩ := Number.head_of_takeLiteral hliteral
      refine ⟨c, cs, rfl, ?_, ?_⟩
      · rw [← Bool.not_eq_true]
        intro hspace
        simp only [isSpace, Bool.or_eq_true, beq_iff_eq] at hspace
        rcases hspace with ((rfl | rfl) | rfl) | rfl <;> exact absurd hc (by decide)
      · rintro rfl
        exact absurd hc (by decide)

theorem skipSpace_of_take {fuel : Nat} {text rest : List Char} {tree : Tree}
    (h : take fuel text = some (tree, rest)) : skipSpace text = text := by
  obtain ⟨c, cs, rfl, hspace, -⟩ := head_of_take h
  exact skipSpace_cons hspace cs

theorem takeItems_of_comma {fuel : Nat} {text rest : List Char} {item : Tree}
    (h : take fuel text = some (item, ',' :: rest)) (read : List Tree) :
    takeItems (fuel + 1) read text = takeItems fuel (item :: read) rest := by
  rw [takeItems, skipSpace_of_take h, h]
  rfl

theorem takeItems_of_bracket {fuel : Nat} {text rest : List Char} {item : Tree}
    (h : take fuel text = some (item, ']' :: rest)) (read : List Tree) :
    takeItems (fuel + 1) read text = some (read.reverse ++ [item], rest) := by
  rw [takeItems, skipSpace_of_take h, h, ← List.reverse_cons]
  rfl

theorem take_of_takeItems {fuel : Nat} {text rest : List Char} {items : List Tree}
    (h : takeItems fuel [] text = some (items, rest)) :
    take (fuel + 1) ('[' :: text) = some (array items, rest) := by
  have hopen : ∀ cs, skipSpace text ≠ ']' :: cs := by
    intro cs hclose
    cases fuel with
    | zero => cases h
    | succ fuel =>
      rw [takeItems, hclose] at h
      rcases hitem : take fuel (']' :: cs) with - | ⟨item, rest'⟩
      · rw [hitem] at h
        cases h
      · obtain ⟨c, _, heq, -, hc⟩ := head_of_take hitem
        exact hc (List.cons.inj heq).1.symm
  rw [take_array fuel hopen, takeItems_skipSpace, h]
  rfl

/-- A key and a value, as they are written in an object. -/
def entryText (key : String) (text : List Char) : List Char :=
  (Quoted.quote key).toList ++ ':' :: text

theorem entryText_append (key : String) (text rest : List Char) :
    entryText key text ++ rest = entryText key (text ++ rest) := by
  rw [entryText, entryText, List.append_assoc, List.cons_append]

theorem length_entryText (key : String) (text : List Char) :
    (entryText key text).length = (Quoted.quote key).toList.length + (text.length + 1) := by
  rw [entryText, List.length_append, List.length_cons]

theorem entryText_eq_cons (key : String) (text : List Char) :
    entryText key text = '"' :: (key.toList.flatMap Quoted.escapeChar ++ '"' :: ':' :: text) := by
  rw [entryText, Quoted.toList_quote, List.cons_append, List.append_assoc, List.singleton_append]

theorem takeEntries_of_comma {fuel : Nat} {key : String} {text rest : List Char} {value : Tree}
    (h : take fuel text = some (value, ',' :: rest)) (read : List (Option String × Tree)) :
    takeEntries (fuel + 1) read (entryText key text) =
      takeEntries fuel ((some key, value) :: read) rest := by
  have hcolon := skipSpace_cons (show isSpace ':' = false by decide) text
  have hcomma := skipSpace_cons (show isSpace ',' = false by decide) rest
  rw [takeEntries, entryText_eq_cons, skipSpace_cons (by decide)]
  simp only [takeString_quoted, hcolon, skipSpace_of_take h, h, hcomma]

theorem takeEntries_of_brace {fuel : Nat} {key : String} {text rest : List Char} {value : Tree}
    (h : take fuel text = some (value, '\x7d' :: rest)) (read : List (Option String × Tree)) :
    takeEntries (fuel + 1) read (entryText key text) =
      some (read.reverse ++ [(some key, value)], rest) := by
  have hcolon := skipSpace_cons (show isSpace ':' = false by decide) text
  have hbrace := skipSpace_cons (show isSpace '\x7d' = false by decide) rest
  rw [takeEntries, entryText_eq_cons, skipSpace_cons (by decide)]
  simp only [takeString_quoted, hcolon, skipSpace_of_take h, h, hbrace, List.reverse_cons]

theorem takeEntries_skipSpace (fuel : Nat) (read : List (Option String × Tree))
    (text : List Char) : takeEntries fuel read (skipSpace text) = takeEntries fuel read text := by
  cases fuel with
  | zero => rfl
  | succ fuel => rw [takeEntries, takeEntries, skipSpace_skipSpace]

theorem take_of_takeEntries {fuel : Nat} {text rest : List Char}
    {entries : List (Option String × Tree)} (h : takeEntries fuel [] text = some (entries, rest)) :
    take (fuel + 1) ('\x7b' :: text) = some (object entries, rest) := by
  have hopen : ∀ cs, skipSpace text ≠ '\x7d' :: cs := by
    intro cs hclose
    cases fuel with
    | zero => cases h
    | succ fuel =>
      rw [takeEntries, hclose] at h
      cases h
  rw [take_object fuel hopen, takeEntries_skipSpace, h]
  rfl

end Tree

namespace Value

theorem readsBack_array_iff {item : Value} {items : List Value} :
    (array (item :: items)).ReadsBack ↔ item.ReadsBack ∧ (array items).ReadsBack := by
  simp only [ReadsBack, numbers, itemNumbers, List.forall_mem_append]

theorem readsBack_object_iff {key : String} {value : Value} {entries : List (String × Value)} :
    (object ((key, value) :: entries)).ReadsBack ↔
      value.ReadsBack ∧ (object entries).ReadsBack := by
  simp only [ReadsBack, numbers, entryNumbers, List.forall_mem_append]

theorem readsBack_entries_iff {entries : List (String × Value)} :
    (object entries).ReadsBack ↔ ∀ entry ∈ entries, entry.2.ReadsBack := by
  induction entries with
  | nil => simp [ReadsBack, numbers, entryNumbers]
  | cons entry entries ih => rw [readsBack_object_iff, ih, List.forall_mem_cons]

@[simp] theorem readsBack_number_iff {n : Number} : (number n).ReadsBack ↔ n.ReadsBack :=
  List.forall_mem_singleton

@[simp] theorem readsBack_bool (b : Bool) : (bool b).ReadsBack :=
  fun _ hn ↦ absurd hn List.not_mem_nil

@[simp] theorem readsBack_string (text : String) : (string text).ReadsBack :=
  fun _ hn ↦ absurd hn List.not_mem_nil

@[simp] theorem readsBack_array_map_iff {α : Type} {encode : α → Value} {items : List α} :
    (array (items.map encode)).ReadsBack ↔ ∀ item ∈ items, (encode item).ReadsBack := by
  induction items with
  | nil => simp [ReadsBack, numbers, itemNumbers]
  | cons item items ih => rw [List.map_cons, readsBack_array_iff, ih, List.forall_mem_cons]

@[simp] theorem readsBack_strings (items : List String) : (strings items).ReadsBack :=
  readsBack_array_map_iff.2 fun item _ ↦ readsBack_string item

theorem toList_render_array (items : List Value) :
    (render (array items)).toList = '[' :: ((renderItems items).toList ++ [']']) := by
  rw [render, String.toList_append, String.toList_append, List.append_assoc]
  rfl

theorem toList_render_object (entries : List (String × Value)) :
    (render (object entries)).toList = '\x7b' :: ((renderEntries entries).toList ++ ['\x7d']) := by
  rw [render, String.toList_append, String.toList_append, List.append_assoc]
  rfl

theorem toList_renderItems_cons (item next : Value) (items : List Value) :
    (renderItems (item :: next :: items)).toList =
      item.render.toList ++ ',' :: (renderItems (next :: items)).toList := by
  rw [renderItems, String.toList_append, String.toList_append, List.append_assoc]
  · rfl
  · exact List.cons_ne_nil _ _

theorem toList_renderEntries_singleton (key : String) (value : Value) :
    (renderEntries [(key, value)]).toList = Tree.entryText key value.render.toList := by
  rw [renderEntries, String.toList_append, String.toList_append, List.append_assoc]
  rfl

theorem toList_renderEntries_cons (key : String) (value : Value) (next : String × Value)
    (entries : List (String × Value)) :
    (renderEntries ((key, value) :: next :: entries)).toList =
      Tree.entryText key
        (value.render.toList ++ ',' :: (renderEntries (next :: entries)).toList) := by
  rw [renderEntries]
  · simp [Tree.entryText]
  · exact List.cons_ne_nil _ _

-- The bounds are introduced after the match on the document: matched on together with it, they
-- would be evaluated for each of its forms.
mutual

/-- A written document is taken from the front of a text, if what follows does not go on with it. -/
theorem take_render : ∀ {value : Value}, value.ReadsBack → ∀ {fuel : Nat},
    2 * value.render.toList.length ≤ fuel + 1 → ∀ {rest : List Char}, Number.Ends rest →
      Tree.take (fuel + 1) (value.render.toList ++ rest) = some (value.tree, rest)
  | null => fun _ _ _ _ _ ↦ rfl
  | bool true => fun _ _ _ _ _ ↦ rfl
  | bool false => fun _ _ _ _ _ ↦ rfl
  | number n => by
    intro h fuel _ rest hrest
    obtain ⟨l, htake, hvalue⟩ := h n List.mem_cons_self rest hrest
    obtain ⟨c, cs, htext, hc⟩ := Number.head_of_takeLiteral htake
    rw [render, htext, Tree.take_number fuel hc, ← htext, htake]
    show some (Tree.number (Number.ofLiteral? l), rest) = _
    rw [hvalue, tree]
  | string text => by
    intro _ fuel _ rest _
    rw [render, Quoted.toList_quote, List.cons_append, List.append_assoc]
    show (Tree.takeString _).map _ = _
    rw [List.singleton_append, Tree.takeString_quoted]
    rfl
  | array [] => by
    intro _ fuel _ rest _
    rw [toList_render_array]
    exact Tree.take_array_nil fuel (Tree.skipSpace_cons (by decide) rest)
  | array (item :: items) => by
    intro h fuel hfuel rest _
    rw [toList_render_array, List.length_cons, List.length_append, List.length_singleton] at hfuel
    obtain ⟨fuel, rfl⟩ : ∃ n, fuel = n + 2 := ⟨fuel - 2, by omega⟩
    rw [toList_render_array, List.cons_append, List.append_assoc, List.singleton_append,
      Tree.take_of_takeItems (takeItems_render (List.cons_ne_nil _ _) h (by omega) [] rest)]
    rfl
  | object [] => by
    intro _ fuel _ rest _
    rw [toList_render_object]
    exact Tree.take_object_nil fuel (Tree.skipSpace_cons (by decide) rest)
  | object (entry :: entries) => by
    intro h fuel hfuel rest _
    rw [toList_render_object, List.length_cons, List.length_append, List.length_singleton] at hfuel
    obtain ⟨fuel, rfl⟩ : ∃ n, fuel = n + 2 := ⟨fuel - 2, by omega⟩
    rw [toList_render_object, List.cons_append, List.append_assoc, List.singleton_append,
      Tree.take_of_takeEntries (takeEntries_render (List.cons_ne_nil _ _) h (by omega) [] rest)]
    rfl

/-- The items of a list, up to its closing bracket. -/
theorem takeItems_render : ∀ {items : List Value}, items ≠ [] → (array items).ReadsBack →
    ∀ {fuel : Nat}, 2 * (renderItems items).toList.length ≤ fuel →
      ∀ (read : List Tree) (rest : List Char),
        Tree.takeItems (fuel + 2) read ((renderItems items).toList ++ ']' :: rest) =
          some (read.reverse ++ itemTrees items, rest)
  | [] => fun hne ↦ absurd rfl hne
  | [item] => by
    intro _ h fuel hfuel read rest
    obtain ⟨hitem, -⟩ := readsBack_array_iff.1 h
    rw [renderItems] at hfuel ⊢
    have hends := Tree.closes_bracket.2 rest
    rw [Tree.takeItems_of_bracket (take_render hitem (by omega) hends), itemTrees, itemTrees]
  | item :: next :: items => by
    intro _ h fuel hfuel read rest
    obtain ⟨hitem, hitems⟩ := readsBack_array_iff.1 h
    rw [toList_renderItems_cons, List.length_append, List.length_cons] at hfuel
    rw [toList_renderItems_cons, List.append_assoc, List.cons_append,
      Tree.takeItems_of_comma (take_render hitem (by omega) (Tree.closes_comma.2 _))]
    obtain ⟨fuel, rfl⟩ : ∃ n, fuel = n + 1 := ⟨fuel - 1, by omega⟩
    rw [takeItems_render (List.cons_ne_nil next items) hitems (by omega), List.reverse_cons,
      List.append_assoc, List.singleton_append, ← itemTrees]

/-- The entries of an object, up to its closing brace. -/
theorem takeEntries_render : ∀ {entries : List (String × Value)}, entries ≠ [] →
    (object entries).ReadsBack → ∀ {fuel : Nat},
      2 * (renderEntries entries).toList.length ≤ fuel →
      ∀ (read : List (Option String × Tree)) (rest : List Char),
        Tree.takeEntries (fuel + 2) read ((renderEntries entries).toList ++ '\x7d' :: rest) =
          some (read.reverse ++ entryTrees entries, rest)
  | [] => fun hne ↦ absurd rfl hne
  | [(key, value)] => by
    intro _ h fuel hfuel read rest
    obtain ⟨hvalue, -⟩ := readsBack_object_iff.1 h
    rw [toList_renderEntries_singleton, Tree.length_entryText] at hfuel
    have hends := Tree.closes_brace.2 rest
    rw [toList_renderEntries_singleton, Tree.entryText_append,
      Tree.takeEntries_of_brace (take_render hvalue (by omega) hends), entryTrees, entryTrees]
  | (key, value) :: next :: entries => by
    intro _ h fuel hfuel read rest
    obtain ⟨hvalue, hentries⟩ := readsBack_object_iff.1 h
    rw [toList_renderEntries_cons, Tree.length_entryText, List.length_append, List.length_cons]
      at hfuel
    rw [toList_renderEntries_cons, Tree.entryText_append, List.append_assoc, List.cons_append,
      Tree.takeEntries_of_comma (take_render hvalue (by omega) (Tree.closes_comma.2 _))]
    obtain ⟨fuel, rfl⟩ : ∃ n, fuel = n + 1 := ⟨fuel - 1, by omega⟩
    rw [takeEntries_render (List.cons_ne_nil next entries) hentries (by omega), List.reverse_cons,
      List.append_assoc, List.singleton_append, ← entryTrees]

end

/-- **Documents are read back as they are written.** -/
theorem parse?_render {value : Value} (h : value.ReadsBack) :
    Tree.parse? value.render = some value.tree := by
  have htake : ∀ fuel, 2 * value.render.toList.length ≤ fuel + 1 →
      Tree.take (fuel + 1) value.render.toList = some (value.tree, []) := by
    intro fuel hfuel
    have htext := take_render h hfuel Number.ends_nil
    rwa [List.append_nil] at htext
  refine Tree.parse?_eq_some_iff.2 ⟨[], ?_, rfl⟩
  rw [Tree.front?, Tree.skipSpace_of_take (htake _ (Nat.le_succ_of_le (Nat.le_succ _)))]
  exact htake _ (Nat.le_succ_of_le (Nat.le_succ _))

end Value

end SemanticLayer.Json
