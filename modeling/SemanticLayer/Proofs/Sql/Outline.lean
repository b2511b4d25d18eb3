import Mathlib.Data.List.SplitBy

/-!
# Outlines of predicates

What holds a predicate together are its parentheses and its quotes; where they end, the words `AND`
and `OR` do. An **outline** is a predicate with a mark at each symbol that says whether it stands
outside of all parentheses and quotes. A predicate has an outline only if these balance, that is,
if no parenthesis is closed that is not open, and in the end everything is closed.

Words are runs of the characters that identifiers are made of, so the `OR` in `ORDER_ID` is none.
A connective is a whole word that stands outside, in capitals or not (`Mentions`), and a predicate
is split at one into parts, without the blanks around it (`split?`).

A predicate is **closed** if it has an outline that mentions no connective. Closed predicates may be
put next to each other if no word runs across the seam (`Closed.append`), and whatever balances is
closed once it is in parentheses (`Balanced.parenthesized`). If predicates that do not mention a
connective are joined by it, then splitting gives exactly these predicates again
(`split?_join`).

The column of a predicate may be written out, or stand for itself as one symbol.
-/

namespace SemanticLayer.Sql

/-! ### Sentences -/

/-- A symbol of a predicate: a character, or the column as a whole. -/
inductive Symbol where
  | char (c : Char)
  | column
  deriving DecidableEq, Repr

/-- A predicate, symbol by symbol. -/
abbrev Sentence := List Symbol

namespace Sentence

/-- A text in which no column stands for itself. -/
def ofText (text : String) : Sentence :=
  text.toList.map .char

/-- The text of a sentence about a column. -/
def text (column : String) (sentence : Sentence) : String :=
  String.ofList (sentence.flatMap fun
    | .char c => [c]
    | .column => column.toList)

theorem ofText_append (first rest : String) :
    ofText (first ++ rest) = ofText first ++ ofText rest := by
  rw [ofText, String.toList_append, List.map_append]
  rfl

theorem ofText_intercalate (separator : String) (texts : List String) :
    ofText (separator.intercalate texts) =
      (ofText separator).intercalate (texts.map ofText) := by
  induction texts with
  | nil => rfl
  | cons text texts ih =>
    cases texts with
    | nil => rw [String.intercalate_singleton, List.map_singleton, List.intercalate_singleton]
    | cons next texts =>
      rw [String.intercalate_cons_cons, ofText_append, ofText_append, ih, List.map_cons,
        List.map_cons, List.map_cons, List.intercalate_cons_cons]

theorem text_append (column : String) (first rest : Sentence) :
    text column (first ++ rest) = text column first ++ text column rest := by
  rw [text, List.flatMap_append, String.ofList_append]
  rfl

theorem text_ofText (column other : String) : text column (ofText other) = other := by
  rw [text, ofText, List.flatMap_map, List.flatMap_singleton', String.ofList_toList]

theorem text_column_cons (column : String) (rest : Sentence) :
    text column (.column :: rest) = column ++ text column rest := by
  rw [text, List.flatMap_cons, String.ofList_append, String.ofList_toList]
  rfl

theorem text_intercalate (column : String) (separator : Sentence) (sentences : List Sentence) :
    text column (separator.intercalate sentences) =
      (text column separator).intercalate (sentences.map (text column)) := by
  induction sentences with
  | nil => rfl
  | cons sentence sentences ih =>
    cases sentences with
    | nil => rw [List.intercalate_singleton, List.map_singleton, String.intercalate_singleton]
    | cons next sentences =>
      rw [List.intercalate_cons_cons, text_append, text_append, ih, List.map_cons, List.map_cons,
        List.map_cons, String.intercalate_cons_cons]

/-- A sentence in parentheses. -/
def parenthesized (sentence : Sentence) : Sentence :=
  .char '(' :: (sentence ++ [.char ')'])

theorem ofText_parenthesized (text : String) :
    ofText ("(" ++ text ++ ")") = parenthesized (ofText text) := by
  rw [ofText_append, ofText_append]
  rfl

theorem text_parenthesized (column : String) (sentence : Sentence) :
    text column sentence.parenthesized = "(" ++ text column sentence ++ ")" := by
  rw [parenthesized, ← List.singleton_append, text_append, text_append, ← String.append_assoc]
  rfl

end Sentence

open Sentence

/-! ### Nesting -/

/-- How far a place of a text is nested: in how many parentheses, and in which quotes. -/
structure Nesting where
  /-- The number of open parentheses. -/
  depth : Nat
  /-- The quote that is open. -/
  quote? : Option Char
  deriving DecidableEq, Repr

namespace Nesting

/-- Outside of all parentheses and quotes. -/
def outside : Nesting :=
  ⟨0, none⟩

/-- The nesting behind a symbol. Inside quotes only the same quote matters, and a quote that is
written twice ends the quotes and begins them again. Only an open parenthesis can be closed. -/
def next? (nesting : Nesting) : Symbol → Option Nesting
  | .column => some nesting
  | .char c =>
    match nesting.quote? with
    | some quote => some { nesting with quote? := if c = quote then none else some quote }
    | none =>
      if c = '\'' ∨ c = '"' then some { nesting with quote? := some c }
      else if c = '(' then some { nesting with depth := nesting.depth + 1 }
      else if c = ')' then
        if nesting.depth = 0 then none else some { nesting with depth := nesting.depth - 1 }
      else some nesting

/-- The same place in one more pair of parentheses. -/
def deeper (nesting : Nesting) : Nesting :=
  { nesting with depth := nesting.depth + 1 }

theorem deeper_ne_outside (nesting : Nesting) : nesting.deeper ≠ outside := by
  intro h
  cases congrArg depth h

/-- One more pair of parentheses around everything changes nothing else. -/
theorem next?_deeper {nesting next : Nesting} {symbol : Symbol}
    (h : nesting.next? symbol = some next) : nesting.deeper.next? symbol = some next.deeper := by
  obtain ⟨depth, quote?⟩ := nesting
  cases symbol with
  | column =>
    cases h
    rfl
  | char c =>
    cases quote? with
    | some quote =>
      cases h
      rfl
    | none =>
      simp only [next?, deeper, Nat.add_one_ne_zero, if_false] at h ⊢
      split_ifs at h ⊢ with hquote hopen hclose hdepth
      · cases h; rfl
      · cases h; rfl
      · cases h
        rw [Nat.add_sub_cancel, Nat.sub_add_cancel (Nat.pos_of_ne_zero hdepth)]
      · cases h; rfl

end Nesting

/-! ### Outlines -/

/-- A symbol at its place. -/
structure Spot where
  /-- The symbol. -/
  symbol : Symbol
  /-- Whether it stands outside of all parentheses and quotes, which do not stand outside
  themselves. -/
  outside : Bool
  deriving DecidableEq, Repr

/-- A predicate with the places of its symbols. -/
abbrev Outline := List Spot

/-- The outline of a sentence that begins at a nesting, and the nesting behind it. -/
def outlineFrom? : Nesting → Sentence → Option (Outline × Nesting)
  | nesting, [] => some ([], nesting)
  | nesting, symbol :: sentence =>
    (nesting.next? symbol).bind fun next ↦
      (outlineFrom? next sentence).map fun (spots, last) ↦
        (⟨symbol, nesting = .outside ∧ next = .outside⟩ :: spots, last)

/-- The outline of a sentence in which parentheses and quotes balance. -/
def outline? (sentence : Sentence) : Option Outline :=
  match outlineFrom? .outside sentence with
  | some (spots, last) => if last = .outside then some spots else none
  | none => none

theorem outlineFrom?_of_outline? {sentence : Sentence} {spots : Outline}
    (h : outline? sentence = some spots) :
    outlineFrom? .outside sentence = some (spots, .outside) := by
  rw [outline?] at h
  split at h
  · next spots' last found =>
    split_ifs at h with hlast
    cases h
    rw [found, hlast]
  · cases h

theorem outline?_of_outlineFrom? {sentence : Sentence} {spots : Outline}
    (h : outlineFrom? .outside sentence = some (spots, .outside)) :
    outline? sentence = some spots := by
  rw [outline?, h]
  exact if_pos rfl

theorem outlineFrom?_append {nesting middle last : Nesting} {first rest : Sentence}
    {spots spots' : Outline} (hfirst : outlineFrom? nesting first = some (spots, middle))
    (hrest : outlineFrom? middle rest = some (spots', last)) :
    outlineFrom? nesting (first ++ rest) = some (spots ++ spots', last) := by
  induction first generalizing nesting spots with
  | nil =>
    cases hfirst
    exact hrest
  | cons symbol first ih =>
    obtain ⟨next, hnext, hmap⟩ := Option.bind_eq_some_iff.1 hfirst
    obtain ⟨⟨tail, end'⟩, htail, heq⟩ := Option.map_eq_some_iff.1 hmap
    cases heq
    rw [List.cons_append, outlineFrom?, hnext, Option.bind_some, ih htail]
    rfl

/-- Outlines stand next to each other as the sentences do. -/
theorem outline?_append {first rest : Sentence} {spots spots' : Outline}
    (hfirst : outline? first = some spots) (hrest : outline? rest = some spots') :
    outline? (first ++ rest) = some (spots ++ spots') :=
  outline?_of_outlineFrom? (outlineFrom?_append (outlineFrom?_of_outline? hfirst)
    (outlineFrom?_of_outline? hrest))

/-- An outline has the symbols of its sentence. -/
theorem map_symbol_outlineFrom? {nesting last : Nesting} {sentence : Sentence} {spots : Outline}
    (h : outlineFrom? nesting sentence = some (spots, last)) :
    spots.map Spot.symbol = sentence := by
  induction sentence generalizing nesting spots with
  | nil =>
    cases h
    rfl
  | cons symbol sentence ih =>
    obtain ⟨next, hnext, hmap⟩ := Option.bind_eq_some_iff.1 h
    obtain ⟨⟨tail, end'⟩, htail, heq⟩ := Option.map_eq_some_iff.1 hmap
    cases heq
    rw [List.map_cons, ih htail]

theorem map_symbol_outline? {sentence : Sentence} {spots : Outline}
    (h : outline? sentence = some spots) : spots.map Spot.symbol = sentence :=
  map_symbol_outlineFrom? (outlineFrom?_of_outline? h)

/-! ### Parentheses -/

/-- A symbol that has come into parentheses. -/
def Spot.enclosed (spot : Spot) : Spot :=
  { spot with outside := false }

/-- An outline in parentheses. -/
def Outline.parenthesized (spots : Outline) : Outline :=
  ⟨.char '(', false⟩ :: (spots.map Spot.enclosed ++ [⟨.char ')', false⟩])

theorem outlineFrom?_deeper {nesting last : Nesting} {sentence : Sentence} {spots : Outline}
    (h : outlineFrom? nesting sentence = some (spots, last)) :
    outlineFrom? nesting.deeper sentence = some (spots.map Spot.enclosed, last.deeper) := by
  induction sentence generalizing nesting spots with
  | nil =>
    cases h
    rfl
  | cons symbol sentence ih =>
    obtain ⟨next, hnext, hmap⟩ := Option.bind_eq_some_iff.1 h
    obtain ⟨⟨tail, end'⟩, htail, heq⟩ := Option.map_eq_some_iff.1 hmap
    cases heq
    rw [outlineFrom?, Nesting.next?_deeper hnext, Option.bind_some, ih htail, Option.map_some,
      List.map_cons, Spot.enclosed]
    simp only [nesting.deeper_ne_outside, false_and, decide_false]

theorem outline?_parenthesized {sentence : Sentence} {spots : Outline}
    (h : outline? sentence = some spots) :
    outline? sentence.parenthesized = some (Outline.parenthesized spots) := by
  have hinside := outlineFrom?_deeper (outlineFrom?_of_outline? h)
  have hclose : outlineFrom? Nesting.outside.deeper [.char ')'] =
      some ([⟨.char ')', false⟩], .outside) := rfl
  have hopen : outlineFrom? .outside [.char '('] =
      some ([⟨.char '(', false⟩], Nesting.outside.deeper) := rfl
  exact outline?_of_outlineFrom? (outlineFrom?_append hopen (outlineFrom?_append hinside hclose))

/-- Nothing in parentheses stands outside. -/
theorem not_outside_of_mem_parenthesized {spots : Outline} {spot : Spot}
    (h : spot ∈ Outline.parenthesized spots) : spot.outside = false := by
  simp only [Outline.parenthesized, List.mem_cons, List.mem_append, List.mem_map, List.not_mem_nil,
    or_false] at h
  rcases h with rfl | ⟨other, -, rfl⟩ | rfl <;> rfl

/-! ### Words -/

/-- A character of identifiers: everything beyond ASCII belongs to them. -/
def isWordChar (c : Char) : Bool :=
  c.isAlphanum || c == '_' || c == '$' || 128 ≤ c.toNat

/-- A symbol that forms words with its neighbours. -/
def Symbol.isWord : Symbol → Bool
  | char c => isWordChar c
  | column => true

/-- A character that stands outside, as a capital. -/
def Spot.letter? (spot : Spot) : Option Char :=
  match spot with
  | ⟨.char c, true⟩ => some c.toUpper
  | _ => none

theorem letter?_of_not_outside {spot : Spot} (h : spot.outside = false) : spot.letter? = none := by
  obtain ⟨symbol, outside⟩ := spot
  cases h
  cases symbol <;> rfl

/-- The words of an outline and the symbols between them. -/
def lexemes (spots : Outline) : List Outline :=
  spots.splitBy fun spot next ↦ spot.symbol.isWord && next.symbol.isWord

/-- A blank that stands outside. -/
def blankSpot : Spot :=
  ⟨.char ' ', true⟩

/-- A word that joins predicates. -/
inductive Connective where
  | and
  | or
  deriving DecidableEq, Repr

namespace Connective

def word : Connective → String
  | and => "AND"
  | or => "OR"

/-- Whether a lexeme is this word, and stands outside. -/
def isSpelledBy (connective : Connective) (lexeme : Outline) : Bool :=
  lexeme.map Spot.letter? == connective.word.toList.map some

/-- The connective as it is written between predicates. -/
def joint (connective : Connective) : String :=
  " " ++ connective.word ++ " "

/-- The outline of a connective between predicates. -/
def separator (connective : Connective) : Outline :=
  blankSpot :: ((connective.word.toList.map fun c ↦ ⟨.char c, true⟩) ++ [blankSpot])

end Connective

/-- A connective stands outside of all parentheses and quotes. -/
def Mentions (connective : Connective) (spots : Outline) : Prop :=
  ∃ lexeme ∈ lexemes spots, connective.isSpelledBy lexeme

instance (connective : Connective) (spots : Outline) : Decidable (Mentions connective spots) :=
  inferInstanceAs (Decidable (∃ lexeme ∈ lexemes spots, connective.isSpelledBy lexeme))

/-- Sentences next to each other, of which no word runs from one into the other. -/
def Apart (first rest : Sentence) : Prop :=
  ∀ symbol ∈ first.getLast?, ∀ next ∈ rest.head?, (symbol.isWord && next.isWord) = false

theorem apart_of_head {stop : Symbol} (h : stop.isWord = false) (first rest : Sentence) :
    Apart first (stop :: rest) := by
  intro symbol _ next hnext
  cases hnext
  rw [h, Bool.and_false]

theorem apart_of_last {stop : Symbol} (h : stop.isWord = false) (first rest : Sentence) :
    Apart (first ++ [stop]) rest := by
  intro symbol hsymbol next _
  rw [List.getLast?_concat] at hsymbol
  obtain rfl : stop = symbol := Option.some.inj hsymbol
  rw [h, Bool.false_and]

theorem lexemes_append {first rest : Outline}
    (h : Apart (first.map Spot.symbol) (rest.map Spot.symbol)) :
    lexemes (first ++ rest) = lexemes first ++ lexemes rest := by
  refine List.splitBy_append fun spot hspot next hnext ↦ ?_
  refine h spot.symbol ?_ next.symbol ?_
  · rw [List.getLast?_map]
    exact Option.mem_map_of_mem _ hspot
  · rw [List.head?_map]
    exact Option.mem_map_of_mem _ hnext

theorem mentions_append {connective : Connective} {first rest : Outline}
    (h : Apart (first.map Spot.symbol) (rest.map Spot.symbol)) :
    Mentions connective (first ++ rest) ↔ Mentions connective first ∨ Mentions connective rest := by
  simp only [Mentions, lexemes_append h, List.mem_append, or_and_right, exists_or]

/-- A connective is only mentioned where all of its letters stand outside. -/
theorem exists_letter_of_mentions {connective : Connective} {spots : Outline}
    (h : Mentions connective spots) :
    ∃ spot ∈ spots, spot.letter? = some 'A' ∨ spot.letter? = some 'O' := by
  obtain ⟨lexeme, hlexeme, hspelled⟩ := h
  have hletters : lexeme.map Spot.letter? = connective.word.toList.map some :=
    eq_of_beq hspelled
  have hspots : ∀ spot ∈ lexeme, spot ∈ spots := fun spot hspot ↦ by
    rw [← List.flatten_splitBy (fun spot next ↦ spot.symbol.isWord && next.symbol.isWord) spots]
    exact List.mem_flatten.2 ⟨lexeme, hlexeme, hspot⟩
  cases lexeme with
  | nil => cases connective <;> cases hletters
  | cons spot lexeme =>
    refine ⟨spot, hspots spot List.mem_cons_self, ?_⟩
    cases connective with
    | and => exact .inl (List.cons.inj hletters).1
    | or => exact .inr (List.cons.inj hletters).1

/-! ### Closed sentences -/

/-- Parentheses and quotes balance. -/
def Balanced (sentence : Sentence) : Prop :=
  ∃ spots, outline? sentence = some spots

instance (sentence : Sentence) : Decidable (Balanced sentence) :=
  decidable_of_iff ((outline? sentence).isSome = true) Option.isSome_iff_exists

/-- Parentheses and quotes balance, and a connective does not stand outside of them. -/
def Omits (connective : Connective) (sentence : Sentence) : Prop :=
  ∃ spots ∈ outline? sentence, ¬Mentions connective spots

instance (connective : Connective) (sentence : Sentence) : Decidable (Omits connective sentence) :=
  inferInstanceAs (Decidable (∃ spots ∈ outline? sentence, ¬Mentions connective spots))

/-- Parentheses and quotes balance, and no connective stands outside of them. -/
def Closed (sentence : Sentence) : Prop :=
  ∀ connective, Omits connective sentence

instance (sentence : Sentence) : Decidable (Closed sentence) :=
  decidable_of_iff (Omits .and sentence ∧ Omits .or sentence)
    ⟨fun h connective ↦ connective.rec h.1 h.2, fun h ↦ ⟨h .and, h .or⟩⟩

namespace Balanced

theorem append {first rest : Sentence} (hfirst : Balanced first) (hrest : Balanced rest) :
    Balanced (first ++ rest) := by
  obtain ⟨spots, hspots⟩ := hfirst
  obtain ⟨spots', hspots'⟩ := hrest
  exact ⟨_, outline?_append hspots hspots'⟩

theorem intercalate {separator : Sentence} (hseparator : Balanced separator)
    {sentences : List Sentence} (h : ∀ sentence ∈ sentences, Balanced sentence) :
    Balanced (separator.intercalate sentences) := by
  induction sentences with
  | nil => exact ⟨[], rfl⟩
  | cons sentence sentences ih =>
    obtain ⟨hsentence, hrest⟩ := List.forall_mem_cons.1 h
    cases sentences with
    | nil =>
      rw [List.intercalate_singleton]
      exact hsentence
    | cons next sentences =>
      rw [List.intercalate_cons_cons]
      exact (hsentence.append hseparator).append (ih hrest)

/-- **Whatever balances is closed in parentheses.** -/
theorem parenthesized {sentence : Sentence} (h : Balanced sentence) :
    Closed sentence.parenthesized := by
  obtain ⟨spots, hspots⟩ := h
  intro connective
  refine ⟨_, outline?_parenthesized hspots, fun hmentions ↦ ?_⟩
  obtain ⟨spot, hmem, hletter⟩ := exists_letter_of_mentions hmentions
  rw [letter?_of_not_outside (not_outside_of_mem_parenthesized hmem)] at hletter
  rcases hletter with hletter | hletter <;> cases hletter

end Balanced

theorem Omits.balanced {connective : Connective} {sentence : Sentence}
    (h : Omits connective sentence) : Balanced sentence := by
  obtain ⟨spots, hspots, -⟩ := h
  exact ⟨spots, hspots⟩

theorem Omits.append {connective : Connective} {first rest : Sentence}
    (hfirst : Omits connective first) (hrest : Omits connective rest) (h : Apart first rest) :
    Omits connective (first ++ rest) := by
  obtain ⟨spots, hspots, hnot⟩ := hfirst
  obtain ⟨spots', hspots', hnot'⟩ := hrest
  rw [← map_symbol_outline? hspots, ← map_symbol_outline? hspots'] at h
  refine ⟨spots ++ spots', outline?_append hspots hspots', ?_⟩
  rw [mentions_append h, not_or]
  exact ⟨hnot, hnot'⟩

namespace Closed

theorem balanced {sentence : Sentence} (h : Closed sentence) : Balanced sentence :=
  (h .and).balanced

/-- **Closed sentences stand next to each other** if they are apart. -/
theorem append {first rest : Sentence} (hfirst : Closed first) (hrest : Closed rest)
    (h : Apart first rest) : Closed (first ++ rest) :=
  fun connective ↦ (hfirst connective).append (hrest connective) h

/-- Closed sentences stand on both sides of a blank. -/
theorem blank {first rest : Sentence} (hfirst : Closed first) (hrest : Closed rest) :
    Closed (first ++ .char ' ' :: rest) := by
  have hblank : Closed [.char ' '] := by decide
  have hbehind := hblank.append hrest (apart_of_last (by decide) [] rest)
  exact hfirst.append hbehind (apart_of_head (by decide) first rest)

end Closed

/-- A symbol that neither nests nor begins a connective. -/
def Symbol.IsInert (symbol : Symbol) : Prop :=
  Nesting.outside.next? symbol = some .outside ∧
    (⟨symbol, true⟩ : Spot).letter? ≠ some 'A' ∧ (⟨symbol, true⟩ : Spot).letter? ≠ some 'O'

instance (symbol : Symbol) : Decidable symbol.IsInert :=
  inferInstanceAs (Decidable (_ ∧ _ ∧ _))

theorem outlineFrom?_of_inert {sentence : Sentence} (h : ∀ symbol ∈ sentence, symbol.IsInert) :
    outlineFrom? .outside sentence = some (sentence.map fun symbol ↦ ⟨symbol, true⟩, .outside) := by
  induction sentence with
  | nil => rfl
  | cons symbol sentence ih =>
    obtain ⟨⟨hnext, -⟩, hrest⟩ := List.forall_mem_cons.1 h
    rw [outlineFrom?, hnext, Option.bind_some, ih hrest]
    rfl

/-- A sentence of inert symbols is closed. -/
theorem closed_of_inert {sentence : Sentence} (h : ∀ symbol ∈ sentence, symbol.IsInert) :
    Closed sentence := by
  intro connective
  refine ⟨_, outline?_of_outlineFrom? (outlineFrom?_of_inert h), fun hmentions ↦ ?_⟩
  obtain ⟨spot, hmem, hletter⟩ := exists_letter_of_mentions hmentions
  obtain ⟨symbol, hsymbol, rfl⟩ := List.mem_map.1 hmem
  obtain ⟨-, hA, hO⟩ := h symbol hsymbol
  exact hletter.elim hA hO

/-! ### Parts -/

/-- Parts without the blanks beside the connectives that they were split at. -/
def unpadded : List Outline → List Outline
  | [] => []
  | part :: parts => go part parts
where
  /-- A part of which the blank in front has been taken care of, and those behind it. -/
  go (part : Outline) : List Outline → List Outline
    | [] => [part]
    | next :: parts =>
      (if part.getLast? = some blankSpot then part.dropLast else part) ::
        go (if next.head? = some blankSpot then next.tail else next) parts

/-- The parts of an outline between the places where a connective is mentioned. -/
def parts (connective : Connective) (spots : Outline) : List Outline :=
  unpadded (((lexemes spots).splitOnP connective.isSpelledBy).map List.flatten)

theorem flatten_lexemes (spots : Outline) : (lexemes spots).flatten = spots :=
  List.flatten_splitBy _ spots

theorem forall_not_isSpelledBy {connective : Connective} {spots : Outline}
    (h : ¬Mentions connective spots) :
    ∀ lexeme ∈ lexemes spots, connective.isSpelledBy lexeme = false := by
  intro lexeme hlexeme
  rw [← Bool.not_eq_true]
  exact fun hspelled ↦ h ⟨lexeme, hlexeme, hspelled⟩

/-- No word runs from or into a connective between blanks. -/
theorem lexemes_append_separator (connective : Connective) (spots rest : Outline) :
    lexemes (spots ++ connective.separator ++ rest) =
      lexemes spots ++ lexemes connective.separator ++ lexemes rest := by
  have hbefore : Apart (spots.map Spot.symbol) (connective.separator.map Spot.symbol) :=
    apart_of_head (by decide) _ _
  have hbehind : Apart ((spots ++ connective.separator).map Spot.symbol)
      (rest.map Spot.symbol) := by
    rw [Connective.separator, ← List.cons_append, ← List.append_assoc, List.map_append]
    exact apart_of_last (by decide) _ _
  rw [lexemes_append hbehind, lexemes_append hbefore]

/-- An outline that does not mention the connective is its only part. -/
theorem parts_of_not_mentions {connective : Connective} {spots : Outline}
    (h : ¬Mentions connective spots) : parts connective spots = [spots] := by
  rw [parts, List.splitOnP_eq_singleton (forall_not_isSpelledBy h), List.map_singleton,
    flatten_lexemes]
  rfl

/-- The first part ends where the connective is mentioned for the first time. -/
theorem parts_append_separator {connective : Connective} {spots : Outline}
    (h : ¬Mentions connective spots) (rest : Outline) :
    parts connective (spots ++ connective.separator ++ rest) = spots :: parts connective rest := by
  -- the connective is one lexeme between two blanks
  obtain ⟨word, hseparator, hword⟩ : ∃ word,
      lexemes connective.separator = [[blankSpot], word, [blankSpot]] ∧
        connective.isSpelledBy word = true := by
    cases connective <;> exact ⟨_, rfl, rfl⟩
  have hblank : connective.isSpelledBy [blankSpot] = false := by cases connective <;> decide
  have hlexemes : lexemes (spots ++ connective.separator ++ rest) =
      (lexemes spots ++ [[blankSpot]]) ++ word :: [blankSpot] :: lexemes rest := by
    rw [lexemes_append_separator, hseparator]
    simp only [List.append_assoc, List.cons_append, List.nil_append]
  have hfirst : ∀ lexeme ∈ lexemes spots ++ [[blankSpot]],
      connective.isSpelledBy lexeme = false := by
    intro lexeme hlexeme
    rcases List.mem_append.1 hlexeme with hmem | hmem
    · exact forall_not_isSpelledBy h lexeme hmem
    · cases List.mem_singleton.1 hmem
      exact hblank
  obtain ⟨part, others, hrest⟩ :=
    List.exists_cons_of_ne_nil (List.splitOnP_ne_nil connective.isSpelledBy (lexemes rest))
  rw [parts, parts, hlexemes, List.splitOnP_append_cons_of_forall_mem hfirst word hword,
    List.splitOnP_cons_eq_if_modifyHead, hblank, hrest]
  simp [unpadded, unpadded.go, flatten_lexemes]

/-! ### Joined sentences -/

/-- Sentences with a connective between them. -/
def Connective.join (connective : Connective) (sentences : List Sentence) : Sentence :=
  (ofText connective.joint).intercalate sentences

theorem Connective.join_singleton (connective : Connective) (sentence : Sentence) :
    connective.join [sentence] = sentence :=
  List.intercalate_singleton

theorem Connective.join_cons_cons (connective : Connective) (first next : Sentence)
    (sentences : List Sentence) :
    connective.join (first :: next :: sentences) =
      first ++ ofText connective.joint ++ connective.join (next :: sentences) :=
  List.intercalate_cons_cons

/-- The sentences that a sentence is joined from by a connective. -/
def split? (connective : Connective) (sentence : Sentence) : Option (List Sentence) :=
  (outline? sentence).map fun spots ↦ (parts connective spots).map (List.map Spot.symbol)

theorem outline?_joint (connective : Connective) :
    outline? (ofText connective.joint) = some connective.separator := by
  cases connective <;> rfl

theorem apart_joint (connective : Connective) (sentence : Sentence) :
    Apart sentence (ofText connective.joint) := by
  cases connective <;> exact apart_of_head (by decide) sentence _

theorem apart_of_joint (connective : Connective) (first rest : Sentence) :
    Apart (first ++ ofText connective.joint) rest := by
  have hjoint : ofText connective.joint = .char ' ' :: ofText connective.word ++ [.char ' '] := by
    cases connective <;> rfl
  rw [hjoint, ← List.append_assoc]
  exact apart_of_last (by decide) _ rest

theorem split?_of_omits {connective : Connective} {sentence : Sentence}
    (h : Omits connective sentence) : split? connective sentence = some [sentence] := by
  obtain ⟨spots, hspots, hnot⟩ := h
  rw [split?, hspots, Option.map_some, parts_of_not_mentions hnot, List.map_singleton,
    map_symbol_outline? hspots]

theorem split?_append_joint {connective : Connective} {first rest : Sentence}
    (hfirst : Omits connective first) (hrest : Balanced rest) :
    split? connective (first ++ ofText connective.joint ++ rest) =
      (split? connective rest).map (first :: ·) := by
  obtain ⟨spots, hspots, hnot⟩ := hfirst
  obtain ⟨spots', hspots'⟩ := hrest
  have houtline := outline?_append (outline?_append hspots (outline?_joint connective)) hspots'
  rw [split?, split?, houtline, hspots', Option.map_some, Option.map_some, Option.map_some,
    parts_append_separator hnot, List.map_cons, map_symbol_outline? hspots]

theorem Balanced.join (connective : Connective) {sentences : List Sentence}
    (h : ∀ sentence ∈ sentences, Balanced sentence) : Balanced (connective.join sentences) :=
  Balanced.intercalate ⟨_, outline?_joint connective⟩ h

/-- **Splitting undoes joining**, if no sentence mentions the connective already. -/
theorem split?_join {connective : Connective} {sentences : List Sentence}
    (hnonempty : sentences ≠ []) (h : ∀ sentence ∈ sentences, Omits connective sentence) :
    split? connective (connective.join sentences) = some sentences := by
  induction sentences with
  | nil => exact absurd rfl hnonempty
  | cons sentence sentences ih =>
    obtain ⟨hsentence, hrest⟩ := List.forall_mem_cons.1 h
    cases sentences with
    | nil =>
      rw [connective.join_singleton]
      exact split?_of_omits hsentence
    | cons next sentences =>
      have hbalanced := Balanced.join connective fun other hother ↦ (hrest other hother).balanced
      rw [connective.join_cons_cons, split?_append_joint hsentence hbalanced,
        ih (List.cons_ne_nil _ _) hrest, Option.map_some]

/-- Joining mentions no other connective. -/
theorem Omits.join {connective other : Connective} (hne : connective ≠ other)
    {sentences : List Sentence} (h : ∀ sentence ∈ sentences, Omits other sentence) :
    Omits other (connective.join sentences) := by
  have hjoint : Omits other (ofText connective.joint) := by
    cases connective <;> cases other <;> first | exact absurd rfl hne | decide
  induction sentences with
  | nil => exact closed_of_inert (fun symbol h ↦ absurd h List.not_mem_nil) other
  | cons sentence sentences ih =>
    obtain ⟨hsentence, hrest⟩ := List.forall_mem_cons.1 h
    cases sentences with
    | nil =>
      rw [connective.join_singleton]
      exact hsentence
    | cons next sentences =>
      rw [connective.join_cons_cons]
      exact (hsentence.append hjoint (apart_joint connective sentence)).append (ih hrest)
        (apart_of_joint connective sentence _)

end SemanticLayer.Sql
