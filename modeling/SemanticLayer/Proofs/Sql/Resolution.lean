import Mathlib.Data.Nat.Find
import SemanticLayer.Proofs.Sequence
import SemanticLayer.Proofs.Sql.Identifier

/-!
# Markers in any text

A statement may hold anything: lone dollar signs, markers that overlap, indices with zeros in front
of them or with more digits than a word has. What is replaced in it is said here without the scan.
A text is split at the leftmost marker in it, and what follows that marker is split again
(`SplitsAt`). Each text has exactly one such split (`exists_splitsAt`, `SplitsAt.unique`), and the
scan finds it (`pieces_of_splitsAt`).

The digits of a marker name an index if they are its decimal digits, with any number of zeros in
front (`Names`). So digits of other scripts name none, and no digits name two. An error shows the
index if it is a word, and the largest word otherwise (`Shows`).

`resolve_split` puts this together: a statement fails at the first marker whose index has no value,
and otherwise each marker becomes the placeholder of its position, and all other text stays.
-/

namespace SemanticLayer.Sql

/-! ### Splits -/

/-- In a text there is a marker with these digits between two texts. -/
def MarkerBetween (text before digits after : List Char) : Prop :=
  text = before ++ '$' :: (digits ++ '$' :: after) ∧ digits ≠ [] ∧
    ∀ c ∈ digits, Text.isDecimalDigit c = true

/-- A marker and the text between it and the marker before it. -/
structure Cut where
  /-- The text in front of the marker. -/
  before : List Char
  /-- The digits of the marker. -/
  digits : List Char

/-- A text is split at markers, and some text is left. Each marker is the leftmost one in what
follows the marker before it, and there is none in the text that is left. -/
inductive SplitsAt : List Char → List Cut → List Char → Prop
  | last {text} : ¬HasMarker text → SplitsAt text [] text
  | leftmost {text before digits after cuts last} : MarkerBetween text before digits after →
      (∀ before' digits' after', MarkerBetween text before' digits' after' →
        before.length ≤ before'.length) →
      SplitsAt after cuts last → SplitsAt text (⟨before, digits⟩ :: cuts) last

/-- A marker is determined by where it starts. -/
theorem MarkerBetween.unique {text before digits after before' digits' after' : List Char}
    (h : MarkerBetween text before digits after) (h' : MarkerBetween text before' digits' after')
    (hlength : before.length = before'.length) :
    before = before' ∧ digits = digits' ∧ after = after' := by
  obtain ⟨htext, hdigits⟩ := h
  obtain ⟨htext', hdigits'⟩ := h'
  obtain ⟨rfl, htail⟩ := List.append_inj (htext.symm.trans htext') hlength
  have hfound := markerTail?_append hdigits.1 hdigits.2 after
  rw [(List.cons.inj htail).2, markerTail?_append hdigits'.1 hdigits'.2] at hfound
  obtain ⟨rfl, rfl⟩ := Prod.mk.inj (Option.some.inj hfound)
  exact ⟨rfl, rfl, rfl⟩

/-- Where there is a marker, there is a leftmost one. -/
theorem HasMarker.exists_leftmost {text : List Char} (h : HasMarker text) :
    ∃ before digits after, MarkerBetween text before digits after ∧
      ∀ before' digits' after', MarkerBetween text before' digits' after' →
        before.length ≤ before'.length := by
  classical
  have hstart : ∃ start before digits after,
      MarkerBetween text before digits after ∧ before.length = start := by
    obtain ⟨before, digits, after, hmarker⟩ := h
    exact ⟨before.length, before, digits, after, hmarker, rfl⟩
  obtain ⟨before, digits, after, hmarker, hlength⟩ := Nat.find_spec hstart
  refine ⟨before, digits, after, hmarker, fun before' digits' after' hmarker' ↦ ?_⟩
  exact hlength ▸ Nat.find_min' hstart ⟨before', digits', after', hmarker', rfl⟩

/-- **Every text has a split.** -/
theorem exists_splitsAt (text : List Char) : ∃ cuts last, SplitsAt text cuts last := by
  by_cases hmarker : HasMarker text
  · obtain ⟨before, digits, after, hbetween, hleftmost⟩ := hmarker.exists_leftmost
    have hshorter : after.length < text.length := by
      rw [hbetween.1]
      simp only [List.length_append, List.length_cons]
      omega
    obtain ⟨cuts, last, hsplit⟩ := exists_splitsAt after
    exact ⟨⟨before, digits⟩ :: cuts, last, .leftmost hbetween hleftmost hsplit⟩
  · exact ⟨[], text, .last hmarker⟩
termination_by text.length

/-- **No text has two splits.** -/
theorem SplitsAt.unique {text last last' : List Char} {cuts cuts' : List Cut}
    (h : SplitsAt text cuts last) (h' : SplitsAt text cuts' last') :
    cuts = cuts' ∧ last = last' := by
  induction h generalizing cuts' last' with
  | last hnone =>
    cases h' with
    | last => exact ⟨rfl, rfl⟩
    | leftmost hbetween => exact absurd ⟨_, _, _, hbetween⟩ hnone
  | leftmost hbetween hleftmost _ ih =>
    cases h' with
    | last hnone => exact absurd ⟨_, _, _, hbetween⟩ hnone
    | leftmost hbetween' hleftmost' hsplit' =>
      obtain ⟨rfl, rfl, rfl⟩ := hbetween.unique hbetween'
        (Nat.le_antisymm (hleftmost _ _ _ hbetween') (hleftmost' _ _ _ hbetween))
      obtain ⟨rfl, rfl⟩ := ih hsplit'
      exact ⟨rfl, rfl⟩

/-! ### The scan -/

/-- The scan passes over the text in front of the leftmost marker. -/
theorem pieces_of_leftmost {text before digits after : List Char}
    (h : MarkerBetween text before digits after)
    (hleftmost : ∀ before' digits' after', MarkerBetween text before' digits' after' →
      before.length ≤ before'.length) :
    pieces text = before.map .char ++ .marker digits :: pieces after := by
  obtain ⟨rfl, hdigits⟩ := h
  induction before with
  | nil => exact pieces_dollar_of_some (markerTail?_append hdigits.1 hdigits.2 after)
  | cons c before ih =>
    -- a marker in the rest has one more character in front of it in the whole
    have hrest := ih fun before' digits' after' ⟨htext, hdigits'⟩ ↦ Nat.le_of_succ_le_succ
      (hleftmost (c :: before') digits' after' ⟨congrArg (List.cons c) htext, hdigits'⟩)
    rw [List.cons_append, List.map_cons, List.cons_append, ← hrest]
    by_cases hc : c = '$'
    · subst hc
      refine pieces_dollar_of_none (Option.eq_none_iff_forall_ne_some.2 ?_)
      rintro ⟨digits', after'⟩ htail
      obtain ⟨htext, hdigits'⟩ := markerTail?_eq_some_iff.1 htail
      have hstart := hleftmost [] digits' after' ⟨congrArg (List.cons '$') htext, hdigits'⟩
      exact Nat.not_succ_le_zero _ hstart
    · exact pieces_char_cons hc _

/-- The pieces of a split. -/
def Cut.pieces (last : List Char) : List Cut → List Piece
  | [] => last.map .char
  | cut :: cuts => cut.before.map .char ++ .marker cut.digits :: pieces last cuts

/-- **The scan finds the split** of a text. -/
theorem pieces_of_splitsAt {text last : List Char} {cuts : List Cut}
    (h : SplitsAt text cuts last) : pieces text = Cut.pieces last cuts := by
  induction h with
  | last hnone => exact pieces_of_not_hasMarker hnone
  | leftmost hbetween hleftmost _ ih => rw [pieces_of_leftmost hbetween hleftmost, ih, Cut.pieces]

/-- A marker has digits. -/
theorem SplitsAt.digits_ne_nil {text last : List Char} {cuts : List Cut}
    (h : SplitsAt text cuts last) : ∀ cut ∈ cuts, cut.digits ≠ [] := by
  induction h with
  | last => exact List.forall_mem_nil _
  | leftmost hbetween _ _ ih => exact List.forall_mem_cons.2 ⟨hbetween.2.1, ih⟩

/-! ### Indices -/

/-- Digits that are those of an index, in decimal, with any number of zeros in front. -/
def Names (digits : List Char) (index : Nat) : Prop :=
  ∃ zeros, digits = List.replicate zeros '0' ++ Nat.toDigits 10 index

/-- The index that an error shows for the digits of a marker: what they name, or the largest word if
they name no word. -/
def Shows (digits : List Char) (index : Nat) : Prop :=
  (Names digits index ∧ index ≤ maxIndex) ∨
    (index = maxIndex ∧ ∀ other ≤ maxIndex, ¬Names digits other)

theorem isDigit_of_names {digits : List Char} {index : Nat} (h : Names digits index) :
    ∀ c ∈ digits, c.isDigit = true := by
  obtain ⟨zeros, rfl⟩ := h
  intro c hc
  rcases List.mem_append.1 hc with hzero | hdigit
  · rw [List.eq_of_mem_replicate hzero]
    rfl
  · exact Nat.isDigit_of_mem_toDigits (by decide) (by decide) hdigit

theorem ofDigitChars_of_names {digits : List Char} {index : Nat} (h : Names digits index) :
    Nat.ofDigitChars 10 digits 0 = index := by
  obtain ⟨zeros, rfl⟩ := h
  rw [Nat.ofDigitChars_append, Nat.ofDigitChars_replicate_zero, Nat.mul_zero,
    Nat.ofDigitChars_ten_toDigits]

/-- A digit is that of its value. -/
theorem exists_digitChar_eq {c : Char} (h : c.isDigit = true) :
    ∃ digit < 10, Nat.digitChar digit = c ∧ c.toNat - '0'.toNat = digit := by
  have hall : ∀ digit : Fin 10, Nat.digitChar digit = Char.ofNat (48 + digit) := by decide
  obtain ⟨hlower, hupper⟩ : 48 ≤ c.toNat ∧ c.toNat ≤ 57 := by
    simpa [Char.isDigit, UInt32.le_iff_toNat_le] using h
  refine ⟨c.toNat - 48, by omega, ?_, rfl⟩
  rw [hall ⟨c.toNat - 48, by omega⟩, Nat.add_sub_cancel' hlower, Char.ofNat_toNat]

/-- Digits name their value. -/
theorem names_ofDigitChars {digits : List Char} (hne : digits ≠ [])
    (h : ∀ c ∈ digits, c.isDigit = true) : Names digits (Nat.ofDigitChars 10 digits 0) := by
  induction digits using List.reverseRecOn with
  | nil => exact absurd rfl hne
  | append_singleton digits c ih =>
    obtain ⟨digit, hlt, rfl, hvalue⟩ := exists_digitChar_eq (h c (by simp))
    have hsum : Nat.ofDigitChars 10 (digits ++ [Nat.digitChar digit]) 0 =
        10 * Nat.ofDigitChars 10 digits 0 + digit := by
      rw [Nat.ofDigitChars_append, Nat.ofDigitChars_cons, Nat.ofDigitChars_nil, hvalue]
    rw [hsum]
    rcases digits.eq_nil_or_concat with rfl | hdigits
    · exact ⟨0, by rw [Nat.ofDigitChars_nil, Nat.mul_zero, Nat.zero_add,
        Nat.toDigits_of_lt_base hlt]; rfl⟩
    · obtain ⟨zeros, hzeros⟩ := ih (by rintro rfl; simp at hdigits) fun c hc ↦
        h c (List.mem_append_left _ hc)
      rcases Nat.eq_zero_or_pos (Nat.ofDigitChars 10 digits 0) with hzero | hpos
      · -- so far there were only zeros, which are now in front of the digit
        rw [hzero, Nat.toDigits_zero] at hzeros
        refine ⟨zeros + 1, ?_⟩
        rw [hzero, Nat.mul_zero, Nat.zero_add, Nat.toDigits_of_lt_base hlt, hzeros,
          List.replicate_succ']
      · refine ⟨zeros, ?_⟩
        rw [← Nat.toDigits_append_toDigits (by decide) hpos hlt, Nat.toDigits_of_lt_base hlt,
          ← List.append_assoc, ← hzeros]

/-- **The index of digits** is what they name. -/
theorem markerIndex?_eq_some_iff {digits : List Char} (hne : digits ≠ []) {index : Nat} :
    markerIndex? digits = some index ↔ Names digits index := by
  constructor
  · intro h
    rw [markerIndex?, Option.ite_none_right_eq_some] at h
    obtain ⟨hall, hindex⟩ := h
    exact Option.some.inj hindex ▸ names_ofDigitChars hne (List.all_eq_true.1 hall)
  · intro h
    rw [markerIndex?, if_pos (List.all_eq_true.2 (isDigit_of_names h)), ofDigitChars_of_names h]

/-- An error shows what it should. -/
theorem shows_shownIndex {digits : List Char} (hne : digits ≠ []) :
    Shows digits (shownIndex digits) := by
  rw [shownIndex]
  rcases hindex : markerIndex? digits with - | index
  · refine .inr ⟨Nat.min_self _, fun other _ hother ↦ ?_⟩
    rw [(markerIndex?_eq_some_iff hne).2 hother] at hindex
    cases hindex
  · have hnames := (markerIndex?_eq_some_iff hne).1 hindex
    rw [Option.getD_some]
    rcases Nat.le_total index maxIndex with hle | hle
    · rw [Nat.min_eq_left hle]
      exact .inl ⟨hnames, hle⟩
    · rw [Nat.min_eq_right hle]
      rcases Nat.eq_or_lt_of_le hle with heq | hlt
      · exact .inl ⟨heq ▸ hnames, Nat.le_refl _⟩
      · refine .inr ⟨rfl, fun other hother hnames' ↦ ?_⟩
        rw [← ofDigitChars_of_names hnames', ofDigitChars_of_names hnames] at hother
        exact Nat.not_le_of_lt hlt hother

/-! ### Resolution -/

/-- The digits of a marker name one of the parameters. -/
def Parameters.Reaches (parameters : Parameters) (digits : List Char) : Prop :=
  ∃ index < parameters.length, Names digits index

/-- For parameters that words can count, it is the shown index that has to be below their number. -/
theorem reaches_iff_of_shows {parameters : Parameters} (hlength : parameters.length ≤ maxIndex)
    {digits : List Char} {shown : Nat} (h : Shows digits shown) :
    parameters.Reaches digits ↔ shown < parameters.length := by
  constructor
  · rintro ⟨index, hindex, hnames⟩
    rcases h with ⟨hshown, -⟩ | ⟨-, hnone⟩
    · rwa [← ofDigitChars_of_names hshown, ofDigitChars_of_names hnames]
    · exact absurd hnames (hnone index (Nat.le_trans (Nat.le_of_lt hindex) hlength))
  · intro hshown
    rcases h with ⟨hnames, -⟩ | ⟨rfl, -⟩
    · exact ⟨shown, hshown, hnames⟩
    · exact absurd hlength (Nat.not_le_of_lt hshown)

section Values

variable {parameters : Parameters} {digits : List Char} (hne : digits ≠ [])

include hne

theorem value?_eq_some_iff {value : String} :
    parameters.value? digits = some value ↔
      ∃ index, Names digits index ∧ parameters[index]? = some value := by
  rw [Parameters.value?, Option.bind_eq_some_iff]
  simp only [markerIndex?_eq_some_iff hne]

/-- Digits have a value if they name one of the parameters. -/
theorem exists_value?_iff : (∃ value, parameters.value? digits = some value) ↔
    parameters.Reaches digits := by
  simp only [value?_eq_some_iff hne]
  constructor
  · rintro ⟨value, index, hnames, hvalue⟩
    exact ⟨index, (List.getElem?_eq_some_iff.1 hvalue).1, hnames⟩
  · rintro ⟨index, hlt, hnames⟩
    exact ⟨parameters[index], index, hnames, List.getElem?_eq_getElem hlt⟩

theorem value?_eq_none_iff : parameters.value? digits = none ↔ ¬parameters.Reaches digits := by
  rw [← exists_value?_iff hne, Option.eq_none_iff_forall_ne_some, not_exists]

end Values

/-- The text of a split with placeholders for its markers, of which the first is at `position`. -/
def Cut.placed (dialect : Dialect) (last : List Char) : Nat → List Cut → List Char
  | _, [] => last
  | position, cut :: cuts =>
    cut.before ++ ((dialect.placeholder position).toList ++ placed dialect last (position + 1) cuts)

/-- With a value for each marker, each marker becomes a placeholder. -/
theorem resolvePieces_of_values (dialect : Dialect) {parameters : Parameters} {cuts : List Cut}
    {values : List String}
    (h : List.Forall₂ (fun cut value ↦ parameters.value? cut.digits = some value) cuts values)
    (last : List Char) (position : Nat) :
    resolvePieces dialect parameters position (Cut.pieces last cuts) =
      .ok (Cut.placed dialect last position cuts, values) := by
  induction h generalizing position with
  | nil =>
    have hlast : resolvePieces dialect parameters position (last.map .char ++ []) =
        .ok (last ++ [], []) := resolvePieces_text_append rfl last
    rwa [List.append_nil, List.append_nil] at hlast
  | @cons cut value cuts values hvalue _ ih =>
    exact resolvePieces_text_append (resolvePieces_marker_cons hvalue (ih (position + 1))) _

theorem resolvePieces_text_append_of_error {dialect : Dialect} {parameters : Parameters}
    {position : Nat} {rest : List Piece} {error : SqlError}
    (h : resolvePieces dialect parameters position rest = .error error) (text : List Char) :
    resolvePieces dialect parameters position (text.map .char ++ rest) = .error error := by
  induction text with
  | nil => exact h
  | cons c text ih =>
    rw [List.map_cons, List.cons_append, resolvePieces, ih]
    rfl

/-- The first marker without a value ends the resolution, whatever follows it. -/
theorem resolvePieces_of_none (dialect : Dialect) {parameters : Parameters} {before : List Cut}
    {cut : Cut} (hbefore : ∀ other ∈ before, ∃ value, parameters.value? other.digits = some value)
    (hcut : parameters.value? cut.digits = none) (after : List Cut) (last : List Char)
    (position : Nat) :
    resolvePieces dialect parameters position (Cut.pieces last (before ++ cut :: after)) =
      .error (.unknownParameter (shownIndex cut.digits)) := by
  induction before generalizing position with
  | nil =>
    refine resolvePieces_text_append_of_error ?_ cut.before
    rw [resolvePieces, hcut]
  | cons first before ih =>
    obtain ⟨⟨value, hvalue⟩, hbefore⟩ := List.forall_mem_cons.1 hbefore
    rw [List.cons_append, Cut.pieces]
    refine resolvePieces_text_append_of_error ?_ first.before
    rw [resolvePieces, hvalue]
    show (resolvePieces dialect parameters (position + 1) _ >>= _) = _
    rw [ih hbefore]
    rfl

/-! ### Statements -/

section Statements

variable (dialect : Dialect) {parameters : Parameters} {text : String} {cuts : List Cut}
  {last : List Char} (hsplit : SplitsAt text.toList cuts last)

include hsplit

/-- If every marker has a value, the statement resolves. -/
theorem resolve_of_reaches (h : ∀ cut ∈ cuts, parameters.Reaches cut.digits) :
    ∃ values,
      parameters.resolve dialect text =
        .ok ⟨String.ofList (Cut.placed dialect last 1 cuts), values⟩ ∧
      List.Forall₂ (fun cut value ↦ ∃ index, Names cut.digits index ∧
        parameters[index]? = some value) cuts values := by
  have hvalue : ∀ cut ∈ cuts, ∃ value, parameters.value? cut.digits = some value ∧
      ∃ index, Names cut.digits index ∧ parameters[index]? = some value := by
    intro cut hmem
    have hne := hsplit.digits_ne_nil cut hmem
    obtain ⟨value, hvalue⟩ := (exists_value?_iff hne).2 (h cut hmem)
    exact ⟨value, hvalue, (value?_eq_some_iff hne).1 hvalue⟩
  obtain ⟨values, hvalues⟩ := exists_forall₂ hvalue
  refine ⟨values, ?_, hvalues.imp fun _ _ hboth ↦ hboth.2⟩
  rw [Parameters.resolve, pieces_of_splitsAt hsplit,
    resolvePieces_of_values dialect (hvalues.imp fun _ _ hboth ↦ hboth.1)]
  rfl

/-- The first marker without a value is the error of the statement. -/
theorem resolve_of_first_not_reaches {before after : List Cut} {cut : Cut}
    (hcuts : cuts = before ++ cut :: after)
    (hbefore : ∀ other ∈ before, parameters.Reaches other.digits)
    (hcut : ¬parameters.Reaches cut.digits) :
    ∃ shown, Shows cut.digits shown ∧
      parameters.resolve dialect text = .error (.unknownParameter shown) := by
  have hdigits := hsplit.digits_ne_nil
  subst hcuts
  have hne := hdigits cut (List.mem_append_right _ List.mem_cons_self)
  refine ⟨_, shows_shownIndex hne, ?_⟩
  rw [Parameters.resolve, pieces_of_splitsAt hsplit,
    resolvePieces_of_none dialect (fun other hmem ↦ (exists_value?_iff
      (hdigits other (List.mem_append_left _ hmem))).2 (hbefore other hmem))
      ((value?_eq_none_iff hne).2 hcut)]
  rfl

end Statements

/-- A statement without markers stays as it is and has no values. -/
theorem resolve_of_not_hasMarker (dialect : Dialect) (parameters : Parameters) {text : String}
    (h : ¬HasMarker text.toList) : parameters.resolve dialect text = .ok ⟨text, []⟩ := by
  have hcuts : ∀ cut ∈ ([] : List Cut), parameters.Reaches cut.digits := List.forall_mem_nil _
  obtain ⟨values, hresolve, hvalues⟩ := resolve_of_reaches dialect (.last h) hcuts
  rw [hresolve, List.forall₂_nil_left_iff.1 hvalues, Cut.placed, String.ofList_toList]

/-- **Resolution of any text.** The text has exactly one split. The statement fails exactly if some
marker of it names none of the parameters, and then with the first of these. Otherwise each marker
becomes the placeholder of its position, all other text stays, and the values are those of the
indices that the markers name, in order. The index that an error shows is what decides, as long as
words can count the parameters. -/
theorem resolve_split (dialect : Dialect) (parameters : Parameters) (text : String) :
    ∃ cuts last, SplitsAt text.toList cuts last ∧
      (∀ cuts' last', SplitsAt text.toList cuts' last' → cuts' = cuts ∧ last' = last) ∧
      ((∃ error, parameters.resolve dialect text = .error error) ↔
        ∃ cut ∈ cuts, ¬parameters.Reaches cut.digits) ∧
      (∀ before cut after, cuts = before ++ cut :: after →
        (∀ other ∈ before, parameters.Reaches other.digits) → ¬parameters.Reaches cut.digits →
        ∃ shown, Shows cut.digits shown ∧
          parameters.resolve dialect text = .error (.unknownParameter shown)) ∧
      ((∀ cut ∈ cuts, parameters.Reaches cut.digits) →
        ∃ values,
          parameters.resolve dialect text =
            .ok ⟨String.ofList (Cut.placed dialect last 1 cuts), values⟩ ∧
          List.Forall₂ (fun cut value ↦ ∃ index, Names cut.digits index ∧
            parameters[index]? = some value) cuts values) ∧
      (parameters.length ≤ maxIndex → ∀ digits shown, Shows digits shown →
        (parameters.Reaches digits ↔ shown < parameters.length)) := by
  obtain ⟨cuts, last, hsplit⟩ := exists_splitsAt text.toList
  refine ⟨cuts, last, hsplit, fun cuts' last' hsplit' ↦ hsplit'.unique hsplit, ⟨?_, ?_⟩,
    fun before cut after ↦ resolve_of_first_not_reaches dialect hsplit,
    resolve_of_reaches dialect hsplit, fun hlength digits shown ↦ reaches_iff_of_shows hlength⟩
  · rintro ⟨error, herror⟩
    by_contra hall
    obtain ⟨values, hresolve, -⟩ := resolve_of_reaches dialect hsplit (by simpa using hall)
    cases hresolve.symm.trans herror
  · rintro ⟨cut, hmem, hcut⟩
    rcases forall_or_first (fun cut ↦ parameters.Reaches cut.digits) cuts with
      hall | ⟨before, first, after, hcuts, hbefore, hfirst⟩
    · exact absurd (hall cut hmem) hcut
    · obtain ⟨shown, -, hresolve⟩ :=
        resolve_of_first_not_reaches dialect hsplit hcuts hbefore hfirst
      exact ⟨_, hresolve⟩

/-- Of two markers that share a dollar sign the left one counts, zeros in front of an index do not,
and a lone dollar sign stays. -/
example :
    Parameters.resolve ["a", "b"] .postgres "$$1$0$ $007$001$ $" =
      .error (.unknownParameter 7) ∧
    Parameters.resolve ["a", "b"] .postgres "$$1$0$ $x$001$ $" = .ok ⟨"$$10$ $x$2 $", ["b", "b"]⟩ ∧
    Parameters.resolve ["a", "b"] .vertica "$99999999999999999999$" =
      .error (.unknownParameter maxIndex) := by
  decide +kernel

end SemanticLayer.Sql
