import SemanticLayer.Proofs.Sql.Lexical
import SemanticLayer.Proofs.Sql.Series
import SemanticLayer.Sql.Dialect

/-!
# The rows of a series

The SQL of a series is read back by the rules for string literals: the whole text is first cut into
tokens, so that a bound is one token whatever stands in it, and then the rows are taken one after
another (`SeriesLayout.rows?`). Between the bounds the reader wants exactly the text of the dialect,
branches of a union in one and tuples in the other. Both are the same reader with two layouts.

What is read is what was written, and nothing else is read: a text has ranges exactly if it is the
series of these ranges (`SeriesLayout.ranges?_eq_some_iff`). This needs two facts about a layout,
which it carries with it: its texts have no quotes, so no literal runs on into them, and what closes
the series does not begin like what stands between two rows.
-/

namespace SemanticLayer.Sql

open Lexical (isQuote tokens?)

/-! ### Taking tokens -/

/-- What follows a text, if tokens begin with its characters. -/
def takeText? : List Char → List Lexical.Token → Option (List Lexical.Token)
  | [], tokens => some tokens
  | c :: text, .char d :: tokens => if c = d then takeText? text tokens else none
  | _ :: _, _ => none

/-- The content of a string literal, and what follows it. -/
def takeLiteral? : List Lexical.Token → Option (String × List Lexical.Token)
  | .quoted '\'' content :: tokens => some (String.ofList content, tokens)
  | _ => none

theorem takeText?_eq_some_iff {text : List Char} {tokens rest : List Lexical.Token} :
    takeText? text tokens = some rest ↔ tokens = text.map .char ++ rest := by
  induction text generalizing tokens with
  | nil => exact Option.some_inj
  | cons c text ih =>
    match tokens with
    | [] => simp [takeText?]
    | .quoted quote content :: tokens => simp [takeText?]
    | .char d :: tokens =>
      by_cases hc : c = d
      · simp [takeText?, hc, ih]
      · simp [takeText?, hc, Ne.symm hc]

theorem takeLiteral?_eq_some_iff {tokens rest : List Lexical.Token} {text : String} :
    takeLiteral? tokens = some (text, rest) ↔ tokens = .quoted '\'' text.toList :: rest := by
  constructor
  · intro h
    unfold takeLiteral? at h
    split at h
    · next content tokens =>
      obtain ⟨rfl, rfl⟩ := Prod.mk.inj (Option.some.inj h)
      rw [String.toList_ofList]
    · cases h
  · rintro rfl
    rw [takeLiteral?, String.ofList_toList]

/-! ### Layouts -/

/-- The texts that are written around the bounds of a series. -/
structure SeriesLayout where
  /-- What stands before the rows. -/
  head : String
  /-- What stands before the first bound of a row. -/
  opening : String
  /-- What stands between the bounds of a row. -/
  middle : String
  /-- What stands after the last bound of a row. -/
  closing : String
  /-- What stands between two rows. -/
  separator : String
  /-- What stands after the rows. -/
  tail : String
  /-- No text has a quote. -/
  unquoted : ∀ text ∈ [head, opening, middle, closing, separator, tail],
    text.toList.any isQuote = false
  /-- The bounds of a row stand apart. -/
  middle_ne_nil : middle.toList ≠ []
  /-- A row does not end with a bound. -/
  closing_ne_nil : closing.toList ≠ []
  /-- It is seen from what follows a row whether it was the last one. -/
  not_separator : takeText? separator.toList (tail.toList.map .char) = none

/-- The layout of a dialect: the branches of a union, or tuples. -/
def Dialect.seriesLayout : Dialect → SeriesLayout
  | .vertica => {
      head := "SELECT dates.f::TIMESTAMP date_from, dates.t::TIMESTAMP date_to FROM ("
      opening := "SELECT "
      middle := " f, "
      closing := " t"
      separator := " UNION ALL "
      tail := ") AS dates"
      unquoted := by decide
      middle_ne_nil := by decide
      closing_ne_nil := by decide
      not_separator := by decide }
  | .postgres => {
      head :=
        "SELECT dates.f::timestamp AS date_from, dates.t::timestamp AS date_to FROM (VALUES "
      opening := "("
      middle := ", "
      closing := ")"
      separator := ", "
      tail := ") AS dates (f, t)"
      unquoted := by decide
      middle_ne_nil := by decide
      closing_ne_nil := by decide
      not_separator := by decide }

namespace SeriesLayout

variable (layout : SeriesLayout)

/-- A range as a row. -/
def rowText (range : TimeRange) : String :=
  layout.opening ++ quoteString range.first ++ layout.middle ++ quoteString range.last ++
    layout.closing

/-- Ranges as rows. -/
def text (ranges : List TimeRange) : String :=
  layout.head ++ layout.separator.intercalate (ranges.map layout.rowText) ++ layout.tail

end SeriesLayout

/-- A series has a text if it has a range. -/
theorem dateSeries_of_ne_nil (dialect : Dialect) {ranges : List TimeRange} (h : ranges ≠ []) :
    dialect.dateSeries ranges = .ok (dialect.seriesLayout.text ranges) := by
  have hempty : ranges.isEmpty = false := List.isEmpty_eq_false_iff.2 h
  cases dialect <;> simp only [Dialect.dateSeries, unionRows, tupleRows, hempty] <;> rfl

theorem dateSeries_nil (dialect : Dialect) : dialect.dateSeries [] = .error .emptySeries := by
  cases dialect <;> rfl

/-! ### Reading rows -/

namespace SeriesLayout

variable (layout : SeriesLayout)

/-- The range of a row, and what follows the row. -/
def row? (tokens : List Lexical.Token) : Option (TimeRange × List Lexical.Token) := do
  let tokens ← takeText? layout.opening.toList tokens
  let (first, tokens) ← takeLiteral? tokens
  let tokens ← takeText? layout.middle.toList tokens
  let (last, tokens) ← takeLiteral? tokens
  let tokens ← takeText? layout.closing.toList tokens
  return (⟨first, last⟩, tokens)

/-- A range as the tokens of a row. -/
def rowTokens (range : TimeRange) : List Lexical.Token :=
  layout.opening.toList.map .char ++ .quoted '\'' range.first.toList ::
    (layout.middle.toList.map .char ++ .quoted '\'' range.last.toList ::
      layout.closing.toList.map .char)

theorem row?_eq_some_iff {tokens rest : List Lexical.Token} {range : TimeRange} :
    layout.row? tokens = some (range, rest) ↔ tokens = layout.rowTokens range ++ rest := by
  constructor
  · intro h
    obtain ⟨tokens₁, hopening, h⟩ := Option.bind_eq_some_iff.1 h
    obtain ⟨⟨first, tokens₂⟩, hfirst, h⟩ := Option.bind_eq_some_iff.1 h
    obtain ⟨tokens₃, hmiddle, h⟩ := Option.bind_eq_some_iff.1 h
    obtain ⟨⟨last, tokens₄⟩, hlast, h⟩ := Option.bind_eq_some_iff.1 h
    obtain ⟨tokens₅, hclosing, h⟩ := Option.bind_eq_some_iff.1 h
    obtain ⟨rfl, rfl⟩ := Prod.mk.inj (Option.some.inj h)
    rw [takeText?_eq_some_iff] at hopening hmiddle hclosing
    rw [takeLiteral?_eq_some_iff] at hfirst hlast
    rw [hopening, hfirst, hmiddle, hlast, hclosing, rowTokens]
    simp only [List.append_assoc, List.cons_append]
  · rintro rfl
    have htake (text : String) (rest : List Lexical.Token) :
        takeText? text.toList (text.toList.map .char ++ rest) = some rest :=
      takeText?_eq_some_iff.2 rfl
    have hliteral (text : String) (rest : List Lexical.Token) :
        takeLiteral? (.quoted '\'' text.toList :: rest) = some (text, rest) :=
      takeLiteral?_eq_some_iff.2 rfl
    simp only [row?, rowTokens, List.append_assoc, List.cons_append, htake, hliteral,
      Option.bind_eq_bind, Option.bind_some]
    rfl

theorem length_of_row? {tokens rest : List Lexical.Token} {range : TimeRange}
    (h : layout.row? tokens = some (range, rest)) : rest.length < tokens.length := by
  rw [row?_eq_some_iff] at h
  rw [h, rowTokens]
  simp only [List.length_append, List.length_cons]
  omega

/-- The ranges of rows with separators between them, and what follows the last row. -/
def rows? (tokens : List Lexical.Token) : Option (List TimeRange × List Lexical.Token) :=
  match _hrow : layout.row? tokens with
  | none => none
  | some (range, rest) =>
    match _hseparator : takeText? layout.separator.toList rest with
    | none => some ([range], rest)
    | some next => (rows? next).map fun (ranges, rest) ↦ (range :: ranges, rest)
termination_by tokens.length
decreasing_by
  have hlength := layout.length_of_row? _hrow
  rw [takeText?_eq_some_iff.1 _hseparator, List.length_append] at hlength
  omega

/-- Ranges as the tokens of rows. -/
def rowsTokens (ranges : List TimeRange) : List Lexical.Token :=
  (layout.separator.toList.map Lexical.Token.char).intercalate (ranges.map layout.rowTokens)

theorem rowsTokens_singleton (range : TimeRange) :
    layout.rowsTokens [range] = layout.rowTokens range :=
  List.intercalate_singleton

theorem rowsTokens_cons_cons (range next : TimeRange) (ranges : List TimeRange) :
    layout.rowsTokens (range :: next :: ranges) =
      layout.rowTokens range ++ (layout.separator.toList.map .char ++
        layout.rowsTokens (next :: ranges)) := by
  rw [rowsTokens, List.map_cons, List.map_cons, List.intercalate_cons_cons, ← List.map_cons,
    ← rowsTokens, List.append_assoc]

theorem rows?_of_last {tokens rest : List Lexical.Token} {range : TimeRange}
    (hrow : layout.row? tokens = some (range, rest))
    (hend : takeText? layout.separator.toList rest = none) :
    layout.rows? tokens = some ([range], rest) := by
  rw [rows?.eq_def]
  split
  · next heq => cases heq.symm.trans hrow
  · next heq =>
    obtain ⟨rfl, rfl⟩ := Prod.mk.inj (Option.some.inj (heq.symm.trans hrow))
    split
    · rfl
    · next heq => cases heq.symm.trans hend

theorem rows?_of_next {tokens rest next : List Lexical.Token} {range : TimeRange}
    (hrow : layout.row? tokens = some (range, rest))
    (hseparator : takeText? layout.separator.toList rest = some next) :
    layout.rows? tokens =
      (layout.rows? next).map fun (ranges, rest) ↦ (range :: ranges, rest) := by
  rw [rows?.eq_def]
  split
  · next heq => cases heq.symm.trans hrow
  · next heq =>
    obtain ⟨rfl, rfl⟩ := Prod.mk.inj (Option.some.inj (heq.symm.trans hrow))
    split
    · next heq => cases heq.symm.trans hseparator
    · next heq =>
      obtain rfl := Option.some.inj (heq.symm.trans hseparator)
      rfl

/-- **Rows are read as the ranges that they are of**, up to where no separator follows. -/
theorem rows?_eq_some_iff {tokens rest : List Lexical.Token} {ranges : List TimeRange} :
    layout.rows? tokens = some (ranges, rest) ↔
      ranges ≠ [] ∧ tokens = layout.rowsTokens ranges ++ rest ∧
        takeText? layout.separator.toList rest = none := by
  constructor
  · intro h
    fun_induction layout.rows? tokens generalizing ranges rest with
    | case1 => cases h
    | case2 tokens range rest hrow hseparator =>
      obtain ⟨rfl, rfl⟩ := Prod.mk.inj (Option.some.inj h)
      rw [rowsTokens_singleton]
      exact ⟨List.cons_ne_nil _ _, layout.row?_eq_some_iff.1 hrow, hseparator⟩
    | case3 tokens range after hrow next hseparator ih =>
      obtain ⟨⟨ranges, rest⟩, hrows, heq⟩ := Option.map_eq_some_iff.1 h
      obtain ⟨rfl, rfl⟩ := Prod.mk.inj heq
      obtain ⟨hne, rfl, hend⟩ := ih hrows
      obtain ⟨following, ranges, rfl⟩ := List.exists_cons_of_ne_nil hne
      refine ⟨List.cons_ne_nil _ _, ?_, hend⟩
      rw [layout.row?_eq_some_iff.1 hrow, takeText?_eq_some_iff.1 hseparator,
        rowsTokens_cons_cons, List.append_assoc, List.append_assoc]
  · rintro ⟨hne, rfl, hend⟩
    -- there is no reading of no rows, so the induction is on those behind the first one
    obtain ⟨range, ranges, rfl⟩ := List.exists_cons_of_ne_nil hne
    induction ranges generalizing range with
    | nil =>
      rw [rowsTokens_singleton]
      exact layout.rows?_of_last (layout.row?_eq_some_iff.2 rfl) hend
    | cons next ranges ih =>
      rw [rowsTokens_cons_cons, List.append_assoc, List.append_assoc,
        layout.rows?_of_next (layout.row?_eq_some_iff.2 rfl) (takeText?_eq_some_iff.2 rfl),
        ih next (List.cons_ne_nil _ _), Option.map_some]

/-! ### The tokens of a series -/

/-- A literal between texts without quotes, of which the second is not empty, is read as one token,
whatever stands in it and whatever follows. -/
theorem tokens?_literal (bound : String) {text : String} (htext : text.toList.any isQuote = false)
    (hne : text.toList ≠ []) (rest : List Char) :
    tokens? ((quoteString bound).toList ++ (text.toList ++ rest)) =
      (tokens? rest).map fun tokens ↦
        Lexical.Token.quoted '\'' bound.toList :: (text.toList.map .char ++ tokens) := by
  -- a quote right behind the literal would go on with it as a doubled one
  have hhead : (text.toList ++ rest).head? ≠ some '\'' := by
    rw [List.head?_append_of_ne_nil _ hne]
    intro heq
    have hquote := Lexical.any_isQuote_eq_false_iff.1 htext '\'' (List.mem_of_head? heq)
    cases hquote
  rw [quoteString, Lexical.tokens?_of_next? (Lexical.next?_quoted rfl bound hhead),
    Lexical.tokens?_text_append (Lexical.any_isQuote_eq_false_iff.1 htext), Option.map_map]
  rfl

/-- The text of a layout is read character by character. -/
theorem tokens?_layoutText {text : String} (h : text ∈ [layout.head, layout.opening, layout.middle,
      layout.closing, layout.separator, layout.tail]) (rest : List Char) :
    tokens? (text.toList ++ rest) = (tokens? rest).map (text.toList.map .char ++ ·) :=
  Lexical.tokens?_text_append (Lexical.any_isQuote_eq_false_iff.1 (layout.unquoted text h)) rest

theorem tokens?_rowText (range : TimeRange) (rest : List Char) :
    tokens? ((layout.rowText range).toList ++ rest) =
      (tokens? rest).map (layout.rowTokens range ++ ·) := by
  have hmiddle := layout.unquoted layout.middle (by simp)
  have hclosing := layout.unquoted layout.closing (by simp)
  simp only [rowText, String.toList_append, List.append_assoc]
  rw [layout.tokens?_layoutText (by simp), tokens?_literal range.first hmiddle layout.middle_ne_nil,
    tokens?_literal range.last hclosing layout.closing_ne_nil, Option.map_map, Option.map_map]
  refine congrArg (Option.map · _) (funext fun tokens ↦ ?_)
  simp only [Function.comp_apply, rowTokens, List.append_assoc, List.cons_append]

theorem tokens?_rows (ranges : List TimeRange) (rest : List Char) :
    tokens? ((layout.separator.intercalate (ranges.map layout.rowText)).toList ++ rest) =
      (tokens? rest).map (layout.rowsTokens ranges ++ ·) := by
  match ranges with
  | [] => exact Option.map_id'.symm
  | [range] =>
    rw [List.map_singleton, String.intercalate_singleton, rowsTokens_singleton]
    exact layout.tokens?_rowText range rest
  | range :: next :: ranges =>
    rw [List.map_cons, List.map_cons, String.intercalate_cons_cons, ← List.map_cons,
      String.toList_append, String.toList_append, List.append_assoc, List.append_assoc,
      layout.tokens?_rowText, layout.tokens?_layoutText (by simp),
      tokens?_rows (next :: ranges) rest, rowsTokens_cons_cons, Option.map_map, Option.map_map]
    refine congrArg (Option.map · _) (funext fun tokens ↦ ?_)
    simp only [Function.comp_apply, List.append_assoc]

/-- The tokens of a series. -/
def tokens (ranges : List TimeRange) : List Lexical.Token :=
  layout.head.toList.map .char ++ (layout.rowsTokens ranges ++ layout.tail.toList.map .char)

theorem tokens?_text (ranges : List TimeRange) :
    tokens? (layout.text ranges).toList = some (layout.tokens ranges) := by
  have hmem : layout.tail ∈ [layout.head, layout.opening, layout.middle, layout.closing,
      layout.separator, layout.tail] := by simp
  have htail := layout.tokens?_layoutText hmem []
  rw [List.append_nil, Lexical.tokens?_nil, Option.map_some, List.append_nil] at htail
  simp only [text, String.toList_append, List.append_assoc]
  rw [layout.tokens?_layoutText (by simp), layout.tokens?_rows, htail]
  rfl

/-- The ranges of a series. -/
def ranges? (sql : String) : Option (List TimeRange) := do
  let tokens ← tokens? sql.toList
  let rows ← takeText? layout.head.toList tokens
  let (ranges, rest) ← layout.rows? rows
  if rest = layout.tail.toList.map .char then some ranges else none

/-- **A text has ranges exactly if it is the series of these ranges.** -/
theorem ranges?_eq_some_iff {sql : String} {ranges : List TimeRange} :
    layout.ranges? sql = some ranges ↔ ranges ≠ [] ∧ sql = layout.text ranges := by
  constructor
  · intro h
    obtain ⟨tokens, htokens, h⟩ := Option.bind_eq_some_iff.1 h
    obtain ⟨rows, hhead, h⟩ := Option.bind_eq_some_iff.1 h
    obtain ⟨⟨found, rest⟩, hrows, h⟩ := Option.bind_eq_some_iff.1 h
    obtain ⟨rfl, hfound⟩ := Option.ite_none_right_eq_some.1 h
    obtain rfl := Option.some.inj hfound
    obtain ⟨hne, rfl, -⟩ := layout.rows?_eq_some_iff.1 hrows
    obtain rfl : tokens = layout.tokens found := takeText?_eq_some_iff.1 hhead
    -- both texts are those of the same tokens
    have hsql := Lexical.text_of_tokens? htokens
    rw [← Lexical.text_of_tokens? (layout.tokens?_text found)] at hsql
    exact ⟨hne, String.toList_inj.1 hsql⟩
  · rintro ⟨hne, rfl⟩
    have hhead : takeText? layout.head.toList (layout.tokens ranges) =
        some (layout.rowsTokens ranges ++ layout.tail.toList.map .char) :=
      takeText?_eq_some_iff.2 rfl
    have hrows := layout.rows?_eq_some_iff.2 ⟨hne, rfl, layout.not_separator⟩
    rw [ranges?, tokens?_text]
    show (takeText? _ _).bind _ = _
    rw [hhead]
    show (layout.rows? _).bind _ = _
    rw [hrows]
    exact if_pos rfl

end SeriesLayout

/-- A series returned for bounds has a range. -/
theorem ne_nil_of_timeSeries {g : Calendar.Granularity} {first last : String}
    {ranges : List TimeRange} (h : timeSeries g first last = .ok ranges) : ranges ≠ [] := by
  obtain ⟨start, final, b, -, -, hle, hb, hranges⟩ := timeSeries_eq_ok_iff.1 h
  have hedge := Calendar.Granularity.isTruncation_iff.1
    (Calendar.Granularity.bucketStart?_eq_some_iff.1 hb)
  obtain ⟨rest, rfl, hlength, hrun⟩ := bucketsFrom_eq_ok hedge hranges
  exact List.ne_nil_of_length_pos (hrun.isPartition hlength hle).length.1

/-- **A series has exactly its rows.** In each dialect, every non-empty list of ranges has a text,
from which these ranges are read, in order, by the rules for string literals; what is read as ranges
is their series. So different lists never have the same text. The empty list has none, and no list
that is returned for bounds is empty. -/
theorem dateSeries_rows (dialect : Dialect) :
    (∀ ranges, ranges ≠ [] → ∃ sql, dialect.dateSeries ranges = .ok sql ∧
      dialect.seriesLayout.ranges? sql = some ranges) ∧
    (∀ ranges sql, dialect.dateSeries ranges = .ok sql ↔
      dialect.seriesLayout.ranges? sql = some ranges) ∧
    (∀ ranges others, dialect.dateSeries ranges = dialect.dateSeries others → ranges = others) ∧
    dialect.dateSeries [] = .error .emptySeries ∧
    ∀ g first last, timeSeries g first last ≠ .ok [] := by
  have hread (ranges : List TimeRange) (sql : String) :
      dialect.dateSeries ranges = .ok sql ↔ dialect.seriesLayout.ranges? sql = some ranges := by
    rw [dialect.seriesLayout.ranges?_eq_some_iff]
    by_cases hne : ranges = []
    · subst hne
      rw [dateSeries_nil]
      exact ⟨nofun, fun h ↦ absurd rfl h.1⟩
    · rw [dateSeries_of_ne_nil dialect hne, Except.ok.injEq, and_iff_right hne]
      exact eq_comm
  have hsome {ranges : List TimeRange} (hne : ranges ≠ []) :
      ∃ sql, dialect.dateSeries ranges = .ok sql := ⟨_, dateSeries_of_ne_nil dialect hne⟩
  refine ⟨fun ranges hne ↦ ?_, hread, fun ranges others heq ↦ ?_, dateSeries_nil dialect,
    fun g first last h ↦ ne_nil_of_timeSeries h rfl⟩
  · obtain ⟨sql, hsql⟩ := hsome hne
    exact ⟨sql, hsql, (hread ranges sql).1 hsql⟩
  · cases hranges : dialect.dateSeries ranges with
    | ok sql =>
      have hothers := (hread others sql).1 (heq.symm.trans hranges)
      exact Option.some.inj (((hread ranges sql).1 hranges).symm.trans hothers)
    | error error =>
      -- only the empty list has no text
      have hempty {list : List TimeRange} (h : dialect.dateSeries list = .error error) :
          list = [] := by
        by_contra hne
        obtain ⟨sql, hsql⟩ := hsome hne
        cases h.symm.trans hsql
      rw [hempty hranges, hempty (heq.symm.trans hranges)]

/-- Bounds that hold the text of a series, and two lists that differ only in where a quote
stands. -/
theorem dateSeries_of_injectedRows :
    (∃ sql, Dialect.vertica.dateSeries
        [⟨"' f, 'b' t UNION ALL SELECT '", "it's"⟩, ⟨"", "') AS dates"⟩] = .ok sql ∧
      Dialect.vertica.seriesLayout.ranges? sql =
        some [⟨"' f, 'b' t UNION ALL SELECT '", "it's"⟩, ⟨"", "') AS dates"⟩]) ∧
    (∃ sql, Dialect.postgres.dateSeries [⟨"', '", "'), ('"⟩, ⟨"\"", ""⟩] = .ok sql ∧
      Dialect.postgres.seriesLayout.ranges? sql = some [⟨"', '", "'), ('"⟩, ⟨"\"", ""⟩]) ∧
    Dialect.postgres.dateSeries [⟨"'", ""⟩] ≠ Dialect.postgres.dateSeries [⟨"", "'"⟩] :=
  ⟨(dateSeries_rows .vertica).1 _ (List.cons_ne_nil _ _),
    (dateSeries_rows .postgres).1 _ (List.cons_ne_nil _ _),
    fun h ↦ absurd ((dateSeries_rows .postgres).2.2.1 _ _ h) (by decide)⟩

end SemanticLayer.Sql
