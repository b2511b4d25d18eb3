import SemanticLayer.Proofs.Sql.Timezone
import SemanticLayer.Sql.Quoting

/-!
# Quoted tokens

As far as quotes go, SQL text is a sequence of characters and quoted tokens: string literals between
single quotes and identifiers between double quotes. A quoted token ends at the first quote of its
kind that is not doubled, and a doubled quote in it stands for one (`takeQuoted`). `next?` reads the
first token of a text, and `tokens?` all of them; a text has tokens exactly if all of its quotes are
closed.

Reading undoes quoting, whatever was quoted and whatever follows, as long as no quote of the same
kind stands directly behind (`next?_quoted`). Tokens do not run across a seam behind which no quote
stands (`tokens?_append`), so a text can be read part by part.

The main statement is `tokens_of_callerText`: names, strings and timezones stay within the quotes
that were put around them. Timezones are not quoted but checked, so that part rests on the language
of timezones having no quote in it (`isQuote_of_isZoneChar`).
-/

namespace SemanticLayer.Sql.Lexical

/-! ### Tokens -/

/-- A token of SQL text, as far as quotes go. -/
inductive Token where
  /-- A character outside of quotes. -/
  | char (c : Char)
  /-- What stands between two quotes, doubled quotes taken once. -/
  | quoted (quote : Char) (content : List Char)
  deriving DecidableEq, Repr

/-- Whether a token stands between quotes. -/
def Token.isQuoted : Token → Bool
  | char _ => false
  | quoted _ _ => true

/-- The quote of string literals and the quote of identifiers. -/
def isQuote (c : Char) : Bool :=
  c == '\'' || c == '"'

theorem any_isQuote_eq_false_iff {text : List Char} :
    text.any isQuote = false ↔ ∀ c ∈ text, isQuote c = false := by
  simp only [List.any_eq_false, Bool.not_eq_true]

/-- The content of a quoted token whose opening quote has been taken, and what follows the closing
one. -/
def takeQuoted (quote : Char) : List Char → Option (List Char × List Char)
  | [] => none
  | c :: text =>
    if c = quote then
      match text with
      | [] => some ([], [])
      | next :: rest =>
        if next = quote then
          (takeQuoted quote rest).map fun (content, rest) ↦ (quote :: content, rest)
        else some ([], next :: rest)
    else (takeQuoted quote text).map fun (content, rest) ↦ (c :: content, rest)

/-- The first token of a text, and what follows it; none if the text is empty or begins with a quote
that is not closed. -/
def next? : List Char → Option (Token × List Char)
  | [] => none
  | c :: text =>
    if isQuote c then (takeQuoted c text).map fun (content, rest) ↦ (.quoted c content, rest)
    else some (.char c, text)

/-! ### What stands between quotes -/

theorem doubleQuotes_cons_self (quote : Char) (text : List Char) :
    doubleQuotes quote (quote :: text) = quote :: quote :: doubleQuotes quote text := by
  simp [doubleQuotes]

theorem doubleQuotes_cons_of_ne {quote c : Char} (h : c ≠ quote) (text : List Char) :
    doubleQuotes quote (c :: text) = c :: doubleQuotes quote text := by
  simp [doubleQuotes, h]

theorem takeQuoted_of_head? {quote : Char} {rest : List Char} (h : rest.head? ≠ some quote) :
    takeQuoted quote (quote :: rest) = some ([], rest) := by
  rcases rest with - | ⟨next, rest⟩
  · simp [takeQuoted]
  · have hnext : next ≠ quote := fun heq ↦ h (congrArg some heq)
    simp [takeQuoted, hnext]

theorem takeQuoted_cons_of_ne {quote c : Char} (h : c ≠ quote) (text : List Char) :
    takeQuoted quote (c :: text) =
      (takeQuoted quote text).map fun (content, rest) ↦ (c :: content, rest) := by
  rw [takeQuoted.eq_def]
  exact if_neg h

/-- **Reading undoes quoting**, and reads nothing else. The closing quote is the first that is not
doubled. -/
theorem takeQuoted_eq_some_iff {quote : Char} {text content rest : List Char} :
    takeQuoted quote text = some (content, rest) ↔
      text = doubleQuotes quote content ++ quote :: rest ∧ rest.head? ≠ some quote := by
  constructor
  · intro h
    fun_induction takeQuoted quote text generalizing content rest with
    | case1 => cases h
    | case2 =>
      obtain ⟨rfl, rfl⟩ := Prod.mk.inj (Option.some.inj h)
      exact ⟨rfl, nofun⟩
    | case3 text ih =>
      obtain ⟨⟨content, rest⟩, htake, heq⟩ := Option.map_eq_some_iff.1 h
      obtain ⟨rfl, rfl⟩ := Prod.mk.inj heq
      obtain ⟨rfl, hrest⟩ := ih htake
      exact ⟨by rw [doubleQuotes_cons_self]; rfl, hrest⟩
    | case4 next text hnext =>
      obtain ⟨rfl, rfl⟩ := Prod.mk.inj (Option.some.inj h)
      exact ⟨rfl, fun heq ↦ hnext (Option.some.inj heq)⟩
    | case5 c text hc ih =>
      obtain ⟨⟨content, rest⟩, htake, heq⟩ := Option.map_eq_some_iff.1 h
      obtain ⟨rfl, rfl⟩ := Prod.mk.inj heq
      obtain ⟨rfl, hrest⟩ := ih htake
      exact ⟨by rw [doubleQuotes_cons_of_ne hc]; rfl, hrest⟩
  · rintro ⟨rfl, hrest⟩
    induction content with
    | nil => exact takeQuoted_of_head? hrest
    | cons c content ih =>
      by_cases hc : c = quote
      · subst hc
        rw [doubleQuotes_cons_self, List.cons_append, List.cons_append]
        simp [takeQuoted, ih]
      · rw [doubleQuotes_cons_of_ne hc, List.cons_append, takeQuoted_cons_of_ne hc, ih,
          Option.map_some]

/-- The first token is a character that is no quote, or stands between quotes. -/
theorem next?_eq_some_iff {text rest : List Char} {token : Token} :
    next? text = some (token, rest) ↔
      (∃ c, isQuote c = false ∧ token = .char c ∧ text = c :: rest) ∨
      ∃ quote content, isQuote quote = true ∧ token = .quoted quote content ∧
        text = quote :: (doubleQuotes quote content ++ quote :: rest) ∧
        rest.head? ≠ some quote := by
  constructor
  · intro h
    match text, h with
    | c :: text, h =>
      rw [next?] at h
      split at h
      · next hquote =>
        obtain ⟨⟨content, rest⟩, htake, heq⟩ := Option.map_eq_some_iff.1 h
        obtain ⟨rfl, rfl⟩ := Prod.mk.inj heq
        obtain ⟨rfl, hrest⟩ := takeQuoted_eq_some_iff.1 htake
        exact .inr ⟨c, content, hquote, rfl, rfl, hrest⟩
      · next hquote =>
        obtain ⟨rfl, rfl⟩ := Prod.mk.inj (Option.some.inj h)
        exact .inl ⟨c, Bool.not_eq_true _ ▸ hquote, rfl, rfl⟩
  · rintro (⟨c, hquote, rfl, rfl⟩ | ⟨quote, content, hquote, rfl, rfl, hrest⟩)
    · rw [next?, if_neg (Bool.not_eq_true _ ▸ hquote)]
    · rw [next?, if_pos hquote, takeQuoted_eq_some_iff.2 ⟨rfl, hrest⟩, Option.map_some]

/-- What was quoted is read as one token, and what follows is left. -/
theorem next?_quoted {quote : Char} (hquote : isQuote quote = true) (text : String)
    {rest : List Char} (h : rest.head? ≠ some quote) :
    next? ((quoted quote text).toList ++ rest) = some (.quoted quote text.toList, rest) := by
  refine next?_eq_some_iff.2 (.inr ⟨quote, text.toList, hquote, rfl, ?_, h⟩)
  rw [quoted, String.toList_ofList, List.cons_append, List.append_assoc]
  rfl

/-! ### All tokens -/

theorem length_of_next? {text rest : List Char} {token : Token}
    (h : next? text = some (token, rest)) : rest.length < text.length := by
  rcases next?_eq_some_iff.1 h with ⟨c, -, -, rfl⟩ | ⟨quote, content, -, -, rfl, -⟩
  · exact Nat.lt_succ_self _
  · simp only [List.length_cons, List.length_append]
    omega

/-- The tokens of a text, if its quotes are closed. -/
def tokens? (text : List Char) : Option (List Token) :=
  match _h : next? text with
  | some (token, rest) => (tokens? rest).map (token :: ·)
  | none => if text.isEmpty then some [] else none
termination_by text.length
decreasing_by exact length_of_next? _h

@[simp] theorem tokens?_nil : tokens? [] = some [] := by
  rw [tokens?]
  rfl

theorem tokens?_of_next? {text rest : List Char} {token : Token}
    (h : next? text = some (token, rest)) : tokens? text = (tokens? rest).map (token :: ·) := by
  rw [tokens?.eq_def]
  split
  · next heq =>
    obtain ⟨rfl, rfl⟩ := Prod.mk.inj (Option.some.inj (h.symm.trans heq))
    rfl
  · next heq => exact nomatch h.symm.trans heq

theorem tokens?_of_next?_eq_none {text : List Char} (h : next? text = none) (hne : text ≠ []) :
    tokens? text = none := by
  rw [tokens?.eq_def]
  split
  · next heq => exact nomatch h.symm.trans heq
  · exact if_neg (mt List.isEmpty_iff.1 hne)

/-- The text of a token, its quotes doubled and put around it again. -/
def Token.text : Token → List Char
  | char c => [c]
  | quoted quote content => quote :: (doubleQuotes quote content ++ [quote])

/-- A text is that of its tokens, one behind another. -/
theorem text_of_tokens? {text : List Char} {tokens : List Token} (h : tokens? text = some tokens) :
    text = tokens.flatMap Token.text := by
  induction text using tokens?.induct generalizing tokens with
  | case1 text token rest hnext ih =>
    rw [tokens?_of_next? hnext] at h
    obtain ⟨tokens, hrest, rfl⟩ := Option.map_eq_some_iff.1 h
    rw [List.flatMap_cons, ← ih hrest]
    rcases next?_eq_some_iff.1 hnext with ⟨c, -, rfl, rfl⟩ | ⟨quote, content, -, rfl, rfl, -⟩
    · rfl
    · rw [Token.text, List.cons_append, List.append_assoc, List.singleton_append]
  | case2 text hnext hempty =>
    obtain rfl := List.isEmpty_iff.1 hempty
    obtain rfl := Option.some.inj (tokens?_nil.symm.trans h)
    rfl
  | case3 text hnext hempty =>
    have hnone := tokens?_of_next?_eq_none hnext (mt List.isEmpty_iff.2 hempty)
    exact nomatch hnone.symm.trans h

/-- Text without quotes is read character by character, whatever follows. -/
theorem tokens?_text_append {text : List Char} (h : ∀ c ∈ text, isQuote c = false)
    (rest : List Char) :
    tokens? (text ++ rest) = (tokens? rest).map (text.map .char ++ ·) := by
  induction text with
  | nil => exact Option.map_id'.symm
  | cons c text ih =>
    obtain ⟨hc, htext⟩ := List.forall_mem_cons.1 h
    have hnext : next? (c :: text ++ rest) = some (.char c, text ++ rest) :=
      next?_eq_some_iff.2 (.inl ⟨c, hc, rfl, rfl⟩)
    rw [tokens?_of_next? hnext, ih htext, Option.map_map]
    rfl

/-- One quoted token, with text without quotes on both sides. -/
theorem tokens?_quoted_between {quote : Char} (hquote : isQuote quote = true) (text : String)
    {before after : List Char} (hbefore : ∀ c ∈ before, isQuote c = false)
    (hafter : ∀ c ∈ after, isQuote c = false) :
    tokens? (before ++ ((quoted quote text).toList ++ after)) =
      some (before.map .char ++ .quoted quote text.toList :: after.map .char) := by
  have hhead : after.head? ≠ some quote := fun heq ↦ by
    rw [hafter quote (List.mem_of_head? heq)] at hquote
    exact Bool.false_ne_true hquote
  have hrest := tokens?_text_append hafter []
  rw [List.append_nil, tokens?_nil, Option.map_some, List.append_nil] at hrest
  rw [tokens?_text_append hbefore, tokens?_of_next? (next?_quoted hquote text hhead), hrest]
  rfl

/-- A text does not begin with a quote. -/
def Unquoted (text : List Char) : Prop :=
  ∀ c ∈ text.head?, isQuote c = false

/-- The first token stays the same if more text follows that does not begin with a quote. -/
theorem next?_append {text rest suffix : List Char} {token : Token}
    (h : next? text = some (token, rest)) (hsuffix : Unquoted suffix) :
    next? (text ++ suffix) = some (token, rest ++ suffix) := by
  rcases next?_eq_some_iff.1 h with ⟨c, hc, htoken, rfl⟩ |
    ⟨quote, content, hquote, htoken, rfl, hrest⟩
  · exact next?_eq_some_iff.2 (.inl ⟨c, hc, htoken, rfl⟩)
  · refine next?_eq_some_iff.2 (.inr ⟨quote, content, hquote, htoken, ?_, fun hhead ↦ ?_⟩)
    · rw [List.cons_append, List.append_assoc, List.cons_append]
    · rcases rest with - | ⟨next, rest⟩
      · exact Bool.false_ne_true ((hsuffix quote hhead).symm.trans hquote)
      · exact hrest hhead

/-- **Tokens do not run across a seam** behind which no quote stands. -/
theorem tokens?_append {text suffix : List Char} {tokens : List Token}
    (h : tokens? text = some tokens) (hsuffix : Unquoted suffix) :
    tokens? (text ++ suffix) = (tokens? suffix).map (tokens ++ ·) := by
  induction text using tokens?.induct generalizing tokens with
  | case1 text token rest hnext ih =>
    rw [tokens?_of_next? hnext] at h
    obtain ⟨tokens, hrest, rfl⟩ := Option.map_eq_some_iff.1 h
    rw [tokens?_of_next? (next?_append hnext hsuffix), ih hrest, Option.map_map]
    rfl
  | case2 text hnext hempty =>
    obtain rfl := List.isEmpty_iff.1 hempty
    obtain rfl := Option.some.inj (tokens?_nil.symm.trans h)
    exact Option.map_id'.symm
  | case3 text hnext hempty =>
    have hnone := tokens?_of_next?_eq_none hnext (mt List.isEmpty_iff.2 hempty)
    exact nomatch hnone.symm.trans h

/-! ### Timezones -/

/-- No character of a timezone is a quote. -/
theorem isQuote_of_isZoneChar {c : Char} (h : Timezone.IsZoneChar Text.isDecimalDigit c) :
    isQuote c = false := by
  refine Bool.eq_false_iff.2 fun hquote ↦ ?_
  have hcases : c = '\'' ∨ c = '"' := by simpa [isQuote] using hquote
  rcases hcases with rfl | rfl <;> revert h <;> simp only [Timezone.IsZoneChar] <;> decide

theorem doubleQuotes_of_not_mem {quote : Char} {text : List Char} (h : quote ∉ text) :
    doubleQuotes quote text = text := by
  induction text with
  | nil => rfl
  | cons c text ih =>
    rw [List.mem_cons, not_or] at h
    rw [doubleQuotes_cons_of_ne (Ne.symm h.1), ih h.2]

/-- What stands behind a field is a string literal between texts without quotes. -/
theorem exists_zoneTail_eq (dialect : Dialect) {timezone : String}
    (h : Timezone.IsZone timezone.toList) : ∃ before after : List Char,
      (dialect.zoneTail timezone).toList =
        before ++ ((quoteString timezone).toList ++ after) ∧
      before ≠ [] ∧ (∀ c ∈ before, isQuote c = false) ∧ ∀ c ∈ after, isQuote c = false := by
  have hquote : '\'' ∉ timezone.toList := fun hmem ↦
    Bool.false_ne_true ((isQuote_of_isZoneChar (h.isZoneChar _ hmem)).symm.trans rfl)
  have hliteral : (quoteString timezone).toList = '\'' :: (timezone.toList ++ ['\'']) := by
    rw [quoteString, quoted, doubleQuotes_of_not_mem hquote, String.toList_ofList]
  cases dialect with
  | vertica =>
    refine ⟨" AT TIMEZONE ".toList, [], ?_, by decide, any_isQuote_eq_false_iff.1 (by decide),
      List.forall_mem_nil _⟩
    show (" AT TIMEZONE '" ++ timezone ++ "'").toList = _
    rw [hliteral, String.toList_append, String.toList_append]
    simp
  | postgres =>
    refine ⟨"::timestamptz AT TIME ZONE ".toList, [')'], ?_, by decide,
      any_isQuote_eq_false_iff.1 (by decide), any_isQuote_eq_false_iff.1 (by decide)⟩
    show ("::timestamptz AT TIME ZONE '" ++ timezone ++ "')").toList = _
    rw [hliteral, String.toList_append, String.toList_append]
    simp

/-! ### Text of callers -/

theorem filter_isQuoted_map_char (text : List Char) :
    (text.map Token.char).filter Token.isQuoted = [] := by
  refine List.filter_eq_nil_iff.2 fun token htoken ↦ ?_
  obtain ⟨c, -, rfl⟩ := List.mem_map.1 htoken
  exact Bool.false_ne_true

/-- A field in which all quotes are closed keeps its tokens between what is added to move it into a
timezone. -/
theorem tokens?_zoned (dialect : Dialect) {field timezone : String} {fieldTokens : List Token}
    (hfield : tokens? field.toList = some fieldTokens) (hzone : Timezone.IsZone timezone.toList) :
    ∃ head tail : List Token, tokens? (dialect.zoneTail timezone).toList = some tail ∧
      tokens? (dialect.zoneHead ++ field ++ dialect.zoneTail timezone).toList =
        some (head ++ fieldTokens ++ tail) ∧
      head.filter Token.isQuoted = [] ∧
      tail.filter Token.isQuoted = [.quoted '\'' timezone.toList] := by
  obtain ⟨before, after, htail, hne, hbefore, hafter⟩ := exists_zoneTail_eq dialect hzone
  have hquote : isQuote '\'' = true := rfl
  have htokens := tokens?_quoted_between hquote timezone hbefore hafter
  rw [← quoteString, ← htail] at htokens
  have hhead : ∀ c ∈ dialect.zoneHead.toList, isQuote c = false := by
    rw [← any_isQuote_eq_false_iff]
    cases dialect <;> decide
  have hunquoted : Unquoted (dialect.zoneTail timezone).toList := fun c hc ↦ by
    rw [htail, List.head?_append_of_ne_nil _ hne] at hc
    exact hbefore c (List.mem_of_head? hc)
  refine ⟨dialect.zoneHead.toList.map .char, _, htokens, ?_, filter_isQuoted_map_char _, ?_⟩
  · rw [String.toList_append, String.toList_append, List.append_assoc,
      tokens?_text_append hhead, tokens?_append hfield hunquoted, htokens, Option.map_some,
      Option.map_some, List.append_assoc]
  · rw [List.filter_append, List.filter_cons_of_pos rfl, filter_isQuoted_map_char,
      filter_isQuoted_map_char, List.nil_append]

/-- **Text of callers stays in its quotes.** A quoted name is read as one identifier, and a quoted
string as one string literal, with exactly what was quoted as content; what follows is left as it
is, unless it begins with a quote of the same kind. What moves a field into a timezone leaves the
tokens of the field as they are, and what it adds behind the field has one string literal, the
timezone, and no identifier. -/
theorem tokens_of_callerText (dialect : Dialect) :
    (∀ (name : String) (rest : List Char), rest.head? ≠ some '"' →
      next? ((dialect.identifier name).toList ++ rest) =
        some (.quoted '"' name.toList, rest)) ∧
    (∀ (text : String) (rest : List Char), rest.head? ≠ some '\'' →
      next? ((quoteString text).toList ++ rest) = some (.quoted '\'' text.toList, rest)) ∧
    ∀ (field timezone sql : String) (fieldTokens : List Token),
      tokens? field.toList = some fieldTokens → dialect.convertTimezone field timezone = .ok sql →
        ∃ head tail : List Token,
          sql = dialect.zoneHead ++ field ++ dialect.zoneTail timezone ∧
          tokens? (dialect.zoneTail timezone).toList = some tail ∧
          tokens? sql.toList = some (head ++ fieldTokens ++ tail) ∧
          head.filter Token.isQuoted = [] ∧
          tail.filter Token.isQuoted = [.quoted '\'' timezone.toList] := by
  refine ⟨fun name rest hrest ↦ next?_quoted rfl name hrest,
    fun text rest hrest ↦ next?_quoted rfl text hrest, ?_⟩
  intro field timezone sql fieldTokens hfield hsql
  obtain ⟨hzone, rfl⟩ := Dialect.convertTimezone_eq_ok_iff.1 hsql
  obtain ⟨head, tail, htokens⟩ := tokens?_zoned dialect hfield hzone
  exact ⟨head, tail, rfl, htokens⟩

/-- A name and a string that begin and end with quotes, and a field with quotes of both kinds. -/
theorem tokens_of_quotes :
    next? ((Dialect.vertica.identifier "\"a\"").toList ++ "'s".toList) =
        some (.quoted '"' "\"a\"".toList, "'s".toList) ∧
    next? ((quoteString "'' OR '").toList ++ "\"".toList) =
        some (.quoted '\'' "'' OR '".toList, "\"".toList) ∧
    ∃ head tail : List Token,
      tokens? "(\"it's\".t::timestamptz AT TIME ZONE 'Etc/GMT+5')".toList =
        some (head ++ [.quoted '"' "it's".toList, .char '.', .char 't'] ++ tail) ∧
      head.filter Token.isQuoted = [] ∧
      tail.filter Token.isQuoted = [.quoted '\'' "Etc/GMT+5".toList] := by
  have hfield : tokens? "\"it's\".t".toList =
      some [.quoted '"' "it's".toList, .char '.', .char 't'] := by decide +kernel
  have hsql : Dialect.postgres.convertTimezone "\"it's\".t" "Etc/GMT+5" =
      .ok "(\"it's\".t::timestamptz AT TIME ZONE 'Etc/GMT+5')" := by decide +kernel
  obtain ⟨hname, hstring, -⟩ := tokens_of_callerText .vertica
  obtain ⟨-, -, hzoned⟩ := tokens_of_callerText .postgres
  obtain ⟨head, tail, -, -, htokens⟩ := hzoned _ _ _ _ hfield hsql
  exact ⟨hname _ _ (by decide), hstring _ _ (by decide), head, tail, htokens⟩

end SemanticLayer.Sql.Lexical
