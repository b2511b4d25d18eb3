import Mathlib.Data.List.TakeWhile
import SemanticLayer.Proofs.Sequence
import SemanticLayer.Setup.Environment

/-!
# Expansion of variables

The tokens of a text are given by a grammar that says nothing of how they are found (`Splits`): a
name in braces holds no closing brace, and a name without braces is followed by no character that
could go on with it. Every text has exactly one list of tokens (`splits_iff`), and what a text
expands to is said of these: the characters that stand for themselves and the values of variables,
one behind another, or the first variable that is not defined (`expand_outcome`).

Values are not tokens of anything, so nothing in them is read again. A text without dollar signs has
no references, which is why a second expansion changes nothing where the first one left none.
-/

namespace SemanticLayer.Setup

/-! ### The grammar -/

/-- A text is a list of tokens. -/
inductive Splits : List Char → List Token → Prop where
  | nil : Splits [] []
  /-- A character other than a dollar sign stands for itself. -/
  | char {c : Char} {text : List Char} {tokens : List Token} (hc : c ≠ '$')
      (h : Splits text tokens) : Splits (c :: text) (.char c :: tokens)
  /-- So does a dollar sign that is followed by no name. -/
  | lone {text : List Char} {tokens : List Token}
      (hnext : ∀ c ∈ text.head?, c ≠ '\x7b' ∧ isNameChar c = false) (h : Splits text tokens) :
      Splits ('$' :: text) (.char '$' :: tokens)
  /-- A name goes as far as it can. -/
  | bare {name text : List Char} {tokens : List Token} (hne : name ≠ [])
      (hname : ∀ c ∈ name, isNameChar c = true) (hnext : ∀ c ∈ text.head?, isNameChar c = false)
      (h : Splits text tokens) : Splits ('$' :: (name ++ text)) (.reference name :: tokens)
  /-- A name in braces goes up to the next closing one. -/
  | braced {name text : List Char} {tokens : List Token} (hname : '\x7d' ∉ name)
      (h : Splits text tokens) :
      Splits ('$' :: '\x7b' :: (name ++ '\x7d' :: text)) (.reference name :: tokens)
  /-- Without a closing brace it goes up to the end. -/
  | unclosed {name : List Char} (hname : '\x7d' ∉ name) :
      Splits ('$' :: '\x7b' :: name) [.reference name]

theorem isNameChar_brace : isNameChar '\x7b' = false := by
  decide +kernel

theorem isNameChar_dollar : isNameChar '$' = false := by
  decide +kernel

theorem tokens_of_ne {c : Char} (h : c ≠ '$') (text : List Char) :
    tokens (c :: text) = .char c :: tokens text := by
  rw [tokens.eq_def]
  exact if_neg h

theorem tokens_brace (text : List Char) :
    tokens ('$' :: '\x7b' :: text) = .reference (text.takeWhile (· != '\x7d')) ::
      tokens ((text.dropWhile (· != '\x7d')).drop 1) := by
  rw [tokens, if_pos rfl]

theorem tokens_dollar {text : List Char} (h : text.head? ≠ some '\x7b') :
    tokens ('$' :: text) =
      if text.takeWhile isNameChar = [] then .char '$' :: tokens text
      else .reference (text.takeWhile isNameChar) :: tokens (text.dropWhile isNameChar) := by
  rw [tokens, if_pos rfl]
  · simp only [List.isEmpty_iff]
  · rintro rest rfl
    exact h rfl

/-- What a text is a list of is found. -/
theorem Splits.tokens_eq {text : List Char} {ts : List Token} (h : Splits text ts) :
    tokens text = ts := by
  induction h with
  | nil => rw [tokens]
  | char hc h ih => rw [tokens_of_ne hc, ih]
  | @lone text ts hnext h ih =>
    have hrun : text.takeWhile isNameChar = [] := by
      have hempty := takeWhile_dropWhile_append (List.forall_mem_nil (isNameChar · = true))
        fun c hc ↦ (hnext c hc).2
      exact hempty.1
    have hbrace : text.head? ≠ some '\x7b' := fun hhead ↦ (hnext _ hhead).1 rfl
    rw [tokens_dollar hbrace, if_pos hrun, ih]
  | @bare name text ts hne hname hnext h ih =>
    obtain ⟨hrun, hrest⟩ := takeWhile_dropWhile_append hname hnext
    have hbrace : (name ++ text).head? ≠ some '\x7b' := by
      rw [List.head?_append_of_ne_nil _ hne]
      intro hhead
      cases isNameChar_brace.symm.trans (hname _ (List.mem_of_head? hhead))
    rw [tokens_dollar hbrace, hrun, hrest, if_neg hne, ih]
  | @braced name text ts hname h ih =>
    have hinside : ∀ c ∈ name, (c != '\x7d') = true :=
      fun c hc ↦ bne_iff_ne.2 fun heq ↦ hname (heq ▸ hc)
    have hclosing : ∀ c ∈ ('\x7d' :: text).head?, (c != '\x7d') = false := by
      rintro _ ⟨⟩
      rfl
    obtain ⟨hrun, hrest⟩ := takeWhile_dropWhile_append hinside hclosing
    rw [tokens_brace, hrun, hrest, List.drop_one, List.tail_cons, ih]
  | @unclosed name hname =>
    have hinside : ∀ c ∈ name, (c != '\x7d') = true :=
      fun c hc ↦ bne_iff_ne.2 fun heq ↦ hname (heq ▸ hc)
    have hend : ∀ c ∈ ([] : List Char).head?, (c != '\x7d') = false := by
      rintro _ ⟨⟩
    obtain ⟨hrun, hrest⟩ := takeWhile_dropWhile_append hinside hend
    rw [List.append_nil] at hrun hrest
    rw [tokens_brace, hrun, hrest, List.drop_nil, tokens]

/-- What is found is a list of tokens of the text. -/
theorem splits_tokens (text : List Char) : Splits text (tokens text) := by
  induction text using tokens.induct with
  | case1 => rw [tokens]; exact .nil
  | case2 rest ih =>
    rw [tokens_brace]
    have hname : '\x7d' ∉ rest.takeWhile (· != '\x7d') :=
      fun hmem ↦ bne_iff_ne.1 (List.mem_takeWhile_imp (p := (· != '\x7d')) hmem) rfl
    -- the name ends at a closing brace or with the text
    cases hrest : rest.dropWhile (· != '\x7d') with
    | nil =>
      have hall := List.takeWhile_append_dropWhile (p := (· != '\x7d')) (l := rest)
      rw [hrest, List.append_nil] at hall
      rw [List.drop_nil, tokens]
      rw [hall] at hname ⊢
      exact .unclosed hname
    | cons c after =>
      have hc := head_dropWhile (p := (· != '\x7d')) rest c (by rw [hrest]; rfl)
      obtain rfl : c = '\x7d' := bne_eq_false_iff_eq.1 hc
      have hall := List.takeWhile_append_dropWhile (p := (· != '\x7d')) (l := rest)
      rw [hrest] at hall ih
      have hsplit := Splits.braced hname ih
      rw [List.drop_one, List.tail_cons] at hsplit ⊢
      rwa [hall] at hsplit
  | case3 text hbrace hrun ih =>
    have hhead : text.head? ≠ some '\x7b' := fun h ↦ by
      obtain ⟨rest, rfl⟩ := List.head?_eq_some_iff.1 h
      exact hbrace rest rfl
    rw [tokens_dollar hhead, if_pos (List.isEmpty_iff.1 hrun)]
    refine .lone (fun c hc ↦ ⟨fun heq ↦ hhead (heq ▸ hc), ?_⟩) ih
    obtain ⟨rest, rfl⟩ := List.head?_eq_some_iff.1 hc
    by_contra hname
    rw [List.takeWhile_cons_of_pos (Bool.not_eq_false _ ▸ hname)] at hrun
    cases hrun
  | case4 text hbrace hrun ih =>
    have hhead : text.head? ≠ some '\x7b' := fun h ↦ by
      obtain ⟨rest, rfl⟩ := List.head?_eq_some_iff.1 h
      exact hbrace rest rfl
    have hne : text.takeWhile isNameChar ≠ [] := fun hempty ↦ hrun (List.isEmpty_iff.2 hempty)
    rw [tokens_dollar hhead, if_neg hne]
    have hsplit := Splits.bare hne (fun c hc ↦ List.mem_takeWhile_imp hc)
      (head_dropWhile text) ih
    rwa [List.takeWhile_append_dropWhile] at hsplit
  | case5 c text hc ih =>
    rw [tokens_of_ne hc]
    exact .char hc ih

/-- A text is one list of tokens, which is the one that is found. -/
theorem splits_iff {text : List Char} {ts : List Token} : Splits text ts ↔ ts = tokens text :=
  ⟨fun h ↦ h.tokens_eq.symm, fun h ↦ h ▸ splits_tokens text⟩

/-! ### What tokens stand for -/

/-- What a token stands for. -/
inductive StandsFor (env : Environment) : Token → List Char → Prop where
  /-- A character stands for itself. -/
  | char (c : Char) : StandsFor env (.char c) [c]
  /-- A reference stands for all of the variable's value. -/
  | reference {name : List Char} {value : String} (h : env (String.ofList name) = some value) :
      StandsFor env (.reference name) value.toList

theorem standsFor_iff {env : Environment} {token : Token} {part : List Char} :
    StandsFor env token part ↔ token.expand env = .ok part := by
  constructor
  · rintro (c | h)
    · rfl
    · rw [Token.expand, h]
  · intro h
    cases token with
    | char c =>
      obtain rfl := Except.ok.inj h
      exact .char c
    | reference name =>
      rw [Token.expand] at h
      cases hvalue : env (String.ofList name) with
      | none =>
        rw [hvalue] at h
        cases h
      | some value =>
        rw [hvalue] at h
        obtain rfl := Except.ok.inj h
        exact .reference hvalue

/-- A token stands for nothing exactly if it refers to a variable that is not defined. -/
theorem expand_token_eq_error_iff {env : Environment} {token : Token} {error : SettingsError} :
    token.expand env = .error error ↔ ∃ name, token = .reference name ∧
      env (String.ofList name) = none ∧ error = .missingVariable (String.ofList name) := by
  constructor
  · intro h
    cases token with
    | char c => cases h
    | reference name =>
      rw [Token.expand] at h
      cases hvalue : env (String.ofList name) with
      | none =>
        rw [hvalue] at h
        exact ⟨name, rfl, hvalue, (Except.error.inj h).symm⟩
      | some value =>
        rw [hvalue] at h
        cases h
  · rintro ⟨name, rfl, hvalue, rfl⟩
    rw [Token.expand, hvalue]

/-- A token stands for something exactly if the variable it may refer to is defined. -/
theorem exists_expand_token_iff {env : Environment} {token : Token} :
    (∃ part, token.expand env = .ok part) ↔
      ∀ name, token = .reference name → (env (String.ofList name)).isSome := by
  constructor
  · rintro ⟨part, h⟩ name rfl
    cases standsFor_iff.2 h with
    | reference hvalue => rw [hvalue]; rfl
  · intro h
    cases token with
    | char c => exact ⟨[c], rfl⟩
    | reference name =>
      obtain ⟨value, hvalue⟩ := Option.isSome_iff_exists.1 (h name rfl)
      exact ⟨value.toList, standsFor_iff.1 (.reference hvalue)⟩

/-! ### What a text expands to -/

theorem expand_eq_ok_iff {env : Environment} {text out : String} :
    expand env text = .ok out ↔
      ∃ parts, List.Forall₂ (StandsFor env) (tokens text.toList) parts ∧
        out = String.ofList parts.flatten := by
  rw [expand]
  constructor
  · intro h
    cases hparts : (tokens text.toList).mapM (Token.expand env) with
    | error error =>
      rw [hparts] at h
      cases h
    | ok parts =>
      rw [hparts] at h
      exact ⟨parts, (mapM_eq_ok_iff.1 hparts).imp fun _ _ ↦ standsFor_iff.2,
        (Except.ok.inj h).symm⟩
  · rintro ⟨parts, hparts, rfl⟩
    rw [mapM_eq_ok_iff.2 (hparts.imp fun _ _ ↦ standsFor_iff.1)]
    rfl

theorem expand_eq_error_iff {env : Environment} {text : String} {error : SettingsError} :
    expand env text = .error error ↔
      (tokens text.toList).mapM (Token.expand env) = .error error := by
  rw [expand]
  constructor
  · intro h
    cases hparts : (tokens text.toList).mapM (Token.expand env) with
    | error first =>
      rw [hparts] at h
      exact congrArg Except.error (Except.error.inj h)
    | ok parts =>
      rw [hparts] at h
      cases h
  · intro h
    rw [h]
    rfl

/-- A text expands to something exactly if all variables that it refers to are defined. -/
theorem exists_expand_iff {env : Environment} {text : String} :
    (∃ out, expand env text = .ok out) ↔
      ∀ name, .reference name ∈ tokens text.toList → (env (String.ofList name)).isSome := by
  constructor
  · rintro ⟨out, h⟩ name hname
    obtain ⟨parts, hparts, -⟩ := expand_eq_ok_iff.1 h
    obtain ⟨part, -, hpart⟩ := exists_related_of_mem hparts hname
    exact exists_expand_token_iff.1 ⟨part, standsFor_iff.1 hpart⟩ name rfl
  · intro h
    have htokens : ∀ token ∈ tokens text.toList, ∃ part, StandsFor env token part := by
      intro token htoken
      obtain ⟨part, hpart⟩ := exists_expand_token_iff.2 fun name heq ↦ h name (heq ▸ htoken)
      exact ⟨part, standsFor_iff.2 hpart⟩
    obtain ⟨parts, hparts⟩ := exists_forall₂ htokens
    exact ⟨_, expand_eq_ok_iff.2 ⟨parts, hparts, rfl⟩⟩

/-- The error names the first variable of the text that is not defined. -/
theorem expand_eq_error_iff_first {env : Environment} {text : String} {error : SettingsError} :
    expand env text = .error error ↔ ∃ before name after,
      tokens text.toList = before ++ .reference name :: after ∧
      (∀ earlier, .reference earlier ∈ before → (env (String.ofList earlier)).isSome) ∧
      env (String.ofList name) = none ∧ error = .missingVariable (String.ofList name) := by
  rw [expand_eq_error_iff, mapM_eq_error_iff]
  constructor
  · rintro ⟨before, token, after, htokens, hbefore, htoken⟩
    obtain ⟨name, rfl, hname, rfl⟩ := expand_token_eq_error_iff.1 htoken
    exact ⟨before, name, after, htokens,
      fun earlier hearlier ↦ exists_expand_token_iff.1 (hbefore _ hearlier) earlier rfl, hname, rfl⟩
  · rintro ⟨before, name, after, htokens, hbefore, hname, rfl⟩
    refine ⟨before, .reference name, after, htokens, fun token htoken ↦ ?_,
      expand_token_eq_error_iff.2 ⟨name, rfl, hname, rfl⟩⟩
    exact exists_expand_token_iff.2 fun earlier heq ↦ hbefore earlier (heq ▸ htoken)

theorem mem_referencedNames {text : String} {name : List Char}
    (h : .reference name ∈ tokens text.toList) : String.ofList name ∈ referencedNames text :=
  List.mem_filterMap.2 ⟨_, h, rfl⟩

/-- What a text expands to depends on the variables it refers to alone. -/
theorem expand_congr {env other : Environment} {text : String}
    (h : ∀ name, .reference name ∈ tokens text.toList →
      env (String.ofList name) = other (String.ofList name)) :
    expand env text = expand other text := by
  have htokens : List.Forall₂ (fun token token' ↦ token.expand env = Token.expand other token')
      (tokens text.toList) (tokens text.toList) := by
    refine List.forall₂_same.2 fun token htoken ↦ ?_
    cases token with
    | char c => rfl
    | reference name => rw [Token.expand, Token.expand, h name htoken]
  rw [expand, expand, mapM_eq_of_forall₂ htokens]

/-! ### Expanding again -/

theorem tokens_of_notMem {text : List Char} (h : '$' ∉ text) : tokens text = text.map .char := by
  induction text with
  | nil => rw [tokens, List.map_nil]
  | cons c text ih =>
    obtain ⟨hc, htext⟩ := not_or.1 (mt List.mem_cons.2 h)
    rw [tokens_of_ne (Ne.symm hc), ih htext, List.map_cons]

/-- A text without dollar signs stands for itself. -/
theorem expand_of_notMem {text : String} (h : '$' ∉ text.toList) (env : Environment) :
    expand env text = .ok text := by
  refine expand_eq_ok_iff.2 ⟨text.toList.map ([·]), ?_, ?_⟩
  · rw [tokens_of_notMem h, List.forall₂_map_left_iff, List.forall₂_map_right_iff]
    exact List.forall₂_same.2 fun c _ ↦ .char c
  · rw [← List.flatMap_def, List.flatMap_singleton', String.ofList_toList]

/-- Dollar signs in what a text expands to come from its own ones and from values. -/
theorem notMem_of_expand {env : Environment} {text out : String} (h : expand env text = .ok out)
    (hlone : .char '$' ∉ tokens text.toList)
    (hvalues : ∀ name value, .reference name ∈ tokens text.toList →
      env (String.ofList name) = some value → '$' ∉ value.toList) :
    '$' ∉ out.toList := by
  obtain ⟨parts, hparts, rfl⟩ := expand_eq_ok_iff.1 h
  rw [String.toList_ofList, List.mem_flatten]
  rintro ⟨part, hpart, hdollar⟩
  obtain ⟨token, htoken, hstands⟩ := exists_related_of_mem hparts.flip hpart
  cases hstands with
  | char c =>
    obtain rfl := List.mem_singleton.1 hdollar
    exact hlone htoken
  | reference hvalue => exact hvalues _ _ htoken hvalue hdollar

/-! ### The outcome -/

/-- **What becomes of a text with references.** It is one list of tokens. It expands to something
exactly if all variables that it refers to are defined, and then to what its tokens stand for, one
behind another; else the error names the first of them that is not. Other variables do not matter.
What a text without lone dollar signs expands to, by values without any, expands to itself,
whatever variables there are by then. -/
theorem expand_outcome (env : Environment) (text : String) :
    ∃ ts, (∀ others, Splits text.toList others ↔ others = ts) ∧
      ((∃ out, expand env text = .ok out) ↔
        ∀ name, .reference name ∈ ts → (env (String.ofList name)).isSome) ∧
      (∀ out, expand env text = .ok out ↔
        ∃ parts, List.Forall₂ (StandsFor env) ts parts ∧ out = String.ofList parts.flatten) ∧
      (∀ error, expand env text = .error error ↔ ∃ before name after,
        ts = before ++ .reference name :: after ∧
        (∀ earlier, .reference earlier ∈ before → (env (String.ofList earlier)).isSome) ∧
        env (String.ofList name) = none ∧ error = .missingVariable (String.ofList name)) ∧
      (∀ other : Environment, (∀ name, .reference name ∈ ts →
          env (String.ofList name) = other (String.ofList name)) →
        expand env text = expand other text) ∧
      (∀ out, expand env text = .ok out → .char '$' ∉ ts →
        (∀ name value, .reference name ∈ ts → env (String.ofList name) = some value →
          '$' ∉ value.toList) →
        ∀ later, expand later out = .ok out) :=
  ⟨tokens text.toList, fun _ ↦ splits_iff, exists_expand_iff, fun _ ↦ expand_eq_ok_iff,
    fun _ ↦ expand_eq_error_iff_first, fun _ ↦ expand_congr,
    fun _ h hlone hvalues later ↦ expand_of_notMem (notMem_of_expand h hlone hvalues) later⟩

/-- A value that looks like a reference is not one, a dollar sign before another is lone, and a name
that is left open goes up to the end. -/
theorem expand_value_with_reference :
    expand (List.lookup · [("A", "$B"), ("a b", "-")]) "$A$\x7ba b\x7d$$A\x7d$\x7bA" =
      .ok "$B-$$B\x7d$B" := by
  obtain ⟨ts, hts, -, hout, -⟩ :=
    expand_outcome (List.lookup · [("A", "$B"), ("a b", "-")]) "$A$\x7ba b\x7d$$A\x7d$\x7bA"
  have hsplit : Splits "$A$\x7ba b\x7d$$A\x7d$\x7bA".toList
      [.reference ['A'], .reference "a b".toList, .char '$', .reference ['A'], .char '\x7d',
        .reference ['A']] := by
    have hA : ∀ c ∈ ['A'], isNameChar c = true := List.forall_mem_singleton.2 (by decide +kernel)
    have hblank : '\x7d' ∉ "a b".toList := by decide
    have hbrace : isNameChar '\x7d' = false := by decide +kernel
    refine @Splits.bare ['A'] _ _ (List.cons_ne_nil _ _) hA ?_ ?_
    · rintro _ ⟨⟩
      exact isNameChar_dollar
    refine @Splits.braced "a b".toList _ _ hblank (.lone ?_ ?_)
    · rintro _ ⟨⟩
      exact ⟨by decide, isNameChar_dollar⟩
    refine @Splits.bare ['A'] _ _ (List.cons_ne_nil _ _) hA ?_ ?_
    · rintro _ ⟨⟩
      exact hbrace
    exact .char (by decide) (.unclosed (by decide))
  obtain rfl := (hts _).1 hsplit
  refine (hout _).2 ⟨["$B".toList, ['-'], ['$'], "$B".toList, ['\x7d'], "$B".toList], ?_, rfl⟩
  have hA : StandsFor (List.lookup · [("A", "$B"), ("a b", "-")]) (.reference ['A'])
      "$B".toList := .reference (by decide)
  have hblank : StandsFor (List.lookup · [("A", "$B"), ("a b", "-")]) (.reference "a b".toList)
      "-".toList := .reference (by decide)
  exact .cons hA (.cons hblank (.cons (.char _) (.cons hA (.cons (.char _) (.cons hA .nil)))))

end SemanticLayer.Setup
