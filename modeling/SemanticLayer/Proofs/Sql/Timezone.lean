import Mathlib
import SemanticLayer.Setup.Basic

/-!
# The language of timezones

Which texts pass as timezones is said here as a grammar, without the functions that check it: a
named zone is a letter with name characters behind it, and then any number of groups of a slash
with name characters behind it (`IsNamed`); an offset is a sign, two digits, and two more after an
optional colon (`IsOffsetIn`). The checks accept this language and nothing else
(`isAccepted_iff`), and what is accepted is written into SQL as it is
(`convertTimezone_eq_ok_iff`).

Names are made of ASCII characters alone. The digits of an offset may be of any script, while the
documented offsets have ASCII digits (`IsDocumented`). So the documented language is what is
accepted among the texts of ASCII characters (`isDocumented_iff`), and beyond ASCII more is
accepted than documented (`check_of_foreign_digits`).
-/

namespace SemanticLayer.Sql

/-! ### The grammar -/

namespace Timezone

/-- A letter and name characters, and then groups of a slash and at least one name character. -/
def IsNamed (text : List Char) : Prop :=
  ∃ (first : Char) (part : List Char) (groups : List (List Char)),
    text = first :: (part ++ groups.flatMap ('/' :: ·)) ∧ first.isAlpha = true ∧
      (∀ c ∈ part, isNameChar c = true) ∧
      ∀ group ∈ groups, group ≠ [] ∧ ∀ c ∈ group, isNameChar c = true

/-- A sign and two digits, and then nothing, or two more digits with or without a colon in
front. -/
def IsOffsetIn (digit : Char → Bool) (text : List Char) : Prop :=
  ∃ sign a b minutes, text = sign :: a :: b :: minutes ∧ (sign = '+' ∨ sign = '-') ∧
    digit a = true ∧ digit b = true ∧
    (minutes = [] ∨ ∃ c d, digit c = true ∧ digit d = true ∧
      (minutes = [c, d] ∨ minutes = [':', c, d]))

/-- The texts that pass as timezones. -/
def IsZone (text : List Char) : Prop :=
  IsNamed text ∨ IsOffsetIn Text.isDecimalDigit text

/-- The texts that are documented as timezones: their digits are ASCII digits. -/
def IsDocumented (text : List Char) : Prop :=
  IsNamed text ∨ IsOffsetIn Char.isDigit text

/-! ### The checks accept the grammar -/

/-- The first part has no slash in front, and all others have. -/
theorem intercalate_eq_flatMap (part : List Char) (groups : List (List Char)) :
    ['/'].intercalate (part :: groups) = part ++ groups.flatMap ('/' :: ·) := by
  induction groups generalizing part with
  | nil => rw [List.intercalate_singleton, List.flatMap_nil, List.append_nil]
  | cons group groups ih =>
    rw [List.intercalate_cons_cons, ih group, List.flatMap_cons, List.append_assoc]
    rfl

theorem isName_iff {text : List Char} : isName text = true ↔ IsNamed text := by
  constructor
  · intro h
    rcases hparts : text.splitOn '/' with - | ⟨part, groups⟩
    · exact absurd hparts (List.splitOn_ne_nil _ _)
    obtain rfl : part ++ groups.flatMap ('/' :: ·) = text := by
      rw [← intercalate_eq_flatMap, ← hparts, List.intercalate_splitOn]
    simp only [isName, hparts, Bool.and_eq_true, List.all_cons, List.all_eq_true,
      Bool.not_eq_true', List.isEmpty_eq_false_iff] at h
    obtain ⟨hfirst, ⟨hnonempty, hpart⟩, hgroups⟩ := h
    obtain ⟨first, part, rfl⟩ := List.exists_cons_of_ne_nil hnonempty
    exact ⟨first, part, groups, rfl, hfirst, (List.forall_mem_cons.1 hpart).2, hgroups⟩
  · rintro ⟨first, part, groups, rfl, hfirst, hpart, hgroups⟩
    have hname : isNameChar first = true := by simp [isNameChar, Char.isAlphanum, hfirst]
    have hslash (group : List Char) (h : ∀ c ∈ group, isNameChar c = true) : '/' ∉ group :=
      fun hmem ↦ absurd (h _ hmem) (by decide)
    -- a slash is no name character, so the text splits into exactly these parts
    have hparts : (first :: (part ++ groups.flatMap ('/' :: ·))).splitOn '/' =
        (first :: part) :: groups := by
      rw [← List.cons_append, ← intercalate_eq_flatMap]
      refine List.splitOn_intercalate '/' (List.forall_mem_cons.2 ⟨?_, ?_⟩) (List.cons_ne_nil _ _)
      · exact hslash _ (List.forall_mem_cons.2 ⟨hname, hpart⟩)
      · exact fun group hgroup ↦ hslash group (hgroups group hgroup).2
    simp only [isName, hparts, hfirst, Bool.and_eq_true, List.all_cons, List.all_eq_true, hname,
      Bool.not_eq_true', List.isEmpty_eq_false_iff]
    exact ⟨trivial, ⟨List.cons_ne_nil _ _, trivial, hpart⟩, hgroups⟩

theorem isTwoDigits_iff {text : List Char} :
    isTwoDigits text = true ↔ ∃ c d, Text.isDecimalDigit c = true ∧
      Text.isDecimalDigit d = true ∧ text = [c, d] := by
  constructor
  · intro h
    match text, h with
    | [c, d], h => exact ⟨c, d, (Bool.and_eq_true _ _ ▸ h).1, (Bool.and_eq_true _ _ ▸ h).2, rfl⟩
  · rintro ⟨c, d, hc, hd, rfl⟩
    rw [isTwoDigits, hc, hd]
    rfl

/-- No two digits begin with a colon, so the colon may be left out. -/
theorem isOffset_cons_iff {sign a b : Char} {minutes : List Char} :
    isOffset (sign :: a :: b :: minutes) = true ↔
      (sign = '+' ∨ sign = '-') ∧ isTwoDigits [a, b] = true ∧
        (minutes = [] ∨ isTwoDigits minutes = true ∨
          ∃ rest, minutes = ':' :: rest ∧ isTwoDigits rest = true) := by
  have hcolon (rest : List Char) : isTwoDigits (':' :: rest) = false := by
    rcases rest with - | ⟨d, - | _⟩ <;> rfl
  rcases minutes with - | ⟨c, rest⟩
  · simp [isOffset]
  · by_cases hc : c = ':'
    · subst hc
      simp [isOffset, hcolon, and_assoc]
    · simp [isOffset, hc, and_assoc]

theorem isOffset_iff {text : List Char} :
    isOffset text = true ↔ IsOffsetIn Text.isDecimalDigit text := by
  constructor
  · intro h
    match text, h with
    | sign :: a :: b :: minutes, h =>
      obtain ⟨hsign, hhours, hminutes⟩ := isOffset_cons_iff.1 h
      obtain ⟨ha, hb⟩ := Bool.and_eq_true_iff.1 hhours
      refine ⟨sign, a, b, minutes, rfl, hsign, ha, hb, hminutes.imp_right ?_⟩
      rintro (htwo | ⟨rest, rfl, htwo⟩)
      · obtain ⟨c, d, hc, hd, rfl⟩ := isTwoDigits_iff.1 htwo
        exact ⟨c, d, hc, hd, .inl rfl⟩
      · obtain ⟨c, d, hc, hd, rfl⟩ := isTwoDigits_iff.1 htwo
        exact ⟨c, d, hc, hd, .inr rfl⟩
  · rintro ⟨sign, a, b, minutes, rfl, hsign, ha, hb, hminutes⟩
    refine isOffset_cons_iff.2 ⟨hsign, isTwoDigits_iff.2 ⟨a, b, ha, hb, rfl⟩,
      hminutes.imp_right ?_⟩
    rintro ⟨c, d, hc, hd, rfl | rfl⟩
    · exact .inl (isTwoDigits_iff.2 ⟨c, d, hc, hd, rfl⟩)
    · exact .inr ⟨[c, d], rfl, isTwoDigits_iff.2 ⟨c, d, hc, hd, rfl⟩⟩

/-- **What passes as a timezone.** -/
theorem isAccepted_iff {timezone : String} :
    isAccepted timezone = true ↔ IsZone timezone.toList := by
  rw [isAccepted, Bool.or_eq_true, isName_iff, isOffset_iff]
  rfl

theorem check_of_isZone {timezone : String} (h : IsZone timezone.toList) :
    check timezone = .ok timezone :=
  if_pos (isAccepted_iff.2 h)

theorem check_of_not_isZone {timezone : String} (h : ¬IsZone timezone.toList) :
    check timezone = .error (.invalidTimezone timezone) :=
  if_neg (mt isAccepted_iff.1 h)

theorem check_eq_ok_iff {timezone : String} (answer : String) :
    check timezone = .ok answer ↔ answer = timezone ∧ IsZone timezone.toList := by
  by_cases h : IsZone timezone.toList
  · rw [check_of_isZone h, Except.ok.injEq, eq_comm]
    exact (and_iff_left h).symm
  · rw [check_of_not_isZone h]
    exact ⟨fun hok ↦ (nomatch hok), fun hok ↦ absurd hok.2 h⟩

theorem check_eq_error_iff {timezone : String} (error : SqlError) :
    check timezone = .error error ↔
      error = .invalidTimezone timezone ∧ ¬IsZone timezone.toList := by
  by_cases h : IsZone timezone.toList
  · rw [check_of_isZone h]
    exact ⟨fun herror ↦ (nomatch herror), fun herror ↦ absurd h herror.2⟩
  · rw [check_of_not_isZone h, Except.error.injEq, eq_comm]
    exact (and_iff_left h).symm

/-! ### The characters of a timezone -/

/-- The characters that timezones are made of, given the digits of offsets. -/
def IsZoneChar (digit : Char → Bool) (c : Char) : Prop :=
  isNameChar c = true ∨ c = '/' ∨ c = ':' ∨ digit c = true

theorem IsNamed.isZoneChar {text : List Char} (h : IsNamed text) (digit : Char → Bool) :
    ∀ c ∈ text, IsZoneChar digit c := by
  obtain ⟨first, part, groups, rfl, hfirst, hpart, hgroups⟩ := h
  refine List.forall_mem_cons.2 ⟨.inl (by simp [isNameChar, Char.isAlphanum, hfirst]), ?_⟩
  intro c hc
  rcases List.mem_append.1 hc with hc | hc
  · exact .inl (hpart c hc)
  · obtain ⟨group, hgroup, hc⟩ := List.mem_flatMap.1 hc
    rcases List.mem_cons.1 hc with rfl | hc
    · exact .inr (.inl rfl)
    · exact .inl ((hgroups group hgroup).2 c hc)

theorem IsOffsetIn.isZoneChar {digit : Char → Bool} {text : List Char}
    (h : IsOffsetIn digit text) : ∀ c ∈ text, IsZoneChar digit c := by
  obtain ⟨sign, a, b, minutes, rfl, hsign, ha, hb, hminutes⟩ := h
  have hdigit {c : Char} (hc : digit c = true) : IsZoneChar digit c := .inr (.inr (.inr hc))
  have hsign : IsZoneChar digit sign := by
    rcases hsign with rfl | rfl <;> exact .inl rfl
  refine List.forall_mem_cons.2 ⟨hsign, List.forall_mem_cons.2 ⟨hdigit ha,
    List.forall_mem_cons.2 ⟨hdigit hb, ?_⟩⟩⟩
  rcases hminutes with rfl | ⟨c, d, hc, hd, rfl | rfl⟩
  · exact fun c hc ↦ absurd hc List.not_mem_nil
  · simpa using ⟨hdigit hc, hdigit hd⟩
  · simpa using ⟨.inr (.inr (.inl rfl)), hdigit hc, hdigit hd⟩

theorem IsZone.isZoneChar {text : List Char} (h : IsZone text) :
    ∀ c ∈ text, IsZoneChar Text.isDecimalDigit c :=
  h.elim (·.isZoneChar _) IsOffsetIn.isZoneChar

theorem toNat_lt_of_isNameChar {c : Char} (h : isNameChar c = true) : c.toNat < 128 := by
  simp only [isNameChar, Char.isAlphanum, Char.isAlpha, Char.isUpper, Char.isLower, Char.isDigit,
    Bool.or_eq_true, Bool.and_eq_true, decide_eq_true_eq, beq_iff_eq, UInt32.le_iff_toNat_le] at h
  rcases h with ((h | rfl) | rfl) | rfl
  · have hupper : 'Z'.val.toNat = 90 := rfl
    have hlower : 'z'.val.toNat = 122 := rfl
    have hdigit : '9'.val.toNat = 57 := rfl
    show c.val.toNat < 128
    omega
  all_goals decide

/-- The ASCII digits are the decimal digits below 128. -/
theorem isDigit_iff {c : Char} :
    c.isDigit = true ↔ Text.isDecimalDigit c = true ∧ c.toNat < 128 := by
  constructor
  · intro h
    exact ⟨Text.isDecimalDigit_of_isDigit h, toNat_lt_of_isNameChar (by
      simp [isNameChar, Char.isAlphanum, h])⟩
  · rintro ⟨h, hlt⟩
    obtain ⟨interval, hmem, hlow, hhigh⟩ := Text.Intervals.contains_iff.1 h
    have htable : ∀ interval ∈ Text.decimalDigits,
        interval = (0x30, 0x39) ∨ 128 ≤ interval.1 := by decide
    rcases htable interval hmem with rfl | hfar
    · simp only [Char.isDigit, Bool.and_eq_true, decide_eq_true_eq]
      exact ⟨hlow, hhigh⟩
    · omega

/-- Offsets are carried over to any digits that include their own. -/
theorem IsOffsetIn.mono {digit digit' : Char → Bool} {text : List Char}
    (h : IsOffsetIn digit text) (hdigit : ∀ c ∈ text, digit c = true → digit' c = true) :
    IsOffsetIn digit' text := by
  obtain ⟨sign, a, b, minutes, rfl, hsign, ha, hb, hminutes⟩ := h
  simp only [List.forall_mem_cons] at hdigit
  obtain ⟨-, hda, hdb, hdm⟩ := hdigit
  refine ⟨sign, a, b, minutes, rfl, hsign, hda ha, hdb hb, hminutes.imp_right ?_⟩
  rintro ⟨c, d, hc, hd, h⟩
  have hmem : c ∈ minutes ∧ d ∈ minutes := by
    rcases h with rfl | rfl <;> simp
  exact ⟨c, d, hdm c hmem.1 hc, hdm d hmem.2 hd, h⟩

/-- The documented timezones are those of ASCII characters. -/
theorem isDocumented_iff {text : List Char} :
    IsDocumented text ↔ IsZone text ∧ ∀ c ∈ text, c.toNat < 128 := by
  have hascii {c : Char} (h : IsZoneChar Char.isDigit c) : c.toNat < 128 := by
    rcases h with h | rfl | rfl | h
    · exact toNat_lt_of_isNameChar h
    · decide
    · decide
    · exact (isDigit_iff.1 h).2
  constructor
  · rintro (h | h)
    · exact ⟨.inl h, fun c hc ↦ hascii (h.isZoneChar _ c hc)⟩
    · exact ⟨.inr (h.mono fun c _ hc ↦ (isDigit_iff.1 hc).1),
        fun c hc ↦ hascii (h.isZoneChar c hc)⟩
  · rintro ⟨h | h, hlt⟩
    · exact .inl h
    · exact .inr (h.mono fun c hmem hc ↦ isDigit_iff.2 ⟨hc, hlt c hmem⟩)

end Timezone

/-! ### Timezones in SQL -/

namespace Dialect

/-- What is written before a field that is moved into a timezone. -/
def zoneHead : Dialect → String
  | vertica => ""
  | postgres => "("

/-- What is written behind a field that is moved into a timezone. -/
def zoneTail : Dialect → String → String
  | vertica, timezone => " AT TIMEZONE '" ++ timezone ++ "'"
  | postgres, timezone => "::timestamptz AT TIME ZONE '" ++ timezone ++ "')"

variable {dialect : Dialect} {field timezone : String}

/-- A timezone that passes is written as it is. -/
theorem convertTimezone_of_isZone (h : Timezone.IsZone timezone.toList) :
    dialect.convertTimezone field timezone =
      .ok (dialect.zoneHead ++ field ++ dialect.zoneTail timezone) := by
  rw [convertTimezone, Timezone.check_of_isZone h]
  cases dialect with
  | vertica =>
    show Except.ok (field ++ " AT TIMEZONE '" ++ timezone ++ "'") =
      Except.ok ("" ++ field ++ (" AT TIMEZONE '" ++ timezone ++ "'"))
    simp only [String.empty_append, String.append_assoc]
  | postgres =>
    show Except.ok ("(" ++ field ++ "::timestamptz AT TIME ZONE '" ++ timezone ++ "')") =
      Except.ok ("(" ++ field ++ ("::timestamptz AT TIME ZONE '" ++ timezone ++ "')"))
    simp only [String.append_assoc]

theorem convertTimezone_eq_ok_iff {sql : String} :
    dialect.convertTimezone field timezone = .ok sql ↔ Timezone.IsZone timezone.toList ∧
      sql = dialect.zoneHead ++ field ++ dialect.zoneTail timezone := by
  by_cases h : Timezone.IsZone timezone.toList
  · rw [convertTimezone_of_isZone h, Except.ok.injEq, eq_comm]
    exact (and_iff_right h).symm
  · rw [convertTimezone, Timezone.check_of_not_isZone h]
    exact ⟨fun hsql ↦ (nomatch hsql), fun hsql ↦ absurd hsql.1 h⟩

end Dialect

/-- Settings have a timezone exactly if the text with its variables resolved passes. -/
theorem resolvedTimezone_eq_ok_iff {settings : Setup.Settings} {env : Setup.Environment}
    {timezone : String} :
    settings.resolvedTimezone env = .ok timezone ↔
      Setup.expand env settings.timezone = .ok timezone ∧ Timezone.IsZone timezone.toList := by
  rcases hexpand : Setup.expand env settings.timezone with error | expanded
  · rw [Setup.Settings.resolvedTimezone, hexpand]
    exact ⟨fun h ↦ (nomatch h), fun h ↦ (nomatch h.1)⟩
  · rw [Setup.Settings.resolvedTimezone, hexpand, Except.ok.injEq]
    show (if Timezone.isAccepted expanded = true then Except.ok expanded
      else .error (Setup.SettingsError.invalidTimezone expanded)) = Except.ok timezone ↔ _
    split
    · next h =>
      rw [Except.ok.injEq]
      exact ⟨fun heq ↦ ⟨heq, heq ▸ Timezone.isAccepted_iff.1 h⟩, And.left⟩
    · next h =>
      refine ⟨fun heq ↦ (nomatch heq), ?_⟩
      rintro ⟨rfl, hzone⟩
      exact absurd (Timezone.isAccepted_iff.2 hzone) h

namespace Timezone

/-- **The language of timezones.** A text is accepted, and then given back as it is, exactly if the
grammar has it. The documented timezones are those among them that are made of ASCII characters. The
dialects accept the same texts and write them as they are, so that nothing but their characters gets
into SQL: name characters, slashes, colons and decimal digits. What settings resolve to is accepted
by every dialect. -/
theorem check_outcome (timezone : String) :
    (∀ answer, check timezone = .ok answer ↔ answer = timezone ∧ IsZone timezone.toList) ∧
    (∀ error, check timezone = .error error ↔
      error = .invalidTimezone timezone ∧ ¬IsZone timezone.toList) ∧
    (IsDocumented timezone.toList ↔
      check timezone = .ok timezone ∧ ∀ c ∈ timezone.toList, c.toNat < 128) ∧
    (∀ (dialect : Dialect) (field sql : String), dialect.convertTimezone field timezone = .ok sql ↔
      check timezone = .ok timezone ∧
        sql = dialect.zoneHead ++ field ++ dialect.zoneTail timezone) ∧
    (check timezone = .ok timezone →
      ∀ c ∈ timezone.toList, IsZoneChar Text.isDecimalDigit c) ∧
    ∀ (settings : Setup.Settings) (env : Setup.Environment),
      settings.resolvedTimezone env = .ok timezone →
        ∀ (dialect : Dialect) (field : String),
          ∃ sql, dialect.convertTimezone field timezone = .ok sql := by
  have hok : check timezone = .ok timezone ↔ IsZone timezone.toList :=
    (check_eq_ok_iff timezone).trans (and_iff_right rfl)
  refine ⟨check_eq_ok_iff, check_eq_error_iff, ?_, fun dialect field sql ↦ ?_, fun h ↦ ?_,
    fun settings env h dialect field ↦ ?_⟩
  · rw [hok, isDocumented_iff]
  · rw [hok, Dialect.convertTimezone_eq_ok_iff]
  · exact (hok.1 h).isZoneChar
  · exact ⟨_, Dialect.convertTimezone_of_isZone (resolvedTimezone_eq_ok_iff.1 h).2⟩

/-- A zone of three parts, from a variable of the environment. -/
theorem resolvedTimezone_of_buenosAires :
    check "America/Argentina/Buenos_Aires" = .ok "America/Argentina/Buenos_Aires" ∧
    (∀ c ∈ "America/Argentina/Buenos_Aires".toList, IsZoneChar Text.isDecimalDigit c) ∧
    Setup.Settings.resolvedTimezone { Setup.Settings.default with timezone := "$TZ" }
      (fun _ ↦ some "America/Argentina/Buenos_Aires") = .ok "America/Argentina/Buenos_Aires" ∧
    ∃ sql, Dialect.postgres.convertTimezone "t" "America/Argentina/Buenos_Aires" = .ok sql := by
  obtain ⟨-, -, -, -, hchars, hsettings⟩ := check_outcome "America/Argentina/Buenos_Aires"
  have hcheck : check "America/Argentina/Buenos_Aires" = .ok "America/Argentina/Buenos_Aires" := by
    decide +kernel
  have hresolved :
      Setup.Settings.resolvedTimezone { Setup.Settings.default with timezone := "$TZ" }
        (fun _ ↦ some "America/Argentina/Buenos_Aires") =
          .ok "America/Argentina/Buenos_Aires" := by
    decide +kernel
  exact ⟨hcheck, hchars hcheck, hresolved, hsettings _ _ hresolved .postgres "t"⟩

/-- An offset in the digits of another script passes, and is not documented. -/
theorem check_of_foreign_digits :
    check "+٠١" = .ok "+٠١" ∧ ¬IsDocumented "+٠١".toList ∧
      Dialect.vertica.convertTimezone "created_at" "+٠١" =
        .ok "created_at AT TIMEZONE '+٠١'" := by
  refine ⟨by decide +kernel, fun h ↦ ?_, by decide +kernel⟩
  exact absurd ((isDocumented_iff.1 h).2 '٠' (by decide)) (by decide)

end Timezone

end SemanticLayer.Sql
