import SemanticLayer.Proofs.Calendar.Clock

/-!
# The form of a bare date

A bare date has a reader of its own, and it is also the last of the forms of a timestamp. The other
forms are tried before it, and each is lenient about blanks, signs and numbers of digits, so it has
to be shown that none of them takes a bare date for something else.

What tells them apart is the colon. A reader of dates never takes one (`Reader.Avoids`), and so a
text that it takes as a whole has none. Every other form goes past one (`Reader.Needs`): it stands
behind the hour. Both notions pass from readers to their sequence, which is all that has to be known
of the forms. A text without a colon is therefore left to the last form
(`Reader.findSome?_forms_of_not_mem`), and the two readers agree (`Timestamp.parse?_of_bareDate`).
-/

namespace SemanticLayer.Calendar

open Text (isBlank)

namespace Reader

variable {α β : Type} {c : Char} {reader : Reader α} {next : α → Reader β}

/-! ### Characters that are not taken -/

/-- What a reader takes from the front of a text never holds the character. -/
def Avoids (c : Char) (reader : Reader α) : Prop :=
  ∀ text a rest, reader text = some (a, rest) → ∃ taken, text = taken ++ rest ∧ c ∉ taken

theorem Avoids.bind (h : Avoids c reader) (hnext : ∀ a, Avoids c (next a)) :
    Avoids c (reader >>= next) := by
  intro text b rest hread
  obtain ⟨⟨a, middle⟩, hfirst, hsecond⟩ := Option.bind_eq_some_iff.1 hread
  obtain ⟨front, rfl, hfront⟩ := h text a middle hfirst
  obtain ⟨back, rfl, hback⟩ := hnext a middle b rest hsecond
  refine ⟨front ++ back, (List.append_assoc ..).symm, ?_⟩
  exact mt List.mem_append.1 (not_or.2 ⟨hfront, hback⟩)

/-- A reader that takes nothing takes no such character. -/
theorem avoids_of_takes_nothing (h : ∀ text a rest, reader text = some (a, rest) → text = rest) :
    Avoids c reader :=
  fun text a rest hread ↦ ⟨[], h text a rest hread, List.not_mem_nil⟩

theorem avoids_pure (a : α) : Avoids c (pure a) :=
  avoids_of_takes_nothing fun _ _ _ hread ↦ congrArg Prod.snd (Option.some.inj hread)

theorem avoids_get : Avoids c (get : Reader (List Char)) :=
  avoids_of_takes_nothing fun _ _ _ hread ↦ congrArg Prod.snd (Option.some.inj hread)

theorem avoids_failure : Avoids c (failure : Reader α) :=
  avoids_of_takes_nothing fun _ _ _ hread ↦ nomatch hread

theorem avoids_date (year : Int) (month day : Nat) : Avoids c (date year month day) := by
  refine avoids_of_takes_nothing fun text a rest hread ↦ ?_
  obtain ⟨_, -, hpair⟩ := Option.bind_eq_some_iff.1 hread
  exact congrArg Prod.snd (Option.some.inj hpair)

theorem Avoids.map (h : Avoids c reader) (f : α → β) : Avoids c (f <$> reader) :=
  h.bind fun a ↦ avoids_pure (f a)

theorem avoids_satisfy {test : Char → Bool} (h : test c = false) : Avoids c (satisfy test) := by
  intro text a rest hread
  cases text with
  | nil => cases hread
  | cons d text =>
    rw [satisfy] at hread
    split at hread
    · next htest =>
      cases hread
      refine ⟨[a], rfl, fun hmem ↦ ?_⟩
      rw [← List.mem_singleton.1 hmem, h] at htest
      cases htest
    · cases hread

theorem avoids_literal {d : Char} (h : c ≠ d) : Avoids c (literal d) := by
  have hsatisfy : Avoids c (satisfy (· == d)) := avoids_satisfy (beq_eq_false_iff_ne.2 h)
  exact hsatisfy.bind fun _ ↦ avoids_pure ()

/-- A run of characters that pass a test holds none that fails it. -/
theorem not_mem_takeWhile {test : Char → Bool} (h : test c = false) (text : List Char) :
    c ∉ text.takeWhile test := by
  intro hmem
  rw [List.mem_takeWhile_imp hmem] at h
  cases h

theorem avoids_blanks (h : isBlank c = false) : Avoids c blanks := by
  rintro text _ rest ⟨⟩
  exact ⟨_, List.takeWhile_append_dropWhile.symm, not_mem_takeWhile h text⟩

theorem avoids_digits (h : c.isDigit = false) (most : Nat) : Avoids c (digits most) := by
  intro text a rest hread
  simp only [digits] at hread
  split at hread
  · cases hread
  · cases hread
    have hprefix : (text.take most).takeWhile Char.isDigit <+: text :=
      (List.takeWhile_prefix _).trans (List.take_prefix _ _)
    exact ⟨_, List.prefix_append_drop hprefix, not_mem_takeWhile h _⟩

theorem avoids_allDigits (h : c.isDigit = false) : Avoids c allDigits := by
  intro text a rest hread
  simp only [allDigits] at hread
  split at hread
  · cases hread
  · cases hread
    exact ⟨_, List.takeWhile_append_dropWhile.symm, not_mem_takeWhile h text⟩

theorem avoids_exactly (h : c.isDigit = false) (count : Nat) : Avoids c (exactly count) := by
  refine (avoids_digits h count).bind fun run ↦ ?_
  split
  · exact avoids_pure _
  · exact avoids_failure

theorem avoids_field (hblank : isBlank c = false) (hdigit : c.isDigit = false) :
    Avoids c field :=
  (avoids_blanks hblank).bind fun _ ↦ (avoids_digits hdigit 2).map value

/-- Blanks, signs and digits are all that a year takes. -/
theorem avoids_year (hblank : isBlank c = false) (hdigit : c.isDigit = false) (hminus : c ≠ '-')
    (hplus : c ≠ '+') : Avoids c year := by
  refine (avoids_blanks hblank).bind fun _ ↦ ?_
  refine avoids_get.bind fun text ↦ ?_
  split
  · refine (avoids_literal hminus).bind fun _ ↦ ?_
    exact (avoids_allDigits hdigit).bind fun _ ↦ avoids_pure _
  · refine (avoids_literal hplus).bind fun _ ↦ ?_
    exact (avoids_allDigits hdigit).bind fun _ ↦ avoids_pure _
  · exact (avoids_digits hdigit 4).bind fun _ ↦ avoids_pure _

theorem avoids_lenientDate : Avoids ':' lenientDate := by
  refine (avoids_year (by decide) (by decide) (by decide) (by decide)).bind fun y ↦ ?_
  refine (avoids_literal (by decide)).bind fun _ ↦ ?_
  refine (avoids_field (by decide) (by decide)).bind fun m ↦ ?_
  refine (avoids_literal (by decide)).bind fun _ ↦ ?_
  refine (avoids_field (by decide) (by decide)).bind fun d ↦ ?_
  exact avoids_date y m d

theorem avoids_separator (between : Separator) : Avoids ':' (separator between) := by
  cases between with
  | letter => exact avoids_literal (by decide)
  | gap => exact avoids_blanks (by decide)

/-! ### Characters that are wanted -/

/-- A reader takes nothing from a text without the character. -/
def Needs (c : Char) (reader : Reader α) : Prop :=
  ∀ text a rest, reader text = some (a, rest) → c ∈ text

theorem needs_literal (c : Char) : Needs c (literal c) := by
  intro text a rest hread
  obtain ⟨⟨d, _⟩, hsatisfy, -⟩ := Option.bind_eq_some_iff.1 hread
  cases text with
  | nil => cases hsatisfy
  | cons e text =>
    rw [satisfy] at hsatisfy
    split at hsatisfy
    · next htest => exact List.mem_cons.2 (.inl (beq_iff_eq.1 htest).symm)
    · cases hsatisfy

theorem Needs.bind (h : Needs c reader) (next : α → Reader β) : Needs c (reader >>= next) := by
  intro text b rest hread
  obtain ⟨⟨a, middle⟩, hfirst, -⟩ := Option.bind_eq_some_iff.1 hread
  exact h text a middle hfirst

/-- What is wanted may be wanted further on. -/
theorem Avoids.needs_bind (h : Avoids c reader) (hnext : ∀ a, Needs c (next a)) :
    Needs c (reader >>= next) := by
  intro text b rest hread
  obtain ⟨⟨a, middle⟩, hfirst, hsecond⟩ := Option.bind_eq_some_iff.1 hread
  obtain ⟨front, rfl, -⟩ := h text a middle hfirst
  exact List.mem_append_right front (hnext a middle b rest hsecond)

/-- In the lenient forms, the colon stands behind the hour. -/
theorem needs_lenientHour (between : Separator) (next : Date → Nat → Reader α) :
    Needs ':' (do
      let date ← lenientDate
      separator between
      let hour ← field
      literal ':'
      next date hour) := by
  refine avoids_lenientDate.needs_bind fun date ↦ ?_
  refine (avoids_separator between).needs_bind fun _ ↦ ?_
  refine (avoids_field (by decide) (by decide)).needs_bind fun hour ↦ ?_
  exact (needs_literal ':').bind _

theorem needs_lenientSecond (between : Separator) : Needs ':' (lenientSecond between) :=
  needs_lenientHour between _

theorem needs_lenientMinute (between : Separator) : Needs ':' (lenientMinute between) :=
  needs_lenientHour between _

theorem needs_strictSecond : Needs ':' strictSecond := by
  refine (avoids_exactly (by decide) 4).needs_bind fun y ↦ ?_
  refine (avoids_literal (by decide)).needs_bind fun _ ↦ ?_
  refine (avoids_exactly (by decide) 2).needs_bind fun m ↦ ?_
  refine (avoids_literal (by decide)).needs_bind fun _ ↦ ?_
  refine (avoids_exactly (by decide) 2).needs_bind fun d ↦ ?_
  refine (avoids_date y m d).needs_bind fun day ↦ ?_
  refine (avoids_satisfy (by decide)).needs_bind fun _ ↦ ?_
  refine (avoids_exactly (by decide) 2).needs_bind fun hour ↦ ?_
  exact (needs_literal ':').bind _

/-- Every form but the last goes past a colon. -/
theorem needs_of_mem_forms {form : Reader Timestamp} (h : form ∈ forms.dropLast) :
    Needs ':' form := by
  have htoUtc {reader : Reader Timestamp} (hneeds : Needs ':' reader) (offset : Reader Int) :
      Needs ':' (toUtc reader offset) := hneeds.bind _
  simp only [forms, List.dropLast_cons_cons, List.dropLast_singleton, List.mem_cons,
    List.not_mem_nil, or_false] at h
  rcases h with rfl | rfl | rfl | rfl | rfl | rfl | rfl
  · exact htoUtc needs_strictSecond strictOffset
  · exact htoUtc (needs_lenientSecond .gap) lenientOffset
  · exact htoUtc (needs_lenientSecond .letter) lenientOffset
  · exact needs_lenientSecond .letter
  · exact needs_lenientSecond .gap
  · exact needs_lenientMinute .letter
  · exact needs_lenientMinute .gap

/-! ### The whole text -/

theorem whole_eq_some_iff {text : List Char} {a : α} :
    whole reader text = some a ↔ reader text = some (a, []) := by
  refine ⟨fun h ↦ ?_, whole_of_end⟩
  rw [whole] at h
  split at h
  · next hread => exact Option.some.inj h ▸ hread
  · cases h

theorem Avoids.not_mem (h : Avoids c reader) {text : List Char} {a : α}
    (hwhole : whole reader text = some a) : c ∉ text := by
  obtain ⟨taken, rfl, htaken⟩ := h text a [] (whole_eq_some_iff.1 hwhole)
  rwa [List.append_nil]

theorem Needs.whole_eq_none (h : Needs c reader) {text : List Char} (hmem : c ∉ text) :
    whole reader text = none :=
  Option.eq_none_iff_forall_ne_some.2 fun a hwhole ↦
    hmem (h text a [] (whole_eq_some_iff.1 hwhole))

/-- A text without a colon is left to the last form. -/
theorem findSome?_forms_of_not_mem {text : List Char} (h : ':' ∉ text) :
    forms.findSome? (whole · text) = whole (Timestamp.midnight <$> lenientDate) text := by
  have hforms : forms = forms.dropLast ++ [Timestamp.midnight <$> lenientDate] := rfl
  have hnone : forms.dropLast.findSome? (whole · text) = none :=
    List.findSome?_eq_none_iff.2 fun form hform ↦ (needs_of_mem_forms hform).whole_eq_none h
  rw [hforms, List.findSome?_append, hnone, Option.none_or, List.findSome?_singleton]

end Reader

/-- **A bare date is read alike by both readers.** If a text is read as a date, then it is read as
the timestamp of its midnight, and no form that is tried before takes it. -/
theorem Timestamp.parse?_of_bareDate {text : String} {date : Date}
    (h : Date.parse? text = some date) :
    parse? text = some (midnight date) ∧
      ∀ form ∈ Reader.forms.dropLast, Reader.whole form (Text.trim text.toList) = none := by
  have hcolon : ':' ∉ Text.trim text.toList := Reader.avoids_lenientDate.not_mem h
  have hread := Reader.whole_eq_some_iff.1 h
  refine ⟨?_, fun form hform ↦ (Reader.needs_of_mem_forms hform).whole_eq_none hcolon⟩
  rw [parse?, Reader.findSome?_forms_of_not_mem hcolon]
  exact Reader.whole_of_end (Reader.map_of_some hread midnight)

/-- A signed year of six digits, blanks in front of month and day, and others around the text. -/
theorem Timestamp.parse?_of_spacedDate :
    ∃ date, date.civil = ⟨2021, 2, 1⟩ ∧ Date.parse? "\u3000 +002021- 2-\u00a01\t" = some date ∧
      parse? "\u3000 +002021- 2-\u00a01\t" = some (midnight date) ∧
      ∀ form ∈ Reader.forms.dropLast,
        Reader.whole form (Text.trim "\u3000 +002021- 2-\u00a01\t".toList) = none := by
  let date : Date := ⟨18659, by decide⟩
  have hdate : Date.parse? "\u3000 +002021- 2-\u00a01\t" = some date := by decide +kernel
  exact ⟨date, by decide, hdate, parse?_of_bareDate hdate⟩

end SemanticLayer.Calendar
