import Mathlib.Data.List.Forall2

/-!
# First items and items at an index

A computation that goes through a list and stops at the first item that does not pass is described
by where that item stands: everything before it passes (`forall_or_first`). A computation that
turns every item into a result is described by relating the two lists item by item, which is then
read off at an index (`related_of_getElem?`) or split where the list is
(`exists_append_of_forall₂`). Functions that agree on related items give the same results
(`mapM_eq_of_forall₂`). The computation itself succeeds if each item does (`mapM_eq_ok_iff`) and
fails as its first failing item does (`mapM_eq_error_iff`).
-/

namespace SemanticLayer

/-- Either all items of a list have a property, or there is a first that has not. -/
theorem forall_or_first {α : Type} (p : α → Prop) (items : List α) :
    (∀ item ∈ items, p item) ∨
      ∃ before item after, items = before ++ item :: after ∧ (∀ other ∈ before, p other) ∧
        ¬p item := by
  induction items with
  | nil => exact .inl fun item hitem ↦ absurd hitem List.not_mem_nil
  | cons first items ih =>
    by_cases hfirst : p first
    · rcases ih with hall | ⟨before, item, after, rfl, hbefore, hitem⟩
      · exact .inl (List.forall_mem_cons.2 ⟨hfirst, hall⟩)
      · exact .inr ⟨first :: before, item, after, rfl,
          List.forall_mem_cons.2 ⟨hfirst, hbefore⟩, hitem⟩
    · exact .inr ⟨[], first, items, rfl, fun other h ↦ absurd h List.not_mem_nil, hfirst⟩

/-- Lists that are related item by item are related at each index. -/
theorem related_of_getElem? {α β : Type} {related : α → β → Prop} {items : List α}
    {others : List β} (h : List.Forall₂ related items others) {index : Nat} {item : α} {other : β}
    (hitem : items[index]? = some item) (hother : others[index]? = some other) :
    related item other := by
  obtain ⟨hlt, rfl⟩ := List.getElem?_eq_some_iff.1 hitem
  obtain ⟨hlt', rfl⟩ := List.getElem?_eq_some_iff.1 hother
  exact h.get hlt hlt'

/-- A list that is related to two lists, one after the other, is made of two parts. -/
theorem exists_append_of_forall₂ {α β : Type} {related : α → β → Prop} {front rest : List α}
    {others : List β} (h : List.Forall₂ related (front ++ rest) others) :
    ∃ front' rest', List.Forall₂ related front front' ∧ List.Forall₂ related rest rest' ∧
      front' ++ rest' = others := by
  have hfront := List.forall₂_take front.length h
  have hrest := List.forall₂_drop front.length h
  rw [List.take_left] at hfront
  rw [List.drop_left] at hrest
  exact ⟨_, _, hfront, hrest, List.take_append_drop _ _⟩

/-- A run ends where the first item stands that does not belong to it. -/
theorem takeWhile_dropWhile_append {α : Type} {p : α → Bool} {run rest : List α}
    (hrun : ∀ item ∈ run, p item = true) (hrest : ∀ item ∈ rest.head?, p item = false) :
    (run ++ rest).takeWhile p = run ∧ (run ++ rest).dropWhile p = rest := by
  rw [List.takeWhile_append_of_pos hrun, List.dropWhile_append_of_pos hrun]
  cases rest with
  | nil => exact ⟨List.append_nil run, rfl⟩
  | cons item rest =>
    have hitem : ¬p item = true := Bool.eq_false_iff.1 (hrest item rfl)
    rw [List.takeWhile_cons_of_neg hitem, List.dropWhile_cons_of_neg hitem]
    exact ⟨List.append_nil run, rfl⟩

/-- What stands after a run is not part of it. -/
theorem head_dropWhile {α : Type} {p : α → Bool} (items : List α) :
    ∀ item ∈ (items.dropWhile p).head?, p item = false := by
  intro item hitem
  have hnot := List.head?_dropWhile_not p items
  rw [Option.mem_def.1 hitem] at hnot
  exact hnot

/-- Related lists stay related if an item is replaced by one that is related to what its partner is
changed into. -/
theorem forall₂_modify {α β : Type} {related : α → β → Prop} {front back : List α} {item item' : α}
    {others : List β} (h : List.Forall₂ related (front ++ item :: back) others) {f : β → β}
    (hitem : ∀ other, related item other → related item' (f other)) :
    List.Forall₂ related (front ++ item' :: back) (others.modify front.length f) := by
  induction front generalizing others with
  | nil =>
    cases h with
    | cons hfirst hrest => exact .cons (hitem _ hfirst) hrest
  | cons first front ih =>
    cases h with
    | cons hfirst hrest => exact .cons hfirst (ih hrest)

/-- Each item of a related list has something related to it in the other. -/
theorem exists_related_of_mem {α β : Type} {related : α → β → Prop} {items : List α}
    {others : List β} (h : List.Forall₂ related items others) {item : α} (hitem : item ∈ items) :
    ∃ other ∈ others, related item other := by
  obtain ⟨index, hindex⟩ := List.mem_iff_getElem?.1 hitem
  obtain ⟨hlt, -⟩ := List.getElem?_eq_some_iff.1 hindex
  have hother := List.getElem?_eq_getElem (h.length_eq ▸ hlt : index < others.length)
  exact ⟨_, List.mem_of_getElem? hother, related_of_getElem? h hindex hother⟩

/-- Items that each have something related to them have a list of it. -/
theorem exists_forall₂ {α β : Type} {related : α → β → Prop} {items : List α}
    (h : ∀ item ∈ items, ∃ other, related item other) :
    ∃ others, List.Forall₂ related items others := by
  induction items with
  | nil => exact ⟨[], .nil⟩
  | cons item items ih =>
    obtain ⟨⟨other, hother⟩, hitems⟩ := List.forall_mem_cons.1 h
    obtain ⟨others, hothers⟩ := ih hitems
    exact ⟨other :: others, .cons hother hothers⟩

/-- What lies between related items makes up a list between the two. -/
theorem exists_between {α β γ : Type} {below : α → β → Prop} {above : β → γ → Prop}
    {items : List α} {others : List γ}
    (h : List.Forall₂ (fun item other ↦ ∃ between, below item between ∧ above between other)
      items others) :
    ∃ betweens, List.Forall₂ below items betweens ∧ List.Forall₂ above betweens others := by
  induction h with
  | nil => exact ⟨[], .nil, .nil⟩
  | cons hitem hitems ih =>
    obtain ⟨between, hbelow, habove⟩ := hitem
    obtain ⟨betweens, hbelows, haboves⟩ := ih
    exact ⟨between :: betweens, .cons hbelow hbelows, .cons habove haboves⟩

/-- What a function finds for each item, it finds for all of them. -/
theorem mapM_eq_some_iff {α β : Type} {f : α → Option β} {items : List α} {results : List β} :
    items.mapM f = some results ↔
      List.Forall₂ (fun item result ↦ f item = some result) items results := by
  induction items generalizing results with
  | nil =>
    rw [List.mapM_nil, List.forall₂_nil_left_iff]
    exact ⟨fun h ↦ (Option.some.inj h).symm, fun h ↦ congrArg some h.symm⟩
  | cons item items ih =>
    rw [List.mapM_cons, List.forall₂_cons_left_iff]
    constructor
    · intro h
      obtain ⟨result, hresult, h⟩ := Option.bind_eq_some_iff.1 h
      obtain ⟨rest, hrest, h⟩ := Option.bind_eq_some_iff.1 h
      exact ⟨result, rest, hresult, ih.1 hrest, (Option.some.inj h).symm⟩
    · rintro ⟨result, rest, hresult, hrest, rfl⟩
      rw [hresult, ih.2 hrest]
      rfl

/-- A computation succeeds on a list if it succeeds on each item. -/
theorem mapM_eq_ok_iff {α β ε : Type} {f : α → Except ε β} {items : List α} {results : List β} :
    items.mapM f = .ok results ↔
      List.Forall₂ (fun item result ↦ f item = .ok result) items results := by
  induction items generalizing results with
  | nil =>
    rw [List.mapM_nil, List.forall₂_nil_left_iff]
    exact ⟨fun h ↦ (Except.ok.inj h).symm, fun h ↦ congrArg Except.ok h.symm⟩
  | cons item items ih =>
    rw [List.mapM_cons, List.forall₂_cons_left_iff]
    constructor
    · intro h
      cases hitem : f item with
      | error error =>
        rw [hitem] at h
        cases h
      | ok result =>
        cases hitems : items.mapM f with
        | error error =>
          rw [hitem, hitems] at h
          cases h
        | ok rest =>
          rw [hitem, hitems] at h
          exact ⟨result, rest, rfl, ih.1 hitems, (Except.ok.inj h).symm⟩
    · rintro ⟨result, rest, hresult, hrest, rfl⟩
      rw [hresult, ih.2 hrest]
      rfl

/-- A computation fails on a list as it does on the first item on which it fails. -/
theorem mapM_eq_error_iff {α β ε : Type} {f : α → Except ε β} {items : List α} {error : ε} :
    items.mapM f = .error error ↔ ∃ before item after, items = before ++ item :: after ∧
      (∀ other ∈ before, ∃ result, f other = .ok result) ∧ f item = .error error := by
  constructor
  · intro h
    rcases forall_or_first (fun item ↦ ∃ result, f item = .ok result) items with
      hall | ⟨before, item, after, rfl, hbefore, hitem⟩
    · obtain ⟨results, hresults⟩ := exists_forall₂ hall
      cases h.symm.trans (mapM_eq_ok_iff.2 hresults)
    · refine ⟨before, item, after, rfl, hbefore, ?_⟩
      obtain ⟨results, hresults⟩ := exists_forall₂ hbefore
      rw [List.mapM_append, mapM_eq_ok_iff.2 hresults, List.mapM_cons] at h
      cases hfirst : f item with
      | error first =>
        rw [hfirst] at h
        exact congrArg Except.error (Except.error.inj h)
      | ok result => exact absurd ⟨result, hfirst⟩ hitem
  · rintro ⟨before, item, after, rfl, hbefore, hitem⟩
    obtain ⟨results, hresults⟩ := exists_forall₂ hbefore
    rw [List.mapM_append, mapM_eq_ok_iff.2 hresults, List.mapM_cons, hitem]
    rfl

/-- Functions that agree on related items go through them alike. -/
theorem mapM_eq_of_forall₂ {m : Type → Type} [Monad m] [LawfulMonad m] {α β γ : Type}
    {f : α → m γ} {g : β → m γ} {items : List α} {others : List β}
    (h : List.Forall₂ (fun item other ↦ f item = g other) items others) :
    items.mapM f = others.mapM g := by
  induction h with
  | nil => rfl
  | cons hitem hitems ih => rw [List.mapM_cons, List.mapM_cons, hitem, ih]

end SemanticLayer
