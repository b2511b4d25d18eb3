import Mathlib.Data.List.Basic
import SemanticLayer.Query.Member

/-!
# Segments of paths

A path has one segment more than points (`Member.length_segments`), and it is its segments with the
points between them (`Member.path_of_segments`). A member with a granularity therefore has two
points, none of them inside a segment, and its name without the granularity has one
(`Member.length_segments_short`).

Joining a path with a granularity puts the segments of both side by side
(`Member.segments_withGranularity`). Splitting undoes this if the path has one point and the
granularity none, and in no other case (`Member.splits_iff`, `Member.withGranularity_inverse`).
-/

namespace SemanticLayer

theorem length_splitOn {α : Type} [BEq α] [LawfulBEq α] (separator : α) (items : List α) :
    (items.splitOn separator).length = items.count separator + 1 := by
  induction items with
  | nil => rfl
  | cons item items ih =>
    rw [List.splitOn_cons_eq_if_modifyHead]
    by_cases h : item = separator
    · rw [if_pos (beq_iff_eq.2 h), List.length_cons, ih, h, List.count_cons_self]
    · rw [if_neg (mt beq_iff_eq.1 h), List.length_modifyHead, ih, List.count_cons_of_ne h]

namespace Query.Member

/-- There is one segment more than there are points. -/
theorem length_segments (member : Member) :
    member.segments.length = member.path.toList.count '.' + 1 := by
  rw [segments, List.length_map, length_splitOn]

/-- A path is its segments with points between them. -/
theorem path_of_segments {member : Member} {segments : List String}
    (h : member.segments = segments) :
    member.path.toList = ['.'].intercalate (segments.map String.toList) := by
  have hid : String.toList ∘ String.ofList = id := funext fun _ ↦ String.toList_ofList
  rw [← h, Member.segments, List.map_map, hid, List.map_id, List.intercalate_splitOn]

theorem withoutGranularity?_eq_some_iff {member short : Member} :
    member.withoutGranularity? = some short ↔ ∃ cube field granularity,
      member.segments = [cube, field, granularity] ∧ short = ⟨cube ++ "." ++ field⟩ := by
  unfold withoutGranularity?
  constructor
  · intro h
    split at h
    · next cube field granularity hsegments =>
      exact ⟨cube, field, granularity, hsegments, (Option.some.inj h).symm⟩
    · cases h
  · rintro ⟨cube, field, granularity, hsegments, rfl⟩
    rw [hsegments]

/-- The name of a member without its granularity has two segments. -/
theorem length_segments_short {member : Member} {cube field granularity : String}
    (h : member.segments = [cube, field, granularity]) :
    (Member.mk (cube ++ "." ++ field)).segments.length = 2 := by
  have hpath : member.path.toList = cube.toList ++ '.' :: (field.toList ++ '.' ::
      granularity.toList) := by
    simp [path_of_segments h, List.intercalate]
  have hcount := length_segments member
  rw [h, hpath] at hcount
  simp only [List.length_cons, List.length_nil, List.count_append, List.count_cons_self] at hcount
  have hshort : (cube ++ "." ++ field).toList = cube.toList ++ '.' :: field.toList := by simp
  rw [length_segments, hshort, List.count_append, List.count_cons_self]
  omega

/-! ### Splitting and joining -/

theorem granularity?_eq_some_iff {member : Member} {granularity : String} :
    member.granularity? = some granularity ↔
      ∃ cube field, member.segments = [cube, field, granularity] := by
  unfold granularity?
  constructor
  · intro h
    split at h
    · next cube field _ hsegments => exact ⟨cube, field, Option.some.inj h ▸ hsegments⟩
    · cases h
  · rintro ⟨cube, field, hsegments⟩
    rw [hsegments]

/-- Both parts are there exactly if there are two points. -/
theorem exists_segments_iff {member : Member} :
    (∃ cube field granularity, member.segments = [cube, field, granularity]) ↔
      member.path.toList.count '.' = 2 := by
  rw [← List.length_eq_three, length_segments]
  omega

/-- A path of two segments is these with a point between them. -/
theorem eq_of_two_segments {member : Member} {cube field : String}
    (h : member.segments = [cube, field]) : member = ⟨cube ++ "." ++ field⟩ := by
  have hpath := path_of_segments h
  obtain ⟨path⟩ := member
  refine congrArg Member.mk (String.toList_injective ?_)
  simp [hpath, List.intercalate]

/-- A path of three segments is its first two, joined with the third. -/
theorem withGranularity_of_segments {member : Member} {cube field granularity : String}
    (h : member.segments = [cube, field, granularity]) :
    (Member.mk (cube ++ "." ++ field)).withGranularity granularity = member := by
  have hpath := path_of_segments h
  obtain ⟨path⟩ := member
  refine congrArg Member.mk (String.toList_injective ?_)
  simp [hpath, List.intercalate]

theorem toList_path_withGranularity (member : Member) (granularity : String) :
    (member.withGranularity granularity).path.toList =
      member.path.toList ++ '.' :: granularity.toList := by
  simp [withGranularity]

/-- What is joined has the segments of both. -/
theorem segments_withGranularity (member : Member) (granularity : String) :
    (member.withGranularity granularity).segments =
      member.segments ++ (Member.mk granularity).segments := by
  rw [segments, toList_path_withGranularity, List.splitOn_append_cons_self, List.map_append]
  rfl

theorem count_withGranularity (member : Member) (granularity : String) :
    (member.withGranularity granularity).path.toList.count '.' =
      member.path.toList.count '.' + (granularity.toList.count '.' + 1) := by
  rw [toList_path_withGranularity, List.count_append, List.count_cons_self]

/-- A path is split into two parts exactly if it is these parts joined, of which the first has one
point and the second has none. -/
theorem splits_iff {member short : Member} {granularity : String} :
    member.withoutGranularity? = some short ∧ member.granularity? = some granularity ↔
      short.withGranularity granularity = member ∧ short.path.toList.count '.' = 1 ∧
        granularity.toList.count '.' = 0 := by
  constructor
  · rintro ⟨hshort, hgranularity⟩
    obtain ⟨cube, field, third, hsegments, rfl⟩ := withoutGranularity?_eq_some_iff.1 hshort
    obtain ⟨_, _, hagain⟩ := granularity?_eq_some_iff.1 hgranularity
    obtain ⟨-, -, rfl⟩ : _ = _ ∧ _ = _ ∧ third = granularity := by
      simpa using hsegments.symm.trans hagain
    have hjoined := withGranularity_of_segments hsegments
    have htwo := length_segments_short hsegments
    have hthree := length_segments member
    have hcount := count_withGranularity ⟨cube ++ "." ++ field⟩ third
    rw [hjoined] at hcount
    rw [length_segments] at htwo
    rw [hsegments] at hthree
    simp only [List.length_cons, List.length_nil] at hthree
    exact ⟨hjoined, by omega, by omega⟩
  · rintro ⟨rfl, hshort, hgranularity⟩
    have hpoint : '.' ∉ granularity.toList := List.count_eq_zero.1 hgranularity
    have hlast : (Member.mk granularity).segments = [granularity] := by
      rw [segments, List.splitOn_eq_singleton hpoint, List.map_singleton, String.ofList_toList]
    obtain ⟨cube, field, htwo⟩ : ∃ cube field, short.segments = [cube, field] := by
      rw [← List.length_eq_two, length_segments, hshort]
    have hsegments := segments_withGranularity short granularity
    rw [htwo, hlast] at hsegments
    exact ⟨withoutGranularity?_eq_some_iff.2 ⟨cube, field, granularity, hsegments,
      eq_of_two_segments htwo⟩, granularity?_eq_some_iff.2 ⟨cube, field, hsegments⟩⟩

/-- **Split and join.** A path with two points, wherever they stand, has both parts and is these
parts joined; any other path has neither. A path joined with a granularity is split into these two
again exactly if it has one point and the granularity none. -/
theorem withGranularity_inverse :
    (∀ member : Member, member.path.toList.count '.' = 2 → ∃ short granularity,
      member.withoutGranularity? = some short ∧ member.granularity? = some granularity ∧
        short.withGranularity granularity = member) ∧
    (∀ member : Member, member.path.toList.count '.' ≠ 2 →
      member.withoutGranularity? = none ∧ member.granularity? = none) ∧
    ∀ (member : Member) (granularity : String),
      ((member.withGranularity granularity).withoutGranularity? = some member ∧
        (member.withGranularity granularity).granularity? = some granularity) ↔
      member.path.toList.count '.' = 1 ∧ granularity.toList.count '.' = 0 := by
  refine ⟨fun member htwo ↦ ?_, fun member hother ↦ ⟨?_, ?_⟩, fun member granularity ↦ ?_⟩
  · obtain ⟨cube, field, granularity, hsegments⟩ := exists_segments_iff.2 htwo
    exact ⟨_, granularity, withoutGranularity?_eq_some_iff.2 ⟨_, _, _, hsegments, rfl⟩,
      granularity?_eq_some_iff.2 ⟨_, _, hsegments⟩, withGranularity_of_segments hsegments⟩
  · refine Option.eq_none_iff_forall_ne_some.2 fun short hshort ↦ hother ?_
    obtain ⟨cube, field, granularity, hsegments, -⟩ := withoutGranularity?_eq_some_iff.1 hshort
    exact exists_segments_iff.1 ⟨cube, field, granularity, hsegments⟩
  · refine Option.eq_none_iff_forall_ne_some.2 fun granularity hgranularity ↦ hother ?_
    obtain ⟨cube, field, hsegments⟩ := granularity?_eq_some_iff.1 hgranularity
    exact exists_segments_iff.1 ⟨cube, field, granularity, hsegments⟩
  · rw [splits_iff]
    exact and_iff_right rfl

/-- Empty segments count as segments, and a granularity with a point in it is not found again. -/
theorem withGranularity_inverse_of_emptySegments :
    (∃ short granularity, (Member.mk "..").withoutGranularity? = some short ∧
      (Member.mk "..").granularity? = some granularity ∧
        short.withGranularity granularity = ⟨".."⟩) ∧
    ((Member.mk ".a.b.").withoutGranularity? = none ∧ (Member.mk ".a.b.").granularity? = none) ∧
    (((Member.mk ".").withGranularity "").withoutGranularity? = some ⟨"."⟩ ∧
      ((Member.mk ".").withGranularity "").granularity? = some "") ∧
    ¬(((Member.mk "Orders").withGranularity "at.day").withoutGranularity? = some ⟨"Orders"⟩ ∧
      ((Member.mk "Orders").withGranularity "at.day").granularity? = some "at.day") :=
  ⟨withGranularity_inverse.1 ⟨".."⟩ (by decide),
    withGranularity_inverse.2.1 ⟨".a.b."⟩ (by decide),
    (withGranularity_inverse.2.2 ⟨"."⟩ "").2 (by decide),
    mt (withGranularity_inverse.2.2 ⟨"Orders"⟩ "at.day").1 (by decide)⟩

end Query.Member

end SemanticLayer
