/-!
# Members

A member of a model is named by a path of segments with points between them: `cube.field` for a
measure or a dimension, and `cube.field.granularity` for a time dimension at a granularity. A path
is kept as its text, since any text may come as a path; only a path of exactly three segments has a
granularity.
-/

namespace SemanticLayer.Query

/-- The path that names a member. -/
structure Member where
  /-- The path as it is written. -/
  path : String
  deriving DecidableEq, Repr

namespace Member

/-- The segments between the points; there is always at least one, and any may be empty. -/
def segments (member : Member) : List String :=
  (member.path.toList.splitOn '.').map String.ofList

/-- The third segment of a path of three. -/
def granularity? (member : Member) : Option String :=
  match member.segments with
  | [_, _, granularity] => some granularity
  | _ => none

/-- The first two segments of a path of three: the same dimension without its granularity. -/
def withoutGranularity? (member : Member) : Option Member :=
  match member.segments with
  | [cube, field, _] => some ⟨cube ++ "." ++ field⟩
  | _ => none

/-- The path with one more segment. -/
def withGranularity (member : Member) (granularity : String) : Member :=
  ⟨member.path ++ "." ++ granularity⟩

end Member

end SemanticLayer.Query
