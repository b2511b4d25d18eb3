import SemanticLayer.Response.Error

/-!
# Derived members

A result that is compared with another over a different range carries the label of its own range;
a result that is blended with others carries its time bucket under a key that all of them share.
Both are computed from the only time dimension of the query.
-/

namespace SemanticLayer.Response

open Query (Member TimeDimension Mode Definition)

/-- The name of the member that carries the label of a range. -/
def rangeLabelName : String := "compareDateRange"

/-- The only time dimension of a query in a derived mode. -/
def soleTimeDimension (mode : DerivedMode) :
    List TimeDimension → Except ResponseError TimeDimension
  | [] => .error (.noTimeDimension mode)
  | [td] => .ok td
  | tds => .error (.manyTimeDimensions mode tds.length)

/-- The label of the range: its bounds with a dash between them. -/
def rangeLabel (tds : List TimeDimension) : Except ResponseError String := do
  let td ← soleTimeDimension .compareDateRange tds
  match td.dateRange with
  | some (.bounded first last) => .ok (first ++ " - " ++ last)
  | some (.relative words) => .error (.relativeDateRange words)
  | none => .error (.noDateRange td)

/-- The granularity to blend by. -/
def blendingGranularity (td : TimeDimension) : Except ResponseError String :=
  match td.granularity with
  | some granularity => .ok granularity
  | none => .error (.noGranularity td)

/-- The key that blended queries share. -/
def blendingKey (tds : List TimeDimension) : Except ResponseError String := do
  let td ← soleTimeDimension .blending tds
  let granularity ← blendingGranularity td
  return "time." ++ granularity

/-- The member whose value the key repeats. -/
def blendingMember (tds : List TimeDimension) : Except ResponseError Member := do
  let td ← soleTimeDimension .blending tds
  let granularity ← blendingGranularity td
  match td.dimension with
  | some dimension => .ok (dimension.withGranularity granularity)
  | none => .error (.noDimension td)

/-- The query is well configured for its mode. -/
def checkMode (mode : Mode) (query : Definition) : Except ResponseError Unit :=
  match mode with
  | .regular => .ok ()
  | .compareDateRange => do
    let _ ← rangeLabel query.timeDimensions
  | .blending => do
    let _ ← blendingKey query.timeDimensions
    let _ ← blendingMember query.timeDimensions

end SemanticLayer.Response
