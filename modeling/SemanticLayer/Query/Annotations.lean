import SemanticLayer.Json.Value
import SemanticLayer.OrderedMap
import SemanticLayer.Query.Member

/-!
# Annotations

The annotations of a result say which members its reader may see: a member with an entry is
visible, a member without one is hidden. An entry gives the member's semantic type, which decides
how values are coerced and how filter parameters are cast, and texts for display.
-/

namespace SemanticLayer.Query

/-- What the values of a member mean. -/
inductive SemanticType where
  | time
  | number
  | boolean
  | string
  /-- Any type without a treatment of its own. -/
  | other
  deriving DecidableEq, Repr

namespace SemanticType

/-- The name of a semantic type. -/
def name : SemanticType → String
  | time => "time"
  | number => "number"
  | boolean => "boolean"
  | string => "string"
  | other => "other"

/-- The semantic type of a name; every unknown name is that of the type `other`. -/
def ofName (name : String) : SemanticType :=
  ([time, number, boolean, string].find? (·.name == name)).getD other

theorem ofName_name (type : SemanticType) : ofName type.name = type := by
  cases type <;> decide

end SemanticType

/-- The type of a visible member and its texts for display. -/
structure MemberDetails where
  /-- What the member's values mean. -/
  type : SemanticType
  /-- The title of the member. -/
  title : Option String
  /-- The title of the member without that of its cube. -/
  shortTitle : Option String
  /-- A description of the member. -/
  description : Option String
  /-- How the member's values are to be formatted. -/
  format : Option String
  /-- Anything else that is known of the member. -/
  extra : Option Json.Value

/-- The details that give a type only. -/
def MemberDetails.ofType (type : SemanticType) : MemberDetails :=
  ⟨type, none, none, none, none, none⟩

/-- The details of the visible members, by path. -/
abbrev Annotations := OrderedMap MemberDetails

/-- The members that the columns of a result stand for, by alias. -/
abbrev AliasMap := OrderedMap Member

end SemanticLayer.Query
