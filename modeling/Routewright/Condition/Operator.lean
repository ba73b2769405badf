/-
Operators of condition rules. A rule's operator is looked up without regard to case and to how much
space stands between its words; an operator that is not known compares for equality.
-/
import Routewright.Text.Blank
import Routewright.Text.Case

namespace Routewright.Condition

/-- How a rule tests, writes and binds its field. -/
inductive OperatorKind where
  | compare
  | like
  | inList
  | isNull
  | isNotNull
deriving DecidableEq

/-- An operator: its kind, and how the query spells it. -/
structure Operator where
  kind : OperatorKind
  sql : Text
deriving DecidableEq

namespace Operator

def equality : Operator := ⟨.compare, "="⟩

/-- The operators that are known. -/
def all : List Operator := [
  equality, ⟨.compare, ">="⟩, ⟨.compare, "<="⟩, ⟨.compare, ">"⟩, ⟨.compare, "<"⟩, ⟨.like, "LIKE"⟩,
  ⟨.like, "ILIKE"⟩, ⟨.inList, "IN"⟩, ⟨.isNull, "IS NULL"⟩, ⟨.isNotNull, "IS NOT NULL"⟩]

/-- The spelling that an operator is looked up by: capital words with one space between them. -/
def normalForm (t : Text) : Text := (Text.join " " (t.words CodePoint.isBlank)).upper

def ofText (t : Text) : Operator :=
  let spelling := normalForm t
  (all.find? (·.sql == spelling)).getD equality

end Operator

end Routewright.Condition
