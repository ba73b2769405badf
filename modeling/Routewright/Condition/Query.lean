/-
Base queries. A query whose route declares conditions holds one placeholder for the clause that the
conditions build; a query without conditions holds none.
-/
import Routewright.Text.Quoted

namespace Routewright.Condition

/-- The placeholder of the clause. -/
def placeholder : Text := "\x7bdynamic_conditions\x7d"

/-- Why a query and the conditions of its route do not fit. -/
inductive QueryMismatch where
  | missing (query : Text)
  | repeated (count : Nat) (query : Text)
  | unexpected (query : Text)
deriving DecidableEq

def QueryMismatch.message : QueryMismatch → Text
  | missing query =>
    "Query declares conditions but has no " ++ placeholder ++ " placeholder: " ++ query.displayed
  | repeated count query =>
    "Query has " ++ Text.ofNat count ++ " " ++ placeholder ++
      " placeholders, expected exactly one: "
      ++ query.displayed
  | unexpected query =>
    "Query has a " ++ placeholder ++ " placeholder but the route declares no conditions: " ++
      query.displayed

/-- The text before and after the placeholder, of which there is to be one; without conditions, where
there is to be none, the whole query and nothing. -/
def splitQuery (query : Text) (hasConditions : Bool) : Except QueryMismatch (Text × Text) :=
  let count := Text.countPiece placeholder query
  if hasConditions then
    if count = 0 then .error (.missing query)
    else if count > 1 then .error (.repeated count query)
    else .ok ((Text.cut? placeholder query).getD (query, []))
  else if count = 0 then .ok (query, [])
  else .error (.unexpected query)

end Routewright.Condition
