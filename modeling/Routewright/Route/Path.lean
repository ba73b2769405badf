/-
Path parameters. A segment `:name`, or `:name?`, is a parameter if its name is an identifier; a line
feed at a segment's end does not count.
-/
import Routewright.Script.Printer

namespace Routewright.Route

open Script (isName dropFinalLineFeed)

/-- A text without the question mark it ends in, if it ends in one. -/
def dropFinalMark (t : Text) : Text :=
  if t.getLast? = some (CodePoint.ofChar '?') then t.dropLast else t

/-- The name of the parameter that a segment is. -/
def parameterName? : Text → Option Text
  | [] => none
  | c :: rest =>
    let name := dropFinalMark (dropFinalLineFeed rest)
    if c = ':' ∧ isName name then some name else none

/-- The parameters of a path, in order. -/
def pathParams (path : Text) : List Text := (Text.splitOn '/' path).filterMap parameterName?

/-- The parameter that records are looked up by: `id` if it is there, else the first. -/
def lookupKey? (params : List Text) : Option Text :=
  if params.contains (Text.ofString "id") then some "id" else params.head?

end Routewright.Route
