/-
Named parts, in the order in which the names came first: the fields of a payload, its values, and
the parameters of a query.
-/
import Routewright.Text.Basic

namespace Routewright.Document

/-- Things by name. -/
abbrev Named (α : Type) := List (Text × α)

namespace Named

variable {α : Type}

/-- What bears a name. -/
def get? (name : Text) (m : Named α) : Option α := m.lookup name

/-- Gives a name to something; a name that is there keeps its place. -/
def put (name : Text) (a : α) : Named α → Named α
  | [] => [(name, a)]
  | entry :: rest =>
    if entry.1 = name then (name, a) :: rest else entry :: put name a rest

/-- Takes a name away. -/
def erase (name : Text) (m : Named α) : Named α := m.filter (·.1 ≠ name)

/-- Puts each of some named things, in order. -/
def putAll (m additions : Named α) : Named α := additions.foldl (fun m e => put e.1 e.2 m) m

/-- Named things in writing order; of those with one name the last counts. -/
def ofList (entries : List (Text × α)) : Named α := putAll [] entries

theorem get?_put_self (name : Text) (a : α) (m : Named α) : get? name (put name a m) = some a := by
  induction m with
  | nil => simp [put, get?]
  | cons e rest ih =>
    obtain ⟨other, held⟩ := e
    by_cases h : other = name
    · simp [put, get?, h]
    · have h' : (name == other) = false := by simpa using fun he => h he.symm
      simp only [put, h, if_false, get?, List.lookup_cons, h']
      exact ih

end Named

end Routewright.Document
