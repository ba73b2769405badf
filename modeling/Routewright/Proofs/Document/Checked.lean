/-
Checks read backwards: what is known of the parts of a document when a check of the whole accepts it.
-/
import Routewright.Document.Check

namespace Routewright.Document

variable {α β : Type}

namespace Checked

theorem map_accepted {f : α → β} {x : Checked α} {b : β} (h : f <$> x = .accepted b) :
    ∃ a, x = .accepted a ∧ f a = b := by
  cases x with
  | accepted a => exact ⟨a, rfl, accepted.inj h⟩
  | refused faults => cases h

theorem seq_accepted {f : Checked (α → β)} {x : Checked α} {b : β} (h : f <*> x = .accepted b) :
    ∃ g a, f = .accepted g ∧ x = .accepted a ∧ g a = b := by
  change both id f x = _ at h
  cases f with
  | accepted g =>
    cases x with
    | accepted a => exact ⟨g, a, rfl, rfl, accepted.inj h⟩
    | refused faults => cases h
  | refused faults => cases x <;> cases h

theorem under_accepted {step : Text} {x : Checked α} {a : α} (h : x.under step = .accepted a) :
    x = .accepted a := by
  cases x with
  | accepted b => exact h
  | refused faults => cases h

end Checked

namespace Check

theorem model_accepted {check : List (Value × Value) → Checked α} {v : Value} {a : α}
    (h : model check v = .accepted a) : ∃ es, v = .map es ∧ check es = .accepted a := by
  unfold model at h
  split at h
  · exact ⟨_, rfl, h⟩
  · cases h

theorem required_accepted {name : Text} {check : Check α} {es : List (Value × Value)} {a : α}
    (h : required name check es = .accepted a) : ∃ v, check v = .accepted a := by
  unfold required at h
  split at h
  · exact ⟨_, Checked.under_accepted h⟩
  · cases h

theorem stringLike_accepted {fits : Text → Bool} {v : Value} {t : Text}
    (h : stringLike fits v = .accepted t) : fits t := by
  unfold stringLike at h
  split at h
  · cases h
  · split at h
    · cases h
    · split at h
      · cases h
        assumption
      · cases h

end Check

end Routewright.Document
