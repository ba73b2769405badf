/-
The limits of reading JSON. An integer that is too long and a list or mapping inside too many others
are refused as such, and only where a value is asked for: what stands before is well formed so far.
-/
import Mathlib.Data.List.Basic
import Routewright.Document.Json

namespace Routewright.Document.Json

/-! ## Limits -/

/-- Whether a text is refused for its size, and not for a fault in it. -/
def Refusal.isLimit : Refusal → Bool
  | .integerTooLong | .nestedTooDeep => true
  | .syntaxFault .. => false

theorem syntaxFault_ne {r : Refusal} (hr : r.isLimit) (fault : Fault) (index : Nat) :
    .syntaxFault fault index ≠ r := by
  rintro rfl
  cases hr

def Token.opens : Token → Bool
  | .openBracket | .openBrace => true
  | _ => false

def Token.closes : Token → Bool
  | .closeBracket | .closeBrace => true
  | _ => false

/-- Inside how many lists and mappings one stands behind some tokens. -/
def depth (before : List (Token × Nat)) : Nat :=
  before.countP (·.1.opens) - before.countP (·.1.closes)

/-- A token of a value that is refused for its size inside of some lists and mappings. -/
def Token.IsBeyond (token : Token) (depth : Nat) : Refusal → Prop
  | .integerTooLong => token = .longInteger
  | .nestedTooDeep => token.opens ∧ maxDepth ≤ depth
  | .syntaxFault .. => False

namespace State

/-- The state before the first token. -/
def start : State := ⟨[], .value, .null⟩

def asksForValue (s : State) : Bool :=
  match s.expects with
  | .value | .itemOrEnd => true
  | _ => false

/-- Some tokens, one after the other. -/
def stepAll : State → List (Token × Nat) → Except Refusal State
  | s, [] => .ok s
  | s, (token, index) :: rest => do stepAll (← s.step token index) rest

end State

/-- A text that is well formed up to a value that is refused for its size. -/
def Exceeds (t : Text) (r : Refusal) : Prop :=
  t.head? ≠ some (CodePoint.ofNat 0xfeff) ∧ ∃ before token index after s,
    tokens t = before ++ (token, index) :: after ∧ State.start.stepAll before = .ok s ∧
      s.asksForValue ∧ token.IsBeyond (depth before) r

/-! ## One token -/

namespace State

variable {s s' : State} {token : Token} {index : Nat} {r : Refusal}

theorem takeValue_eq_error_iff (hr : r.isLimit) :
    s.takeValue token index = .error r ↔ token.IsBeyond s.stack.length r := by
  cases r with
  | syntaxFault fault place => cases hr
  | integerTooLong =>
    cases token <;> simp [takeValue, push, Token.IsBeyond] <;> split <;> simp
  | nestedTooDeep =>
    cases token <;> simp [takeValue, push, Token.IsBeyond, Token.opens]

theorem takeName_ne_error (hr : r.isLimit) : s.takeName token index ≠ .error r := by
  unfold takeName
  split <;> rintro ⟨⟩ <;> cases hr

/-- A token is refused for its size where a value is asked for, and nowhere else. -/
theorem step_eq_error_iff (hr : r.isLimit) : s.step token index = .error r ↔
    s.asksForValue ∧ token.IsBeyond s.stack.length r := by
  have hlater (hexpects : s.asksForValue = false) (x : Except Refusal State) (hx : x ≠ .error r) :
      x = .error r ↔ s.asksForValue ∧ token.IsBeyond s.stack.length r := by
    simp [hexpects, hx]
  unfold step
  split
  all_goals rename_i hexpects
  · simp [asksForValue, hexpects, takeValue_eq_error_iff hr]
  · rw [asksForValue, hexpects, and_iff_right rfl]
    split
    · -- the end of a list is no value
      cases r <;> simp [Token.IsBeyond, Token.opens]
    · exact takeValue_eq_error_iff hr
  all_goals refine hlater (by rw [asksForValue, hexpects]) _ ?_
  · split
    · exact nofun
    · exact takeName_ne_error hr
  · exact takeName_ne_error hr
  · split <;> simp [syntaxFault_ne hr]
  · split <;> simp [syntaxFault_ne hr]
  · simp [syntaxFault_ne hr]

theorem length_stack_deliver (stack : List Frame) (v : Value) :
    (deliver stack v).stack.length = stack.length := by
  unfold deliver
  split <;> rfl

theorem length_stack_takeValue (h : s.takeValue token index = .ok s') :
    s'.stack.length + token.closes.toNat = s.stack.length + token.opens.toNat := by
  cases token with
  | openBracket | openBrace =>
    simp only [takeValue, push] at h
    split at h
    · cases h
    · cases h
      rfl
  | str | atom | number =>
    cases h
    exact congrArg (· + 0) (length_stack_deliver _ _)
  | _ => cases h

theorem length_stack_takeName (h : s.takeName token index = .ok s') :
    s'.stack.length + token.closes.toNat = s.stack.length + token.opens.toNat := by
  unfold takeName at h
  split at h <;> cases h
  rename_i hstack
  rw [hstack]
  rfl

/-- A token that is taken opens or closes what it says. -/
theorem length_stack_step (h : s.step token index = .ok s') :
    s'.stack.length + token.closes.toNat = s.stack.length + token.opens.toNat := by
  unfold step at h
  split at h
  · exact length_stack_takeValue h
  · split at h
    · rename_i hstack
      cases h
      simp [length_stack_deliver, hstack, Token.opens, Token.closes]
    · exact length_stack_takeValue h
  · split at h
    · rename_i hstack
      cases h
      simp [length_stack_deliver, hstack, Token.opens, Token.closes]
    · exact length_stack_takeName h
  · exact length_stack_takeName h
  · split at h <;> cases h
    rfl
  · split at h <;> cases h <;> rename_i hstack <;>
      simp [length_stack_deliver, hstack, Token.opens, Token.closes]
  · cases h

/-! ## Some tokens -/

theorem stepAll_cons_eq_ok_iff {rest : List (Token × Nat)} :
    s.stepAll ((token, index) :: rest) = .ok s' ↔
      ∃ next, s.step token index = .ok next ∧ next.stepAll rest = .ok s' := by
  rw [stepAll]
  cases h : s.step token index with
  | error e => simp [bind, Except.bind]
  | ok next => simp [bind, Except.bind]

theorem length_stack_stepAll {before : List (Token × Nat)} (h : s.stepAll before = .ok s') :
    s'.stack.length + before.countP (·.1.closes) = s.stack.length + before.countP (·.1.opens) := by
  induction before generalizing s with
  | nil =>
    obtain rfl := Except.ok.inj h
    rfl
  | cons first before ih =>
    obtain ⟨token, index⟩ := first
    obtain ⟨next, hstep, hrest⟩ := stepAll_cons_eq_ok_iff.1 h
    have hlength := length_stack_step hstep
    have hlater := ih hrest
    have hcount (b : Bool) : (if b = true then 1 else 0) = b.toNat := by cases b <;> rfl
    simp only [List.countP_cons, hcount]
    omega

/-- The open lists and mappings are those that were opened and not closed again. -/
theorem length_stack_eq_depth {before : List (Token × Nat)} (h : start.stepAll before = .ok s) :
    s.stack.length = depth before := by
  have hlength := length_stack_stepAll h
  rw [depth]
  simp only [start, List.length_nil] at hlength
  omega

end State

/-! ## The whole text -/

variable {s : State} {r : Refusal} {size : Nat} {ts : List (Token × Nat)}

theorem finish_ne_error (hr : r.isLimit) : s.finish size ≠ .error r := by
  unfold State.finish
  split <;> rintro ⟨⟩ <;> cases hr

/-- A run is refused for its size at the first token that is, behind tokens that are taken. -/
theorem run_eq_error_iff (hr : r.isLimit) : run s size ts = .error r ↔
    ∃ before token index after s', ts = before ++ (token, index) :: after ∧
      s.stepAll before = .ok s' ∧ s'.step token index = .error r := by
  induction ts generalizing s with
  | nil => simp [run, finish_ne_error hr]
  | cons first rest ih =>
    obtain ⟨token, index⟩ := first
    rw [run]
    constructor
    · intro h
      cases hstep : s.step token index with
      | error e =>
        rw [hstep] at h
        obtain rfl := Except.error.inj h
        exact ⟨[], token, index, rest, s, rfl, rfl, hstep⟩
      | ok next =>
        rw [hstep] at h
        obtain ⟨before, t, i, after, s', rfl, hbefore, hlast⟩ := ih.1 h
        exact ⟨(token, index) :: before, t, i, after, s', rfl,
          State.stepAll_cons_eq_ok_iff.2 ⟨next, hstep, hbefore⟩, hlast⟩
    · rintro ⟨before, t, i, after, s', hsplit, hbefore, hlast⟩
      cases before with
      | nil =>
        obtain ⟨⟨rfl, rfl⟩, rfl⟩ := by simpa using hsplit
        obtain rfl := Except.ok.inj hbefore
        rw [hlast]
        rfl
      | cons other before =>
        obtain ⟨rfl, rfl⟩ := by simpa using hsplit
        obtain ⟨next, hstep, hbefore⟩ := State.stepAll_cons_eq_ok_iff.1 hbefore
        rw [hstep]
        exact ih.2 ⟨before, t, i, after, s', rfl, hbefore, hlast⟩

/-- A text exceeds a limit exactly if it is refused for its size. -/
theorem exceeds_iff {t : Text} : Exceeds t r ↔ read t = .error r ∧ r.isLimit := by
  by_cases hr : r.isLimit
  · rw [and_iff_left hr, read, Exceeds]
    split
    · rename_i hmark
      simp [hmark, syntaxFault_ne hr]
    · rename_i hmark
      rw [and_iff_right hmark, show (⟨[], .value, .null⟩ : State) = State.start from rfl,
        run_eq_error_iff hr]
      refine exists_congr fun before => exists_congr fun token => exists_congr fun index =>
        exists_congr fun after => exists_congr fun s => and_congr_right fun _ =>
          and_congr_right fun hbefore => ?_
      rw [State.step_eq_error_iff hr, State.length_stack_eq_depth hbefore]
  · refine iff_of_false ?_ fun h => hr h.2
    rintro ⟨-, before, token, _, after, s, -, -, -, hbeyond⟩
    cases r with
    | syntaxFault => exact hbeyond
    | _ => exact hr rfl

end Routewright.Document.Json
