/-
Runs tell what they do and never read it back: from the same files a run comes to the same end and
leaves the same files, whatever has been told before it.
-/
import Routewright.Project.Generate

namespace Routewright.Run

variable {α β ε : Type}

/-- How a run ends and the files it leaves, without what it has told. -/
def outcome : EStateM.Result Stop Session α → Except Stop α × Tree
  | .ok a s => (.ok a, s.tree)
  | .error e s => (.error e, s.tree)

/-- A run that does not depend on what has been told before. -/
def IgnoresLog (r : Run α) : Prop := ∀ s s', s.tree = s'.tree → outcome (r s) = outcome (r s')

/-! ## Ends of runs -/

section Ends

variable {r : Run α} (h : IgnoresLog r) {s s' u : Session} (ht : s.tree = s'.tree)
include h ht

theorem IgnoresLog.ok {a : α} (hr : r s = .ok a u) : ∃ u', r s' = .ok a u' ∧ u'.tree = u.tree := by
  have hsame := h s s' ht
  rw [hr] at hsame
  cases hr' : r s' with
  | ok b u' =>
    rw [hr', outcome, outcome, Prod.mk.injEq] at hsame
    exact ⟨u', by rw [Except.ok.inj hsame.1], hsame.2.symm⟩
  | error e u' =>
    rw [hr', outcome, outcome, Prod.mk.injEq] at hsame
    cases hsame.1

theorem IgnoresLog.error {e : Stop} (hr : r s = .error e u) :
    ∃ u', r s' = .error e u' ∧ u'.tree = u.tree := by
  have hsame := h s s' ht
  rw [hr] at hsame
  cases hr' : r s' with
  | ok b u' =>
    rw [hr', outcome, outcome, Prod.mk.injEq] at hsame
    cases hsame.1
  | error e' u' =>
    rw [hr', outcome, outcome, Prod.mk.injEq] at hsame
    exact ⟨u', by rw [Except.error.inj hsame.1], hsame.2.symm⟩

end Ends

/-! ## Parts -/

theorem ignoresLog_pure (a : α) : IgnoresLog (pure a : Run α) := by
  intro s s' h
  exact congrArg (Prod.mk (Except.ok a)) h

theorem ignoresLog_throw (e : Stop) : IgnoresLog (throw e : Run α) := by
  intro s s' h
  exact congrArg (Prod.mk (Except.error e)) h

theorem ignoresLog_say (level : Level) (t : Text) : IgnoresLog (say level t) := by
  intro s s' h
  exact congrArg (Prod.mk (Except.ok ())) h

theorem ignoresLog_tree : IgnoresLog tree := by
  intro s s' h
  exact congrArg (fun t => (Except.ok t, t)) h

theorem IgnoresLog.bind {r : Run α} {f : α → Run β} (hr : IgnoresLog r)
    (hf : ∀ a, IgnoresLog (f a)) : IgnoresLog (r >>= f) := by
  intro s s' h
  change outcome (EStateM.bind r f s) = outcome (EStateM.bind r f s')
  unfold EStateM.bind
  cases hs : r s with
  | ok a u =>
    obtain ⟨u', hs', htree⟩ := hr.ok h hs
    rw [hs']
    exact hf a u u' htree.symm
  | error e u =>
    obtain ⟨u', hs', htree⟩ := hr.error h hs
    rw [hs']
    exact congrArg (Prod.mk (Except.error e)) htree.symm

theorem IgnoresLog.ite {p : Prop} [Decidable p] {r r' : Run α} (h : IgnoresLog r)
    (h' : IgnoresLog r') : IgnoresLog (if p then r else r') := by
  split
  · exact h
  · exact h'

section Optional

variable {p : Prop} [Decidable p] {f : Unit → Run α} (hf : ∀ u, IgnoresLog (f u))
include hf

/-- A part that is run only if something holds. -/
theorem IgnoresLog.when {r : Run Unit} (hr : IgnoresLog r) :
    IgnoresLog (if p then r >>= f else f ()) :=
  (hr.bind hf).ite (hf ())

/-- Two parts that are run only if something holds. -/
theorem IgnoresLog.when_seq {r r' : Run Unit} (hr : IgnoresLog r) (hr' : IgnoresLog r') :
    IgnoresLog (if p then r >>= fun _ => r' >>= f else f ()) :=
  (hr.bind fun _ => hr'.bind hf).ite (hf ())

end Optional

theorem ignoresLog_ofExcept (stop : ε → Stop) (x : Except ε α) : IgnoresLog (ofExcept stop x) := by
  cases x with
  | error e => exact ignoresLog_throw _
  | ok a => exact ignoresLog_pure a

theorem ignoresLog_ask (stop : FileError → Stop) (question : Tree → Except FileError α) :
    IgnoresLog (ask stop question) :=
  ignoresLog_tree.bind fun t => ignoresLog_ofExcept (fileStop stop) (question t)

theorem ignoresLog_files (stop : FileError → Stop) (act : Files α) : IgnoresLog (files stop act) := by
  intro s s' h
  rw [files, files, h]
  cases act s'.tree <;> rfl

theorem ignoresLog_write (stop : FileError → Stop) (p : FilePath) (t : Text) :
    IgnoresLog (write stop p t) := by
  unfold write
  refine (ignoresLog_files _ _).bind fun _ => (ignoresLog_files _ _).bind fun _ => ?_
  split
  · exact ignoresLog_files _ _
  · exact ignoresLog_throw _

theorem ignoresLog_forM {r : β → Run Unit} (h : ∀ b, IgnoresLog (r b)) (bs : List β) :
    IgnoresLog (bs.forM r) := by
  induction bs with
  | nil => exact ignoresLog_pure ()
  | cons b bs ih => exact (h b).bind fun _ => ih

end Routewright.Run

namespace Routewright

open Run

/-! ## Documents -/

theorem ignoresLog_writeModule (c : Config) (s : Spec) (source : Option FilePath) :
    IgnoresLog (Output.writeModule c s source) := by
  unfold Output.writeModule
  refine ignoresLog_tree.bind fun t => (ignoresLog_forM (fun _ => ignoresLog_say _ _) _).bind fun _ =>
    (ignoresLog_ofExcept _ _).bind fun text => ?_
  refine .when (fun _ => (ignoresLog_ask _ _).bind fun there => ?_) (ignoresLog_throw _)
  refine .when_seq (fun _ => (ignoresLog_write _ _ _).bind fun _ => ?_) (ignoresLog_files _ _)
    (ignoresLog_say _ _)
  exact .when (fun _ => (ignoresLog_write _ _ _).bind fun _ => ignoresLog_pure _) (ignoresLog_throw _)

theorem ignoresLog_writeDocument (c : Config) (file : FilePath) :
    IgnoresLog (Batch.writeDocument c file) := by
  unfold Batch.writeDocument
  refine ignoresLog_tree.bind fun t => (ignoresLog_ofExcept _ _).bind fun spec =>
    (ignoresLog_writeModule c spec _).bind fun m => (ignoresLog_say _ _).bind fun _ =>
      ignoresLog_pure m

theorem ignoresLog_read (c : Config) : IgnoresLog (Wiring.read c) := by
  unfold Wiring.read
  refine (ignoresLog_ask _ _).bind fun there => .ite ?_ (ignoresLog_throw _)
  refine (ignoresLog_ask _ _).bind fun content => ?_
  split
  · exact ignoresLog_pure _
  · exact ignoresLog_throw _

theorem ignoresLog_add (c : Config) (m : Manifest) : IgnoresLog (Wiring.add c m) := by
  unfold Wiring.add
  refine (ignoresLog_read c).bind fun text => .when (fun _ => .ite ?_ ?_) (ignoresLog_say _ _)
  · exact (ignoresLog_say _ _).bind fun _ => ignoresLog_pure _
  · refine (ignoresLog_write _ _ _).bind fun _ => .when (fun _ => ?_) (ignoresLog_say _ _)
    exact .when (fun _ => ignoresLog_pure _) (ignoresLog_say _ _)

end Routewright
