/-
Runs taken apart: a run of two parts succeeds exactly if the first does and the second does from
where the first has come to, and what each part of a run can have done when it has succeeded.
-/
import Routewright.Project.Session
import Routewright.Proofs.Project.Files

namespace Routewright.Run

open Routewright.Tree

variable {α β ε : Type} {s s' : Session} {a : α}

/-! ## Parts -/

theorem bind_ok {r : Run α} {f : α → Run β} {b : β} (h : (r >>= f) s = .ok b s') :
    ∃ a mid, r s = .ok a mid ∧ f a mid = .ok b s' := by
  change EStateM.bind r f s = _ at h
  unfold EStateM.bind at h
  split at h
  · exact ⟨_, _, by assumption, h⟩
  · cases h

/-- A run of two parts stops where the first does or where the second does. -/
theorem bind_error {r : Run α} {f : α → Run β} {e : Stop} (h : (r >>= f) s = .error e s') :
    r s = .error e s' ∨ ∃ a mid, r s = .ok a mid ∧ f a mid = .error e s' := by
  change EStateM.bind r f s = _ at h
  unfold EStateM.bind at h
  split at h
  · exact .inr ⟨_, _, by assumption, h⟩
  · cases h
    exact .inl (by assumption)

theorem bind_of_ok {r : Run α} {mid : Session} (h : r s = .ok a mid) (f : α → Run β) :
    (r >>= f) s = f a mid := by
  change EStateM.bind r f s = _
  rw [EStateM.bind, h]

theorem bind_of_error {r : Run α} {e : Stop} {mid : Session} (h : r s = .error e mid)
    (f : α → Run β) : (r >>= f) s = .error e mid := by
  change EStateM.bind r f s = _
  rw [EStateM.bind, h]

/-- A part that is run only if something holds. -/
theorem when_ok {p : Prop} [Decidable p] {r : Run Unit} {f : Unit → Run α}
    (h : (if p then r >>= f else f ()) s = .ok a s') :
    ∃ mid, (p ∧ r s = .ok () mid ∨ ¬p ∧ mid = s) ∧ f () mid = .ok a s' := by
  split at h
  · rename_i hp
    obtain ⟨_, mid, hr, hf⟩ := bind_ok h
    exact ⟨mid, .inl ⟨hp, hr⟩, hf⟩
  · rename_i hp
    exact ⟨s, .inr ⟨hp, rfl⟩, h⟩

/-- Two parts that are run only if something holds. -/
theorem when_seq_ok {p : Prop} [Decidable p] {r r' : Run Unit} {f : Unit → Run α}
    (h : (if p then r >>= fun _ => r' >>= f else f ()) s = .ok a s') : ∃ mid,
      (p ∧ (∃ first, r s = .ok () first ∧ r' first = .ok () mid) ∨ ¬p ∧ mid = s) ∧
        f () mid = .ok a s' := by
  split at h
  · rename_i hp
    obtain ⟨_, first, hr, h⟩ := bind_ok h
    obtain ⟨_, mid, hr', hf⟩ := bind_ok h
    exact ⟨mid, .inl ⟨hp, first, hr, hr'⟩, hf⟩
  · rename_i hp
    exact ⟨s, .inr ⟨hp, rfl⟩, h⟩

/-- A run that goes on does not stop where it could have. -/
theorem guard_ok {p : Prop} [Decidable p] {stop : Stop} {f : Unit → Run α}
    (h : (if p then throw stop >>= f else f ()) s = .ok a s') : ¬p ∧ f () s = .ok a s' := by
  obtain ⟨mid, ⟨-, hthrow⟩ | ⟨hp, rfl⟩, hf⟩ := when_ok h
  · cases hthrow
  · exact ⟨hp, hf⟩

theorem pure_ok {b : α} (h : (pure b : Run α) s = .ok a s') : a = b ∧ s' = s := by
  cases h
  exact ⟨rfl, rfl⟩

/-- What a run has said. -/
def said (s : Session) (level : Level) (t : Text) : Session :=
  { s with log := s.log ++ [⟨level, t⟩] }

theorem say_eq (s : Session) (level : Level) (t : Text) : say level t s = .ok () (said s level t) :=
  rfl

theorem tree_eq (s : Session) : tree s = .ok s.tree s := rfl

theorem tree_ok {t : Tree} (h : tree s = .ok t s') : s.tree = t ∧ s = s' := by
  cases h
  exact ⟨rfl, rfl⟩

theorem ofExcept_ok {stop : ε → Stop} {x : Except ε α} (h : ofExcept stop x s = .ok a s') :
    x = .ok a ∧ s' = s := by
  cases x with
  | error e => cases h
  | ok b =>
    cases h
    exact ⟨rfl, rfl⟩

theorem ask_ok {stop : FileError → Stop} {question : Tree → Except FileError α}
    (h : ask stop question s = .ok a s') : question s.tree = .ok a ∧ s' = s :=
  ofExcept_ok (ε := FileError) h

theorem ask_error {stop : FileError → Stop} {question : Tree → Except FileError α} {e : Stop}
    (h : ask stop question s = .error e s') : ∃ fault, e = fileStop stop fault := by
  change ofExcept (fileStop stop) (question s.tree) s = _ at h
  cases hq : question s.tree with
  | error fault =>
    rw [hq] at h
    cases h
    exact ⟨fault, rfl⟩
  | ok a =>
    rw [hq] at h
    cases h

theorem ask_of_ok {question : Tree → Except FileError α} (h : question s.tree = .ok a)
    (stop : FileError → Stop) : ask stop question s = .ok a s := by
  change ofExcept (fileStop stop) (question s.tree) s = _
  rw [h]
  rfl

theorem files_ok {stop : FileError → Stop} {act : Files α} (h : files stop act s = .ok a s') :
    act s.tree = .ok a s'.tree := by
  unfold files at h
  split at h
  · cases h
    assumption
  · cases h

theorem files_error {stop : FileError → Stop} {act : Files α} {e : Stop}
    (h : files stop act s = .error e s') : ∃ fault, e = fileStop stop fault := by
  unfold files at h
  split at h
  · cases h
  · cases h
    exact ⟨_, rfl⟩

theorem files_of_ok {act : Files α} {t : Tree} (h : act s.tree = .ok a t)
    (stop : FileError → Stop) : files stop act s = .ok a { s with tree := t } := by
  rw [files, h]

/-- Whether a run has come to a value with some property. -/
def yields (p : α → Bool) : EStateM.Result Stop Session α → Bool
  | .ok a _ => p a
  | .error _ _ => false

theorem exists_of_yields {p : α → Bool} {r : EStateM.Result Stop Session α} (h : yields p r) :
    ∃ a s, r = .ok a s ∧ p a := by
  cases r with
  | ok a s => exact ⟨a, s, rfl, h⟩
  | error e s => cases h

theorem attempt_ok {r : Run α} {x : Except Failure α} (h : attempt r s = .ok x s') :
    (∃ a, x = .ok a ∧ r s = .ok a s') ∨ ∃ f, x = .error f ∧ r s = .error (.failure f) s' := by
  unfold attempt at h
  split at h
  · cases h
    exact .inl ⟨_, rfl, by assumption⟩
  · cases h
    exact .inr ⟨_, rfl, by assumption⟩
  · cases h

theorem attempt_of_ok {r : Run α} (h : r s = .ok a s') : attempt r s = .ok (.ok a) s' := by
  rw [attempt, h]

theorem attempt_of_failure {r : Run α} {f : Failure} (h : r s = .error (.failure f) s') :
    attempt r s = .ok (.error f) s' := by
  rw [attempt, h]

theorem attempt_of_breakdown {r : Run α} {d : Breakdown} (h : r s = .error (.breakdown d) s') :
    attempt r s = .error (.breakdown d) s' := by
  rw [attempt, h]

theorem say_ok {level : Level} {t : Text} {u : Unit} (h : say level t s = .ok u s') :
    s'.tree = s.tree := by
  cases h
  rfl

/-- A part that only tells something changes no files. -/
theorem when_say_ok {p : Prop} [Decidable p] {level : Level} {t : Text} {f : Unit → Run α}
    (h : (if p then say level t >>= f else f ()) s = .ok a s') :
    ∃ mid, mid.tree = s.tree ∧ f () mid = .ok a s' := by
  obtain ⟨mid, ⟨-, hsay⟩ | ⟨-, rfl⟩, hf⟩ := when_ok h
  · exact ⟨mid, say_ok hsay, hf⟩
  · exact ⟨_, rfl, hf⟩

theorem when_say_error {p : Prop} [Decidable p] {level : Level} {t : Text} {f : Unit → Run α}
    {e : Stop} (h : (if p then say level t >>= f else f ()) s = .error e s') :
    ∃ mid, mid.tree = s.tree ∧ f () mid = .error e s' := by
  split at h
  · exact ⟨said s level t, rfl, h⟩
  · exact ⟨s, rfl, h⟩

/-- Telling some texts changes no files. -/
theorem forM_say (level : Level) (f : β → Text) (texts : List β) (s : Session) :
    ∃ log, (texts.forM fun t => say level (f t)) s = .ok () { s with log := log } := by
  induction texts generalizing s with
  | nil => exact ⟨s.log, rfl⟩
  | cons t texts ih =>
    obtain ⟨log, hlog⟩ := ih (said s level (f t))
    refine ⟨log, ?_⟩
    change (say level (f t) >>= fun _ => texts.forM fun t => say level (f t)) s = _
    rw [bind_of_ok (say_eq s level (f t)), hlog]
    rfl

theorem forM_say_ok {level : Level} {texts : List Text} {u : Unit}
    (h : texts.forM (say level) s = .ok u s') : s'.tree = s.tree := by
  obtain ⟨log, hlog⟩ := forM_say level id texts s
  cases h.symm.trans hlog
  rfl

/-! ## Writing -/

/-- What writing a file leaves: the file, and directories that stand on the way to it. -/
structure Wrote (p : FilePath) (content : ByteArray) (place : List Text) (t u : Tree) : Prop where
  located : u.locate p = .ok place
  entry : u.entry? place = some (.file content)
  keeps : Keeps [place] t u
  adds : ∀ x ∈ u.entries, x ∈ t.entries ∨ x = (place, .file content) ∨
    x.2 = .directory ∧ ∃ q, q.IsAbove p.parent ∧ u.locate q = .ok x.1
  drafted : ∃ draft, u.locate (Files.draftPath p) = .ok draft

theorem write_ok {stop : FileError → Stop} {p : FilePath} {text : Text} {a : Unit}
    (h : write stop p text s = .ok a s') : ∃ content place, text.encode? = some content ∧
      Wrote p content place s.tree s'.tree := by
  obtain ⟨_, mid, hmake, h⟩ := bind_ok h
  obtain ⟨_, mid', hdraft, h⟩ := bind_ok h
  obtain ⟨hsame, draft, hlocate⟩ := Files.openDraft_ok (files_ok hdraft)
  have hmade := Files.makeDirectories_ok (files_ok hmake)
  cases hcontent : text.encode? with
  | none =>
    simp only [hcontent] at h
    cases h
  | some content =>
    simp only [hcontent] at h
    obtain ⟨place, hl, hne, hd, hput⟩ := Files.putFile_ok (files_ok h)
    rw [hsame] at hl hd hput
    have hkeeps : Keeps [place] mid.tree s'.tree := hput ▸ keeps_put hd
    refine ⟨content, place, rfl, hkeeps.locate hl, by rw [hput, entry?_put_self _ hne], ?_, ?_,
      draft, hkeeps.locate hlocate⟩
    · exact ((Keeps.refl [place] s.tree).grow hmade.keeps).trans hkeeps fun _ h => .inl h
    · intro x hx
      rw [hput] at hx
      rcases mem_put hx with hx | hx
      · rcases hmade.adds x hx with hx | ⟨hdir, q, hq, hl⟩
        · exact .inl hx
        · exact .inr (.inr ⟨hdir, q, hq, hkeeps.locate hl⟩)
      · exact .inr (.inl hx)

/-- A file can be written into a directory that is there, next to its draft. -/
theorem write_of_isDirectory {p : FilePath} {text : Text} {content : ByteArray}
    {place draft : List Text} (hparent : s.tree.isDirectory p.parent = .ok true)
    (hdraft : s.tree.locate (Files.draftPath p) = .ok draft) (hl : s.tree.locate p = .ok place)
    (hend : Files.endsAtDirectory p = false) (hd : s.tree.entry? place ≠ some .directory)
    (hcontent : text.encode? = some content) (stop : FileError → Stop) :
    write stop p text s = .ok () { s with tree := s.tree.put place (.file content) } := by
  unfold write
  rw [bind_of_ok (files_of_ok (Files.makeDirectories_of_isDirectory hparent) stop),
    bind_of_ok (files_of_ok (Files.openDraft_of_locate hdraft) stop)]
  simp only [hcontent]
  exact files_of_ok (Files.putFile_of_locate hl hend hd content) stop

theorem write_error {stop : FileError → Stop} {p : FilePath} {text : Text} {e : Stop}
    (h : write stop p text s = .error e s') :
    (∃ fault, e = fileStop stop fault) ∨ text.encode? = none ∧ e = .breakdown .surrogate := by
  rcases bind_error h with hmake | ⟨_, mid, -, h⟩
  · exact .inl (files_error hmake)
  · rcases bind_error h with hdraft | ⟨_, mid', -, h⟩
    · exact .inl (files_error hdraft)
    · cases hcontent : text.encode? with
      | none =>
        simp only [hcontent] at h
        cases h
        exact .inr ⟨rfl, rfl⟩
      | some content =>
        simp only [hcontent] at h
        exact .inl (files_error h)

end Routewright.Run
