/-
The order of texts, code point by code point, and of paths, component by component: both are total,
and two texts that are each not behind the other are the same.
-/
import Routewright.FilePath

namespace Routewright

namespace Text

theorem le_trans {a b c : Text} (h : Text.le a b) (h' : Text.le b c) : Text.le a c := by
  induction a generalizing b c with
  | nil => rfl
  | cons x a ih =>
    cases b with
    | nil => cases h
    | cons y b =>
      cases c with
      | nil => cases h'
      | cons z c =>
        rw [Text.le] at h h' ⊢
        by_cases hxy : x.val = y.val
        · by_cases hyz : y.val = z.val
          · rw [if_pos hxy] at h
            rw [if_pos hyz] at h'
            rw [if_pos (hxy.trans hyz)]
            exact ih h h'
          · rw [if_neg hyz, ← hxy] at h'
            rwa [if_neg (hxy ▸ hyz)]
        · rw [if_neg hxy, decide_eq_true_eq] at h
          have hxz : x.val < z.val := by
            split at h'
            · omega
            · rw [decide_eq_true_eq] at h'
              omega
          rw [if_neg (by omega), decide_eq_true_eq]
          exact hxz

theorem le_total (a b : Text) : Text.le a b || Text.le b a := by
  induction a generalizing b with
  | nil => rfl
  | cons x a ih =>
    cases b with
    | nil => rfl
    | cons y b =>
      rw [Text.le, Text.le]
      by_cases hxy : x.val = y.val
      · rw [if_pos hxy, if_pos hxy.symm]
        exact ih b
      · rw [if_neg hxy, if_neg (Ne.symm hxy), Bool.or_eq_true, decide_eq_true_eq, decide_eq_true_eq]
        omega

theorem le_antisymm {a b : Text} (h : Text.le a b) (h' : Text.le b a) : a = b := by
  induction a generalizing b with
  | nil =>
    cases b with
    | nil => rfl
    | cons y b => cases h'
  | cons x a ih =>
    cases b with
    | nil => cases h
    | cons y b =>
      rw [Text.le] at h h'
      by_cases hxy : x.val = y.val
      · rw [if_pos hxy] at h
        rw [if_pos hxy.symm] at h'
        rw [CodePoint.ext hxy, ih h h']
      · rw [if_neg hxy, decide_eq_true_eq] at h
        rw [if_neg (Ne.symm hxy), decide_eq_true_eq] at h'
        omega

end Text

namespace FilePath

theorem partsLe_trans {a b c : List Text} (h : partsLe a b) (h' : partsLe b c) : partsLe a c := by
  induction a generalizing b c with
  | nil => rfl
  | cons x a ih =>
    cases b with
    | nil => cases h
    | cons y b =>
      cases c with
      | nil => cases h'
      | cons z c =>
        rw [partsLe] at h h' ⊢
        by_cases hxy : x = y
        · by_cases hyz : y = z
          · rw [if_pos hxy] at h
            rw [if_pos hyz] at h'
            rw [if_pos (hxy.trans hyz)]
            exact ih h h'
          · rw [if_neg hyz] at h'
            rwa [hxy, if_neg hyz]
        · rw [if_neg hxy] at h
          by_cases hyz : y = z
          · rwa [← hyz, if_neg hxy]
          · rw [if_neg hyz] at h'
            -- a component between two equal ones would be equal to both
            have hxz : x ≠ z := by
              rintro rfl
              exact hxy (Text.le_antisymm h h')
            rw [if_neg hxz]
            exact Text.le_trans h h'

theorem partsLe_total (a b : List Text) : partsLe a b || partsLe b a := by
  induction a generalizing b with
  | nil => rfl
  | cons x a ih =>
    cases b with
    | nil => rfl
    | cons y b =>
      rw [partsLe, partsLe]
      by_cases hxy : x = y
      · rw [if_pos hxy, if_pos hxy.symm]
        exact ih b
      · rw [if_neg hxy, if_neg (Ne.symm hxy)]
        exact Text.le_total x y

theorem partsLe_append_left (front : List Text) (a b : List Text) :
    partsLe (front ++ a) (front ++ b) = partsLe a b := by
  induction front with
  | nil => rfl
  | cons x front ih => rw [List.cons_append, List.cons_append, partsLe, if_pos rfl, ih]

end FilePath

end Routewright
