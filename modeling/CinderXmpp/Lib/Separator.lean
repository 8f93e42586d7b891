/-
Cutting a list at the first occurrence of a separator, and when this undoes
joining two lists with that separator.
-/
import Mathlib.Data.List.TakeWhile

namespace Separator

universe u

variable {α : Type u} [DecidableEq α] {sep : α} {left right : List α}

/-- What stands in front of the first separator. -/
def before (sep : α) (chars : List α) : List α := chars.takeWhile (· != sep)

/-- What stands behind the first separator. -/
def after (sep : α) (chars : List α) : List α :=
  (chars.dropWhile (· != sep)).drop 1

theorem not_mem_before (sep : α) (chars : List α) :
    sep ∉ before sep chars := by
  intro hmem
  have hne := List.mem_takeWhile_imp hmem
  simp at hne

theorem before_of_not_mem {chars : List α} (hsep : sep ∉ chars) :
    before sep chars = chars := by
  unfold before
  rw [List.takeWhile_eq_self_iff]
  intro item hitem
  rw [bne_iff_ne]
  rintro rfl
  exact hsep hitem

theorem after_of_not_mem {chars : List α} (hsep : sep ∉ chars) :
    after sep chars = [] := by
  have hall : chars.dropWhile (· != sep) = [] := by
    rw [List.dropWhile_eq_nil_iff]
    intro item hitem
    rw [bne_iff_ne]
    rintro rfl
    exact hsep hitem
  rw [after, hall]
  rfl

/-- Joining and cutting again gives the left part exactly if the separator is
not in it. -/
theorem before_append_cons_eq_iff :
    before sep (left ++ sep :: right) = left ↔ sep ∉ left := by
  constructor
  · intro hleft
    rw [← hleft]
    exact not_mem_before sep _
  · intro hsep
    unfold before
    rw [List.takeWhile_append_of_pos]
    · simp
    · intro item hitem
      rw [bne_iff_ne]
      rintro rfl
      exact hsep hitem

theorem after_append_cons (hsep : sep ∉ left) :
    after sep (left ++ sep :: right) = right := by
  unfold after
  rw [List.dropWhile_append_of_pos]
  · simp
  · intro item hitem
    rw [bne_iff_ne]
    rintro rfl
    exact hsep hitem

/-- Joining is injective on left parts without the separator. -/
theorem append_cons_inj {left' right' : List α} (hsep : sep ∉ left)
    (hsep' : sep ∉ left')
    (heq : left ++ sep :: right = left' ++ sep :: right') :
    left = left' ∧ right = right' := by
  constructor
  · calc left = before sep (left ++ sep :: right) :=
          (before_append_cons_eq_iff.mpr hsep).symm
      _ = before sep (left' ++ sep :: right') := by rw [heq]
      _ = left' := before_append_cons_eq_iff.mpr hsep'
  · calc right = after sep (left ++ sep :: right) :=
          (after_append_cons hsep).symm
      _ = after sep (left' ++ sep :: right') := by rw [heq]
      _ = right' := after_append_cons hsep'

end Separator
