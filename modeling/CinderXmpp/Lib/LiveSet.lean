/-
The set of keys that are open after a list of openings and closings, against
the last change alone.  A single flag that every change overwrites follows the
set only as long as no key outlives the closing of another.
-/
import Mathlib.Data.Finset.Basic

universe u

/-- A key is opened, again or for the first time, or closed. -/
inductive Change (κ : Type u) where
  | opened (key : κ)
  | closed (key : κ)
deriving DecidableEq, Repr

namespace Change

variable {κ : Type u} [DecidableEq κ]

/-- The open keys after one more change. -/
def apply (live : Finset κ) : Change κ → Finset κ
  | opened key => insert key live
  | closed key => live.erase key

/-- The open keys after a list of changes, none being open at first. -/
def live (changes : List (Change κ)) : Finset κ := changes.foldl apply ∅

@[simp] theorem live_nil : live ([] : List (Change κ)) = ∅ := rfl

@[simp] theorem live_append_singleton (changes : List (Change κ))
    (change : Change κ) :
    live (changes ++ [change]) = apply (live changes) change := by
  simp [live]

/-- The key that was opened last is open. -/
theorem mem_live_of_getLast?_opened {changes : List (Change κ)} {key : κ}
    (hlast : changes.getLast? = some (opened key)) : key ∈ live changes := by
  obtain ⟨earlier, rfl⟩ := List.getLast?_eq_some_iff.mp hlast
  simp [apply]

/-- The key that was closed last is not open. -/
theorem notMem_live_of_getLast?_closed {changes : List (Change κ)} {key : κ}
    (hlast : changes.getLast? = some (closed key)) : key ∉ live changes := by
  obtain ⟨earlier, rfl⟩ := List.getLast?_eq_some_iff.mp hlast
  simp [apply]

/-- A last change that opens a key is a live set whose last change does not
close one. -/
theorem exists_opened_iff (changes : List (Change κ)) :
    (∃ key, changes.getLast? = some (opened key)) ↔
      (live changes).Nonempty ∧
        ∀ key, changes.getLast? ≠ some (closed key) := by
  constructor
  · rintro ⟨key, hlast⟩
    refine ⟨⟨key, mem_live_of_getLast?_opened hlast⟩, ?_⟩
    intro other hother
    rw [hlast] at hother
    cases hother
  · rintro ⟨hlive, hclosed⟩
    cases hlast : changes.getLast? with
    | none =>
        rw [List.getLast?_eq_none_iff] at hlast
        subst hlast
        simp at hlive
    | some change =>
        cases change with
        | opened key => exact ⟨key, rfl⟩
        | closed key => exact absurd hlast (hclosed key)

/-- The last change and the live set part exactly when the last change closes
one key while another one is open. -/
theorem opened_iff_nonempty_iff (changes : List (Change κ)) :
    ((∃ key, changes.getLast? = some (opened key)) ↔
        (live changes).Nonempty) ↔
      ¬ ∃ key other, changes.getLast? = some (closed key) ∧
        other ∈ live changes ∧ other ≠ key := by
  rw [exists_opened_iff]
  constructor
  · rintro hagree ⟨key, other, hlast, hother, _⟩
    exact (hagree.mpr ⟨other, hother⟩).2 key hlast
  · intro hnot
    refine ⟨And.left, ?_⟩
    rintro ⟨other, hother⟩
    refine ⟨⟨other, hother⟩, ?_⟩
    intro key hlast
    refine hnot ⟨key, other, hlast, hother, ?_⟩
    rintro rfl
    exact notMem_live_of_getLast?_closed hlast hother

end Change
