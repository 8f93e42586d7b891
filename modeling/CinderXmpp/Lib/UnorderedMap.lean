/-
Finite maps with the two writes of a hash table that is filled once per key
and edited in place: insertion that keeps an existing entry, and adjustment of
the value stored under a key.  The order of the entries is not observable.
-/
import Mathlib.Data.Finmap
import Mathlib.Data.Finset.Card

universe u v w

/-- A finite map from `κ` to `ν`; Mathlib's `Finmap` without the dependency. -/
abbrev UnorderedMap (κ : Type u) (ν : Type v) := Finmap fun _ : κ => ν

namespace UnorderedMap

variable {κ : Type u} {ν : Type v} {α : Type w} [DecidableEq κ]

/-- Insert an entry unless the key already has one. -/
def insertNew (key : κ) (value : ν) (m : UnorderedMap κ ν) : UnorderedMap κ ν :=
  if key ∈ m then m else m.insert key value

/-- Edit the value under `key` in place, if there is one. -/
def adjust (key : κ) (edit : ν → ν) (m : UnorderedMap κ ν) : UnorderedMap κ ν :=
  match m.lookup key with
  | some value => m.insert key (edit value)
  | none => m

/-- Insert an entry for every item of a list; the first item of a key wins. -/
def insertAll (key : α → κ) (value : α → ν) (items : List α)
    (m : UnorderedMap κ ν) : UnorderedMap κ ν :=
  items.foldl (fun acc item => insertNew (key item) (value item) acc) m

theorem lookup_insertNew (key : κ) (value : ν) (m : UnorderedMap κ ν) (k : κ) :
    (insertNew key value m).lookup k =
      (m.lookup k).or (if key = k then some value else none) := by
  unfold insertNew
  by_cases hmem : key ∈ m
  · rw [if_pos hmem]
    by_cases hkey : key = k
    · subst hkey
      obtain ⟨old, hold⟩ := Finmap.mem_iff.mp hmem
      simp [hold]
    · simp [hkey]
  · rw [if_neg hmem]
    by_cases hkey : key = k
    · subst hkey
      simp [Finmap.lookup_eq_none.mpr hmem]
    · rw [Finmap.lookup_insert_of_ne m (Ne.symm hkey)]
      simp [hkey]

theorem lookup_adjust (key : κ) (edit : ν → ν) (m : UnorderedMap κ ν) (k : κ) :
    (adjust key edit m).lookup k =
      if key = k then (m.lookup k).map edit else m.lookup k := by
  unfold adjust
  by_cases hkey : key = k
  · subst hkey
    cases hlookup : m.lookup key with
    | none => simp [hlookup]
    | some value => simp
  · cases m.lookup key with
    | none => simp [hkey]
    | some value =>
        rw [if_neg hkey]
        exact Finmap.lookup_insert_of_ne m (Ne.symm hkey)

@[simp] theorem lookup_adjust_self (key : κ) (edit : ν → ν)
    (m : UnorderedMap κ ν) :
    (adjust key edit m).lookup key = (m.lookup key).map edit := by
  simp [lookup_adjust]

theorem lookup_adjust_of_ne {key k : κ} (hne : key ≠ k) (edit : ν → ν)
    (m : UnorderedMap κ ν) : (adjust key edit m).lookup k = m.lookup k := by
  simp [lookup_adjust, hne]

/-- After filling, a key holds its old entry, or the value made from the first
item with that key. -/
theorem lookup_insertAll (key : α → κ) (value : α → ν) (items : List α)
    (m : UnorderedMap κ ν) (k : κ) :
    (insertAll key value items m).lookup k =
      (m.lookup k).or
        ((items.find? fun item => decide (key item = k)).map value) := by
  induction items generalizing m with
  | nil => simp [insertAll]
  | cons head tail ih =>
      have hstep : insertAll key value (head :: tail) m =
          insertAll key value tail (insertNew (key head) (value head) m) := rfl
      rw [hstep, ih, lookup_insertNew, List.find?_cons]
      by_cases hkey : key head = k
      · simp [hkey]
      · simp [hkey]

/-- Filling an empty map gives exactly the keys of the items. -/
theorem keys_insertAll_empty (key : α → κ) (value : α → ν) (items : List α) :
    Finmap.keys (insertAll key value items ∅) = (items.map key).toFinset := by
  ext k
  rw [Finmap.mem_keys, ← Finmap.lookup_isSome, lookup_insertAll]
  simp

/-- The filled map has one entry per item exactly when no key repeats. -/
theorem card_keys_insertAll_eq_length_iff (key : α → κ) (value : α → ν)
    (items : List α) :
    (Finmap.keys (insertAll key value items ∅)).card = items.length ↔
      (items.map key).Nodup := by
  rw [keys_insertAll_empty]
  have hcard := Multiset.toFinset_card_eq_card_iff_nodup
    (m := (items.map key : Multiset κ))
  simpa using hcard

end UnorderedMap
