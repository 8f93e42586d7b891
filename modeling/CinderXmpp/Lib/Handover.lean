/-
One slot that is handed on.  Each grant fills the slot with a new item of some
owner, and the item that was there is given back to whoever receives returns at
that moment.  An item that is given back to someone else stays with its owner
for good.
-/
import CinderXmpp.Lib.History

universe u v

/-- The slot is filled with an item of an owner; the item before it is given
back to `receiver`, if there is one. -/
structure Grant (κ : Type u) (ι : Type v) where
  owner : κ
  item : ι
  receiver : Option κ
deriving DecidableEq, Repr

namespace Grant

open History

variable {κ : Type u} {ι : Type v} [DecidableEq κ]

/-- The item of a grant, if it is the owner's. -/
def itemOf (owner : κ) (grant : Grant κ ι) : List ι :=
  if grant.owner = owner then [grant.item] else []

/-- What the next grant leaves with an owner for good: its item in the slot,
unless it is given back to the owner. -/
def leaves (owner : κ) (pre : List (Grant κ ι)) (next : Grant κ ι) : List ι :=
  match pre.getLast? with
  | some last => if next.receiver = some owner then [] else last.itemOf owner
  | none => []

/-- The items of an owner that were not given back to it. -/
def leaked (owner : κ) (grants : List (Grant κ ι)) : List ι :=
  contributions (leaves owner) grants

/-- The item in the slot, if it is the owner's. -/
def present (owner : κ) (grants : List (Grant κ ι)) : List ι :=
  (grants.getLast?.map (itemOf owner)).getD []

@[simp] theorem leaked_nil (owner : κ) :
    leaked owner ([] : List (Grant κ ι)) = [] := rfl

@[simp] theorem present_nil (owner : κ) :
    present owner ([] : List (Grant κ ι)) = [] := rfl

@[simp] theorem present_append_singleton (owner : κ)
    (grants : List (Grant κ ι)) (grant : Grant κ ι) :
    present owner (grants ++ [grant]) = grant.itemOf owner := by
  simp [present]

theorem leaked_append_singleton (owner : κ) (grants : List (Grant κ ι))
    (grant : Grant κ ι) :
    leaked owner (grants ++ [grant]) =
      leaked owner grants ++
        if grant.receiver = some owner then [] else present owner grants := by
  unfold leaked present
  rw [contributions_append_singleton, leaves]
  cases grants.getLast? with
  | none => simp
  | some last => rfl

/-- A leaked item was in the slot, and the grant after it gave it back to
someone else. -/
theorem mem_leaked_iff {owner : κ} {grants : List (Grant κ ι)} {item : ι} :
    item ∈ leaked owner grants ↔
      ∃ pre last next, pre ++ [last, next] <+: grants ∧
        last.owner = owner ∧ last.item = item ∧
        next.receiver ≠ some owner := by
  induction grants using List.reverseRecOn with
  | nil => simp
  | append_singleton earlier grant ih =>
      rw [leaked_append_singleton, List.mem_append, ih]
      constructor
      · rintro (⟨pre, last, next, hinit, hrest⟩ | hlast)
        · exact ⟨pre, last, next, hinit.trans (List.prefix_append _ _), hrest⟩
        · by_cases hback : grant.receiver = some owner
          · simp [hback] at hlast
          · rw [if_neg hback] at hlast
            cases hslot : earlier.getLast? with
            | none => simp [present, hslot] at hlast
            | some last =>
                obtain ⟨pre, rfl⟩ := List.getLast?_eq_some_iff.mp hslot
                rw [present_append_singleton, itemOf] at hlast
                by_cases howner : last.owner = owner
                · rw [if_pos howner, List.mem_singleton] at hlast
                  exact ⟨pre, last, grant, by simp, howner, hlast.symm, hback⟩
                · simp [howner] at hlast
      · rintro ⟨pre, last, next, hinit, howner, hitem, hback⟩
        rcases List.prefix_concat_iff.mp hinit with heq | hshorter
        · right
          have hsplit : pre ++ [last] ++ [next] = earlier ++ [grant] := by
            simpa using heq
          obtain ⟨rfl, hnext⟩ := List.append_inj' hsplit rfl
          obtain rfl : next = grant := by simpa using hnext
          rw [if_neg hback, present_append_singleton, itemOf, if_pos howner,
            List.mem_singleton, hitem]
        · exact .inl ⟨pre, last, next, hshorter, howner, hitem, hback⟩

/-- Everything that an owner holds was granted to it. -/
theorem exists_of_mem_held {owner : κ} {grants : List (Grant κ ι)} {item : ι}
    (hitem : item ∈ leaked owner grants ++ present owner grants) :
    ∃ grant ∈ grants, grant.owner = owner ∧ grant.item = item := by
  rcases List.mem_append.mp hitem with hleaked | hpresent
  · obtain ⟨pre, last, next, hinit, howner, heq, _⟩ :=
      mem_leaked_iff.mp hleaked
    exact ⟨last, hinit.subset (by simp), howner, heq⟩
  · cases hslot : grants.getLast? with
    | none => simp [present, hslot] at hpresent
    | some last =>
        rw [present, hslot, Option.map_some, Option.getD_some,
          itemOf] at hpresent
        by_cases howner : last.owner = owner
        · rw [if_pos howner, List.mem_singleton] at hpresent
          exact ⟨last, List.mem_of_getLast? hslot, howner, hpresent.symm⟩
        · simp [howner] at hpresent

/-- A leaked item is one that is no longer in the slot. -/
theorem mem_dropLast_of_mem_leaked {owner : κ} {grants : List (Grant κ ι)}
    {item : ι} (hitem : item ∈ leaked owner grants) :
    item ∈ (grants.map Grant.item).dropLast := by
  obtain ⟨pre, last, next, ⟨rest, rfl⟩, _, rfl, _⟩ := mem_leaked_iff.mp hitem
  rw [List.append_assoc, List.map_append, List.dropLast_append_of_ne_nil]
  · simp
  · simp

/-- What an owner holds after one more grant: if it is the receiver it drops
what `drops` selects, the item in the slot and none that leaked; and it gets the
new item if that is its own. -/
theorem held_append_singleton {owner : κ} {grants : List (Grant κ ι)}
    {grant : Grant κ ι} {drops : ι → Bool}
    (hslot : ∀ last, grants.getLast? = some last → drops last.item = true)
    (hleaked : ∀ item ∈ leaked owner grants, drops item = false) :
    (if grant.receiver = some owner then
        (leaked owner grants ++ present owner grants).filter
          fun item => !drops item
      else leaked owner grants ++ present owner grants) ++
        grant.itemOf owner =
      leaked owner (grants ++ [grant]) ++ present owner (grants ++ [grant]) := by
  rw [leaked_append_singleton, present_append_singleton]
  by_cases hback : grant.receiver = some owner
  · have hkept : (leaked owner grants).filter (fun item => !drops item) =
        leaked owner grants := by
      rw [List.filter_eq_self]
      intro item hitem
      simp [hleaked item hitem]
    have hdropped : (present owner grants).filter (fun item => !drops item) =
        [] := by
      unfold present
      cases hlast : grants.getLast? with
      | none => rfl
      | some last =>
          have hdrop := hslot last hlast
          by_cases howner : last.owner = owner <;> simp [itemOf, howner, hdrop]
    rw [if_pos hback, if_pos hback, List.filter_append, hkept, hdropped]
  · rw [if_neg hback, if_neg hback]

end Grant
