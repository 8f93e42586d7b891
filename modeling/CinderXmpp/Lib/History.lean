/-
What a finite history of events says about the present: the last value an
event reported, the events since the last reset, and conditions that every
event must meet given the events before it.
-/
import Mathlib.Data.List.DropRight

namespace History

universe u v

variable {ε : Type u} {α : Type v}

/-- The value reported by the last event that reports one. -/
def lastSome (report : ε → Option α) (events : List ε) : Option α :=
  (events.filterMap report).getLast?

@[simp] theorem lastSome_nil (report : ε → Option α) :
    lastSome report [] = none := rfl

@[simp] theorem lastSome_append_singleton (report : ε → Option α)
    (events : List ε) (event : ε) :
    lastSome report (events ++ [event]) =
      (report event).or (lastSome report events) := by
  cases hreport : report event <;>
    simp [lastSome, List.filterMap_append, hreport]

/-- The events after the last one that `reset` selects. -/
def since (reset : ε → Bool) (events : List ε) : List ε :=
  events.rtakeWhile fun event => !reset event

@[simp] theorem since_append_singleton (reset : ε → Bool) (events : List ε)
    (event : ε) :
    since reset (events ++ [event]) =
      if reset event then [] else since reset events ++ [event] := by
  unfold since
  rw [List.rtakeWhile_concat]
  cases reset event <;> simp

/-- What the events contribute, each after the events before it; `pre` is what
came before all of them. -/
def contributionsFrom (f : List ε → ε → List α) :
    List ε → List ε → List α
  | _, [] => []
  | pre, event :: rest =>
      f pre event ++ contributionsFrom f (pre ++ [event]) rest

/-- What the events of a history contribute, one after the other. -/
def contributions (f : List ε → ε → List α) (events : List ε) : List α :=
  contributionsFrom f [] events

theorem contributionsFrom_append_singleton (f : List ε → ε → List α)
    (pre events : List ε) (event : ε) :
    contributionsFrom f pre (events ++ [event]) =
      contributionsFrom f pre events ++ f (pre ++ events) event := by
  induction events generalizing pre with
  | nil => simp [contributionsFrom]
  | cons first rest ih => simp [contributionsFrom, ih]

@[simp] theorem contributions_nil (f : List ε → ε → List α) :
    contributions f [] = [] := rfl

@[simp] theorem contributions_append_singleton (f : List ε → ε → List α)
    (events : List ε) (event : ε) :
    contributions f (events ++ [event]) =
      contributions f events ++ f events event := by
  unfold contributions
  rw [contributionsFrom_append_singleton, List.nil_append]

/-- Every event meets the condition `G` puts on it after the events before. -/
def Guarded (G : List ε → ε → Prop) (events : List ε) : Prop :=
  ∀ pre event, pre ++ [event] <+: events → G pre event

@[simp] theorem guarded_nil (G : List ε → ε → Prop) : Guarded G [] := by
  intro pre event hinit
  simp at hinit

theorem guarded_append_singleton {G : List ε → ε → Prop} {events : List ε}
    {event : ε} :
    Guarded G (events ++ [event]) ↔ Guarded G events ∧ G events event := by
  constructor
  · intro hguarded
    refine ⟨?_, hguarded events event (List.prefix_refl _)⟩
    intro pre earlier hinit
    exact hguarded pre earlier (hinit.trans (List.prefix_append _ _))
  · rintro ⟨hguarded, hlast⟩ pre earlier hinit
    rcases List.prefix_concat_iff.mp hinit with heq | hshorter
    · obtain ⟨rfl, hevent⟩ := List.append_inj' heq rfl
      obtain rfl : earlier = event := by simpa using hevent
      exact hlast
    · exact hguarded pre earlier hshorter

theorem mem_of_prefix_snoc {pre events : List ε} {event : ε}
    (hinit : pre ++ [event] <+: events) : event ∈ events :=
  hinit.subset (List.mem_append_right pre List.mem_cons_self)

/-- The conditions can be checked one by one. -/
theorem guarded_iff_forall_fin {G : List ε → ε → Prop} {events : List ε} :
    Guarded G events ↔
      ∀ i : Fin events.length, G (events.take i) (events.get i) := by
  constructor
  · intro hguarded i
    apply hguarded
    rw [List.get_eq_getElem, ← List.take_succ_eq_append_getElem i.isLt]
    exact List.take_prefix _ _
  · rintro hall pre event ⟨rest, rfl⟩
    have hlt : pre.length < (pre ++ [event] ++ rest).length := by
      simp
    have hat := hall ⟨pre.length, hlt⟩
    simpa using hat

instance (G : List ε → ε → Prop) [∀ pre event, Decidable (G pre event)]
    (events : List ε) : Decidable (Guarded G events) :=
  decidable_of_iff _ guarded_iff_forall_fin.symm

theorem Guarded.of_prefix {G : List ε → ε → Prop} {pre events : List ε}
    (hguarded : Guarded G events) (hinit : pre <+: events) :
    Guarded G pre := by
  intro earlier event hearlier
  exact hguarded earlier event (hearlier.trans hinit)

/-- In a history whose events all meet `H`: a property of prefixes that each
event keeps exactly when it meets `G` holds of all prefixes exactly when every
event meets `G`. -/
theorem forall_prefix_iff_guarded {F : List ε → Prop}
    {G H : List ε → ε → Prop} (hnil : F [])
    (hsnoc : ∀ pre event, Guarded H pre → H pre event → F pre →
      (F (pre ++ [event]) ↔ G pre event))
    {events : List ε} (hevents : Guarded H events) :
    (∀ pre, pre <+: events → F pre) ↔ Guarded G events := by
  induction events using List.reverseRecOn with
  | nil => simpa using hnil
  | append_singleton earlier event ih =>
      obtain ⟨hearlier, hevent⟩ := guarded_append_singleton.mp hevents
      have hlast := hsnoc earlier event hearlier hevent
      rw [guarded_append_singleton, ← ih hearlier]
      constructor
      · intro hall
        refine ⟨fun pre hpre => hall pre (hpre.trans (List.prefix_append _ _)),
          (hlast (hall earlier (List.prefix_append _ _))).mp ?_⟩
        exact hall _ (List.prefix_refl _)
      · rintro ⟨hall, hguard⟩ pre hpre
        rcases List.prefix_concat_iff.mp hpre with rfl | hshorter
        · exact (hlast (hall _ (List.prefix_refl _))).mpr hguard
        · exact hall pre hshorter

end History
