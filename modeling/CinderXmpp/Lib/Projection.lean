/-
One machine seen through another.  A projection forgets part of a state and
keeps some of the events; what a step does to the rest must be what the kept
events do there.  What a view shows is then decided by the kept events alone.
-/
import CinderXmpp.Lib.Machine

universe u v w x u' v' w' x' u'' v'' w'' x''

variable {σ : Type u} {ε : Type v} {ρ : Type w} {φ : Type x}
variable {σ' : Type u'} {ε' : Type v'} {ρ' : Type w'} {φ' : Type x'}
variable {σ'' : Type u''} {ε'' : Type v''} {ρ'' : Type w''} {φ'' : Type x''}

/-- The simulation rule: what each executed event is seen as may depend on the
state that it found and on its reply. -/
theorem Machine.Reaches.seen {m : Machine σ ε ρ φ} {m' : Machine σ' ε' ρ' φ'}
    (view : σ → σ') (select : Machine.Executed σ ε ρ → List ε')
    (hstart : view m.start = m'.start)
    (hstep : ∀ events s event reply t, m.Reaches events s →
      m.step s event = .ok (reply, t) →
      m'.runFrom (view s) (select ⟨s, event, reply⟩) = .ok (view t))
    {events : List ε} {s : σ} (hs : m.Reaches events s) :
    m'.Reaches ((m.trace events).flatMap select) (view s) := by
  refine Machine.Reaches.invariant
    (I := fun events s => m'.Reaches ((m.trace events).flatMap select) (view s))
    ?_ ?_ hs
  · exact Machine.reaches_nil_iff.mpr hstart
  · intro events s event reply t hbefore hseen hevent
    rw [hbefore.trace_snoc hevent, List.flatMap_append,
      Machine.reaches_append_iff]
    refine ⟨view s, hseen, ?_⟩
    rw [List.flatMap_singleton]
    exact hstep events s event reply t hbefore hevent

/-- A step of `m` at the end of a run is, seen through `view`, the list of
steps of `m'` that `select` keeps of it. -/
structure Projection (m : Machine σ ε ρ φ) (m' : Machine σ' ε' ρ' φ') where
  view : σ → σ'
  select : ε → List ε'
  start : view m.start = m'.start
  step : ∀ events s event reply t, m.Reaches events s →
    m.step s event = .ok (reply, t) →
    m'.runFrom (view s) (select event) = .ok (view t)

namespace Projection

open Machine History

variable {m : Machine σ ε ρ φ} {m' : Machine σ' ε' ρ' φ'}
  {m'' : Machine σ'' ε'' ρ'' φ''}

/-- A piece of a run is seen as the piece it selects. -/
theorem runFrom (p : Projection m m') {pre : List ε} {s t : σ}
    (hs : m.Reaches pre s) {events : List ε}
    (ht : m.runFrom s events = .ok t) :
    m'.runFrom (p.view s) (events.flatMap p.select) = .ok (p.view t) := by
  induction events generalizing pre s with
  | nil =>
      obtain rfl := Except.ok.inj ht
      rfl
  | cons event rest ih =>
      simp only [Machine.runFrom] at ht
      cases hstep : m.step s event with
      | error fault => simp [hstep] at ht
      | ok result =>
          obtain ⟨reply, next⟩ := result
          simp only [hstep] at ht
          have hhead := p.step pre s event reply next hs hstep
          rw [List.flatMap_cons, runFrom_append, hhead]
          exact ih (hs.snoc hstep) ht

/-- A run is seen as the run of the events it selects. -/
theorem reaches (p : Projection m m') {events : List ε} {s : σ}
    (hs : m.Reaches events s) :
    m'.Reaches (events.flatMap p.select) (p.view s) := by
  have hview := p.runFrom (reaches_nil_iff.mpr rfl) hs
  rwa [p.start] at hview

/-- Two runs that select the same events show the same view, whatever else
their machines are and do. -/
theorem agree {τ : Type*} {η : Type*} {ρₙ : Type*} {φₙ : Type*}
    {n : Machine τ η ρₙ φₙ} (p : Projection m m') (q : Projection n m')
    {events : List ε} {s : σ} (hs : m.Reaches events s) {others : List η}
    {t : τ} (ht : n.Reaches others t)
    (hsame : events.flatMap p.select = others.flatMap q.select) :
    p.view s = q.view t := by
  have hleft := p.reaches hs
  rw [hsame] at hleft
  exact hleft.unique (q.reaches ht)

/-- Projections compose. -/
def comp (p : Projection m m') (q : Projection m' m'') :
    Projection m m'' where
  view s := q.view (p.view s)
  select event := (p.select event).flatMap q.select
  start := by rw [p.start, q.start]
  step events s event reply t hs hstep :=
    q.runFrom (p.reaches hs) (p.step events s event reply t hs hstep)

/-- If the view has a fault wherever a guarded event has one, a guarded history
is executed exactly when its selection is. -/
theorem exists_reaches_iff (p : Projection m m') {G : List ε → ε → Prop}
    (hfault : ∀ pre s event fault, m.Reaches pre s → G pre event →
      m.step s event = .error fault →
      ∃ seen, m'.runFrom (p.view s) (p.select event) = .error seen)
    {events : List ε} (hguarded : Guarded G events) :
    (∃ s, m.Reaches events s) ↔
      ∃ s', m'.Reaches (events.flatMap p.select) s' := by
  constructor
  · rintro ⟨s, hs⟩
    exact ⟨p.view s, p.reaches hs⟩
  rintro ⟨s', hs'⟩
  cases hrun : m.run events with
  | ok s => exact ⟨s, hrun⟩
  | error fault =>
      obtain ⟨pre, event, s, ⟨rest, rfl⟩, hs, hstep⟩ := run_eq_error_iff.mp hrun
      obtain ⟨seen, hseen⟩ := hfault pre s event fault hs
        (hguarded pre event ⟨rest, rfl⟩) hstep
      rw [List.append_assoc, List.flatMap_append] at hs'
      obtain ⟨mid, hmid, hlast⟩ := reaches_append_iff.mp hs'
      obtain rfl := hmid.unique (p.reaches hs)
      rw [List.singleton_append, List.flatMap_cons, runFrom_append,
        hseen] at hlast
      cases hlast

end Projection
