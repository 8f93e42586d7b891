/-
Deterministic machines driven by a history of events.  A step either replies
and moves on or ends the run with a fault.  Histories grow at their end, so a
property of a state may speak about everything that led to it.
-/
import CinderXmpp.Lib.History

universe u v w x

/-- A machine with states `σ`, events `ε`, replies `ρ` and faults `φ`. -/
structure Machine (σ : Type u) (ε : Type v) (ρ : Type w) (φ : Type x) where
  start : σ
  step : σ → ε → Except φ (ρ × σ)

namespace Machine

open History

variable {σ : Type u} {ε : Type v} {ρ : Type w} {φ : Type x}

/-- Deliver a list of events to a state, up to the first fault. -/
def runFrom (m : Machine σ ε ρ φ) : σ → List ε → Except φ σ
  | s, [] => .ok s
  | s, event :: rest =>
      match m.step s event with
      | .ok (_, next) => runFrom m next rest
      | .error fault => .error fault

/-- Deliver a whole history to the machine's start state. -/
def run (m : Machine σ ε ρ φ) (events : List ε) : Except φ σ :=
  m.runFrom m.start events

/-- The history `events` is executed without a fault and ends in `s`. -/
def Reaches (m : Machine σ ε ρ φ) (events : List ε) (s : σ) : Prop :=
  m.run events = .ok s

theorem runFrom_cons {m : Machine σ ε ρ φ} {s next : σ} {event : ε} {reply : ρ}
    (hstep : m.step s event = .ok (reply, next)) (rest : List ε) :
    m.runFrom s (event :: rest) = m.runFrom next rest := by
  simp only [runFrom, hstep]

theorem runFrom_append (m : Machine σ ε ρ φ) (s : σ) (first second : List ε) :
    m.runFrom s (first ++ second) =
      match m.runFrom s first with
      | .ok mid => m.runFrom mid second
      | .error fault => .error fault := by
  induction first generalizing s with
  | nil => rfl
  | cons event rest ih =>
      simp only [List.cons_append, runFrom]
      cases m.step s event with
      | error fault => rfl
      | ok result => exact ih result.2

theorem reaches_nil_iff {m : Machine σ ε ρ φ} {s : σ} :
    m.Reaches [] s ↔ s = m.start := by
  simp [Reaches, run, runFrom, eq_comm]

theorem Reaches.unique {m : Machine σ ε ρ φ} {events : List ε} {s t : σ}
    (hs : m.Reaches events s) (ht : m.Reaches events t) : s = t := by
  unfold Reaches at hs ht
  rw [hs] at ht
  exact Except.ok.inj ht

theorem reaches_append_iff {m : Machine σ ε ρ φ} {first second : List ε}
    {t : σ} :
    m.Reaches (first ++ second) t ↔
      ∃ s, m.Reaches first s ∧ m.runFrom s second = .ok t := by
  unfold Reaches run
  rw [runFrom_append]
  cases m.runFrom m.start first with
  | ok mid => simp
  | error fault => simp

theorem reaches_append_singleton_iff {m : Machine σ ε ρ φ} {events : List ε}
    {event : ε} {t : σ} :
    m.Reaches (events ++ [event]) t ↔
      ∃ s reply, m.Reaches events s ∧ m.step s event = .ok (reply, t) := by
  rw [reaches_append_iff]
  constructor
  · rintro ⟨s, hs, hstep⟩
    simp only [runFrom] at hstep
    cases hevent : m.step s event with
    | error fault => simp [hevent] at hstep
    | ok result =>
        obtain ⟨reply, next⟩ := result
        simp only [hevent, Except.ok.injEq] at hstep
        subst hstep
        exact ⟨s, reply, hs, hevent⟩
  · rintro ⟨s, reply, hs, hstep⟩
    exact ⟨s, hs, by simp [runFrom, hstep]⟩

theorem Reaches.snoc {m : Machine σ ε ρ φ} {events : List ε} {event : ε}
    {s t : σ} {reply : ρ} (hs : m.Reaches events s)
    (hstep : m.step s event = .ok (reply, t)) :
    m.Reaches (events ++ [event]) t :=
  reaches_append_singleton_iff.mpr ⟨s, reply, hs, hstep⟩

theorem Reaches.of_prefix {m : Machine σ ε ρ φ} {pre events : List ε} {t : σ}
    (ht : m.Reaches events t) (hinit : pre <+: events) :
    ∃ s, m.Reaches pre s := by
  obtain ⟨rest, rfl⟩ := hinit
  obtain ⟨s, hs, _⟩ := reaches_append_iff.mp ht
  exact ⟨s, hs⟩

/-- The invariant rule: what holds of the start and is preserved by every
step, given the history so far, holds wherever a history leads. -/
theorem Reaches.invariant {m : Machine σ ε ρ φ} {I : List ε → σ → Prop}
    (hstart : I [] m.start)
    (hstep : ∀ events s event reply t, m.Reaches events s → I events s →
      m.step s event = .ok (reply, t) → I (events ++ [event]) t)
    {events : List ε} {s : σ} (hs : m.Reaches events s) : I events s := by
  induction events using List.reverseRecOn generalizing s with
  | nil =>
      rw [reaches_nil_iff] at hs
      subst hs
      exact hstart
  | append_singleton pre event ih =>
      obtain ⟨mid, reply, hmid, hevent⟩ := reaches_append_singleton_iff.mp hs
      exact hstep pre mid event reply s hmid (ih hmid) hevent

/-- The invariant rule for histories that meet a guard. -/
theorem Reaches.invariant_of_guarded {m : Machine σ ε ρ φ}
    {G : List ε → ε → Prop} {I : List ε → σ → Prop} (hstart : I [] m.start)
    (hstep : ∀ events s event reply t, m.Reaches events s → G events event →
      I events s → m.step s event = .ok (reply, t) → I (events ++ [event]) t)
    {events : List ε} (hguarded : Guarded G events) {s : σ}
    (hs : m.Reaches events s) : I events s := by
  have hall := Reaches.invariant
    (I := fun events s => Guarded G events → I events s)
    (fun _ => hstart) ?_ hs
  · exact hall hguarded
  · intro events s event reply t hbefore hinv hevent hsnoc
    obtain ⟨hpre, hlast⟩ := guarded_append_singleton.mp hsnoc
    exact hstep events s event reply t hbefore hlast (hinv hpre) hevent

/-- A component that every step either overwrites or leaves alone holds the
last value written, or its initial value. -/
theorem Reaches.register {m : Machine σ ε ρ φ} {α : Type*} (read : σ → α)
    (write : ε → Option α)
    (hstep : ∀ s event reply t, m.step s event = .ok (reply, t) →
      read t = (write event).getD (read s))
    {events : List ε} {s : σ} (hs : m.Reaches events s) :
    read s = (lastSome write events).getD (read m.start) := by
  refine Reaches.invariant
    (I := fun events s => read s = (lastSome write events).getD (read m.start))
    rfl ?_ hs
  intro events s event reply t _ hread hevent
  rw [hstep s event reply t hevent, hread, lastSome_append_singleton]
  cases write event <;> rfl

/-- A component that grows by what each event contributes is the sum of the
contributions of the history. -/
theorem Reaches.accumulator {m : Machine σ ε ρ φ} (count : σ → Nat)
    (adds : ε → Bool)
    (hstart : count m.start = 0)
    (hstep : ∀ events s event reply t, m.Reaches events s →
      m.step s event = .ok (reply, t) →
      count t = count s + if adds event then 1 else 0)
    {events : List ε} {s : σ} (hs : m.Reaches events s) :
    count s = events.countP adds := by
  refine Reaches.invariant
    (I := fun events s => count s = events.countP adds) hstart ?_ hs
  intro events s event reply t hbefore hcount hevent
  rw [hstep events s event reply t hbefore hevent, hcount, List.countP_append,
    List.countP_singleton]

/-- The progress rule: a history that meets a guard under which no step
faults is executed to its end. -/
theorem exists_reaches_of_guarded {m : Machine σ ε ρ φ}
    {G : List ε → ε → Prop}
    (hstep : ∀ events s event, m.Reaches events s → Guarded G events →
      G events event → ∃ reply t, m.step s event = .ok (reply, t))
    {events : List ε} (hguarded : Guarded G events) :
    ∃ s, m.Reaches events s := by
  induction events using List.reverseRecOn with
  | nil => exact ⟨m.start, reaches_nil_iff.mpr rfl⟩
  | append_singleton pre event ih =>
      obtain ⟨hpre, hevent⟩ := guarded_append_singleton.mp hguarded
      obtain ⟨s, hs⟩ := ih hpre
      obtain ⟨reply, t, ht⟩ := hstep pre s event hs hpre hevent
      exact ⟨t, hs.snoc ht⟩

/-- A run that ends with a fault has a first event that faults. -/
theorem run_eq_error_iff {m : Machine σ ε ρ φ} {events : List ε} {fault : φ} :
    m.run events = .error fault ↔
      ∃ pre event s, pre ++ [event] <+: events ∧ m.Reaches pre s ∧
        m.step s event = .error fault := by
  induction events using List.reverseRecOn with
  | nil => simp [run, runFrom]
  | append_singleton events event ih =>
      have happend := runFrom_append m m.start events [event]
      change m.run (events ++ [event]) = _ at happend
      constructor
      · intro hfault
        cases hrun : m.run events with
        | error earlier =>
            have hsame : earlier = fault := by
              change m.runFrom m.start events = _ at hrun
              rw [happend, hrun] at hfault
              exact Except.error.inj hfault
            subst hsame
            obtain ⟨pre, faulty, s, hinit, hs, hstep⟩ := ih.mp hrun
            exact ⟨pre, faulty, s,
              hinit.trans (List.prefix_append _ _), hs, hstep⟩
        | ok s =>
            refine ⟨events, event, s, List.prefix_refl _, hrun, ?_⟩
            change m.runFrom m.start events = _ at hrun
            rw [happend, hrun] at hfault
            simp only [runFrom] at hfault
            cases hstep : m.step s event with
            | error last => simpa [hstep] using hfault
            | ok result => simp [hstep] at hfault
      · rintro ⟨pre, faulty, s, hinit, hs, hstep⟩
        rcases List.prefix_concat_iff.mp hinit with heq | hshorter
        · obtain ⟨rfl, hlast⟩ := List.append_inj' heq rfl
          obtain rfl : faulty = event := by simpa using hlast
          change m.runFrom m.start pre = _ at hs
          rw [happend, hs]
          simp [runFrom, hstep]
        · have hrun := ih.mpr ⟨pre, faulty, s, hshorter, hs, hstep⟩
          change m.runFrom m.start events = _ at hrun
          rw [happend, hrun]

/-- A fault on the way is the fault of the whole run. -/
theorem run_eq_error_mono {m : Machine σ ε ρ φ} {pre events : List ε}
    {fault : φ} (hfault : m.run pre = .error fault) (hinit : pre <+: events) :
    m.run events = .error fault := by
  obtain ⟨rest, rfl⟩ := hinit
  unfold run at hfault ⊢
  rw [runFrom_append, hfault]

/-! The trace of a run. -/

/-- One executed event, between the state it found and the reply it got. -/
structure Executed (σ : Type u) (ε : Type v) (ρ : Type w) where
  before : σ
  event : ε
  reply : ρ

/-- What was executed of a list of events, up to the first fault. -/
def traceFrom (m : Machine σ ε ρ φ) : σ → List ε → List (Executed σ ε ρ)
  | _, [] => []
  | s, event :: rest =>
      match m.step s event with
      | .ok (reply, next) => ⟨s, event, reply⟩ :: traceFrom m next rest
      | .error _ => []

/-- What was executed of a history from the start state on. -/
def trace (m : Machine σ ε ρ φ) (events : List ε) : List (Executed σ ε ρ) :=
  m.traceFrom m.start events

theorem traceFrom_append {m : Machine σ ε ρ φ} {s mid : σ} {first : List ε}
    (hfirst : m.runFrom s first = .ok mid) (second : List ε) :
    m.traceFrom s (first ++ second) =
      m.traceFrom s first ++ m.traceFrom mid second := by
  induction first generalizing s with
  | nil =>
      obtain rfl := Except.ok.inj hfirst
      rfl
  | cons event rest ih =>
      simp only [List.cons_append, traceFrom, runFrom] at hfirst ⊢
      cases hstep : m.step s event with
      | error fault => simp [hstep] at hfirst
      | ok result =>
          simp only [hstep] at hfirst
          simp only [List.cons_append, ih hfirst]

/-- A step adds itself to the trace. -/
theorem Reaches.trace_snoc {m : Machine σ ε ρ φ} {events : List ε} {event : ε}
    {s t : σ} {reply : ρ} (hs : m.Reaches events s)
    (hstep : m.step s event = .ok (reply, t)) :
    m.trace (events ++ [event]) = m.trace events ++ [⟨s, event, reply⟩] := by
  unfold trace
  rw [traceFrom_append hs]
  simp [traceFrom, hstep]

/-- What is in the trace was executed where a prefix of the history leads. -/
theorem Reaches.of_mem_trace {m : Machine σ ε ρ φ} {events : List ε} {s : σ}
    (hs : m.Reaches events s) {executed : Executed σ ε ρ}
    (hmem : executed ∈ m.trace events) :
    ∃ pre next, pre ++ [executed.event] <+: events ∧
      m.Reaches pre executed.before ∧
      m.step executed.before executed.event = .ok (executed.reply, next) := by
  induction events using List.reverseRecOn generalizing s with
  | nil => simp [trace, traceFrom] at hmem
  | append_singleton earlier event ih =>
      obtain ⟨mid, reply, hmid, hevent⟩ := reaches_append_singleton_iff.mp hs
      rw [hmid.trace_snoc hevent, List.mem_append, List.mem_singleton] at hmem
      rcases hmem with hearlier | rfl
      · obtain ⟨pre, next, hinit, hbefore, hstep⟩ := ih hmid hearlier
        exact ⟨pre, next, hinit.trans (List.prefix_append _ _), hbefore, hstep⟩
      · exact ⟨earlier, s, List.prefix_refl _, hmid, hevent⟩

theorem Reaches.filterMap_trace_snoc {m : Machine σ ε ρ φ} {α : Type*}
    (select : Executed σ ε ρ → Option α) {events : List ε} {event : ε}
    {s t : σ} {reply : ρ} (hs : m.Reaches events s)
    (hstep : m.step s event = .ok (reply, t)) :
    (m.trace (events ++ [event])).filterMap select =
      (m.trace events).filterMap select ++
        (select ⟨s, event, reply⟩).toList := by
  rw [hs.trace_snoc hstep, List.filterMap_append]
  cases hselect : select ⟨s, event, reply⟩ with
  | none => simp [hselect]
  | some entry => simp [hselect]

/-- The log rule: a component that every step extends at its end by what the
step contributes is what the whole trace contributes. -/
theorem Reaches.log {m : Machine σ ε ρ φ} {G : List ε → ε → Prop} {α : Type*}
    (read : σ → List α) (adds : Executed σ ε ρ → Option α)
    (hstart : read m.start = [])
    (hstep : ∀ events s event reply t, m.Reaches events s → G events event →
      m.step s event = .ok (reply, t) →
      read t = read s ++ (adds ⟨s, event, reply⟩).toList)
    {events : List ε} (hguarded : Guarded G events) {s : σ}
    (hs : m.Reaches events s) :
    read s = (m.trace events).filterMap adds := by
  refine Reaches.invariant_of_guarded
    (I := fun events s => read s = (m.trace events).filterMap adds)
    hstart ?_ hguarded hs
  intro events s event reply t hbefore hguard hread hevent
  rw [hstep events s event reply t hbefore hguard hevent, hread,
    hbefore.filterMap_trace_snoc adds hevent]

end Machine
