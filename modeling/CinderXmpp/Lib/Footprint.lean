/-
Steps that read some parts of a state and write others.  Two steps can be
swapped if neither writes what the other reads or writes.  A history can then
be rearranged by swaps, and the interleavings of two threads whose steps can be
swapped all agree.
-/
import CinderXmpp.Lib.Machine
import Mathlib.Data.Finset.Sum
import Mathlib.Logic.Relation

universe u v w x y z

/-- A way to take a state apart. -/
structure Parts (σ : Type u) (ι : Type v) where
  Value : ι → Type w
  get : (part : ι) → σ → Value part
  ext : ∀ s t, (∀ part, get part s = get part t) → s = t

/-- The parts of a state that is made of two. -/
def Parts.sum {σ τ υ : Type u} {ι κ : Type v} (left : Parts.{u, v, w} σ ι)
    (right : Parts.{u, v, w} τ κ) (fst : υ → σ) (snd : υ → τ)
    (hpair : ∀ s t, fst s = fst t → snd s = snd t → s = t) :
    Parts.{u, v, w} υ (ι ⊕ κ) where
  Value := Sum.elim left.Value right.Value
  get
    | .inl part, s => left.get part (fst s)
    | .inr part, s => right.get part (snd s)
  ext s t hparts := hpair s t (left.ext _ _ fun part => hparts (.inl part))
    (right.ext _ _ fun part => hparts (.inr part))

/-- The parts of a table: its entries. -/
def Parts.pi (κ : Type v) (α : Type w) : Parts (κ → α) κ where
  Value _ := α
  get key table := table key
  ext _ _ := funext

/-- The parts that a step reads and those that it writes. -/
structure Footprint (ι : Type v) where
  reads : Finset ι
  writes : Finset ι

namespace Footprint

theorem disjoint_disjSum {ι κ : Type v} {s t : Finset ι} {s' t' : Finset κ}
    (h : Disjoint s t) (h' : Disjoint s' t') :
    Disjoint (s.disjSum s') (t.disjSum t') := by
  rw [Finset.disjoint_left] at h h' ⊢
  rintro (part | part) hs ht
  · exact h (Finset.inl_mem_disjSum.mp hs) (Finset.inl_mem_disjSum.mp ht)
  · exact h' (Finset.inr_mem_disjSum.mp hs) (Finset.inr_mem_disjSum.mp ht)

variable {σ : Type u} {ι : Type v} {ρ : Type y} {φ : Type z} [DecidableEq ι]

def touches (fp : Footprint ι) : Finset ι := fp.reads ∪ fp.writes

/-- Neither writes what the other touches. -/
def Independent (a b : Footprint ι) : Prop :=
  Disjoint a.writes b.touches ∧ Disjoint b.writes a.touches

instance (a b : Footprint ι) : Decidable (Independent a b) :=
  inferInstanceAs (Decidable (_ ∧ _))

theorem Independent.symm {a b : Footprint ι} (h : Independent a b) :
    Independent b a := ⟨h.2, h.1⟩

/-- What is touched of a state that is made of two. -/
def sum {κ : Type v} (a : Footprint ι) (b : Footprint κ) :
    Footprint (ι ⊕ κ) :=
  ⟨a.reads.disjSum b.reads, a.writes.disjSum b.writes⟩

section Sum

variable {κ : Type v} [DecidableEq κ]

@[simp] theorem touches_sum (a : Footprint ι) (b : Footprint κ) :
    (a.sum b).touches = a.touches.disjSum b.touches := by
  ext part
  cases part <;> simp [sum, touches]

theorem Independent.sum {a b : Footprint ι} {c d : Footprint κ}
    (hab : Independent a b) (hcd : Independent c d) :
    Independent (a.sum c) (b.sum d) := by
  constructor
  · rw [touches_sum]
    exact disjoint_disjSum hab.1 hcd.1
  · rw [touches_sum]
    exact disjoint_disjSum hab.2 hcd.2

end Sum

/-- A step stays within a footprint: it changes only what it writes, and where
two states agree on what it touches it replies the same and leaves the same. -/
structure Bounds (parts : Parts.{u, v, w} σ ι) (fp : Footprint ι)
    (step : σ → Except φ (ρ × σ)) : Prop where
  frame : ∀ {s reply t}, step s = .ok (reply, t) → ∀ part ∉ fp.writes,
    parts.get part t = parts.get part s
  locality : ∀ {s s' reply t},
    (∀ part ∈ fp.touches, parts.get part s' = parts.get part s) →
    step s = .ok (reply, t) →
    ∃ t', step s' = .ok (reply, t') ∧
      ∀ part ∈ fp.touches, parts.get part t' = parts.get part t

variable {parts : Parts.{u, v, w} σ ι} {a b : Footprint ι}
  {first second : σ → Except φ (ρ × σ)}

theorem Independent.not_mem_writes (h : Independent a b) {part : ι}
    (hpart : part ∈ b.touches) : part ∉ a.writes :=
  fun hwrites => Finset.disjoint_left.mp h.1 hwrites hpart

/-- Steps with independent footprints can be swapped. -/
theorem Independent.swap (h : Independent a b) (ha : Bounds parts a first)
    (hb : Bounds parts b second) {s t u : σ} {reply reply' : ρ}
    (hfirst : first s = .ok (reply, t)) (hsecond : second t = .ok (reply', u)) :
    ∃ t', second s = .ok (reply', t') ∧ first t' = .ok (reply, u) := by
  -- `second` finds in `s` what it finds after `first`.
  have hsame : ∀ part ∈ b.touches, parts.get part s = parts.get part t := by
    intro part hpart
    exact (ha.frame hfirst part (h.not_mem_writes hpart)).symm
  obtain ⟨t', hsecond', ht'⟩ := hb.locality hsame hsecond
  have hsame' : ∀ part ∈ a.touches, parts.get part t' = parts.get part s := by
    intro part hpart
    exact hb.frame hsecond' part (h.symm.not_mem_writes hpart)
  obtain ⟨u', hfirst', hu'⟩ := ha.locality hsame' hfirst
  obtain rfl : u' = u := by
    apply parts.ext
    intro part
    by_cases hwritten : part ∈ b.writes
    · have htouched : part ∈ b.touches := Finset.mem_union_right _ hwritten
      rw [ha.frame hfirst' part (h.not_mem_writes htouched), ht' part htouched]
    · rw [hb.frame hsecond part hwritten]
      by_cases htouched : part ∈ a.touches
      · exact hu' part htouched
      · have hunwritten : part ∉ a.writes :=
          fun hwrites => htouched (Finset.mem_union_right _ hwrites)
        rw [ha.frame hfirst' part hunwritten,
          hb.frame hsecond' part hwritten,
          ha.frame hfirst part hunwritten]
  exact ⟨t', hsecond', hfirst'⟩

end Footprint

namespace History

variable {ε : Type u} {α : Type v}

/-- Two neighbours that may be swapped are. -/
def Swap (I : ε → ε → Prop) (events others : List ε) : Prop :=
  ∃ pre a b rest, I a b ∧ events = pre ++ a :: b :: rest ∧
    others = pre ++ b :: a :: rest

/-- Any number of swaps. -/
def Rearranges (I : ε → ε → Prop) : List ε → List ε → Prop :=
  Relation.ReflTransGen (Swap I)

section Rearranging

variable {I : ε → ε → Prop} {events others : List ε}

theorem Swap.cons (h : Swap I events others) (event : ε) :
    Swap I (event :: events) (event :: others) := by
  obtain ⟨pre, a, b, rest, hab, rfl, rfl⟩ := h
  exact ⟨event :: pre, a, b, rest, hab, rfl, rfl⟩

theorem Rearranges.cons (h : Rearranges I events others) (event : ε) :
    Rearranges I (event :: events) (event :: others) :=
  h.lift (event :: ·) fun _ _ hswap => hswap.cons event

theorem Rearranges.append_left (h : Rearranges I events others)
    (pre : List ε) : Rearranges I (pre ++ events) (pre ++ others) := by
  induction pre with
  | nil => exact h
  | cons event pre ih => exact ih.cons event

theorem Rearranges.symm (hsymm : ∀ {a b}, I a b → I b a)
    (h : Rearranges I events others) : Rearranges I others events := by
  induction h with
  | refl => exact .refl
  | tail _ hswap ih =>
      obtain ⟨pre, a, b, rest, hab, rfl, rfl⟩ := hswap
      exact .head ⟨pre, b, a, rest, hsymm hab, rfl, rfl⟩ ih

/-- An event moves past those with which it may be swapped. -/
theorem rearranges_past {event : ε} {passed : List ε}
    (hpassed : ∀ other ∈ passed, I event other) (rest : List ε) :
    Rearranges I (event :: (passed ++ rest)) (passed ++ event :: rest) := by
  induction passed with
  | nil => exact .refl
  | cons other passed ih =>
      obtain ⟨hother, hothers⟩ := List.forall_mem_cons.mp hpassed
      exact .head ⟨[], event, other, passed ++ rest, hother, rfl, rfl⟩
        ((ih hothers).cons other)

/-- Two threads, one after the other. -/
theorem rearranges_filter (mine : ε → Bool)
    (hmay : ∀ a ∈ events, ∀ b ∈ events, mine a = false → mine b = true →
      I a b) :
    Rearranges I events
      (events.filter mine ++ events.filter fun event => !mine event) := by
  induction events with
  | nil => exact .refl
  | cons event rest ih =>
      have hrest := ih fun a ha b hb =>
        hmay a (List.mem_cons_of_mem _ ha) b (List.mem_cons_of_mem _ hb)
      cases hmine : mine event with
      | true => simpa [hmine] using hrest.cons event
      | false =>
          have hpast : ∀ other ∈ rest.filter mine, I event other := by
            intro other hother
            obtain ⟨hmem, htheirs⟩ := List.mem_filter.mp hother
            exact hmay event List.mem_cons_self other
              (List.mem_cons_of_mem _ hmem) hmine htheirs
          have hboth := (hrest.cons event).trans (rearranges_past hpast _)
          simpa [Rearranges, hmine] using hboth

/-- Swaps between two kinds keep the order within each. -/
theorem Rearranges.filter_eq {select : ε → Bool}
    (hapart : ∀ {a b}, I a b → ¬ (select a = true ∧ select b = true))
    (h : Rearranges I events others) :
    events.filter select = others.filter select := by
  induction h with
  | refl => rfl
  | tail _ hswap ih =>
      obtain ⟨pre, a, b, rest, hab, rfl, rfl⟩ := hswap
      rw [ih]
      have hnot := hapart hab
      cases ha : select a <;> cases hb : select b <;>
        simp [List.filter_append, ha, hb] at hnot ⊢

end Rearranging

end History

namespace Machine

open History Footprint

variable {σ : Type u} {ε : Type v} {ρ : Type w} {φ : Type x}
  {m : Machine σ ε ρ φ} {I : ε → ε → Prop} {events others : List ε} {s : σ}

/-- The events of a run with their replies. -/
def transcript (m : Machine σ ε ρ φ) (events : List ε) : List (ε × ρ) :=
  (m.trace events).map fun executed => (executed.event, executed.reply)

/-- The machine does not tell the order of events that may be swapped. -/
def Exchanges (m : Machine σ ε ρ φ) (I : ε → ε → Prop) : Prop :=
  ∀ {a b s t u reply reply'}, I a b → m.step s a = .ok (reply, t) →
    m.step t b = .ok (reply', u) →
    ∃ t', m.step s b = .ok (reply', t') ∧ m.step t' a = .ok (reply, u)

/-- Events exchange if their steps stay within independent footprints. -/
theorem exchanges_of_bounds {ι : Type y} [DecidableEq ι]
    {parts : Parts.{u, y, z} σ ι} (footprint : ε → Footprint ι)
    (hbounds : ∀ event, (footprint event).Bounds parts (m.step · event)) :
    m.Exchanges fun a b => (footprint a).Independent (footprint b) := by
  intro a b s t u reply reply' hindependent ha hb
  exact hindependent.swap (hbounds a) (hbounds b) ha hb

theorem traceFrom_cons {m : Machine σ ε ρ φ} {s next : σ} {event : ε}
    {reply : ρ} (hstep : m.step s event = .ok (reply, next)) (rest : List ε) :
    m.traceFrom s (event :: rest) =
      ⟨s, event, reply⟩ :: m.traceFrom next rest := by
  simp only [traceFrom, hstep]

theorem runFrom_cons_eq_ok {event : ε} {rest : List ε} {t : σ}
    (hrun : m.runFrom s (event :: rest) = .ok t) :
    ∃ reply next, m.step s event = .ok (reply, next) ∧
      m.runFrom next rest = .ok t := by
  simp only [runFrom] at hrun
  cases hstep : m.step s event with
  | error fault => simp [hstep] at hrun
  | ok result =>
      rw [hstep] at hrun
      exact ⟨result.1, result.2, rfl, hrun⟩

/-- A swap leaves the state and every reply. -/
theorem Reaches.swap (hm : m.Exchanges I) (hswap : Swap I events others)
    (hs : m.Reaches events s) :
    m.Reaches others s ∧
      Swap (fun a b => I a.1 b.1) (m.transcript events)
        (m.transcript others) := by
  obtain ⟨pre, a, b, rest, hab, rfl, rfl⟩ := hswap
  obtain ⟨mid, hmid, hrun⟩ := reaches_append_iff.mp hs
  obtain ⟨reply, t, ha, hrun⟩ := runFrom_cons_eq_ok hrun
  obtain ⟨reply', u, hb, hrun⟩ := runFrom_cons_eq_ok hrun
  obtain ⟨t', hb', ha'⟩ := hm hab ha hb
  refine ⟨reaches_append_iff.mpr ⟨mid, hmid, ?_⟩, ?_⟩
  · rw [runFrom_cons hb', runFrom_cons ha', hrun]
  · refine ⟨m.transcript pre, (a, reply), (b, reply'),
      (m.traceFrom u rest).map fun executed =>
        (executed.event, executed.reply), hab, ?_, ?_⟩
    · unfold transcript trace
      rw [traceFrom_append hmid, traceFrom_cons ha, traceFrom_cons hb]
      simp
    · unfold transcript trace
      rw [traceFrom_append hmid, traceFrom_cons hb', traceFrom_cons ha']
      simp

/-- The rearrangement rule: a rearranged history leads to the same state, with
the same replies. -/
theorem Reaches.rearrange (hm : m.Exchanges I)
    (hrearranges : Rearranges I events others) (hs : m.Reaches events s) :
    m.Reaches others s ∧
      Rearranges (fun a b => I a.1 b.1) (m.transcript events)
        (m.transcript others) := by
  induction hrearranges with
  | refl => exact ⟨hs, .refl⟩
  | tail _ hswap ih =>
      obtain ⟨hmid, htranscript⟩ := ih
      obtain ⟨hlast, hreplies⟩ := hmid.swap hm hswap
      exact ⟨hlast, htranscript.tail hreplies⟩

/-- Two histories that run the same two threads, the events of one of which may
be swapped with those of the other, are rearrangements of each other. -/
theorem rearranges_of_threads (hsymm : ∀ {a b}, I a b → I b a)
    {mine : ε → Bool} (hmine : events.filter mine = others.filter mine)
    (htheirs : (events.filter fun event => !mine event) =
      others.filter fun event => !mine event)
    (hmay : ∀ a ∈ events, ∀ b ∈ events, mine a = false → mine b = true →
      I a b) :
    Rearranges I events others := by
  have hmem : ∀ event ∈ others, event ∈ events := by
    intro event hevent
    cases hwhose : mine event with
    | true =>
        have hkept : event ∈ others.filter mine :=
          List.mem_filter.mpr ⟨hevent, hwhose⟩
        rw [← hmine] at hkept
        exact List.mem_of_mem_filter hkept
    | false =>
        have hkept : event ∈ others.filter fun event => !mine event :=
          List.mem_filter.mpr ⟨hevent, by simp [hwhose]⟩
        rw [← htheirs] at hkept
        exact List.mem_of_mem_filter hkept
  have hsorted := rearranges_filter mine hmay
  have hsorted' : Rearranges I others (others.filter mine ++
      others.filter fun event => !mine event) :=
    rearranges_filter mine fun a ha b hb => hmay a (hmem a ha) b (hmem b hb)
  rw [← hmine, ← htheirs] at hsorted'
  exact hsorted.trans (hsorted'.symm hsymm)

/-- The interleaving rule: if the events of one thread exchange with those of
the other, then from wherever a run has come all interleavings of the two lead
to the same state, and each thread gets the same replies. -/
theorem Reaches.interleave (hm : m.Exchanges I)
    (hsymm : ∀ {a b}, I a b → I b a) {mine : ε → Bool} {pre : List ε}
    (hmine : events.filter mine = others.filter mine)
    (htheirs : (events.filter fun event => !mine event) =
      others.filter fun event => !mine event)
    (hmay : ∀ a ∈ events, ∀ b ∈ events, mine a = false → mine b = true →
      I a b)
    (hs : m.Reaches (pre ++ events) s) :
    m.Reaches (pre ++ others) s ∧
      ((m.transcript (pre ++ events)).filter fun entry => mine entry.1) =
        ((m.transcript (pre ++ others)).filter fun entry => mine entry.1) ∧
      ((m.transcript (pre ++ events)).filter fun entry => !mine entry.1) =
        (m.transcript (pre ++ others)).filter fun entry => !mine entry.1 := by
  -- Only swaps between the two threads are needed.
  have hrearranges : Rearranges (fun a b => I a b ∧ mine a ≠ mine b) events
      others := by
    apply rearranges_of_threads (fun h => ⟨hsymm h.1, h.2.symm⟩) hmine htheirs
    intro a ha b hb htheirs hmine
    exact ⟨hmay a ha b hb htheirs hmine, by simp [htheirs, hmine]⟩
  have hexchanges : m.Exchanges fun a b => I a b ∧ mine a ≠ mine b :=
    fun h => hm h.1
  obtain ⟨hreaches, htranscript⟩ :=
    hs.rearrange hexchanges (hrearranges.append_left pre)
  refine ⟨hreaches, htranscript.filter_eq ?_, htranscript.filter_eq ?_⟩
  · rintro a b ⟨_, hother⟩ ⟨ha, hb⟩
    exact hother (ha.trans hb.symm)
  · rintro a b ⟨_, hother⟩ ⟨ha, hb⟩
    rw [Bool.not_eq_true'] at ha hb
    exact hother (ha.trans hb.symm)

end Machine
