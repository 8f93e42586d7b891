/-
Two threads that share a listener, one of them in `openConnection` perhaps.
Each of their steps reads and writes parts of the wrapper and moves its own
thread; where no step of the one touches what a step of the other writes, the
order of the two cannot be told.
-/
import CinderXmpp.Footprints
import CinderXmpp.ReceiveLoop

namespace CinderXmpp

open Gloox History Machine

/-- The parts of a listener with its threads: those of the world, and where each
thread stands. -/
def Threaded.parts : Parts Threaded (Part ⊕ Nat) :=
  World.parts.sum (Parts.pi Nat ThreadPoint) Threaded.world Threaded.point <| by
    rintro ⟨_, _⟩ ⟨_, _⟩ rfl rfl
    rfl

/-- What a step reads and writes of the world.  After a blocking call only the
current client is looked at and, where the loop goes on, called. -/
def Turn.shared (turn : Turn) : Footprint Part :=
  match turn.event? with
  | some event => event.footprint
  | none => ⟨∅, {.clients}⟩

/-- The thread that a step can move. -/
def Turn.thread? : Turn → Option Nat
  | .outside _ => none
  | .enters thread _ | .connectReturns thread _ | .recvReturns thread _
  | .callsBack thread _ _ => some thread

def Turn.footprint (turn : Turn) : Footprint (Part ⊕ Nat) :=
  turn.shared.sum ⟨∅, turn.thread?.toFinset⟩

/-- Neither step writes a part that the other reads or writes, and they do not
move the same thread. -/
def Turn.Independent (a b : Turn) : Prop :=
  a.footprint.Independent b.footprint

instance (a b : Turn) : Decidable (a.Independent b) :=
  inferInstanceAs (Decidable (a.footprint.Independent b.footprint))

section Frame

variable {lib : Library} {s t : Threaded} {turn : Turn} {reply : Reply}
  {thread : Nat}

theorem World.parts_receiving {part : Part} (hpart : part ≠ .clients)
    (world : World) :
    World.parts.get part world.receiving = World.parts.get part world := by
  unfold World.receiving
  cases world.client.mListener.mClient with
  | none => rfl
  | some current => exact World.parts_called hpart world current .recv

/-- A step changes only the parts of the world that it writes. -/
theorem Threaded.frame_world
    (hstep : Threaded.step lib s turn = .ok (reply, t)) {part : Part}
    (hpart : part ∉ turn.shared.writes) :
    World.parts.get part t.world = World.parts.get part s.world := by
  unfold Turn.shared at hpart
  cases Threaded.moves_of_step hstep with
  | called event _ hevent hcall =>
      rw [hevent] at hpart
      exact step_frame hcall part hpart
  | received hevent _ hworld =>
      rw [hevent, Finset.mem_singleton] at hpart
      rw [hworld, World.parts_receiving hpart]
  | returned _ _ hworld => rw [hworld]

theorem Threaded.point_of_runs {code : XmppM ThreadPoint} {other : Nat}
    (hruns : s.runs thread code = .ok (reply, t)) (hother : other ≠ thread) :
    t.point other = s.point other := by
  unfold Threaded.runs at hruns
  split at hruns <;> cases hruns <;>
    exact Function.update_of_ne hother _ _

theorem Threaded.point_of_after {waiting : Option Nat} {other : Nat}
    (hother : other ∉ waiting) (next : World) (reply : Reply) :
    (s.after next waiting reply).point other = s.point other := by
  cases waiting with
  | none => rfl
  | some thread =>
      cases reply with
      | threw exc =>
          refine Function.update_of_ne ?_ _ _
          rintro rfl
          exact hother rfl
      | _ => rfl

/-- A step moves only its own thread. -/
theorem Threaded.frame_point
    (hstep : Threaded.step lib s turn = .ok (reply, t))
    (hthread : thread ∉ turn.thread?) : t.point thread = s.point thread := by
  obtain ⟨_, hexecute⟩ := Threaded.step_eq_ok_iff.mp hstep
  cases turn with
  | outside event =>
      obtain ⟨next, _, rfl⟩ := Threaded.calls_eq_ok_iff.mp hexecute
      exact Threaded.point_of_after hthread next reply
  | callsBack moved client cb =>
      obtain ⟨next, _, rfl⟩ := Threaded.calls_eq_ok_iff.mp hexecute
      exact Threaded.point_of_after hthread next reply
  | _ =>
      refine Threaded.point_of_runs hexecute ?_
      rintro rfl
      exact hthread rfl

end Frame

section Locality

variable {lib : Library} {s s' t : Threaded} {turn : Turn} {reply : Reply}
  {world world' : World}

theorem Threaded.enabled_congr
    (hpoint : ∀ thread ∈ turn.thread?, s'.point thread = s.point thread) :
    s'.enabled turn = s.enabled turn := by
  cases turn with
  | outside event => cases event <;> rfl
  | _ => simp [Threaded.enabled, hpoint _ rfl]

theorem Threaded.calls_local {waiting : Option Nat} {event : Event}
    (hworld : Agree event.footprint s'.world s.world)
    (hpoint : ∀ thread ∈ waiting, s'.point thread = s.point thread)
    (hcalls : s.calls lib waiting event = .ok (reply, t)) :
    ∃ t', s'.calls lib waiting event = .ok (reply, t') ∧
      Agree event.footprint t'.world t.world ∧
      ∀ thread ∈ waiting, t'.point thread = t.point thread := by
  obtain ⟨next, hstep, rfl⟩ := Threaded.calls_eq_ok_iff.mp hcalls
  obtain ⟨next', hstep', hsame⟩ := Event.alike_of_agree hworld reply next hstep
  refine ⟨s'.after next' waiting reply,
    Threaded.calls_eq_ok_iff.mpr ⟨next', hstep', rfl⟩, by simpa using hsame, ?_⟩
  rintro thread ⟨⟩
  cases reply with
  | threw exc => simp [Threaded.after, Threaded.arrived]
  | _ => exact hpoint thread rfl

theorem keptByCalls_agree (fp : Footprint Part)
    (hclients : .clients ∈ fp.touches) :
    KeptByCalls fun world world' => Agree fp world' world where
  mClient hsame := congrArg Prod.snd (hsame .clients hclients)
  called current entry hsame := hsame.called current entry

theorem Threaded.runs_local {thread : Nat} {fp : Footprint Part}
    {code : XmppM ThreadPoint}
    (hcode : Relates (fun world world' => Agree fp world' world) code)
    (hworld : Agree fp s'.world s.world)
    (hruns : s.runs thread code = .ok (reply, t)) :
    ∃ t', s'.runs thread code = .ok (reply, t') ∧
      Agree fp t'.world t.world ∧
      ∀ moved ∈ some thread, t'.point moved = t.point moved := by
  obtain ⟨point, next, next', hrun, hrun', hsame⟩ := hcode _ _ hworld
  cases (Threaded.runs_of_run hrun).symm.trans hruns
  refine ⟨_, Threaded.runs_of_run hrun', hsame, ?_⟩
  rintro moved ⟨⟩
  simp [Threaded.arrived]

/-- What a step replies and leaves depends on what it touches alone. -/
theorem Threaded.execute_local
    (hworld : Agree turn.shared s'.world s.world)
    (hpoint : ∀ thread ∈ turn.thread?, s'.point thread = s.point thread)
    (hexecute : s.execute lib turn = .ok (reply, t)) :
    ∃ t', s'.execute lib turn = .ok (reply, t') ∧
      Agree turn.shared t'.world t.world ∧
      ∀ thread ∈ turn.thread?, t'.point thread = t.point thread := by
  cases turn with
  | outside event => exact Threaded.calls_local hworld hpoint hexecute
  | callsBack thread client cb =>
      exact Threaded.calls_local hworld hpoint hexecute
  | enters thread toggle =>
      have hkept := keptByCalls_agree (Event.footprint (.openConnection toggle))
        (by simp [Event.footprint, Footprint.touches])
      exact Threaded.runs_local
        (relates_openConnection hkept (fun hsame => hsame.gate.1) toggle)
        hworld hexecute
  | connectReturns thread success =>
      have hkept := keptByCalls_agree ⟨∅, {.clients}⟩ (by decide)
      exact Threaded.runs_local (relates_connectReturned hkept success) hworld
        hexecute
  | recvReturns thread ce =>
      have hkept := keptByCalls_agree ⟨∅, {.clients}⟩ (by decide)
      exact Threaded.runs_local (relates_receiveLoop hkept ce) hworld hexecute

end Locality

/-- Every step stays within its footprint. -/
theorem turn_bounds (lib : Library) (turn : Turn) :
    turn.footprint.Bounds Threaded.parts (Threaded.step lib · turn) where
  frame := by
    rintro s reply t hstep (part | thread) hpart
    · refine Threaded.frame_world hstep fun hwritten => hpart ?_
      exact Finset.inl_mem_disjSum.mpr hwritten
    · refine Threaded.frame_point hstep fun hmoved => hpart ?_
      exact Finset.inr_mem_disjSum.mpr (Option.mem_toFinset.mpr hmoved)
  locality := by
    intro s s' reply t hsame hstep
    have htouches : turn.footprint.touches =
        turn.shared.touches.disjSum turn.thread?.toFinset := by
      rw [Turn.footprint, Footprint.touches_sum]
      simp [Footprint.touches]
    rw [htouches] at hsame ⊢
    have hworld : Agree turn.shared s'.world s.world :=
      fun part hpart => hsame (.inl part) (Finset.inl_mem_disjSum.mpr hpart)
    have hpoint : ∀ thread ∈ turn.thread?, s'.point thread = s.point thread :=
      fun thread hthread => hsame (.inr thread)
        (Finset.inr_mem_disjSum.mpr (Option.mem_toFinset.mpr hthread))
    obtain ⟨henabled, hexecute⟩ := Threaded.step_eq_ok_iff.mp hstep
    obtain ⟨t', hexecute', hworld', hpoint'⟩ :=
      Threaded.execute_local hworld hpoint hexecute
    refine ⟨t', Threaded.step_eq_ok_iff.mpr
      ⟨by rw [Threaded.enabled_congr hpoint, henabled], hexecute'⟩, ?_⟩
    rintro (part | thread) hpart
    · exact hworld' part (Finset.inl_mem_disjSum.mp hpart)
    · exact hpoint' thread
        (Option.mem_toFinset.mp (Finset.inr_mem_disjSum.mp hpart))

/-- A listener does not tell the order of independent steps. -/
theorem loop_exchanges (lib : Library) (delegate : Bool) :
    (loopMachine lib delegate).Exchanges Turn.Independent :=
  exchanges_of_bounds Turn.footprint (turn_bounds lib)

/-- Two threads that share a listener, from wherever it has come.  Where no step
of the one touches what a step of the other writes, all their interleavings
agree: if one runs to its end then all do, in the same world and with all
threads at the same points, and each of the two gets the same replies in all of
them. -/
theorem interleavings_agree (lib : Library) (delegate : Bool)
    (mine : Turn → Bool) {pre turns others : List Turn}
    (hmine : turns.filter mine = others.filter mine)
    (htheirs : (turns.filter fun turn => !mine turn) =
      others.filter fun turn => !mine turn)
    (hindependent : ∀ a ∈ turns, ∀ b ∈ turns, mine a = false →
      mine b = true → a.Independent b)
    {s : Threaded}
    (hreach : (loopMachine lib delegate).Reaches (pre ++ turns) s) :
    (loopMachine lib delegate).Reaches (pre ++ others) s ∧
      (((loopMachine lib delegate).transcript (pre ++ turns)).filter
          fun entry => mine entry.1) =
        (((loopMachine lib delegate).transcript (pre ++ others)).filter
          fun entry => mine entry.1) ∧
      (((loopMachine lib delegate).transcript (pre ++ turns)).filter
          fun entry => !mine entry.1) =
        ((loopMachine lib delegate).transcript (pre ++ others)).filter
          fun entry => !mine entry.1 := by
  have hexchanges : (loopMachine lib delegate).Exchanges Turn.Independent :=
    loop_exchanges lib delegate
  exact hreach.interleave hexchanges Footprint.Independent.symm hmine htheirs
    hindependent

/-- A call of the application. -/
def Turn.isCall : Turn → Bool
  | .outside event => event.isCall
  | _ => false

/-- A callback that brings data. -/
def Turn.bringsData : Turn → Bool
  | .callsBack _ _ cb => cb.bringsData
  | _ => false

theorem Turn.independent_of_bringsData {call turn : Turn}
    (hcall : call.isCall = true) (hdata : turn.bringsData = true) :
    turn.Independent call := by
  cases call with
  | outside event =>
      cases turn with
      | callsBack thread client cb =>
          have hshared : Event.Independent (.callback client cb) event :=
            CinderXmpp.independent_of_bringsData hcall hdata
          refine Footprint.Independent.sum hshared ?_
          simp [Footprint.Independent, Footprint.touches, Turn.thread?]
      | _ => cases hdata
  | _ => cases hcall

/-- The application's calls commute with all rosters, presences and messages
that come in.  Whatever the order of the two, the run goes on as that of the
calls followed by that of the callbacks. -/
theorem calls_commute_with_data (lib : Library) (delegate : Bool)
    {pre turns : List Turn}
    (hkinds : ∀ turn ∈ turns, turn.isCall = true ∨ turn.bringsData = true)
    (s : Threaded) :
    (loopMachine lib delegate).Reaches (pre ++ turns) s ↔
      (loopMachine lib delegate).Reaches (pre ++
        (turns.filter Turn.isCall ++
          turns.filter fun turn => !turn.isCall)) s := by
  have hexchanges : (loopMachine lib delegate).Exchanges Turn.Independent :=
    loop_exchanges lib delegate
  have hsorted : Rearranges Turn.Independent turns
      (turns.filter Turn.isCall ++ turns.filter fun turn => !turn.isCall) := by
    apply rearranges_filter Turn.isCall
    intro turn hturn call _ hnot hcall
    have hdata := (hkinds turn hturn).resolve_left (by simp [hnot])
    exact Turn.independent_of_bringsData hcall hdata
  constructor
  · intro hreach
    exact (hreach.rearrange hexchanges (hsorted.append_left pre)).1
  · intro hreach
    exact (hreach.rearrange hexchanges
      ((hsorted.symm Footprint.Independent.symm).append_left pre)).1

/-- A connection that comes up does not commute with a message to be sent. -/
example : ¬ Turn.Independent (.callsBack 0 0 .onConnect)
    (.outside (.send ⟨"alice", "example.org", ""⟩ "hello" "")) := by decide

/-- A message does not commute with a new session: the one that it comes on may
be disposed of. -/
example : ¬ Turn.Independent
    (.callsBack 0 0 (.handleMessage ⟨.chat, ⟨"carol", "example.org", ""⟩,
      "hello", ""⟩ { address := 0, target := ⟨"alice", "example.org", ""⟩ }))
    (.callsBack 1 1 (.handleMessageSession ⟨"bob", "example.org", ""⟩)) := by
  decide

namespace InterleavingWitness

def alice : JID := ⟨"alice", "example.org", "phone"⟩

def listed : RosterItem := RosterItem.ofJID alice

/-- A listener that logs in on a thread. -/
def login : List Turn :=
  [.outside (.setup "carol" "example.org" false), .enters 0 true,
    .callsBack 0 0 .onConnect, .connectReturns 0 true]

/-- A message and a second setup, while a roster and a presence come in. -/
def early : List Turn :=
  [.callsBack 0 0 (.handleRoster ⟨[listed], by decide⟩),
    .outside (.send alice "hello" ""),
    .callsBack 0 0 (.handleRosterPresence listed "phone" .away "lunch"),
    .outside (.setup "carol" "example.net" false)]

/-- The same with the callbacks after the calls. -/
def late : List Turn :=
  [.outside (.send alice "hello" ""),
    .outside (.setup "carol" "example.net" false),
    .callsBack 0 0 (.handleRoster ⟨[listed], by decide⟩),
    .callsBack 0 0 (.handleRosterPresence listed "phone" .away "lunch")]

theorem interleavings_agree_late :
    ∃ s, (loopMachine .documented true).Reaches (login ++ early) s ∧
      (loopMachine .documented true).Reaches (login ++ late) s := by
  have hearly : (loopMachine .documented true).Reaches (login ++ early) _ := rfl
  exact ⟨_, hearly, (interleavings_agree .documented true Turn.isCall rfl rfl
    (by decide) hearly).1⟩

end InterleavingWitness

end CinderXmpp
