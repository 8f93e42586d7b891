/-
A process is a listener whose delegate is its client and of whose threads only
one calls `openConnection`.
-/
import CinderXmpp.Footprints
import CinderXmpp.ProcessPhase
import CinderXmpp.ReceiveLoop

namespace CinderXmpp

open Gloox History Machine

/-- The world with its thread back where it was started. -/
def World.rested (world : World) : World :=
  { world with
    client.mListenerThread := world.client.mListenerThread.map
      fun thread => { thread with point := .created } }

/-- A process as a listener with threads: where its one thread stands is that
thread's point. -/
def Process.threaded (p : Process) : Threaded where
  world := p.world.rested
  point := Function.update (fun _ => .created) 0 (p.point?.getD .created)

/-- What an action is to the listener. -/
def Action.turns : Action → List Turn
  | .connect xmppUser xmppServer => [.outside (.connect xmppUser xmppServer)]
  | .sendMessage recipient message subject =>
      [.outside (.sendMessage recipient message subject)]
  | .threadStarts => [.enters 0 true]
  | .connectReturns success => [.connectReturns 0 success]
  | .recvReturns ce => [.recvReturns 0 ce]
  | .callback cb => [.callsBack 0 0 cb]
  | .destroy | .disconnectReturns => []

section Worlds

variable {lib : Library} {world next : World} {event : Event} {reply : Reply}

theorem World.parts_rested {part : Part} (hpart : part ≠ .thread)
    (world : World) :
    World.parts.get part world.rested = World.parts.get part world := by
  cases part with
  | thread => exact absurd rfl hpart
  | _ => rfl

theorem World.rested_of_thread {thread : ListenerThread}
    (hthread : world.client.mListenerThread = some thread) :
    world.rested = { world with
      client.mListenerThread := some { thread with point := .created } } := by
  unfold World.rested
  rw [hthread]
  rfl

theorem World.rested_of_no_thread
    (hthread : world.client.mListenerThread = none) : world.rested = world := by
  obtain ⟨⟨listener, thread, peers⟩, heap, signals⟩ := world
  obtain rfl : thread = none := hthread
  rfl

/-- An event that does not touch the thread does not see where it stands. -/
theorem step_rested_of_not_mem (hthread : .thread ∉ event.footprint.touches)
    (hstep : step lib world event = .ok (reply, next)) :
    step lib world.rested event = .ok (reply, next.rested) := by
  have hbefore : Agree event.footprint world.rested world := by
    intro part hpart
    refine World.parts_rested ?_ world
    rintro rfl
    exact hthread hpart
  obtain ⟨last, hlast, hafter⟩ := Event.alike_of_agree hbefore reply next hstep
  have hunwritten : .thread ∉ event.footprint.writes :=
    fun hwritten => hthread (Finset.mem_union_right _ hwritten)
  obtain rfl : last = next.rested := by
    apply World.parts.ext
    intro part
    by_cases hpart : part = .thread
    · subst hpart
      rw [step_frame hlast .thread hunwritten]
      exact congrArg (Option.map _)
        (step_frame hstep .thread hunwritten).symm
    · rw [World.parts_rested hpart]
      by_cases hwritten : part ∈ event.footprint.writes
      · exact hafter part (Finset.mem_union_right _ hwritten)
      · rw [step_frame hlast part hwritten, step_frame hstep part hwritten,
          World.parts_rested hpart]
  exact hlast

theorem Event.connect_of_thread_mem
    (hthread : .thread ∈ event.footprint.touches) :
    ∃ xmppUser xmppServer, event = .connect xmppUser xmppServer := by
  cases event with
  | connect xmppUser xmppServer => exact ⟨xmppUser, xmppServer, rfl⟩
  | callback client cb =>
      cases cb <;>
        simp [Event.footprint, Callback.footprint, Footprint.touches] at hthread
  | _ => simp [Event.footprint, Footprint.touches] at hthread

/-- Nor does a `connect` that finds no thread. -/
theorem step_rested_of_no_thread
    (hthread : world.client.mListenerThread = none)
    (hstep : step lib world event = .ok (reply, next)) :
    step lib world.rested event = .ok (reply, next.rested) := by
  have hnext := step_mListenerThread hstep
  rw [World.rested_of_no_thread hthread, hstep]
  split at hnext
  · rw [World.rested_of_thread hnext]
    obtain ⟨⟨listener, thread, peers⟩, heap, signals⟩ := next
    obtain rfl : thread = some { toggle := true } := hnext
    rfl
  · rw [World.rested_of_no_thread (hnext.trans hthread)]

/-- Nor does a `connect` that starts none. -/
theorem step_rested_of_thread {thread : ListenerThread}
    (hthread : world.client.mListenerThread = some thread)
    (hjoinable : thread.joinable = true)
    (hstep : step lib world event = .ok (reply, next)) :
    step lib world.rested event = .ok (reply, next.rested) := by
  by_cases htouched : .thread ∈ event.footprint.touches
  · obtain ⟨xmppUser, xmppServer, rfl⟩ := Event.connect_of_thread_mem htouched
    have hempty : (xmppUser.isEmpty || xmppServer.isEmpty) = true := by
      simpa only [Event.startsThread, Bool.not_eq_false'] using
        step_startsThread hthread hjoinable hstep
    rw [step_connect, if_pos hempty] at hstep ⊢
    cases hstep
    rfl
  · exact step_rested_of_not_mem htouched hstep

end Worlds

section Steps

variable {lib : Library} {p q : Process} {action : Action} {reply : Reply}
  {event : Event} {next : World}

/-- A call or callback leaves the thread where it stands. -/
theorem Process.Phase.point_of_step (hphase : p.Phase)
    (hstep : CinderXmpp.step lib p.world event = .ok (reply, next))
    (life : Life) :
    (Process.mk next life).point?.getD .created =
      p.point?.getD .created := by
  have hnext := step_mListenerThread hstep
  unfold Process.point?
  rcases hphase.point?_cases with hnone | ⟨point, _, hthread, _⟩
  · have hthread : p.world.client.mListenerThread = none :=
      Option.map_eq_none_iff.mp hnone
    rw [hnext, hthread]
    split <;> rfl
  · rw [hnext, if_neg (by simp [step_startsThread hthread rfl hstep])]

theorem Process.Phase.step_rested (hphase : p.Phase)
    (hstep : CinderXmpp.step lib p.world event = .ok (reply, next)) :
    CinderXmpp.step lib p.world.rested event = .ok (reply, next.rested) := by
  rcases hphase.point?_cases with hnone | ⟨point, _, hthread, _⟩
  · exact step_rested_of_no_thread (Option.map_eq_none_iff.mp hnone) hstep
  · exact step_rested_of_thread hthread rfl hstep

/-- A call of the client, and a callback that does not throw, is that step of
the listener. -/
theorem Process.Phase.calls_threaded (hphase : p.Phase)
    (hstep : CinderXmpp.step lib p.world event = .ok (reply, next))
    {waiting : Option Nat}
    (hreply : waiting = none ∨ ∀ exc, reply ≠ .threw exc) (life : Life) :
    p.threaded.calls lib waiting event =
      .ok (reply, (Process.mk next life).threaded) := by
  refine Threaded.calls_eq_ok_iff.mpr ⟨_, hphase.step_rested hstep, ?_⟩
  have hsame : p.threaded.after next.rested waiting reply =
      ⟨next.rested, p.threaded.point⟩ := by
    rcases hreply with rfl | hreply
    · cases reply <;> rfl
    · cases waiting <;> cases reply <;> first
        | rfl
        | exact absurd rfl (hreply _)
  rw [hsame]
  unfold Process.threaded
  rw [hphase.point_of_step hstep life]

theorem Process.threaded_point (p : Process) :
    p.threaded.point 0 = p.point?.getD .created := by
  simp [Process.threaded]

/-- The listener's thread gets to a point with the process's. -/
theorem Process.arrived_threaded (p : Process) {thread : ListenerThread}
    (hthread : next.client.mListenerThread = some thread)
    (htoggle : thread = { toggle := true, point := thread.point })
    (after : ThreadPoint) (life : Life) :
    p.threaded.arrived 0 after next.rested =
      (Process.mk (next.threadAt after) life).threaded := by
  unfold Process.threaded Threaded.arrived
  rw [World.rested_of_thread hthread, htoggle, Function.update_idem]
  rfl

/-- The listener's thread makes the part of `openConnection` that the process's
thread does. -/
theorem Process.runs_threaded (p : Process) {next : World}
    {thread : ListenerThread} {after : ThreadPoint} {code : XmppM ThreadPoint}
    (hrun : code.run p.world.rested = .ok after next.rested)
    (hthread : next.client.mListenerThread = some thread)
    (htoggle : thread = { toggle := true, point := thread.point })
    (life : Life) :
    p.threaded.runs 0 code =
      .ok (.void, (Process.mk (next.threadAt after) life).threaded) := by
  rw [← Process.arrived_threaded p hthread htoggle]
  exact Threaded.runs_of_run hrun

/-- What can come next in the process can come next in its thread. -/
theorem Process.Phase.enabled_threaded (hphase : p.Phase)
    (henabled : p.enabled action = true) :
    ∀ turn ∈ action.turns, p.threaded.enabled turn = true := by
  have hpoint := Process.threaded_point p
  cases action with
  | callback cb =>
      rcases hphase.inLibrary_iff.mp henabled with hinside | hinside <;>
        simp [Action.turns, Threaded.enabled, hpoint, hinside,
          ThreadPoint.blocked]
  | threadStarts =>
      have hcreated : p.point? = some .created := by
        simpa [Process.enabled] using henabled
      simp [Action.turns, Threaded.enabled, hpoint, hcreated,
        ThreadPoint.blocked]
  | connectReturns success =>
      have hinside : p.point? = some .inConnect := by
        simpa [Process.enabled] using henabled
      simp [Action.turns, Threaded.enabled, hpoint, hinside]
  | recvReturns ce =>
      have hinside : p.point? = some .inRecv := by
        simpa [Process.enabled] using henabled
      simp [Action.turns, Threaded.enabled, hpoint, hinside]
  | _ => simp [Action.turns, Threaded.enabled]

/-- A step of the process is that step of its threads. -/
theorem Process.Phase.step_threaded (hphase : p.Phase)
    (hstep : Process.step lib p action = .ok (reply, q)) :
    (loopMachine lib true).runFrom p.threaded action.turns =
      .ok q.threaded := by
  obtain ⟨henabled, _, _, hreply⟩ := Process.step_eq_ok hstep
  have hready := hphase.enabled_threaded henabled
  have hthread := hphase.point?_cases
  cases hphase.advance hstep with
  | called _ event _ next hevent hcall =>
      cases action with
      | connect xmppUser xmppServer =>
          obtain rfl := Option.some.inj hevent
          exact Threaded.runFrom_turn rfl
            (hphase.calls_threaded hcall (.inl rfl) p.life)
      | sendMessage recipient message subject =>
          obtain rfl := Option.some.inj hevent
          exact Threaded.runFrom_turn rfl
            (hphase.calls_threaded hcall (.inl rfl) p.life)
      | callback cb =>
          obtain rfl := Option.some.inj hevent
          exact Threaded.runFrom_turn (hready _ List.mem_cons_self)
            (hphase.calls_threaded hcall (.inr (hreply rfl)) p.life)
      | _ => cases hevent
  | opened hcreated =>
      rcases hthread with hnone | ⟨point, hsome, hat, hclient, hflag⟩
      · cases hnone.symm.trans hcreated
      obtain rfl := Option.some.inj (hsome.symm.trans hcreated)
      have hrun : (XmppListener.openConnection true).run p.world.rested =
          .ok .inConnect (p.world.called 0 (.connect true)).rested :=
        run_openConnection_of_client true (hflag rfl) hclient
      exact Threaded.runFrom_turn (hready _ List.mem_cons_self)
        (Process.runs_threaded p hrun hat rfl p.life)
  | received _ hreceives hstarted =>
      rcases hthread with hnone | ⟨point, _, hat, hclient, _⟩
      · exact absurd hnone hstarted
      have hrun : (XmppListener.receiveLoop .connNoError).run p.world.rested =
          .ok .inRecv (p.world.called 0 .recv).rested :=
        run_receiveLoop_of_client .connNoError hclient
      have hruns := Process.runs_threaded p hrun hat rfl p.life
      cases action with
      | connectReturns success =>
          obtain rfl : success = true := hreceives
          exact Threaded.runFrom_turn (hready _ List.mem_cons_self) hruns
      | recvReturns ce =>
          obtain rfl : ce = .connNoError := of_decide_eq_true hreceives
          exact Threaded.runFrom_turn (hready _ List.mem_cons_self) hruns
      | _ => cases hreceives
  | returned _ hreturns hstarted =>
      rcases hthread with hnone | ⟨point, _, hat, hclient, _⟩
      · exact absurd hnone hstarted
      have hbroken : ∀ ce, ce ≠ .connNoError →
          (XmppListener.receiveLoop ce).run p.world.rested =
            .ok .finished p.world.rested := by
        intro ce hce
        have hsame : p.world.rested.client.mListener.mClient = some 0 := hclient
        rw [run_receiveLoop_of_client ce hsame, if_neg hce]
      cases action with
      | connectReturns success =>
          obtain rfl : success = false := by
            simpa [Action.returns] using hreturns
          exact Threaded.runFrom_turn (hready _ List.mem_cons_self)
            (Process.runs_threaded p rfl hat rfl p.life)
      | recvReturns ce =>
          have hrun := hbroken ce (of_decide_eq_true hreturns)
          exact Threaded.runFrom_turn (hready _ List.mem_cons_self)
            (Process.runs_threaded p hrun hat rfl p.life)
      | _ => cases hreturns
  | destroyed => rfl

end Steps

/-- A process seen as a listener with threads. -/
def threadProjection (lib : Library) :
    Projection (processMachine lib) (loopMachine lib true) where
  view := Process.threaded
  select := Action.turns
  start := congrArg (Threaded.mk (World.start true))
    (Function.update_eq_self 0 fun _ : Nat => ThreadPoint.created)
  step _ _ _ _ _ hs hstep := (Reaches.phase hs).step_threaded hstep

/-- A run of the process is one of the listener on the steps of its thread and
the calls of the application, with no call left out. -/
theorem Reaches.threaded {lib : Library} {actions : List Action} {p : Process}
    (hreach : (processMachine lib).Reaches actions p) :
    (loopMachine lib true).Reaches (actions.flatMap Action.turns) p.threaded :=
  (threadProjection lib).reaches hreach

end CinderXmpp
