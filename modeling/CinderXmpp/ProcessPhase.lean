/-
The two phases of a process that goes on: before a `connect` it has neither a
client nor a thread, and from then on it has one of each.  Everything an action
can do is said once, for the phase it finds.
-/
import CinderXmpp.Termination

namespace CinderXmpp

open Gloox History Machine

/-- The listener thread stands at a point. -/
def World.threadAt (world : World) (point : ThreadPoint) : World :=
  { world with
    client.mListenerThread := some { toggle := true, point := point } }

/-- A process before and after its first `connect`.  While the thread function
has not been entered, no callback has raised the connected flag. -/
inductive Process.Phase (p : Process) : Prop where
  | unconnected
      (hthread : p.world.client.mListenerThread = none)
      (hclient : p.world.client.mListener.mClient = none)
      (hclients : p.world.heap.clients = [])
      (hflag : p.world.client.mListener.mIsConnected = false)
      (hlife : p.life ≠ .disconnecting)
  | started (point : ThreadPoint)
      (hthread : p.world.client.mListenerThread =
        some { toggle := true, point := point })
      (hclient : p.world.client.mListener.mClient = some 0)
      (hclients : p.world.heap.clients.length = 1)
      (hflag : point = .created →
        p.world.client.mListener.mIsConnected = false)
      (hlife : p.life = .alive)

/-- The call or callback of the client that an action is. -/
def Action.event? : Action → Option Event
  | .connect xmppUser xmppServer => some (.connect xmppUser xmppServer)
  | .sendMessage recipient message subject =>
      some (.sendMessage recipient message subject)
  | .callback cb => some (.callback 0 cb)
  | _ => none

/-- A blocking call has returned and another `Client::recv` follows. -/
def Action.receives : Action → Bool
  | .connectReturns success => success
  | .recvReturns ce => ce = .connNoError
  | _ => false

/-- A blocking call has returned and the thread function is left. -/
def Action.returns : Action → Bool
  | .connectReturns success => !success
  | .recvReturns ce => ce ≠ .connNoError
  | _ => false

/-- `Advance lib p action reply q`: what an action makes of a process. -/
inductive Process.Advance (lib : Library) (p : Process) :
    Action → Reply → Process → Prop where
  | called (action : Action) (event : Event) (reply : Reply) (next : World)
      (hevent : action.event? = some event)
      (hstep : CinderXmpp.step lib p.world event = .ok (reply, next)) :
      Advance lib p action reply ⟨next, p.life⟩
  | opened (hpoint : p.point? = some .created) :
      Advance lib p .threadStarts .void
        ⟨(p.world.called 0 (.connect true)).threadAt .inConnect, p.life⟩
  | received (action : Action) (hreceives : action.receives = true)
      (hstarted : p.point? ≠ none) :
      Advance lib p action .void
        ⟨(p.world.called 0 .recv).threadAt .inRecv, p.life⟩
  | returned (action : Action) (hreturns : action.returns = true)
      (hstarted : p.point? ≠ none) :
      Advance lib p action .void ⟨p.world.threadAt .finished, p.life⟩
  | destroyed (hthread : p.world.client.mListenerThread = none) :
      Advance lib p .destroy .void ⟨p.world, .destroyed⟩

section Code

variable {world next : World} {thread : ListenerThread} {point : ThreadPoint}

/-- A part of the thread function moves the thread to where it got. -/
theorem perform_runThread_of_run (code : ListenerThread → XmppM ThreadPoint)
    (hthread : world.client.mListenerThread = some thread)
    (hcode : (code thread).run world = .ok point next) :
    perform (void (runThread code)) world =
      .ok (.void, { next with
        client.mListenerThread := some { thread with point := point } }) := by
  simp [perform_void, runThread, hthread, hcode]

theorem run_openConnection_of_client (toggle : Bool) {current : Nat}
    (hflag : world.client.mListener.mIsConnected = false)
    (hclient : world.client.mListener.mClient = some current) :
    (XmppListener.openConnection toggle).run world =
      .ok .inConnect (world.called current (.connect toggle)) := by
  rw [run_openConnection, hflag, hclient]

theorem run_receiveLoop_of_client (ce : ConnectionError) {current : Nat}
    (hclient : world.client.mListener.mClient = some current) :
    (XmppListener.receiveLoop ce).run world =
      if ce = .connNoError then
        .ok .inRecv (world.called current .recv)
      else .ok .finished world := by
  rw [run_receiveLoop, hclient]
  cases ce <;> rfl

end Code

section Steps

variable {lib : Library} {p q : Process} {action : Action} {reply : Reply}

theorem Process.Phase.not_disconnecting (hphase : p.Phase) :
    p.life ≠ .disconnecting := by
  cases hphase with
  | unconnected _ _ _ _ hlife => exact hlife
  | started _ _ _ _ _ hlife =>
      rw [hlife]
      intro hlife
      cases hlife

theorem Process.Phase.point?_cases (hphase : p.Phase) :
    p.point? = none ∨ ∃ point, p.point? = some point ∧
      p.world.client.mListenerThread =
        some { toggle := true, point := point } ∧
      p.world.client.mListener.mClient = some 0 ∧
      (point = .created → p.world.client.mListener.mIsConnected = false) := by
  cases hphase with
  | unconnected hthread => simp [Process.point?, hthread]
  | started point hthread hclient _ hflag =>
      exact .inr ⟨point, by simp [Process.point?, hthread], hthread, hclient,
        hflag⟩

/-- Callbacks only come while the thread is inside `connect` or `recv`. -/
theorem Process.Phase.inLibrary_iff (hphase : p.Phase) :
    p.inLibrary = true ↔
      p.point? = some .inConnect ∨ p.point? = some .inRecv := by
  simp [Process.inLibrary, hphase.not_disconnecting]

/-- The receive loop goes on after `ConnNoError`, and only then. -/
theorem perform_receiveLoop_of_started {point : ThreadPoint}
    (hthread : p.world.client.mListenerThread =
      some { toggle := true, point := point })
    (hclient : p.world.client.mListener.mClient = some 0)
    (ce : ConnectionError) :
    perform (void (runThread fun _ => XmppListener.receiveLoop ce)) p.world =
      .ok (.void,
        if ce = .connNoError then (p.world.called 0 .recv).threadAt .inRecv
        else p.world.threadAt .finished) := by
  have hrun := run_receiveLoop_of_client ce hclient
  by_cases hclean : ce = .connNoError
  · rw [if_pos hclean] at hrun ⊢
    exact perform_runThread_of_run _ hthread hrun
  · rw [if_neg hclean] at hrun ⊢
    exact perform_runThread_of_run _ hthread hrun

/-- The callbacks of a process in its phases come from its one client. -/
theorem Process.Phase.execute_callback (hphase : p.Phase) {cb : Callback}
    (henabled : p.enabled (.callback cb) = true) :
    Action.execute lib p.world (.callback cb) =
      (Event.callback 0 cb).execute lib := by
  have hlibrary : p.inLibrary = true := henabled
  rw [hphase.inLibrary_iff] at hlibrary
  rcases hphase.point?_cases with hnone | ⟨_, _, _, hclient, _⟩
  · simp [hnone] at hlibrary
  · simp only [Action.execute, hclient, Option.getD_some, Event.execute]

/-- Everything an action can do to a process in one of its phases. -/
theorem Process.Phase.advance (hphase : p.Phase)
    (hstep : Process.step lib p action = .ok (reply, q)) :
    Process.Advance lib p action reply q := by
  obtain ⟨henabled, hperform, hlife, _⟩ := Process.step_eq_ok hstep
  obtain ⟨next, life⟩ := q
  dsimp only at hperform hlife
  subst hlife
  cases action with
  | connect xmppUser xmppServer =>
      exact .called _ (.connect xmppUser xmppServer) reply next rfl hperform
  | sendMessage recipient message subject =>
      exact .called _ (.sendMessage recipient message subject) reply next rfl
        hperform
  | callback cb =>
      rw [hphase.execute_callback henabled] at hperform
      exact .called _ (.callback 0 cb) reply next rfl hperform
  | threadStarts =>
      have hpoint : p.point? = some .created := by
        simpa [Process.enabled] using henabled
      rcases hphase.point?_cases with hnone |
        ⟨point, hsome, hthread, hclient, hflag⟩
      · cases hnone.symm.trans hpoint
      obtain rfl := Option.some.inj (hsome.symm.trans hpoint)
      have hrun := run_openConnection_of_client true (hflag rfl) hclient
      have hexact := perform_runThread_of_run
        (fun thread => XmppListener.openConnection thread.toggle) hthread hrun
      cases hexact.symm.trans hperform
      exact .opened hpoint
  | connectReturns success =>
      have hpoint : p.point? = some .inConnect := by
        simpa [Process.enabled] using henabled
      rcases hphase.point?_cases with hnone | ⟨point, _, hthread, hclient, _⟩
      · cases hnone.symm.trans hpoint
      have hstarted : p.point? ≠ none := by simp [hpoint]
      cases success with
      | true =>
          have hexact := perform_receiveLoop_of_started hthread hclient
            .connNoError
          cases hexact.symm.trans hperform
          exact .received _ rfl hstarted
      | false =>
          have hexact := perform_runThread_of_run
            (fun _ => XmppListener.connectReturned false) hthread rfl
          cases hexact.symm.trans hperform
          exact .returned _ rfl hstarted
  | recvReturns ce =>
      have hpoint : p.point? = some .inRecv := by
        simpa [Process.enabled] using henabled
      rcases hphase.point?_cases with hnone | ⟨point, _, hthread, hclient, _⟩
      · cases hnone.symm.trans hpoint
      have hstarted : p.point? ≠ none := by simp [hpoint]
      have hexact := perform_receiveLoop_of_started hthread hclient ce
      cases hexact.symm.trans hperform
      by_cases hclean : ce = .connNoError
      · rw [if_pos hclean]
        exact .received _ (by simp [Action.receives, hclean]) hstarted
      · rw [if_neg hclean]
        exact .returned _ (by simp [Action.returns, hclean]) hstarted
  | destroy =>
      change perform (void XmppClient.beginDestroy) p.world = _ at hperform
      rw [perform_beginDestroy] at hperform
      cases hphase with
      | started point hthread =>
          simp [World.joinable?, hthread] at hperform
      | unconnected hthread hclient =>
          simp only [World.joinable?, hthread, hclient, Option.map_none,
            reduceCtorEq, ↓reduceIte, Except.ok.injEq,
            Prod.mk.injEq] at hperform
          obtain ⟨rfl, rfl⟩ := hperform
          simp only [Action.lifeAfter, hclient]
          exact .destroyed hthread
  | disconnectReturns =>
      have hlife : p.life = .disconnecting := by
        simpa [Process.enabled] using henabled
      exact absurd hlife hphase.not_disconnecting

/-- How an action can end a process: a call or callback of the client has a
fault, the thread function is left by an exception, or the destructor finds a
joinable thread. -/
inductive Process.Fails (lib : Library) (p : Process) :
    Action → Fault → Prop where
  | called (action : Action) (event : Event) (fault : Fault)
      (hevent : action.event? = some event)
      (hstep : CinderXmpp.step lib p.world event = .error fault) :
      Fails lib p action fault
  | thrown (e : ConnectionError) (exc : XmppExc)
      (hexc : disconnectExc e = some exc) :
      Fails lib p (.callback (.onDisconnect e)) (.terminate (.uncaught exc))
  | dropped (hjoinable : p.world.joinable? = some true) :
      Fails lib p .destroy (.terminate .joinableThread)

/-- The two ways in which a fault arises from running an action's code. -/
theorem Process.fault_cases {fault : Fault}
    (hstep : Process.step lib p action = .error (.fault fault)) :
    p.enabled action = true ∧
      (perform (action.execute lib p.world) p.world = .error fault ∨
        ∃ exc next, action.catchable = false ∧
          fault = .terminate (.uncaught exc) ∧
          perform (action.execute lib p.world) p.world =
            .ok (.threw exc, next)) := by
  refine ⟨Process.enabled_of_step_eq_fault hstep, ?_⟩
  rw [Process.step, if_pos (Process.enabled_of_step_eq_fault hstep)] at hstep
  cases hperform : perform (action.execute lib p.world) p.world with
  | error cause =>
      simp only [hperform, Except.error.injEq, Halt.fault.injEq] at hstep
      exact .inl (by rw [hstep])
  | ok result =>
      obtain ⟨actual, next⟩ := result
      simp only [hperform] at hstep
      split at hstep
      · next exc hcatch =>
          simp only [Except.error.injEq, Halt.fault.injEq] at hstep
          exact .inr ⟨exc, next, hcatch, hstep.symm, rfl⟩
      · cases hstep

theorem Process.Phase.fails (hphase : p.Phase) {fault : Fault}
    (hstep : Process.step lib p action = .error (.fault fault)) :
    Process.Fails lib p action fault := by
  obtain ⟨henabled, hfault⟩ := Process.fault_cases hstep
  by_cases hquiet : action.quiet = true
  · obtain ⟨next, hnext, _⟩ := perform_quiet lib p.world hquiet
    rcases hfault with herror | ⟨exc, last, _, _, hthrew⟩
    · cases hnext.symm.trans herror
    · cases hnext.symm.trans hthrew
  cases action with
  | connect xmppUser xmppServer =>
      rcases hfault with herror | ⟨_, _, hcatch, _⟩
      · exact .called _ (.connect xmppUser xmppServer) fault rfl herror
      · cases hcatch
  | sendMessage recipient message subject =>
      rcases hfault with herror | ⟨_, _, hcatch, _⟩
      · exact .called _ (.sendMessage recipient message subject) fault rfl
          herror
      · cases hcatch
  | callback cb =>
      rw [hphase.execute_callback henabled] at hfault
      rcases hfault with herror | ⟨exc, next, _, rfl, hthrew⟩
      · exact .called _ (.callback 0 cb) fault rfl herror
      · have hcall : CinderXmpp.step lib p.world (.callback 0 cb) =
            .ok (.threw exc, next) := hthrew
        obtain ⟨client, e, hcallback, hexc⟩ := step_threw hcall
        obtain rfl := (Event.callback.inj hcallback).2
        exact .thrown e exc hexc
  | destroy =>
      have hperform := perform_beginDestroy p.world
      by_cases hjoinable : p.world.joinable? = some true
      · rw [if_pos hjoinable] at hperform
        rcases hfault with herror | ⟨_, _, _, _, hthrew⟩
        · obtain rfl := Except.error.inj (hperform.symm.trans herror)
          exact .dropped hjoinable
        · cases hperform.symm.trans hthrew
      · rw [if_neg hjoinable] at hperform
        rcases hfault with herror | ⟨_, _, _, _, hthrew⟩
        · cases hperform.symm.trans herror
        · cases hperform.symm.trans hthrew
  | _ => exact absurd rfl hquiet

/-- Of the events of a process, only a `connect` that starts a thread creates a
client, and only a callback writes the connected flag. -/
theorem Action.event?_cases {event : Event}
    (hevent : action.event? = some event) :
    event.createsClient = event.startsThread ∧
      action.startsThread = event.startsThread ∧
      (event.lifecycle = none ∨ ∃ cb, action = .callback cb) := by
  cases action with
  | connect xmppUser xmppServer =>
      obtain rfl := Option.some.inj hevent
      exact ⟨rfl, rfl, .inl rfl⟩
  | sendMessage recipient message subject =>
      obtain rfl := Option.some.inj hevent
      exact ⟨rfl, rfl, .inl rfl⟩
  | callback cb =>
      obtain rfl := Option.some.inj hevent
      exact ⟨rfl, rfl, .inr ⟨cb, rfl⟩⟩
  | _ => cases hevent

/-- A call or callback before the first `connect`: there are no callbacks, and
a `connect` that passes its check starts the second phase. -/
theorem Process.Phase.called_unconnected {event : Event} {next : World}
    (hthread : p.world.client.mListenerThread = none)
    (hclient : p.world.client.mListener.mClient = none)
    (hclients : p.world.heap.clients = [])
    (hflag : p.world.client.mListener.mIsConnected = false)
    (hlife : p.life ≠ .disconnecting) (henabled : p.enabled action = true)
    (hevent : action.event? = some event)
    (hcall : CinderXmpp.step lib p.world event = .ok (reply, next)) :
    Process.Phase ⟨next, p.life⟩ := by
  obtain ⟨hcreates, hsame, hwrites⟩ := Action.event?_cases hevent
  have hlifecycle : event.lifecycle = none := by
    rcases hwrites with hnone | ⟨cb, rfl⟩
    · exact hnone
    · simp [Process.enabled, Process.inLibrary, Process.point?, hthread,
        hlife] at henabled
  have hnextThread := step_mListenerThread hcall
  have hnextClient := step_mClient hcall
  have hnextClients := step_clients_length hcall
  have hnextFlag := step_mIsConnected hcall
  rw [hlifecycle, Option.getD_none, hflag] at hnextFlag
  rw [hthread] at hnextThread
  rw [hcreates, hclient, hclients] at hnextClient
  rw [hcreates, hclients] at hnextClients
  cases hstarts : event.startsThread with
  | false =>
      rw [hstarts, if_neg Bool.false_ne_true] at hnextThread hnextClient
      rw [hstarts, if_neg Bool.false_ne_true] at hnextClients
      exact .unconnected hnextThread hnextClient
        (List.length_eq_zero_iff.mp hnextClients) hnextFlag hlife
  | true =>
      rw [hstarts, if_pos rfl] at hnextThread hnextClient hnextClients
      have halive : p.life = .alive :=
        Process.startsThread_alive henabled (hsame.trans hstarts)
      exact .started .created hnextThread hnextClient hnextClients
        (fun _ => hnextFlag) halive

/-- A call or callback after the first `connect`. -/
theorem Process.Phase.called_started {event : Event} {next : World}
    {point : ThreadPoint}
    (hthread : p.world.client.mListenerThread =
      some { toggle := true, point := point })
    (hclient : p.world.client.mListener.mClient = some 0)
    (hclients : p.world.heap.clients.length = 1)
    (hflag : point = .created →
      p.world.client.mListener.mIsConnected = false)
    (hlife : p.life = .alive) (henabled : p.enabled action = true)
    (hevent : action.event? = some event)
    (hcall : CinderXmpp.step lib p.world event = .ok (reply, next)) :
    Process.Phase ⟨next, p.life⟩ := by
  obtain ⟨hcreates, _, hwrites⟩ := Action.event?_cases hevent
  have hstarts := step_startsThread hthread rfl hcall
  have hnextThread := step_mListenerThread hcall
  have hnextClient := step_mClient hcall
  have hnextClients := step_clients_length hcall
  rw [hstarts, if_neg Bool.false_ne_true, hthread] at hnextThread
  rw [hcreates, hstarts, if_neg Bool.false_ne_true, hclient] at hnextClient
  rw [hcreates, hstarts, if_neg Bool.false_ne_true, hclients] at hnextClients
  refine .started point hnextThread hnextClient hnextClients ?_ hlife
  intro hcreated
  rcases hwrites with hnone | ⟨cb, rfl⟩
  · change next.client.mListener.mIsConnected = false
    rw [step_mIsConnected hcall, hnone]
    exact hflag hcreated
  · simp [Process.enabled, Process.inLibrary, Process.point?, hthread, hlife,
      hcreated] at henabled

/-- A step of the thread function keeps the second phase. -/
theorem Process.Phase.moved (hphase : p.Phase) (hstarted : p.point? ≠ none)
    {next : World} {point : ThreadPoint}
    (hclient : next.client.mListener = p.world.client.mListener)
    (hclients : next.heap.clients.length = p.world.heap.clients.length)
    (hpoint : point ≠ .created) :
    Process.Phase ⟨next.threadAt point, p.life⟩ := by
  cases hphase with
  | unconnected hthread => simp [Process.point?, hthread] at hstarted
  | started earlier _ hcurrent hone _ hlife =>
      refine .started point rfl ?_ (hclients.trans hone)
        (fun hcreated => absurd hcreated hpoint) hlife
      rw [← hcurrent]
      exact congrArg XmppListener.mClient hclient

/-- A process stays in its phase, or gets from the first to the second by a
`connect`. -/
theorem Process.Phase.step (hphase : p.Phase)
    (hstep : Process.step lib p action = .ok (reply, q)) : q.Phase := by
  obtain ⟨henabled, _⟩ := Process.step_eq_ok hstep
  cases hphase.advance hstep with
  | called _ event _ next hevent hcall =>
      cases hphase with
      | unconnected hthread hclient hclients hflag hlife =>
          exact Process.Phase.called_unconnected hthread hclient hclients hflag
            hlife henabled hevent hcall
      | started point hthread hclient hclients hflag hlife =>
          exact Process.Phase.called_started hthread hclient hclients hflag
            hlife henabled hevent hcall
  | opened hpoint =>
      refine hphase.moved (by simp [hpoint]) rfl ?_ (by simp)
      simp [World.called, Heap.modifyClient]
  | received _ _ hstarted =>
      refine hphase.moved hstarted rfl ?_ (by simp)
      simp [World.called, Heap.modifyClient]
  | returned _ _ hstarted => exact hphase.moved hstarted rfl rfl (by simp)
  | destroyed hthread =>
      cases hphase with
      | unconnected _ hclient hclients hflag =>
          exact .unconnected hthread hclient hclients hflag (by simp)
      | started point hsome => cases hthread.symm.trans hsome

theorem Reaches.phase {actions : List Action}
    (hreach : (processMachine lib).Reaches actions p) : p.Phase := by
  apply Machine.Reaches.invariant (I := fun _ p => Process.Phase p) ?_ ?_ hreach
  · exact .unconnected rfl rfl rfl rfl (fun hlife => by cases hlife)
  · intro _ before action reply after _ hphase hstep
    exact hphase.step hstep

end Steps

end CinderXmpp
