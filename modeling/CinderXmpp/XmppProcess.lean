/-
The process around an `XmppClient`: the application's calls, the listener
thread with gloox's callbacks on it, and the destructor.  What no caller can
catch ends the process.
-/
import CinderXmpp.StepEffect

namespace CinderXmpp

open Gloox History

/-- The life of the `XmppClient` object: in use, inside the
`Client::disconnect` of its destructor, or gone. -/
inductive Life where
  | alive
  | disconnecting
  | destroyed
deriving DecidableEq, Repr

structure Process where
  world : World := { client := XmppClient.new }
  life : Life := .alive

/-- One step of the process. -/
inductive Action where
  | connect (xmppUser xmppServer : String)
  | sendMessage (recipient message subject : String)
  | threadStarts
  | connectReturns (success : Bool)
  | recvReturns (ce : ConnectionError)
  | callback (cb : Callback)
  | destroy
  | disconnectReturns
deriving Repr

/-- Run a part of the thread function and note how far it got. -/
def runThread (code : ListenerThread → XmppM ThreadPoint) : XmppM Unit := do
  match (← get).client.mListenerThread with
  | some thread => do
      let point ← code thread
      modify fun world =>
        { world with
          client.mListenerThread := some { thread with point := point } }
  | none => pure ()

/-- `~XmppClient` up to the call that blocks.  Members are destroyed in the
reverse of their order: the thread first, then the listener. -/
def XmppClient.beginDestroy : XmppM Unit := do
  XmppClient.releaseThread (← get).client.mListenerThread
  match (← get).client.mListener.mClient with
  | some mClient => callClient mClient .disconnect
  | none => pure ()

/-- `~XmppListener` after `Client::disconnect` has returned. -/
def XmppListener.finishDestroy : XmppM Unit := do
  match (← get).client.mListener.mClient with
  | some mClient =>
      modify fun world =>
        { world with heap := world.heap.modifyClient mClient Client.delete }
  | none => pure ()

/-- The code that an action runs.  Callbacks come from the current client. -/
def Action.execute (lib : Library) (world : World) : Action → XmppM Reply
  | .connect xmppUser xmppServer =>
      (Event.connect xmppUser xmppServer).execute lib
  | .sendMessage recipient message subject =>
      (Event.sendMessage recipient message subject).execute lib
  | .threadStarts =>
      void (runThread fun thread => XmppListener.openConnection thread.toggle)
  | .connectReturns success =>
      void (runThread fun _ => XmppListener.connectReturned success)
  | .recvReturns ce => void (runThread fun _ => XmppListener.receiveLoop ce)
  | .callback cb => cb.deliver (world.client.mListener.mClient.getD 0)
  | .destroy => void XmppClient.beginDestroy
  | .disconnectReturns => void XmppListener.finishDestroy

/-- Where the thread function stands, if there is a thread. -/
def Process.point? (p : Process) : Option ThreadPoint :=
  p.world.client.mListenerThread.map ListenerThread.point

/-- A gloox call is on the stack that can deliver callbacks: `Client::connect`
or `Client::recv` on the listener thread, or `Client::disconnect` in the
destructor.  That callbacks come nowhere else is assumed of gloox: its header
says that the first two read the socket, and rules no other call out. -/
def Process.inLibrary (p : Process) : Bool :=
  p.point? = some .inConnect || p.point? = some .inRecv ||
    p.life = .disconnecting

/-- The actions that can come next.  A second `connect` starts its thread before
the assignment drops the first one; what that thread does meanwhile lies inside
the call, after which no run goes on. -/
def Process.enabled (p : Process) : Action → Bool
  | .connect _ _ => p.life = .alive
  | .sendMessage _ _ _ => p.life = .alive
  | .destroy => p.life = .alive
  | .threadStarts => p.point? = some .created
  | .connectReturns _ => p.point? = some .inConnect
  | .recvReturns _ => p.point? = some .inRecv
  | .callback _ => p.inLibrary
  | .disconnectReturns => p.life = .disconnecting

/-- Code whose exceptions reach the application; any other runs in the thread
function, with only gloox's frames in between, or in a destructor. -/
def Action.catchable : Action → Bool
  | .connect _ _ => true
  | .sendMessage _ _ _ => true
  | _ => false

/-- The object's life after an action. -/
def Action.lifeAfter (next : World) (life : Life) : Action → Life
  | .destroy =>
      if next.client.mListener.mClient.isSome then .disconnecting
      else .destroyed
  | .disconnectReturns => .destroyed
  | _ => life

theorem Action.lifeAfter_ne_alive {action : Action} {next : World} {life : Life}
    (hlife : life ≠ .alive ∨ action = .destroy) :
    action.lifeAfter next life ≠ .alive := by
  cases action with
  | destroy =>
      simp only [Action.lifeAfter]
      split <;> nofun
  | disconnectReturns => nofun
  | _ => exact hlife.resolve_right nofun

theorem Action.lifeAfter_eq_disconnecting {action : Action} {next : World}
    {life : Life} (hlife : action.lifeAfter next life = .disconnecting) :
    life = .disconnecting ∨
      next.client.mListener.mClient.isSome = true := by
  cases action with
  | destroy =>
      simp only [Action.lifeAfter] at hlife
      split at hlife
      · next hsome => exact .inr hsome
      · cases hlife
  | disconnectReturns => cases hlife
  | _ => exact .inl hlife

/-- Why a list of actions stops: its next action cannot come then, or the
process fails. -/
inductive Halt where
  | impossible
  | fault (fault : Fault)
deriving DecidableEq, Repr

def Process.step (lib : Library) (p : Process) (action : Action) :
    Except Halt (Reply × Process) :=
  if p.enabled action then
    match perform (action.execute lib p.world) p.world with
    | .ok (reply, next) =>
        match reply, action.catchable with
        | .threw exc, false => .error (.fault (.terminate (.uncaught exc)))
        | _, _ => .ok (reply, ⟨next, action.lifeAfter next p.life⟩)
    | .error fault => .error (.fault fault)
  else .error .impossible

def processMachine (lib : Library) : Machine Process Action Reply Halt where
  start := {}
  step := Process.step lib

/-! What an action does to the thread. -/

/-- A `connect` that passes its check. -/
def Action.startsThread : Action → Bool
  | .connect xmppUser xmppServer =>
      (Event.connect xmppUser xmppServer).startsThread
  | _ => false

/-- The thread, and whether it is joinable. -/
def World.joinable? (world : World) : Option Bool :=
  world.client.mListenerThread.map ListenerThread.joinable

section Code

variable (world : World)

/-- Parts of the thread function return a point and only touch gloox's
objects. -/
def Returns (code : XmppM ThreadPoint) : Prop :=
  ∀ world, ∃ point heap, code.run world = .ok point { world with heap := heap }

theorem run_openConnection (toggle : Bool) :
    (XmppListener.openConnection toggle).run world =
      match world.client.mListener.mIsConnected,
        world.client.mListener.mClient with
      | false, some current =>
          .ok .inConnect (world.called current (.connect toggle))
      | _, _ => .ok .finished world := by
  cases hconnected : world.client.mListener.mIsConnected <;>
    cases hclient : world.client.mListener.mClient <;>
    simp [XmppListener.openConnection, run_callClient, hconnected, hclient]

theorem returns_openConnection (toggle : Bool) :
    Returns (XmppListener.openConnection toggle) := by
  intro world
  rw [run_openConnection]
  split
  · exact ⟨_, _, rfl⟩
  · exact ⟨_, world.heap, rfl⟩

theorem run_receiveLoop (ce : ConnectionError) :
    (XmppListener.receiveLoop ce).run world =
      match ce, world.client.mListener.mClient with
      | .connNoError, some current =>
          .ok .inRecv (world.called current .recv)
      | _, _ => .ok .finished world := by
  cases hclient : world.client.mListener.mClient <;> cases ce <;>
    simp [XmppListener.receiveLoop, run_callClient, hclient]

theorem returns_receiveLoop (ce : ConnectionError) :
    Returns (XmppListener.receiveLoop ce) := by
  intro world
  rw [run_receiveLoop]
  split
  · exact ⟨_, _, rfl⟩
  · exact ⟨_, world.heap, rfl⟩

theorem returns_connectReturned (success : Bool) :
    Returns (XmppListener.connectReturned success) := by
  cases success with
  | true => exact returns_receiveLoop .connNoError
  | false =>
      intro world
      exact ⟨.finished, world.heap, rfl⟩

theorem perform_runThread {code : ListenerThread → XmppM ThreadPoint}
    (hcode : ∀ thread, Returns (code thread)) :
    ∃ next, perform (void (runThread code)) world = .ok (.void, next) ∧
      next.client.mListener = world.client.mListener ∧
      next.joinable? = world.joinable? := by
  cases hthread : world.client.mListenerThread with
  | none =>
      refine ⟨world, ?_, rfl, rfl⟩
      simp [perform_void, runThread, hthread]
  | some thread =>
      obtain ⟨point, heap, hpoint⟩ := hcode thread world
      refine ⟨{ world with
        heap := heap,
        client.mListenerThread := some { thread with point := point } },
        ?_, rfl, ?_⟩
      · simp [perform_void, runThread, hthread, hpoint]
      · simp [World.joinable?, hthread]

/-- The thread's destructor comes before anything else in `~XmppClient`. -/
theorem perform_beginDestroy :
    perform (void XmppClient.beginDestroy) world =
      if world.joinable? = some true then .error (.terminate .joinableThread)
      else .ok (.void,
        match world.client.mListener.mClient with
        | some mClient => world.called mClient .disconnect
        | none => world) := by
  unfold World.joinable?
  cases hthread : world.client.mListenerThread with
  | none =>
      cases hclient : world.client.mListener.mClient <;>
        simp [perform_void, XmppClient.beginDestroy, run_releaseThread,
          run_callClient, hthread, hclient]
  | some thread =>
      cases hjoinable : thread.joinable <;>
        cases hclient : world.client.mListener.mClient <;>
        simp [perform_void, XmppClient.beginDestroy, run_releaseThread,
          run_callClient, hthread, hclient, hjoinable]

theorem perform_finishDestroy :
    ∃ next, perform (void XmppListener.finishDestroy) world =
        .ok (.void, next) ∧ next.client = world.client := by
  cases hclient : world.client.mListener.mClient with
  | none =>
      refine ⟨world, ?_, rfl⟩
      simp [perform_void, XmppListener.finishDestroy, hclient]
  | some mClient =>
      refine ⟨{ world with
        heap := world.heap.modifyClient mClient Client.delete }, ?_, rfl⟩
      simp [perform_void, XmppListener.finishDestroy, hclient]

end Code

section Steps

variable {lib : Library} {p q : Process} {action : Action} {reply : Reply}

theorem Process.step_eq_ok
    (hstep : Process.step lib p action = .ok (reply, q)) :
    p.enabled action = true ∧
      perform (action.execute lib p.world) p.world = .ok (reply, q.world) ∧
      q.life = action.lifeAfter q.world p.life ∧
      (action.catchable = false → ∀ exc, reply ≠ .threw exc) := by
  unfold Process.step at hstep
  split at hstep
  · next henabled =>
      cases hperform : perform (action.execute lib p.world) p.world with
      | error fault => simp [hperform] at hstep
      | ok result =>
          obtain ⟨actual, next⟩ := result
          simp only [hperform] at hstep
          split at hstep
          · cases hstep
          · next hnot =>
              simp only [Except.ok.injEq, Prod.mk.injEq] at hstep
              obtain ⟨rfl, rfl⟩ := hstep
              exact ⟨henabled, rfl, rfl, fun hcatch exc heq =>
                hnot exc heq hcatch⟩
  · cases hstep

theorem Process.step_eq_fault {fault : Fault}
    (hstep : Process.step lib p action = .error (.fault fault)) :
    perform (action.execute lib p.world) p.world = .error fault ∨
      action.catchable = false ∧ ∃ exc next,
        perform (action.execute lib p.world) p.world =
          .ok (.threw exc, next) := by
  unfold Process.step at hstep
  split at hstep
  · cases hperform : perform (action.execute lib p.world) p.world with
    | error cause =>
        simp only [hperform, Except.error.injEq, Halt.fault.injEq] at hstep
        exact .inl (by rw [hstep])
    | ok result =>
        obtain ⟨actual, next⟩ := result
        simp only [hperform] at hstep
        split at hstep
        · next exc hcatch => exact .inr ⟨hcatch, exc, next, rfl⟩
        · cases hstep
  · cases hstep

theorem Process.enabled_of_step_eq_fault {fault : Fault}
    (hstep : Process.step lib p action = .error (.fault fault)) :
    p.enabled action = true := by
  by_contra hdisabled
  rw [Process.step, if_neg hdisabled] at hstep
  cases hstep

/-- An action ends the process: it drops a joinable thread, or its exception
leaves the thread function or a destructor. -/
def Fatal (p : Process) (action : Action) : Prop :=
  ((action.startsThread = true ∨ action = .destroy) ∧
    p.world.joinable? = some true) ∨
  ∃ e, action = .callback (.onDisconnect e) ∧ e ≠ .connNoError

/-- Actions that neither start nor drop the thread, nor run a callback. -/
def Action.quiet : Action → Bool
  | .threadStarts | .connectReturns _ | .recvReturns _
  | .disconnectReturns => true
  | _ => false

theorem perform_quiet (lib : Library) (world : World)
    (hquiet : action.quiet = true) :
    ∃ next, perform (action.execute lib world) world = .ok (.void, next) ∧
      next.client.mListener = world.client.mListener ∧
      next.joinable? = world.joinable? := by
  cases action with
  | threadStarts =>
      exact perform_runThread world fun _ => returns_openConnection _
  | connectReturns success =>
      exact perform_runThread world fun _ => returns_connectReturned _
  | recvReturns ce =>
      exact perform_runThread world fun _ => returns_receiveLoop _
  | disconnectReturns =>
      obtain ⟨next, hnext, hclient⟩ := perform_finishDestroy world
      refine ⟨next, hnext, by rw [hclient], ?_⟩
      unfold World.joinable?
      rw [hclient]
  | _ => cases hquiet

/-- What an action that goes through does to the pointers of the client: a
`connect` that passes its check sets them, and no other action moves them. -/
structure Continues (p q : Process) (action : Action) : Prop where
  delegated : q.world.delegated = p.world.delegated
  joinable : q.world.joinable? =
    if action.startsThread then some true else p.world.joinable?
  mClient : q.world.client.mListener.mClient.isSome =
    (action.startsThread || p.world.client.mListener.mClient.isSome)

theorem continues_of_kept
    (hlistener : q.world.client.mListener = p.world.client.mListener)
    (hjoinable : q.world.joinable? = p.world.joinable?)
    (hstarts : action.startsThread = false) : Continues p q action := by
  refine ⟨congrArg XmppListener.mDelegate hlistener, ?_, ?_⟩
  · simp [hjoinable, hstarts]
  · simp [hlistener, hstarts]

theorem continues_of_event (lib : Library) (event : Event)
    (hstep : step lib p.world event = .ok (reply, q.world))
    (hstarts : event.startsThread = action.startsThread)
    (hcreates : event.createsClient = action.startsThread) :
    Continues p q action := by
  refine ⟨step_delegated hstep, ?_, ?_⟩
  · unfold World.joinable?
    rw [step_mListenerThread hstep, hstarts]
    split <;> rfl
  · rw [step_mClient hstep, hcreates]
    cases action.startsThread <;> rfl

theorem Process.step_continues
    (hstep : Process.step lib p action = .ok (reply, q)) :
    Continues p q action := by
  obtain ⟨_, hperform, _⟩ := Process.step_eq_ok hstep
  by_cases hquiet : action.quiet = true
  · obtain ⟨next, hnext, hlistener, hjoinable⟩ :=
      perform_quiet lib p.world hquiet
    rw [hnext] at hperform
    simp only [Except.ok.injEq, Prod.mk.injEq] at hperform
    obtain ⟨_, rfl⟩ := hperform
    refine continues_of_kept hlistener hjoinable ?_
    cases action <;> first | rfl | cases hquiet
  cases action with
  | connect xmppUser xmppServer =>
      exact continues_of_event lib (.connect xmppUser xmppServer) hperform
        rfl rfl
  | sendMessage recipient message subject =>
      exact continues_of_event lib (.sendMessage recipient message subject)
        hperform rfl rfl
  | callback cb =>
      exact continues_of_event lib (.callback _ cb) hperform rfl rfl
  | destroy =>
      change perform (void XmppClient.beginDestroy) p.world = _ at hperform
      rw [perform_beginDestroy] at hperform
      split at hperform
      · cases hperform
      · simp only [Except.ok.injEq, Prod.mk.injEq] at hperform
        have hclient : q.world.client = p.world.client := by
          rw [← hperform.2]
          split <;> rfl
        refine continues_of_kept (by rw [hclient]) ?_ rfl
        unfold World.joinable?
        rw [hclient]
  | _ => exact absurd rfl hquiet

/-- No fatal action goes through. -/
theorem Process.not_fatal_of_step (hdelegate : p.world.delegated = true)
    (hstep : Process.step lib p action = .ok (reply, q)) :
    ¬ Fatal p action := by
  obtain ⟨_, hperform, _, hreply⟩ := Process.step_eq_ok hstep
  rintro (⟨hstarts | rfl, hjoinable⟩ | ⟨e, rfl, herror⟩)
  · cases action with
    | connect xmppUser xmppServer =>
        change CinderXmpp.step lib p.world (.connect xmppUser xmppServer) = _
          at hperform
        have hempty : (xmppUser.isEmpty || xmppServer.isEmpty) = false := by
          simpa [Action.startsThread, Event.startsThread] using hstarts
        obtain ⟨old, hold, htrue⟩ := Option.map_eq_some_iff.mp hjoinable
        simp [step_connect, hempty, hold, htrue] at hperform
    | _ => cases hstarts
  · change perform (void XmppClient.beginDestroy) p.world = _ at hperform
    rw [perform_beginDestroy, if_pos hjoinable] at hperform
    cases hperform
  · change CinderXmpp.step lib p.world (.callback _ (.onDisconnect e)) = _
      at hperform
    rw [step_onDisconnect] at hperform
    cases hexc : disconnectExc e with
    | none => exact herror ((disconnectExc_eq_none_iff e).mp hexc)
    | some exc =>
        simp only [hdelegate, ↓reduceIte, hexc, Except.ok.injEq,
          Prod.mk.injEq] at hperform
        exact hreply rfl exc hperform.1.symm

/-- Only a fatal action terminates the process. -/
theorem Process.fatal_of_step_terminate {cause : Terminate}
    (hstep : Process.step lib p action =
      .error (.fault (.terminate cause))) : Fatal p action := by
  have hfault := Process.step_eq_fault hstep
  by_cases hquiet : action.quiet = true
  · obtain ⟨next, hnext, _⟩ := perform_quiet lib p.world hquiet
    rcases hfault with herror | ⟨_, exc, last, hthrew⟩
    · rw [hnext] at herror
      cases herror
    · rw [hnext] at hthrew
      cases hthrew
  cases action with
  | connect xmppUser xmppServer =>
      rcases hfault with herror | ⟨hcatch, _⟩
      · have hevent : CinderXmpp.step lib p.world
            (.connect xmppUser xmppServer) = .error (.terminate cause) := herror
        cases faultOf_step hevent with
        | joinableThread _ _ old hempty hthread hjoinable =>
            refine .inl ⟨.inl ?_, ?_⟩
            · simp [Action.startsThread, Event.startsThread, hempty]
            · simp [World.joinable?, hthread, hjoinable]
      · cases hcatch
  | sendMessage recipient message subject =>
      rcases hfault with herror | ⟨hcatch, _⟩
      · have hevent : CinderXmpp.step lib p.world
            (.sendMessage recipient message subject) =
              .error (.terminate cause) := herror
        cases faultOf_step hevent
      · cases hcatch
  | callback cb =>
      rcases hfault with herror | ⟨_, exc, next, hthrew⟩
      · have hevent : CinderXmpp.step lib p.world
            (.callback (p.world.client.mListener.mClient.getD 0) cb) =
              .error (.terminate cause) := herror
        cases faultOf_step hevent
      · have hevent : CinderXmpp.step lib p.world
            (.callback (p.world.client.mListener.mClient.getD 0) cb) =
              .ok (.threw exc, next) := hthrew
        obtain ⟨client, e, hcallback, hexc⟩ := step_threw hevent
        refine .inr ⟨e, ?_, ?_⟩
        · rw [(Event.callback.inj hcallback).2]
        · rintro rfl
          cases hexc
  | destroy =>
      have hperform := perform_beginDestroy p.world
      by_cases hjoinable : p.world.joinable? = some true
      · exact .inl ⟨.inr rfl, hjoinable⟩
      · rw [if_neg hjoinable] at hperform
        rcases hfault with herror | ⟨_, exc, last, hthrew⟩
        · cases hperform.symm.trans herror
        · cases hperform.symm.trans hthrew
  | _ => exact absurd rfl hquiet

end Steps

end CinderXmpp
