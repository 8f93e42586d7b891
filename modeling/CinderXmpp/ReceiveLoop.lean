/-
The whole of `openConnection`, on any number of threads.  Each of its blocking
calls may call back before it returns, and what a callback throws unwinds the
function that it was called back in.  Up to the calls of the receive loop, this
is the listener of the calls and callbacks alone.
-/
import CinderXmpp.Lib.Projection
import CinderXmpp.XmppProcess

namespace CinderXmpp

open Gloox History Machine

/-- A listener, and where each thread stands in `openConnection`. -/
structure Threaded where
  world : World
  point : Nat → ThreadPoint := fun _ => .created

/-- One step: a call, or a callback that no `openConnection` waits for; a thread
enters `openConnection`; and there one of its blocking calls returns, or calls
back for one of the clients. -/
inductive Turn where
  | outside (event : Event)
  | enters (thread : Nat) (toggle : Bool)
  | connectReturns (thread : Nat) (success : Bool)
  | recvReturns (thread : Nat) (ce : ConnectionError)
  | callsBack (thread client : Nat) (cb : Callback)
deriving Repr

/-- Inside one of the blocking calls. -/
def ThreadPoint.blocked : ThreadPoint → Bool
  | .inConnect | .inRecv => true
  | .created | .finished => false

/-- The steps that can come next. -/
def Threaded.enabled (s : Threaded) : Turn → Bool
  -- a thread that calls `openConnection` enters it
  | .outside (.openConnection _) => false
  | .outside _ => true
  | .enters thread _ => !(s.point thread).blocked
  | .connectReturns thread _ => s.point thread = .inConnect
  | .recvReturns thread _ => s.point thread = .inRecv
  | .callsBack thread _ _ => (s.point thread).blocked

/-- A thread has got to a point. -/
def Threaded.arrived (s : Threaded) (thread : Nat) (point : ThreadPoint)
    (next : World) : Threaded :=
  ⟨next, Function.update s.point thread point⟩

/-- Run a part of `openConnection`, up to its next blocking call or its end. -/
def Threaded.runs (s : Threaded) (thread : Nat) (code : XmppM ThreadPoint) :
    Except Halt (Reply × Threaded) :=
  match code.run s.world with
  | .ok point next => .ok (.void, s.arrived thread point next)
  | .error (.exception exc) next =>
      .ok (.threw exc, s.arrived thread .finished next)
  | .error (.fault fault) _ => .error (.fault fault)

/-- Where the threads stand after a call or callback.  `openConnection` has no
handler, and gloox is taken to have none: an exception that a callback throws
leaves the `openConnection` that waits for it, for its caller to handle.  In a
process the caller is the thread function, and the exception ends it all. -/
def Threaded.after (s : Threaded) (next : World) :
    Option Nat → Reply → Threaded
  | some thread, .threw _ => s.arrived thread .finished next
  | _, _ => ⟨next, s.point⟩

/-- Run a call or callback. -/
def Threaded.calls (lib : Library) (s : Threaded) (waiting : Option Nat)
    (event : Event) : Except Halt (Reply × Threaded) :=
  match CinderXmpp.step lib s.world event with
  | .ok (reply, next) => .ok (reply, s.after next waiting reply)
  | .error fault => .error (.fault fault)

/-- The code that a step runs. -/
def Threaded.execute (lib : Library) (s : Threaded) :
    Turn → Except Halt (Reply × Threaded)
  | .outside event => s.calls lib none event
  | .enters thread toggle => s.runs thread (XmppListener.openConnection toggle)
  | .connectReturns thread success =>
      s.runs thread (XmppListener.connectReturned success)
  | .recvReturns thread ce => s.runs thread (XmppListener.receiveLoop ce)
  | .callsBack thread client cb =>
      s.calls lib (some thread) (.callback client cb)

def Threaded.step (lib : Library) (s : Threaded) (turn : Turn) :
    Except Halt (Reply × Threaded) :=
  if s.enabled turn then s.execute lib turn else .error .impossible

/-- A listener with or without a delegate, whose `openConnection` goes on
through its receive loop. -/
def loopMachine (lib : Library) (delegate : Bool) :
    Machine Threaded Turn Reply Halt where
  start := { world := World.start delegate }
  step := Threaded.step lib

/-! What a step does to the world. -/

/-- The call or callback of the listener that a step makes. -/
def Turn.event? : Turn → Option Event
  | .outside event => some event
  | .enters _ toggle => some (.openConnection toggle)
  | .callsBack _ client cb => some (.callback client cb)
  | .connectReturns _ _ | .recvReturns _ _ => none

/-- A blocking call has returned, and `Client::recv` follows. -/
def Turn.receives : Turn → Bool
  | .connectReturns _ success => success
  | .recvReturns _ ce => ce = .connNoError
  | _ => false

/-- The calls and callbacks of a list of steps. -/
def eventsIn (turns : List Turn) : List Event :=
  turns.flatMap fun turn => turn.event?.toList

@[simp] theorem eventsIn_append_singleton (turns : List Turn) (turn : Turn) :
    eventsIn (turns ++ [turn]) = eventsIn turns ++ turn.event?.toList := by
  simp [eventsIn]

/-- The world after a call of `Client::recv`, if there is a client. -/
def World.receiving (world : World) : World :=
  match world.client.mListener.mClient with
  | some current => world.called current .recv
  | none => world

/-- `Moves lib s turn t reply`: what the step may do to the world, whatever it
does to the threads. -/
inductive Threaded.Moves (lib : Library) (s : Threaded) (turn : Turn)
    (t : Threaded) : Reply → Prop where
  | called (event : Event) (reply : Reply) (hevent : turn.event? = some event)
      (hstep : CinderXmpp.step lib s.world event = .ok (reply, t.world)) :
      Moves lib s turn t reply
  | received (hevent : turn.event? = none) (hreceives : turn.receives = true)
      (hworld : t.world = s.world.receiving) : Moves lib s turn t .void
  | returned (hevent : turn.event? = none) (hreceives : turn.receives = false)
      (hworld : t.world = s.world) : Moves lib s turn t .void

section Moves

variable {lib : Library} {s t : Threaded} {turn : Turn} {reply : Reply}

theorem Threaded.step_eq_ok_iff :
    Threaded.step lib s turn = .ok (reply, t) ↔
      s.enabled turn = true ∧ s.execute lib turn = .ok (reply, t) := by
  unfold Threaded.step
  cases s.enabled turn <;> simp

theorem Threaded.runFrom_turn {delegate : Bool}
    (henabled : s.enabled turn = true)
    (hexecute : s.execute lib turn = .ok (reply, t)) :
    (loopMachine lib delegate).runFrom s [turn] = .ok t :=
  runFrom_cons (m := loopMachine lib delegate)
    (Threaded.step_eq_ok_iff.mpr ⟨henabled, hexecute⟩) []

@[simp] theorem Threaded.after_world (s : Threaded) (next : World)
    (waiting : Option Nat) (reply : Reply) :
    (s.after next waiting reply).world = next := by
  cases waiting <;> cases reply <;> rfl

/-- A part of `openConnection` that returns moves its thread. -/
theorem Threaded.runs_of_run {thread : Nat} {code : XmppM ThreadPoint}
    {point : ThreadPoint} {next : World}
    (hrun : code.run s.world = .ok point next) :
    s.runs thread code = .ok (.void, s.arrived thread point next) := by
  unfold Threaded.runs
  rw [hrun]

theorem Threaded.calls_eq_ok_iff {waiting : Option Nat} {event : Event} :
    s.calls lib waiting event = .ok (reply, t) ↔
      ∃ next, CinderXmpp.step lib s.world event = .ok (reply, next) ∧
        s.after next waiting reply = t := by
  unfold Threaded.calls
  cases CinderXmpp.step lib s.world event with
  | error fault => simp
  | ok result =>
      obtain ⟨actual, next⟩ := result
      simp only [Except.ok.injEq, Prod.mk.injEq]
      constructor
      · rintro ⟨rfl, rfl⟩
        exact ⟨next, ⟨rfl, rfl⟩, rfl⟩
      · rintro ⟨_, ⟨rfl, rfl⟩, rfl⟩
        exact ⟨rfl, rfl⟩

/-- From related worlds, a part of `openConnection` gets to the same point and
leaves related worlds. -/
def Relates (R : World → World → Prop) (code : XmppM ThreadPoint) : Prop :=
  ∀ world world', R world world' → ∃ point next next',
    code.run world = .ok point next ∧ code.run world' = .ok point next' ∧
      R next next'

/-- Related worlds have the same current client, and stay related by a call on
it. -/
structure KeptByCalls (R : World → World → Prop) : Prop where
  mClient : ∀ {world world'}, R world world' →
    world'.client.mListener.mClient = world.client.mListener.mClient
  called : ∀ {world world'} current entry, R world world' →
    R (world.called current entry) (world'.called current entry)

section Relates

variable {R : World → World → Prop}

theorem relates_openConnection (hkept : KeptByCalls R)
    (hflag : ∀ {world world'}, R world world' →
      world'.client.mListener.mIsConnected =
        world.client.mListener.mIsConnected) (toggle : Bool) :
    Relates R (XmppListener.openConnection toggle) := by
  intro world world' hsame
  rw [run_openConnection, run_openConnection, hflag hsame, hkept.mClient hsame]
  cases world.client.mListener.mIsConnected <;>
    cases world.client.mListener.mClient <;> first
      | exact ⟨_, _, _, rfl, rfl, hsame⟩
      | exact ⟨_, _, _, rfl, rfl, hkept.called _ _ hsame⟩

theorem relates_receiveLoop (hkept : KeptByCalls R) (ce : ConnectionError) :
    Relates R (XmppListener.receiveLoop ce) := by
  intro world world' hsame
  rw [run_receiveLoop, run_receiveLoop, hkept.mClient hsame]
  cases ce <;> cases world.client.mListener.mClient <;> first
    | exact ⟨_, _, _, rfl, rfl, hsame⟩
    | exact ⟨_, _, _, rfl, rfl, hkept.called _ _ hsame⟩

theorem relates_connectReturned (hkept : KeptByCalls R) (success : Bool) :
    Relates R (XmppListener.connectReturned success) := by
  cases success with
  | true => exact relates_receiveLoop hkept .connNoError
  | false =>
      intro world world' hsame
      exact ⟨_, _, _, rfl, rfl, hsame⟩

end Relates

theorem run_receiveLoop_eq (ce : ConnectionError) (world : World) :
    ∃ point, (XmppListener.receiveLoop ce).run world =
      .ok point (if ce = .connNoError then world.receiving else world) := by
  rw [run_receiveLoop]
  unfold World.receiving
  cases world.client.mListener.mClient <;> cases ce <;> exact ⟨_, rfl⟩

/-- Entering `openConnection` is the call of the listener. -/
theorem run_openConnection_eq (lib : Library) (toggle : Bool) (world : World) :
    ∃ point next, (XmppListener.openConnection toggle).run world =
        .ok point next ∧
      CinderXmpp.step lib world (.openConnection toggle) =
        .ok (.void, next) := by
  obtain ⟨point, heap, hrun⟩ := returns_openConnection toggle world
  refine ⟨point, _, hrun, ?_⟩
  simp [CinderXmpp.step, Event.execute, perform_void, hrun]

/-- Every step moves as listed. -/
theorem Threaded.moves_of_step
    (hstep : Threaded.step lib s turn = .ok (reply, t)) :
    Threaded.Moves lib s turn t reply := by
  obtain ⟨_, hexecute⟩ := Threaded.step_eq_ok_iff.mp hstep
  cases turn with
  | outside event =>
      obtain ⟨next, hcall, rfl⟩ := Threaded.calls_eq_ok_iff.mp hexecute
      exact .called event reply rfl (by simpa using hcall)
  | callsBack thread client cb =>
      obtain ⟨next, hcall, rfl⟩ := Threaded.calls_eq_ok_iff.mp hexecute
      exact .called _ reply rfl (by simpa using hcall)
  | enters thread toggle =>
      obtain ⟨point, next, hrun, hcall⟩ :=
        run_openConnection_eq lib toggle s.world
      cases (Threaded.runs_of_run hrun).symm.trans hexecute
      exact .called _ .void rfl hcall
  | connectReturns thread success =>
      cases success with
      | true =>
          obtain ⟨point, hrun⟩ := run_receiveLoop_eq .connNoError s.world
          cases (Threaded.runs_of_run hrun).symm.trans hexecute
          exact .received rfl rfl rfl
      | false =>
          cases hexecute
          exact .returned rfl rfl rfl
  | recvReturns thread ce =>
      obtain ⟨point, hrun⟩ := run_receiveLoop_eq ce s.world
      cases (Threaded.runs_of_run hrun).symm.trans hexecute
      by_cases hclean : ce = .connNoError
      · exact .received rfl (decide_eq_true hclean) (if_pos hclean)
      · exact .returned rfl (decide_eq_false hclean) (if_neg hclean)

end Moves

/-! Up to the calls of the receive loop. -/

/-- The client without the calls of the receive loop. -/
def Client.withoutRecv (client : Client) : Client :=
  { client with calls := client.calls.filter fun entry => entry ≠ .recv }

def Heap.withoutRecv (heap : Heap) : Heap :=
  { heap with clients := heap.clients.map Client.withoutRecv }

/-- The world as the client's calls and callbacks leave it, before its thread
has moved. -/
def World.unthreaded (world : World) : World :=
  { world with
    heap := Heap.withoutRecv world.heap
    client.mListenerThread := world.client.mListenerThread.map
      fun thread => { thread with point := .created } }

section Heaps

/-- Editing a client and leaving out its receive calls can be exchanged. -/
theorem Heap.withoutRecv_modifyClient (edit : Client → Client)
    (hcomm : ∀ client : Client, Client.withoutRecv (edit client) =
      edit (Client.withoutRecv client)) (heap : Heap) (number : Nat) :
    Heap.withoutRecv (heap.modifyClient number edit) =
      (Heap.withoutRecv heap).modifyClient number edit := by
  simp only [Heap.withoutRecv, Heap.modifyClient,
    map_modify_of_comm edit hcomm]

theorem Client.withoutRecv_call {entry : ClientCall} (hentry : entry ≠ .recv)
    (client : Client) :
    Client.withoutRecv (client.call entry) =
      (Client.withoutRecv client).call entry := by
  simp [Client.withoutRecv, Client.call, hentry]

theorem Client.withoutRecv_recv (client : Client) :
    Client.withoutRecv (client.call .recv) = Client.withoutRecv client := by
  simp [Client.withoutRecv, Client.call]

theorem Client.withoutRecv_disposeMessageSession (session : Option Nat)
    (client : Client) :
    Client.withoutRecv (client.disposeMessageSession session) =
      (Client.withoutRecv client).disposeMessageSession session := by
  simp [Client.withoutRecv, Client.disposeMessageSession, Client.call]

theorem Heap.withoutRecv_modifySession (owner session : Nat)
    (edit : MessageSession → MessageSession) (heap : Heap) :
    Heap.withoutRecv
        (heap.modifyClient owner (Client.modifySession session edit)) =
      (Heap.withoutRecv heap).modifyClient owner
        (Client.modifySession session edit) :=
  Heap.withoutRecv_modifyClient (Client.modifySession session edit)
    (fun _ => rfl) heap owner

theorem Heap.withoutRecv_filteredHeap (owner session : Nat) (kind : FilterKind)
    (heap : Heap) :
    Heap.withoutRecv (filteredHeap owner session kind heap) =
      filteredHeap owner session kind (Heap.withoutRecv heap) :=
  Heap.withoutRecv_modifySession owner session _ heap.bump

theorem Heap.withoutRecv_adoptedHeap (mClient : Nat) (mSession : Option Nat)
    (owner : Nat) (target : JID) (heap : Heap) :
    Heap.withoutRecv (adoptedHeap mClient mSession owner target heap) =
      adoptedHeap mClient mSession owner target (Heap.withoutRecv heap) := by
  have hopened := Heap.withoutRecv_modifyClient
    (Client.openSession heap.nextAddress target) (fun _ => rfl) heap.bump owner
  unfold adoptedHeap
  rw [Heap.withoutRecv_filteredHeap, Heap.withoutRecv_filteredHeap,
    Heap.withoutRecv_modifySession,
    Heap.withoutRecv_modifyClient (Client.disposeMessageSession mSession)
      (Client.withoutRecv_disposeMessageSession mSession), hopened]
  rfl

end Heaps

section Steps

variable {lib : Library} {world next : World} {event : Event} {reply : Reply}

theorem World.unthreaded_called (world : World) (number : Nat)
    {entry : ClientCall} (hentry : entry ≠ .recv) :
    (world.called number entry).unthreaded =
      world.unthreaded.called number entry := by
  unfold World.called World.unthreaded
  rw [Heap.withoutRecv_modifyClient (Client.call entry)
    (Client.withoutRecv_call hentry)]

theorem World.unthreaded_installed (world : World) (client : Client) :
    (world.installed client).unthreaded =
      world.unthreaded.installed (Client.withoutRecv client) := by
  simp [World.unthreaded, World.installed, Heap.withoutRecv]

theorem Client.withoutRecv_configuredClient (lib : Library)
    (mServer username server : String) (enableLogging : Bool) :
    Client.withoutRecv (configuredClient lib mServer username server
      enableLogging) =
      configuredClient lib mServer username server enableLogging := by
  cases enableLogging <;> simp [Client.withoutRecv, configuredClient]

theorem World.unthreaded_connecting (world : World) (lib : Library)
    (xmppUser xmppServer : String) :
    (world.connecting lib xmppUser xmppServer).unthreaded =
      world.unthreaded.connecting lib xmppUser xmppServer := by
  simp [World.connecting, World.unthreaded, World.installed, Heap.withoutRecv,
    Client.withoutRecv_configuredClient]

/-- A step of the client does not depend on the receive calls and the point of
the thread, and leaves them alone. -/
theorem step_unthreaded (hstep : step lib world event = .ok (reply, next)) :
    step lib world.unthreaded event = .ok (reply, next.unthreaded) := by
  cases effect_of_step hstep with
  | inert client cb reply hinert =>
      obtain ⟨uniform, _, huniform⟩ := step_inert lib client hinert
      rw [huniform] at hstep ⊢
      cases hstep
      rfl
  | undelegated client cb hdelegate hroster =>
      have hsame : world.unthreaded.delegated = false := hdelegate
      rcases hroster with ⟨roster, rfl⟩ | ⟨item, resource, presence, msg, rfl⟩
      · simp [step_handleRoster, hsame]
      · simp [step_handleRosterPresence, hsame]
  | connected client =>
      rw [step_onConnect]
      rfl
  | secured client =>
      rw [step_onTLSConnect]
      rfl
  | disconnected client e hreturns =>
      have hsame : world.unthreaded.delegated = world.delegated := rfl
      rw [step_onDisconnect, hsame]
      cases hdelegate : world.delegated with
      | false => simp [World.emitted, World.unthreaded]
      | true => simp [hreturns hdelegate, disconnectExc, World.emitted,
          World.unthreaded]
  | disconnectThrew client e exc hdelegate hexc =>
      have hsame : world.unthreaded.delegated = true := hdelegate
      rw [step_onDisconnect, if_pos hsame, hexc]
      rfl
  | messaged client msg sess =>
      rw [step_handleMessage]
      rfl
  | rosterLoaded client roster hdelegate =>
      have hsame : world.unthreaded.delegated = true := hdelegate
      rw [step_handleRoster, if_pos hsame]
      rfl
  | presenceSeen client item resource presence msg peer hdelegate hlookup =>
      have hsame : world.unthreaded.delegated = true := hdelegate
      have hfound : world.unthreaded.client.mRoster.lookup
          item.jidJID.username = some peer := hlookup
      rw [step_handleRosterPresence, if_pos hsame, hfound]
      rfl
  | sessionAdopted client mClient target hclient =>
      have hsame : world.unthreaded.client.mListener.mClient = some mClient :=
        hclient
      rw [step_handleMessageSession, hsame]
      simp only [World.unthreaded, World.adopting,
        Heap.withoutRecv_adoptedHeap]
      rfl
  | setUp username server enableLogging =>
      rw [step_setup, World.unthreaded_installed,
        Client.withoutRecv_configuredClient]
      rfl
  | connectionOpened toggle current hconnected hclient =>
      have hdown : world.unthreaded.client.mListener.mIsConnected = false :=
        hconnected
      have hsame : world.unthreaded.client.mListener.mClient = some current :=
        hclient
      have hentry : ClientCall.connect toggle ≠ .recv := by simp
      rw [step_openConnection_opens lib hdown hsame,
        World.unthreaded_called world current hentry]
  | connectionSkipped toggle hskip =>
      have hsame : world.unthreaded.client.mListener.mIsConnected = true ∨
        world.unthreaded.client.mListener.mClient = none := hskip
      exact step_openConnection_skips lib hsame toggle
  | stanzaSent event message current hstanza haccepts =>
      have hsame : event.stanza lib world.unthreaded = some message := by
        cases event <;> exact hstanza
      have hgate : world.unthreaded.accepts message.body = some current :=
        haccepts
      have hentry : ClientCall.send message ≠ .recv := by simp
      rw [step_stanza lib _ hsame, hgate,
        World.unthreaded_called world current hentry]
  | stanzaRefused event message hstanza haccepts =>
      have hsame : event.stanza lib world.unthreaded = some message := by
        cases event <;> exact hstanza
      have hgate : world.unthreaded.accepts message.body = none := haccepts
      rw [step_stanza lib _ hsame, hgate]
  | connectRefused xmppUser xmppServer hempty =>
      rw [step_connect, if_pos hempty]
  | connectStarted xmppUser xmppServer hempty hthread =>
      rw [step_connect, if_neg (by simp [hempty]),
        World.unthreaded_connecting]
      cases hold : world.client.mListenerThread with
      | none => simp [World.unthreaded, hold]
      | some old => simp [World.unthreaded, hold, hthread old hold]

end Steps

/-- A receive call is not seen. -/
theorem World.unthreaded_recv (world : World) (number : Nat) :
    (world.called number .recv).unthreaded = world.unthreaded := by
  have hsame : Heap.withoutRecv (world.called number .recv).heap =
      Heap.withoutRecv world.heap := by
    unfold Heap.withoutRecv World.called Heap.modifyClient
    rw [map_modify_of_comm id Client.withoutRecv_recv]
    simp
  unfold World.unthreaded
  rw [hsame]
  rfl

theorem World.unthreaded_receiving (world : World) :
    world.receiving.unthreaded = world.unthreaded := by
  unfold World.receiving
  cases world.client.mListener.mClient with
  | none => rfl
  | some current => exact World.unthreaded_recv world current

/-- A listener with its receive loops, seen as the listener without them. -/
def loopProjection (lib : Library) (delegate : Bool) :
    Projection (loopMachine lib delegate) (listenerMachine lib delegate) where
  view s := s.world.unthreaded
  select turn := turn.event?.toList
  start := rfl
  step _ s turn reply t _ hstep := by
    cases Threaded.moves_of_step hstep with
    | called event _ hevent hcall =>
        have hseen := step_unthreaded hcall
        rw [hevent, Option.toList_some]
        simp only [Machine.runFrom, listenerMachine, hseen]
    | received hevent _ hworld =>
        rw [hevent, Option.toList_none, hworld, World.unthreaded_receiving]
        rfl
    | returned hevent _ hworld =>
        rw [hevent, Option.toList_none, hworld]
        rfl

/-- A run is one of the listener on its calls and callbacks. -/
theorem Reaches.loop_seen {lib : Library} {delegate : Bool} {turns : List Turn}
    {s : Threaded} (hreach : (loopMachine lib delegate).Reaches turns s) :
    (listenerMachine lib delegate).Reaches (eventsIn turns)
      s.world.unthreaded :=
  (loopProjection lib delegate).reaches hreach

end CinderXmpp
