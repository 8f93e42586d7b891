/-
The listener thread of a process: which blocking calls it makes, where it
stands, and what the destructors never get to do.
-/
import CinderXmpp.CurrentClient
import CinderXmpp.ProcessRefinement

namespace CinderXmpp

open Gloox History Machine

/-- The calls that block, and in which gloox delivers callbacks. -/
def ClientCall.blocks : ClientCall → Bool
  | .connect _ => true
  | .recv => true
  | .disconnect => true
  | _ => false

/-- The blocking calls made on a client, oldest first. -/
def Client.blockingCalls (client : Client) : List ClientCall :=
  client.calls.filter ClientCall.blocks

/-- The blocking calls made on all clients. -/
def World.blockingCalls (world : World) : List ClientCall :=
  world.heap.clients.flatMap Client.blockingCalls

/-- The thread function is entered. -/
def Action.opens : Action → Bool
  | .threadStarts => true
  | _ => false

/-- The point of the thread that an action brings about. -/
def Action.pointAfter? (action : Action) : Option ThreadPoint :=
  if action.startsThread then some .created
  else if action.opens then some .inConnect
  else if action.receives then some .inRecv
  else if action.returns then some .finished
  else none

/-- What a history says about the listener thread: where it stands, and which
blocking calls were made. -/
structure ThreadLog (actions : List Action) (p : Process) : Prop where
  point : p.point? = lastSome Action.pointAfter? actions
  fresh : p.point? = none ∨ p.point? = some .created →
    actions.countP Action.opens = 0 ∧ actions.countP Action.receives = 0
  entered : p.point? ≠ none → p.point? ≠ some .created →
    actions.countP Action.opens = 1
  calls : p.world.blockingCalls =
    List.replicate (actions.countP Action.opens) (.connect true) ++
      List.replicate (actions.countP Action.receives) .recv

section Clients

theorem Client.blockingCalls_call (entry : ClientCall) (client : Client) :
    Client.blockingCalls (client.call entry) =
      Client.blockingCalls client ++
        if ClientCall.blocks entry then [entry] else [] := by
  unfold Client.blockingCalls Client.call
  rw [List.filter_append]
  cases hblocks : ClientCall.blocks entry <;> simp [hblocks]

theorem Client.blockingCalls_configuredClient (lib : Library)
    (mServer username server : String) (enableLogging : Bool) :
    Client.blockingCalls (configuredClient lib mServer username server
      enableLogging) = [] := by
  cases enableLogging <;>
    simp [Client.blockingCalls, configuredClient, ClientCall.blocks]

theorem Client.blockingCalls_adoptedClient (mClient : Nat)
    (mSession : Option Nat) (owner : Nat) (target : JID)
    (session number : Nat) (client : Client) :
    Client.blockingCalls (adoptedClient mClient mSession owner target session
      number client) = Client.blockingCalls client := by
  unfold adoptedClient Client.blockingCalls
  split_ifs <;>
    simp [Client.modifySession, Client.disposeMessageSession,
      Client.openSession, Client.call, ClientCall.blocks]

theorem World.blockingCalls_installed {world : World} {client : Client}
    (hclient : Client.blockingCalls client = []) :
    (world.installed client).blockingCalls = world.blockingCalls := by
  simp [World.blockingCalls, World.installed, hclient]

/-- Only the calls of the clients matter. -/
theorem World.blockingCalls_congr {world next : World}
    (hclients : next.heap.clients.map Client.blockingCalls =
      world.heap.clients.map Client.blockingCalls) :
    next.blockingCalls = world.blockingCalls := by
  unfold World.blockingCalls
  rw [List.flatMap_def, List.flatMap_def, hclients]

theorem World.blockingCalls_called {world : World} {entry : ClientCall}
    (hentry : ClientCall.blocks entry = false) (number : Nat) :
    (world.called number entry).blockingCalls = world.blockingCalls := by
  apply World.blockingCalls_congr
  have hsame : ∀ client : Client, Client.blockingCalls (client.call entry) =
      id (Client.blockingCalls client) := by
    intro client
    rw [Client.blockingCalls_call, hentry]
    simp
  unfold World.called Heap.modifyClient
  rw [map_modify_of_comm id hsame]
  simp

theorem World.blockingCalls_called_one {world : World} {client : Client}
    (hone : world.heap.clients = [client]) {entry : ClientCall}
    (hentry : ClientCall.blocks entry = true) :
    (world.called 0 entry).blockingCalls = world.blockingCalls ++ [entry] := by
  simp [World.blockingCalls, World.called, Heap.modifyClient, hone,
    Client.blockingCalls_call, hentry]

theorem World.blockingCalls_adopted (world : World) (mClient : Nat)
    (mSession : Option Nat) (owner : Nat) (target : JID) :
    (adoptedHeap mClient mSession owner target world.heap).clients.map
        Client.blockingCalls =
      world.heap.clients.map Client.blockingCalls := by
  apply List.ext_getElem?
  intro number
  rw [List.getElem?_map, List.getElem?_map, getElem?_adoptedHeap,
    Option.map_map]
  congr 1
  funext client
  exact Client.blockingCalls_adoptedClient _ _ _ _ _ _ client

end Clients

section Steps

variable {lib : Library} {p q : Process} {action : Action} {reply : Reply}

/-- The calls and callbacks of a process never block. -/
theorem step_blockingCalls {world next : World} {event : Event}
    (hevent : action.event? = some event)
    (hstep : CinderXmpp.step lib world event = .ok (reply, next)) :
    next.blockingCalls = world.blockingCalls := by
  cases effect_of_step hstep with
  | setUp =>
      exact World.blockingCalls_installed
        (Client.blockingCalls_configuredClient _ _ _ _ _)
  | connectStarted =>
      exact World.blockingCalls_installed
        (Client.blockingCalls_configuredClient _ _ _ _ _)
  | connectionOpened => cases action <;> cases hevent
  | stanzaSent => exact World.blockingCalls_called rfl _
  | sessionAdopted =>
      exact World.blockingCalls_congr (World.blockingCalls_adopted _ _ _ _ _)
  | _ => rfl

theorem Action.kind_of_event {event : Event}
    (hevent : action.event? = some event) :
    action.opens = false ∧ action.receives = false ∧
      action.returns = false := by
  cases action <;> first
    | exact ⟨rfl, rfl, rfl⟩
    | cases hevent

theorem Action.kind_of_receives (hreceives : action.receives = true) :
    action.startsThread = false ∧ action.opens = false ∧
      action.returns = false := by
  cases action with
  | connectReturns success =>
      have htrue : success = true := hreceives
      exact ⟨rfl, rfl, by simp [Action.returns, htrue]⟩
  | recvReturns ce =>
      have hclean : ce = .connNoError := by
        simpa [Action.receives] using hreceives
      exact ⟨rfl, rfl, by simp [Action.returns, hclean]⟩
  | _ => cases hreceives

theorem Action.kind_of_returns (hreturns : action.returns = true) :
    action.startsThread = false ∧ action.opens = false ∧
      action.receives = false := by
  cases action with
  | connectReturns success =>
      have hfalse : success = false := by
        simpa [Action.returns] using hreturns
      exact ⟨rfl, rfl, hfalse⟩
  | recvReturns ce =>
      have herror : ce ≠ .connNoError := by
        simpa [Action.returns] using hreturns
      exact ⟨rfl, rfl, by simp [Action.receives, herror]⟩
  | _ => cases hreturns

/-- An action that makes the thread make no call leaves both counts. -/
theorem Action.counts_append_singleton (actions : List Action)
    (hopens : action.opens = false) (hreceives : action.receives = false) :
    (actions ++ [action]).countP Action.opens = actions.countP Action.opens ∧
      (actions ++ [action]).countP Action.receives =
        actions.countP Action.receives := by
  simp [List.countP_append, hopens, hreceives]

/-- A call or callback moves the thread only by starting it, and then there was
none. -/
theorem Process.Phase.point_of_event (hphase : p.Phase) {event : Event}
    {next : World}
    (hstep : CinderXmpp.step lib p.world event = .ok (reply, next)) :
    (event.startsThread = true ∧ p.point? = none ∧
      Process.point? ⟨next, p.life⟩ = some .created) ∨
    (event.startsThread = false ∧
      Process.point? ⟨next, p.life⟩ = p.point?) := by
  have hthread := step_mListenerThread hstep
  cases hstarts : event.startsThread with
  | false =>
      rw [hstarts, if_neg Bool.false_ne_true] at hthread
      exact .inr ⟨rfl, congrArg (Option.map ListenerThread.point) hthread⟩
  | true =>
      rw [hstarts, if_pos rfl] at hthread
      refine .inl ⟨rfl, ?_, congrArg (Option.map ListenerThread.point) hthread⟩
      rcases hphase.point?_cases with hnone | ⟨point, _, hsome, _⟩
      · exact hnone
      · cases (step_startsThread hsome rfl hstep).symm.trans hstarts

theorem ThreadLog.called {actions : List Action} {event : Event} {next : World}
    (hlog : ThreadLog actions p) (hphase : p.Phase)
    (hevent : action.event? = some event)
    (hstep : CinderXmpp.step lib p.world event = .ok (reply, next)) :
    ThreadLog (actions ++ [action]) ⟨next, p.life⟩ := by
  obtain ⟨hopens, hreceives, hreturns⟩ := Action.kind_of_event hevent
  have hsame := (Action.event?_cases hevent).2.1
  obtain ⟨hopenings, hreceivings⟩ :=
    Action.counts_append_singleton actions hopens hreceives
  have hcalls : next.blockingCalls = p.world.blockingCalls :=
    step_blockingCalls hevent hstep
  rcases hphase.point_of_event hstep with ⟨hstarts, hnone, hpoint⟩ |
    ⟨hstarts, hpoint⟩
  · constructor
    case point =>
      rw [hpoint, lastSome_append_singleton, Action.pointAfter?, hsame, hstarts]
      rfl
    case fresh =>
      intro _
      rw [hopenings, hreceivings]
      exact hlog.fresh (.inl hnone)
    case entered =>
      intro _ hnot
      exact absurd hpoint hnot
    case calls =>
      rw [hopenings, hreceivings]
      exact hcalls.trans hlog.calls
  · constructor
    case point =>
      rw [hpoint, lastSome_append_singleton, Action.pointAfter?, hsame, hstarts,
        hopens, hreceives, hreturns]
      exact hlog.point
    case fresh =>
      rw [hpoint, hopenings, hreceivings]
      exact hlog.fresh
    case entered =>
      rw [hpoint, hopenings]
      exact hlog.entered
    case calls =>
      rw [hopenings, hreceivings]
      exact hcalls.trans hlog.calls

/-- In the second phase there is one client, and a call of its thread is added
to its log. -/
theorem Process.Phase.blockingCalls_called (hphase : p.Phase)
    (hstarted : p.point? ≠ none) {entry : ClientCall}
    (hentry : ClientCall.blocks entry = true) (point : ThreadPoint) :
    ((p.world.called 0 entry).threadAt point).blockingCalls =
      p.world.blockingCalls ++ [entry] := by
  cases hphase with
  | unconnected hthread => simp [Process.point?, hthread] at hstarted
  | started _ _ _ hclients =>
      obtain ⟨client, hone⟩ := List.length_eq_one_iff.mp hclients
      exact World.blockingCalls_called_one hone hentry

theorem ThreadLog.opened {actions : List Action} (hlog : ThreadLog actions p)
    (hphase : p.Phase) (hpoint : p.point? = some .created) :
    ThreadLog (actions ++ [.threadStarts])
      ⟨(p.world.called 0 (.connect true)).threadAt .inConnect, p.life⟩ := by
  obtain ⟨hopens, hreceives⟩ := hlog.fresh (.inr hpoint)
  have hstarted : p.point? ≠ none := by simp [hpoint]
  have hopenings :
      (actions ++ [Action.threadStarts]).countP Action.opens = 1 := by
    simp [List.countP_append, hopens, Action.opens]
  have hreceivings :
      (actions ++ [Action.threadStarts]).countP Action.receives = 0 := by
    simp [List.countP_append, hreceives, Action.receives]
  constructor
  case point =>
    rw [lastSome_append_singleton]
    rfl
  case fresh => simp [Process.point?, World.threadAt]
  case entered => exact fun _ _ => hopenings
  case calls =>
    rw [hopenings, hreceivings, hphase.blockingCalls_called hstarted rfl,
      hlog.calls, hopens, hreceives]
    rfl

theorem ThreadLog.received {actions : List Action} (hlog : ThreadLog actions p)
    (hphase : p.Phase) (hreceives : action.receives = true)
    (hstarted : p.point? ≠ none) (hentered : p.point? ≠ some .created) :
    ThreadLog (actions ++ [action])
      ⟨(p.world.called 0 .recv).threadAt .inRecv, p.life⟩ := by
  obtain ⟨hstarts, hopens, hreturns⟩ := Action.kind_of_receives hreceives
  have hopenings : (actions ++ [action]).countP Action.opens =
      actions.countP Action.opens := by
    simp [List.countP_append, hopens]
  have hreceivings : (actions ++ [action]).countP Action.receives =
      actions.countP Action.receives + 1 := by
    simp [List.countP_append, hreceives]
  constructor
  case point =>
    rw [lastSome_append_singleton, Action.pointAfter?, hstarts, hopens,
      hreceives]
    rfl
  case fresh => simp [Process.point?, World.threadAt]
  case entered =>
    rw [hopenings]
    exact fun _ _ => hlog.entered hstarted hentered
  case calls =>
    rw [hopenings, hreceivings, hphase.blockingCalls_called hstarted rfl,
      hlog.calls, List.append_assoc, List.replicate_succ']

theorem ThreadLog.returned {actions : List Action} (hlog : ThreadLog actions p)
    (hreturns : action.returns = true) (hstarted : p.point? ≠ none)
    (hentered : p.point? ≠ some .created) :
    ThreadLog (actions ++ [action])
      ⟨p.world.threadAt .finished, p.life⟩ := by
  obtain ⟨hstarts, hopens, hreceives⟩ := Action.kind_of_returns hreturns
  obtain ⟨hopenings, hreceivings⟩ :=
    Action.counts_append_singleton actions hopens hreceives
  constructor
  case point =>
    rw [lastSome_append_singleton, Action.pointAfter?, hstarts, hopens,
      hreceives, hreturns]
    rfl
  case fresh => simp [Process.point?, World.threadAt]
  case entered =>
    rw [hopenings]
    exact fun _ _ => hlog.entered hstarted hentered
  case calls =>
    rw [hopenings, hreceivings]
    exact hlog.calls

/-- A blocking call only returns to a thread that was entered. -/
theorem Process.entered_of_enabled (henabled : p.enabled action = true)
    (hback : action.receives = true ∨ action.returns = true) :
    p.point? ≠ some .created := by
  intro hpoint
  cases action with
  | connectReturns success => simp [Process.enabled, hpoint] at henabled
  | recvReturns ce => simp [Process.enabled, hpoint] at henabled
  | _ => rcases hback with h | h <;> cases h

/-- One step of a process, in the log of its thread. -/
theorem ThreadLog.step {actions : List Action} (hlog : ThreadLog actions p)
    (hphase : p.Phase) (hstep : Process.step lib p action = .ok (reply, q)) :
    ThreadLog (actions ++ [action]) q := by
  obtain ⟨henabled, _⟩ := Process.step_eq_ok hstep
  cases hphase.advance hstep with
  | called _ event _ next hevent hcall => exact hlog.called hphase hevent hcall
  | opened hpoint => exact hlog.opened hphase hpoint
  | received _ hreceives hstarted =>
      exact hlog.received hphase hreceives hstarted
        (Process.entered_of_enabled henabled (.inl hreceives))
  | returned _ hreturns hstarted =>
      exact hlog.returned hreturns hstarted
        (Process.entered_of_enabled henabled (.inr hreturns))
  | destroyed hthread =>
      have hpoint : p.point? = none := by simp [Process.point?, hthread]
      have hafter : Process.point? ⟨p.world, .destroyed⟩ = none := hpoint
      obtain ⟨hopenings, hreceivings⟩ :=
        Action.counts_append_singleton actions (rfl : Action.destroy.opens = _)
          rfl
      constructor
      case point =>
        rw [hafter, lastSome_append_singleton, ← hlog.point, hpoint]
        rfl
      case fresh =>
        rw [hopenings, hreceivings]
        exact fun _ => hlog.fresh (.inl hpoint)
      case entered => exact fun hnot => absurd hafter hnot
      case calls =>
        rw [hopenings, hreceivings]
        exact hlog.calls

theorem Reaches.threadLog {actions : List Action}
    (hreach : (processMachine lib).Reaches actions p) :
    ThreadLog actions p := by
  apply Machine.Reaches.invariant (I := ThreadLog) ?_ ?_ hreach
  · exact ⟨rfl, fun _ => ⟨rfl, rfl⟩, fun hnot => absurd rfl hnot, rfl⟩
  · intro actions before action reply after hbefore hlog hstep
    exact hlog.step (Reaches.phase hbefore) hstep

end Steps

/-- The protocol of the listener thread, in every run of a process.  The thread
function is entered at most once and its guard never skips; the blocking calls
that were made are one `Client::connect`, always with `block` set, and then one
`Client::recv` for each `connect` that succeeded and each `recv` that returned
`ConnNoError`; the thread stands where the last of its actions put it; and,
gloox being taken to deliver callbacks from within its blocking calls only, they
come exactly while that is inside one of the two, never from the `disconnect`
of the destructor. -/
theorem thread_protocol (lib : Library) {actions : List Action} {p : Process}
    (hreach : (processMachine lib).Reaches actions p) :
    actions.countP Action.opens ≤ 1 ∧
    p.world.blockingCalls =
      List.replicate (actions.countP Action.opens) (.connect true) ++
        List.replicate (actions.countP Action.receives) .recv ∧
    p.point? = lastSome Action.pointAfter? actions ∧
    ∀ cb, p.enabled (.callback cb) = true ↔
      lastSome Action.pointAfter? actions = some .inConnect ∨
        lastSome Action.pointAfter? actions = some .inRecv := by
  have hlog := Reaches.threadLog hreach
  refine ⟨?_, hlog.calls, hlog.point, ?_⟩
  · by_cases hfresh : p.point? = none ∨ p.point? = some .created
    · rw [(hlog.fresh hfresh).1]
      exact Nat.zero_le 1
    · rw [not_or] at hfresh
      exact (hlog.entered hfresh.1 hfresh.2).le
  · intro cb
    rw [← hlog.point]
    exact (Reaches.phase hreach).inLibrary_iff

/-! The destructors. -/

/-- The destructor of the listener disconnects and deletes its client, but never
gets there: after a `connect` the destruction of the thread ends the process
before it, and without one there is no client.  In no run of a process, however
it goes on, is a client disconnected or deleted, or is the `Client::disconnect`
of the destructor on the stack; and a process whose client was destroyed never
had a gloox client. -/
theorem destructor_never_reaches_gloox (lib : Library) {actions : List Action}
    {p : Process} (hreach : (processMachine lib).Reaches actions p) :
    p.life ≠ .disconnecting ∧
    p.enabled .disconnectReturns = false ∧
    (∀ client ∈ p.world.heap.clients,
      ClientCall.disconnect ∉ client.calls ∧ client.deleted = false) ∧
    (Action.destroy ∈ actions → p.world.heap.clients = []) := by
  have hphase := Reaches.phase hreach
  have hlife := hphase.not_disconnecting
  refine ⟨hlife, by simpa [Process.enabled] using hlife, ?_, ?_⟩
  · intro client hclient
    constructor
    · intro hcall
      have hblocking : ClientCall.disconnect ∈ p.world.blockingCalls :=
        List.mem_flatMap.mpr ⟨client, hclient,
          List.mem_filter.mpr ⟨hcall, rfl⟩⟩
      rw [(Reaches.threadLog hreach).calls] at hblocking
      simp [List.mem_replicate] at hblocking
    · have hseen : (listenerMachine lib true).Reaches
          (actions.flatMap Action.events) p.world.unthreaded :=
        (processProjection lib).reaches hreach
      obtain ⟨number, hnumber⟩ := List.getElem?_of_mem hclient
      have hat : p.world.unthreaded.heap.clients[number]? =
          some (Client.withoutRecv client) := by
        simp [World.unthreaded, Heap.withoutRecv, hnumber]
      exact Reaches.undeleted hseen number (Client.withoutRecv client) hat
  · intro hdestroy
    cases hphase with
    | unconnected _ _ hclients => exact hclients
    | started _ _ _ _ _ halive =>
        exact absurd halive ((Reaches.tracked hreach).notAlive hdestroy)

namespace ThreadProtocolWitness

/-- A connection that is lost after one stanza was read. -/
def lost : List Action :=
  [.connect "carol" "example.org", .threadStarts, .callback .onConnect,
    .connectReturns true, .recvReturns .connNoError,
    .recvReturns .connIoError]

theorem thread_protocol_lost :
    ∃ p, (processMachine .documented).Reaches lost p ∧
      p.world.blockingCalls = [.connect true, .recv, .recv] ∧
      p.point? = some .finished := by
  have hlost : (processMachine .documented).Reaches lost _ := rfl
  obtain ⟨_, hcalls, hpoint, _⟩ := thread_protocol .documented hlost
  exact ⟨_, hlost, hcalls, hpoint⟩

/-- A client that is destroyed before it was ever connected. -/
def unused : List Action :=
  [.connect "" "example.org", .sendMessage "alice" "hello" "", .destroy]

theorem destructor_never_reaches_gloox_unused :
    ∃ p, (processMachine .documented).Reaches unused p ∧
      p.life = .destroyed ∧ p.world.heap.clients = [] := by
  have hunused : (processMachine .documented).Reaches unused _ := rfl
  have hnever := destructor_never_reaches_gloox .documented hunused
  exact ⟨_, hunused, rfl, hnever.2.2.2 (by simp [unused])⟩

end ThreadProtocolWitness

end CinderXmpp
