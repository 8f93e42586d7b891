/-
Messages for any of the clients.  The clients of earlier `setup`s stay
registered with their listener, and each goes on receiving: a session that it
opens for a new sender is taken over like one of the current client.
-/
import CinderXmpp.SessionLeaks

namespace CinderXmpp

open Gloox History Machine Grant

/-- What comes in: a message for one of the clients, or any other call or
callback. -/
inductive Traffic where
  | message (number : Nat) (sender : JID) (msg : Message)
  | other (event : Event)
deriving Repr

/-- An `XmppClient` from its construction on, all of whose clients receive
messages as gloox does. -/
def switchboardMachine (lib : Library) :
    Machine World Traffic Reply Fault where
  start := { client := XmppClient.new }
  step world traffic :=
    match traffic with
    | .message number sender msg =>
        perform (void (receiveMessage number sender msg)) world
    | .other event => step lib world event

def Traffic.createsClient : Traffic → Bool
  | .message _ _ _ => false
  | .other event => event.createsClient

/-- Messages come for clients that were created, and nothing else delivers a
message or announces a session. -/
def Traffic.Routed (pre : List Traffic) : Traffic → Prop
  | .message number _ _ => number < pre.countP Traffic.createsClient
  | .other event => event.receives = false

instance (pre : List Traffic) : (traffic : Traffic) →
    Decidable (traffic.Routed pre)
  | .message _ _ _ => inferInstanceAs (Decidable (_ < _))
  | .other _ => inferInstanceAs (Decidable (_ = _))

/-- The calls and callbacks in which traffic reaches the listener: a sender
without a live session has one announced first. -/
def Traffic.events (world : World) : Traffic → List Event
  | .message number sender msg =>
      match world.sessionFor number sender with
      | some session => [.callback number (.handleMessage msg session)]
      | none =>
          [.callback number (.handleMessageSession sender),
            .callback number (.handleMessage msg
              (adoptedSession world.heap.nextAddress sender))]
  | .other event => [event]

/-- The calls and callbacks of a run. -/
def eventsOf (lib : Library) (history : List Traffic) : List Event :=
  ((switchboardMachine lib).trace history).flatMap fun executed =>
    executed.event.events executed.before

/-- The signal of a received message, by the peers at that time. -/
def Traffic.signalOf (executed : Executed World Traffic Reply) :
    Option Signal :=
  match executed.event with
  | .message _ sender msg =>
      some (messageSignal sender msg executed.before.client.mRoster)
  | .other _ => none

section Registration

variable {lib : Library} {delegate : Bool} {events : List Event}
  {world : World}

theorem Event.registers_of_newClient? {mServer : String} {event : Event}
    {client : Client} (hnew : event.newClient? lib mServer = some client) :
    ClientCall.registerMessageSessionHandler 0 ∈ client.calls := by
  cases event with
  | setup username server enableLogging =>
      obtain rfl := Option.some.inj hnew
      simp [configuredClient]
  | connect xmppUser xmppServer =>
      simp only [Event.newClient?, Option.ite_none_left_eq_some,
        Option.some.injEq] at hnew
      obtain ⟨_, rfl⟩ := hnew
      simp [configuredClient]
  | _ => cases hnew

/-- A client is made with its handler registered, and its calls only grow. -/
theorem step_registers {next : World} {event : Event} {reply : Reply}
    (hstep : step lib world event = .ok (reply, next)) {number : Nat}
    (hbefore : ∀ account ∈ world.account? number,
      ClientCall.registerMessageSessionHandler 0 ∈ account.calls) :
    ∀ account ∈ next.account? number,
      ClientCall.registerMessageSessionHandler 0 ∈ account.calls := by
  rw [step_account? hstep number]
  cases hnew : event.newClient? lib world.client.mListener.mServer with
  | some made =>
      dsimp only
      split
      · rintro account ⟨⟩
        exact Event.registers_of_newClient? hnew
      · exact hbefore
  | none =>
      intro account haccount
      obtain ⟨earlier, hearlier, rfl⟩ := Option.map_eq_some_iff.mp haccount
      exact List.mem_append_left _ (hbefore earlier hearlier)

/-- The listener handles the new sessions of every client that was created. -/
theorem Reaches.messageSessionHandlerSet
    (hreach : (listenerMachine lib delegate).Reaches events world)
    {number : Nat} {client : Client}
    (hclient : world.heap.clients[number]? = some client) :
    client.messageSessionHandlerSet = true := by
  have hregisters : ∀ account ∈ world.account? number,
      ClientCall.registerMessageSessionHandler 0 ∈ account.calls := by
    apply Machine.Reaches.invariant (I := fun _ world =>
      ∀ account ∈ world.account? number,
        ClientCall.registerMessageSessionHandler 0 ∈ account.calls) ?_ ?_ hreach
    · rintro account ⟨⟩
    · intro _ _ _ _ _ _ hbefore hstep
      exact step_registers hstep hbefore
  unfold Client.messageSessionHandlerSet
  rw [List.contains_iff_mem]
  refine hregisters (Client.account client) ?_
  rw [World.account?, hclient]
  rfl

end Registration

section Sessions

variable {lib : Library} {delegate : Bool} {events : List Event}
  {world : World}

/-- The sessions of a reachable client are all at used addresses. -/
theorem Reaches.sessions_fresh (hannounced : Guarded AnnouncedByClient events)
    (hreach : (listenerMachine lib delegate).Reaches events world)
    {number : Nat} {client : Client}
    (hclient : world.heap.clients[number]? = some client) :
    ∀ live ∈ client.sessions, live.address ≠ world.heap.nextAddress := by
  have hsessions := Reaches.sessions?_eq hannounced hreach number
  rw [World.sessions?, hclient, Option.map_some] at hsessions
  intro live hlive
  rw [(Reaches.session_eq hreach).1]
  exact (address_lt_of_held hsessions hlive).ne

end Sessions

section Reception

variable {lib : Library} {events : List Event} {world : World}

/-- A message for a client that was created is received in one step.  It runs
the message's callbacks, and emits its one signal. -/
theorem Reaches.receives (hannounced : Guarded AnnouncedByClient events)
    (hreach : (clientMachine lib).Reaches events world) {number : Nat}
    (hnumber : number < created events) (sender : JID) (msg : Message) :
    ∃ next, (switchboardMachine lib).step world (.message number sender msg) =
        .ok (.void, next) ∧
      (clientMachine lib).runFrom world
        (Traffic.events world (.message number sender msg)) = .ok next ∧
      next.signals = world.signals ++
        [messageSignal sender msg world.client.mRoster] := by
  have hdelegated := Reaches.delegated hreach
  change ∃ next, perform (void (receiveMessage number sender msg)) world = _ ∧
    _ ∧ _
  rw [perform_void]
  cases hsession : world.sessionFor number sender with
  | some session =>
      have hrun := run_receiveMessage_of_session hsession hdelegated msg
      have hstep := step_handleMessage lib world number msg session
      rw [if_pos hdelegated, (World.sessionFor_eq_some hsession).1] at hstep
      refine ⟨_, by rw [hrun], ?_, rfl⟩
      simp only [Traffic.events, hsession]
      exact runFrom_cons hstep []
  | none =>
      obtain ⟨client, hclient⟩ : ∃ client,
          world.heap.clients[number]? = some client := by
        have hlt : number < world.heap.clients.length := by
          rwa [Reaches.clients_length hreach]
        exact ⟨_, List.getElem?_eq_getElem hlt⟩
      obtain ⟨current, hcurrent⟩ : ∃ current,
          world.client.mListener.mClient = some current := by
        rw [Reaches.mClient_eq hreach]
        exact ⟨created events - 1, currentClient_eq_some_iff.mpr
          (Nat.succ_pred_eq_of_pos (Nat.zero_lt_of_lt hnumber)).symm⟩
      have hnew : world.client.mListener.mSession ≠
          some world.heap.nextAddress := by
        rw [(Reaches.session_eq hreach).1, (Reaches.session_eq hreach).2]
        exact lastSession_ne events
      have hrun := run_receiveMessage_of_no_session hsession hdelegated hclient
        (Reaches.messageSessionHandlerSet hreach hclient)
        (Reaches.sessions_fresh hannounced hreach hclient) hcurrent hnew msg
      have hannounce := step_handleMessageSession lib world number sender
      rw [hcurrent] at hannounce
      have hstep := step_handleMessage lib
        (world.adopting current number sender) number msg
        (adoptedSession world.heap.nextAddress sender)
      rw [if_pos (show (world.adopting current number sender).delegated = true
        from hdelegated)] at hstep
      refine ⟨_, by rw [hrun], ?_, rfl⟩
      simp only [Traffic.events, hsession]
      exact (runFrom_cons hannounce _).trans (runFrom_cons hstep [])

end Reception

section Runs

variable {lib : Library} {history : List Traffic} {world next : World}
  {traffic : Traffic} {reply : Reply}

/-- What a run of the switchboard amounts to: a run of the listener on its
calls and callbacks, in which the message signals are those of its messages. -/
structure Switched (lib : Library) (history : List Traffic) (world : World) :
    Prop where
  reaches : (clientMachine lib).Reaches (eventsOf lib history) world
  announced : Guarded AnnouncedByClient (eventsOf lib history)
  created : created (eventsOf lib history) =
    history.countP Traffic.createsClient
  signals : world.signals.filter Signal.isHandleMsg =
    ((switchboardMachine lib).trace history).filterMap Traffic.signalOf

theorem eventsOf_append_singleton
    (hbefore : (switchboardMachine lib).Reaches history world)
    (hstep : (switchboardMachine lib).step world traffic = .ok (reply, next)) :
    eventsOf lib (history ++ [traffic]) =
      eventsOf lib history ++ traffic.events world := by
  unfold eventsOf
  rw [hbefore.trace_snoc hstep, List.flatMap_append]
  simp

/-- The callbacks of a message create no client, and those that announce a
session come from the message's client. -/
theorem Traffic.events_message (world : World) (number : Nat) (sender : JID)
    (msg : Message) :
    (Traffic.events world (.message number sender msg)).countP
        Event.createsClient = 0 ∧
      ∀ event ∈ Traffic.events world (.message number sender msg),
        ∀ owner ∈ event.announcer?, owner = number := by
  cases hsession : world.sessionFor number sender with
  | some session =>
      simp [Traffic.events, hsession, Event.createsClient, Event.announcer?]
  | none =>
      simp [Traffic.events, hsession, Event.createsClient, Event.announcer?]

theorem guarded_append_of_owner {events rest : List Event} {number : Nat}
    (hannounced : Guarded AnnouncedByClient events)
    (hnumber : number < CinderXmpp.created events)
    (hrest : ∀ event ∈ rest, ∀ owner ∈ event.announcer?, owner = number) :
    Guarded AnnouncedByClient (events ++ rest) := by
  induction rest using List.reverseRecOn with
  | nil => simpa using hannounced
  | append_singleton earlier event ih =>
      rw [← List.append_assoc, guarded_append_singleton]
      refine ⟨ih fun one hone => hrest one (List.mem_append_left _ hone), ?_⟩
      intro owner howner
      have hsame := hrest event (by simp) owner howner
      rw [hsame]
      unfold CinderXmpp.created at hnumber ⊢
      rw [List.countP_append]
      exact hnumber.trans_le (Nat.le_add_right _ _)

theorem Event.announcer?_of_not_receives {event : Event}
    (hreceives : event.receives = false) : event.announcer? = none := by
  cases event with
  | callback owner cb =>
      cases cb with
      | handleMessageSession target => cases hreceives
      | _ => rfl
  | _ => rfl

theorem Switched.message (hswitched : Switched lib history world)
    (hbefore : (switchboardMachine lib).Reaches history world) {number : Nat}
    (hnumber : number < history.countP Traffic.createsClient) (sender : JID)
    (msg : Message)
    (hstep : (switchboardMachine lib).step world
      (.message number sender msg) = .ok (reply, next)) :
    Switched lib (history ++ [.message number sender msg]) next := by
  rw [← hswitched.created] at hnumber
  obtain ⟨after, hafter, hrun, hsignals⟩ :=
    Reaches.receives hswitched.announced hswitched.reaches hnumber sender msg
  obtain ⟨rfl, rfl⟩ : Reply.void = reply ∧ after = next := by
    rw [hafter] at hstep
    simpa using hstep
  have hevents := eventsOf_append_singleton hbefore hstep
  obtain ⟨hcreates, howners⟩ :=
    Traffic.events_message world number sender msg
  constructor
  case reaches =>
    rw [hevents, reaches_append_iff]
    exact ⟨world, hswitched.reaches, hrun⟩
  case announced =>
    rw [hevents]
    exact guarded_append_of_owner hswitched.announced hnumber howners
  case created =>
    rw [hevents, List.countP_append, ← hswitched.created]
    unfold CinderXmpp.created
    rw [List.countP_append, hcreates]
    rfl
  case signals =>
    rw [hsignals, List.filter_append, hswitched.signals,
      hbefore.filterMap_trace_snoc Traffic.signalOf hstep]
    rfl

theorem Switched.other (hswitched : Switched lib history world)
    (hbefore : (switchboardMachine lib).Reaches history world) {event : Event}
    (hreceives : event.receives = false)
    (hstep : (switchboardMachine lib).step world (.other event) =
      .ok (reply, next)) :
    Switched lib (history ++ [.other event]) next := by
  have hevents := eventsOf_append_singleton hbefore hstep
  have hlistener : CinderXmpp.step lib world event = .ok (reply, next) := hstep
  constructor
  case reaches =>
    rw [hevents]
    exact hswitched.reaches.snoc hlistener
  case announced =>
    rw [hevents]
    refine guarded_append_singleton.mpr ⟨hswitched.announced, ?_⟩
    rw [AnnouncedByClient, Event.announcer?_of_not_receives hreceives]
    simp
  case created =>
    rw [hevents, List.countP_append, ← hswitched.created]
    unfold CinderXmpp.created
    rw [List.countP_append]
    rfl
  case signals =>
    have hquiet := filter_emissions_of_not_receives world.client.mRoster
      hreceives
    rw [step_signals (Reaches.delegated hswitched.reaches) hlistener,
      List.filter_append, hquiet, hswitched.signals,
      hbefore.filterMap_trace_snoc Traffic.signalOf hstep]
    rfl

theorem Reaches.switched (hrouted : Guarded Traffic.Routed history)
    (hreach : (switchboardMachine lib).Reaches history world) :
    Switched lib history world := by
  apply Machine.Reaches.invariant_of_guarded (I := Switched lib) ?_ ?_ hrouted
    hreach
  · exact ⟨rfl, guarded_nil _, rfl, rfl⟩
  · intro pre before traffic reply after hbefore hrouted hswitched hstep
    cases traffic with
    | message number sender msg =>
        exact hswitched.message hbefore hrouted sender msg hstep
    | other event => exact hswitched.other hbefore hrouted hstep

end Runs

/-- No message is lost or duplicated, whichever of the clients it comes to.  In
every run in which messages come for clients that were created, with any
`setup`s, other callbacks and calls in between: the run is one of the listener
on its calls and callbacks; the message signals are those of the messages in
their order; and every next message to any client, current or not, is received
without a fault and causes one signal, with the peer of its own sender. -/
theorem every_client_delivers (lib : Library) {history : List Traffic}
    (hrouted : Guarded Traffic.Routed history) {world : World}
    (hreach : (switchboardMachine lib).Reaches history world) :
    (clientMachine lib).Reaches (eventsOf lib history) world ∧
      Guarded AnnouncedByClient (eventsOf lib history) ∧
      world.signals.filter Signal.isHandleMsg =
        ((switchboardMachine lib).trace history).filterMap Traffic.signalOf ∧
      ∀ number < history.countP Traffic.createsClient, ∀ sender msg, ∃ next,
        (switchboardMachine lib).step world (.message number sender msg) =
          .ok (.void, next) ∧
        next.signals = world.signals ++ [.mSignalHandleMsg
          (senderPeer sender.username world.client.mRoster) msg.subject
          msg.body] := by
  have hswitched := Reaches.switched hrouted hreach
  refine ⟨hswitched.reaches, hswitched.announced, hswitched.signals, ?_⟩
  intro number hnumber sender msg
  rw [← hswitched.created] at hnumber
  obtain ⟨next, hstep, _, hsignals⟩ :=
    Reaches.receives hswitched.announced hswitched.reaches hnumber sender msg
  exact ⟨next, hstep, hsignals⟩

namespace SwitchboardWitness

def alice : JID := ⟨"alice", "example.org", "phone"⟩

def bob : JID := ⟨"bob", "example.org", "desk"⟩

def text (body : String) : Message :=
  ⟨.chat, ⟨"carol", "example.org", ""⟩, body, ""⟩

/-- The first client goes on receiving after the second `setup`. -/
def moved : List Traffic :=
  [.other (.setup "carol" "example.org" false), .message 0 alice (text "a1"),
    .other (.setup "carol" "example.net" false), .message 0 bob (text "b1"),
    .message 1 alice (text "a2"), .message 0 alice (text "a3")]

/-- Alice's first session outlives the eviction, which is tried on the second
client; her last message comes on it again. -/
theorem every_client_delivers_moved :
    ∃ world, (switchboardMachine .documented).Reaches moved world ∧
      world.signals.filter Signal.isHandleMsg =
        [.mSignalHandleMsg {} "" "a1", .mSignalHandleMsg {} "" "b1",
          .mSignalHandleMsg {} "" "a2", .mSignalHandleMsg {} "" "a3"] ∧
      (eventsOf .documented moved).countP Event.announcesSession = 3 := by
  have hrouted : Guarded Traffic.Routed moved := by decide
  have hmoved : (switchboardMachine .documented).Reaches moved _ := rfl
  have hsignals := (every_client_delivers .documented hrouted hmoved).2.2.1
  exact ⟨_, hmoved, hsignals, rfl⟩

end SwitchboardWitness

end CinderXmpp
