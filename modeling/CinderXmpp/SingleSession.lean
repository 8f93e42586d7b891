/-
The one session that the listener keeps.  A message from a new sender evicts
the session of the sender before it, in the middle of its own delivery; no
message is lost by that, and every session but the present one is disposed of
exactly once.
-/
import CinderXmpp.Inbox

namespace CinderXmpp

open Gloox History Machine

/-- At most one session is live, and `mSession` is that session or null.  The
session has the listener as its handler, and the listener's two filters. -/
inductive SingleSession (client : Client) (listener : XmppListener) :
    Prop where
  | unopened (hlive : client.sessions = [])
      (hsession : listener.mSession = none)
  | adopted (session : MessageSession) (eventFilter chatStateFilter : Nat)
      (hlive : client.sessions = [session])
      (hsession : listener.mSession = some session.address)
      (hhandler : session.messageHandlerSet = true)
      (heventFilter : listener.mMessageEventFilter = some eventFilter)
      (hchatStateFilter : listener.mChatStateFilter = some chatStateFilter)
      (hfilters : session.filters = [⟨eventFilter, .messageEvent, true⟩,
        ⟨chatStateFilter, .chatState, true⟩])

/-- The sessions that were disposed of, and then the present one. -/
def sessionLedger (client : Client) (listener : XmppListener) : List Nat :=
  client.disposed ++ listener.mSession.toList

/-- The first client receives for its listener, which keeps one session. -/
structure Receiving (world : World) (client : Client) : Prop where
  delegated : world.delegated = true
  current : world.client.mListener.mClient = some 0
  held : world.heap.clients[0]? = some client
  announces : client.messageSessionHandlerSet = true
  single : SingleSession client world.client.mListener
  used : ∀ address ∈ sessionLedger client world.client.mListener,
    address < world.heap.nextAddress
  once : (sessionLedger client world.client.mListener).Nodup

section Adoption

variable {client : Client} {listener : XmppListener}

/-- The one live session is the one that `mSession` points to. -/
theorem SingleSession.address_eq (hsingle : SingleSession client listener)
    {live : MessageSession} (hlive : live ∈ client.sessions) :
    some live.address = listener.mSession := by
  cases hsingle with
  | unopened hnone => simp [hnone] at hlive
  | adopted session _ _ hone hsession =>
      rw [hone, List.mem_singleton] at hlive
      rw [hlive, hsession]

/-- Adopting a fresh session evicts the one before it, and nothing else. -/
theorem SingleSession.sessions_eq {address : Nat} (sender : JID)
    (hsingle : SingleSession client listener)
    (hfresh : listener.mSession ≠ some address) :
    (adoptedClient 0 listener.mSession 0 sender address 0 client).sessions =
      [adoptedSession address sender] := by
  have hothers : ∀ live ∈ client.sessions, live.address ≠ address := by
    rintro live hlive rfl
    exact hfresh (hsingle.address_eq hlive).symm
  have hevicted : client.sessions.filter
      (fun live => !(some live.address == listener.mSession)) = [] := by
    rw [List.filter_eq_nil_iff]
    intro live hlive
    simp [hsingle.address_eq hlive]
  rw [sessions_adoptedClient hothers hfresh, if_pos rfl, if_pos rfl, hevicted,
    List.nil_append]

theorem calls_adoptedClient (mSession : Option Nat) (sender : JID)
    (address : Nat) :
    (adoptedClient 0 mSession 0 sender address 0 client).calls =
      client.calls ++ [.disposeMessageSession mSession] := rfl

theorem disposed_adoptedClient (mSession : Option Nat) (sender : JID)
    (address : Nat) :
    (adoptedClient 0 mSession 0 sender address 0 client).disposed =
      client.disposed ++ mSession.toList := by
  unfold Client.disposed
  rw [calls_adoptedClient, List.filterMap_append]
  cases mSession <;> rfl

theorem messageSessionHandlerSet_of_append {entries : List ClientCall}
    {longer : Client} (hcalls : longer.calls = client.calls ++ entries)
    (hset : client.messageSessionHandlerSet = true) :
    longer.messageSessionHandlerSet = true := by
  unfold Client.messageSessionHandlerSet at hset ⊢
  rw [hcalls, List.contains_append, hset, Bool.true_or]

/-- Only the sessions and the three fields that point to them matter. -/
theorem SingleSession.congr {client' : Client} {listener' : XmppListener}
    (hsingle : SingleSession client listener)
    (hsessions : client'.sessions = client.sessions)
    (hsession : listener'.mSession = listener.mSession)
    (heventFilter :
      listener'.mMessageEventFilter = listener.mMessageEventFilter)
    (hchatStateFilter :
      listener'.mChatStateFilter = listener.mChatStateFilter) :
    SingleSession client' listener' := by
  cases hsingle with
  | unopened hlive hnone =>
      exact .unopened (hsessions.trans hlive) (hsession.trans hnone)
  | adopted session eventFilter chatStateFilter hlive hsome hhandler hevent
      hchatState hfilters =>
      exact .adopted session eventFilter chatStateFilter
        (hsessions.trans hlive) (hsession.trans hsome) hhandler
        (heventFilter.trans hevent) (hchatStateFilter.trans hchatState)
        hfilters

end Adoption

section Steps

variable {world : World} {client : Client}

theorem Receiving.mSession_ne (hreceiving : Receiving world client) :
    world.client.mListener.mSession ≠ some world.heap.nextAddress := by
  intro hsession
  have hused := hreceiving.used world.heap.nextAddress (by
    simp [sessionLedger, hsession])
  exact lt_irrefl _ hused

/-- Adopting a session for a new sender keeps the invariant. -/
theorem Receiving.adopting (hreceiving : Receiving world client)
    (sender : JID) :
    ∃ next, Receiving (world.adopting 0 0 sender) next ∧
      sessionLedger next (world.adopting 0 0 sender).client.mListener =
        sessionLedger client world.client.mListener ++
          [world.heap.nextAddress] := by
  have hlive := hreceiving.single.sessions_eq sender hreceiving.mSession_ne
  generalize hnext : adoptedClient 0 world.client.mListener.mSession 0 sender
    world.heap.nextAddress 0 client = next at hlive
  have hledger :
      sessionLedger next (world.adopting 0 0 sender).client.mListener =
        sessionLedger client world.client.mListener ++
          [world.heap.nextAddress] := by
    unfold sessionLedger
    rw [← hnext, disposed_adoptedClient]
    rfl
  refine ⟨next, ?_, hledger⟩
  constructor
  case delegated => exact hreceiving.delegated
  case current => exact hreceiving.current
  case held =>
    unfold World.adopting
    rw [getElem?_adoptedHeap, hreceiving.held, ← hnext]
    rfl
  case announces =>
    rw [← hnext]
    exact messageSessionHandlerSet_of_append (calls_adoptedClient _ _ _)
      hreceiving.announces
  case single =>
    exact .adopted _ _ _ hlive rfl rfl rfl rfl rfl
  case used =>
    rw [hledger]
    intro address haddress
    rcases List.mem_append.mp haddress with hold | hnew
    · exact (hreceiving.used address hold).trans (Nat.lt_add_of_pos_right
        (Nat.succ_pos 2))
    · rw [List.mem_singleton.mp hnew]
      exact Nat.lt_add_of_pos_right (Nat.succ_pos 2)
  case once =>
    rw [hledger, List.nodup_append]
    refine ⟨hreceiving.once, List.nodup_singleton _, ?_⟩
    intro address haddress fresh hfresh
    rw [List.mem_singleton.mp hfresh]
    exact (hreceiving.used address haddress).ne

/-- The world in which a message of the sender is delivered: if there is no
live session for the sender, a new one was adopted before. -/
def World.holding (world : World) (sender : JID) : World :=
  match world.sessionFor 0 sender with
  | some _ => world
  | none => world.adopting 0 0 sender

theorem World.holding_signals (world : World) (sender : JID) :
    (world.holding sender).signals = world.signals := by
  unfold World.holding
  cases world.sessionFor 0 sender <;> rfl

theorem Receiving.sessions_fresh (hreceiving : Receiving world client) :
    ∀ live ∈ client.sessions, live.address ≠ world.heap.nextAddress := by
  intro live hlive hsame
  have hheld := hreceiving.single.address_eq hlive
  rw [hsame] at hheld
  exact hreceiving.mSession_ne hheld.symm

theorem Receiving.run_receiveMessage (hreceiving : Receiving world client)
    (sender : JID) (msg : Message) :
    (receiveMessage 0 sender msg).run world =
      .ok () ((world.holding sender).emitted
        [messageSignal sender msg world.client.mRoster]) := by
  unfold World.holding
  cases hsession : world.sessionFor 0 sender with
  | some session =>
      exact run_receiveMessage_of_session hsession hreceiving.delegated msg
  | none =>
      exact run_receiveMessage_of_no_session hsession hreceiving.delegated
        hreceiving.held hreceiving.announces hreceiving.sessions_fresh
        hreceiving.current hreceiving.mSession_ne msg

/-- Delivering keeps the invariant, and enters a new session in the ledger. -/
theorem Receiving.holding (hreceiving : Receiving world client)
    (sender : JID) :
    ∃ next, Receiving (world.holding sender) next ∧
      sessionLedger next (world.holding sender).client.mListener =
        sessionLedger client world.client.mListener ++
          if world.sessionFor 0 sender = none then [world.heap.nextAddress]
          else [] := by
  unfold World.holding
  cases hsession : world.sessionFor 0 sender with
  | some session => exact ⟨client, hreceiving, by simp⟩
  | none =>
      obtain ⟨next, hnext, hledger⟩ := hreceiving.adopting sender
      exact ⟨next, hnext, by simpa using hledger⟩

theorem Receiving.emitted (hreceiving : Receiving world client)
    (signals : List Signal) : Receiving (world.emitted signals) client :=
  { hreceiving with }

end Steps

section Regular

variable {lib : Library} {ready world next : World} {client : Client}
  {inbound : Inbound} {event : Event} {reply : Reply}

theorem Receiving.step_message (hreceiving : Receiving world client)
    (sender : JID) (msg : Message) :
    (inboxMachine lib ready).step world (.message sender msg) =
      .ok (.void, (world.holding sender).emitted
        [messageSignal sender msg world.client.mRoster]) := by
  have hrun := hreceiving.run_receiveMessage sender msg
  change perform (void (receiveMessage 0 sender msg)) world = _
  rw [perform_void, hrun]

/-- A step that keeps the ledger and the session keeps the invariant. -/
theorem Receiving.keep {after : Client} (hreceiving : Receiving world client)
    (hdelegated : next.delegated = world.delegated)
    (hclient : next.client.mListener.mClient = world.client.mListener.mClient)
    (hheld : next.heap.clients[0]? = some after)
    (hannounces : after.messageSessionHandlerSet = true)
    (hsingle : SingleSession after next.client.mListener)
    (hledger : sessionLedger after next.client.mListener =
      sessionLedger client world.client.mListener)
    (haddress : next.heap.nextAddress = world.heap.nextAddress) :
    Receiving next after := by
  constructor
  case delegated => exact hdelegated.trans hreceiving.delegated
  case current => exact hclient.trans hreceiving.current
  case held => exact hheld
  case announces => exact hannounces
  case single => exact hsingle
  case used =>
    rw [hledger, haddress]
    exact hreceiving.used
  case once =>
    rw [hledger]
    exact hreceiving.once

/-- A call on a client other than a disposal changes no session. -/
theorem Receiving.called (hreceiving : Receiving world client)
    (number : Nat) (entry : ClientCall)
    (hentry : ∀ session, entry ≠ .disposeMessageSession session) :
    ∃ after, Receiving (world.called number entry) after ∧
      sessionLedger after (world.called number entry).client.mListener =
        sessionLedger client world.client.mListener := by
  have hsingle := hreceiving.single
  by_cases hnumber : number = 0
  · subst hnumber
    have hledger : sessionLedger (client.call entry)
        (world.called 0 entry).client.mListener =
          sessionLedger client world.client.mListener := by
      cases entry with
      | disposeMessageSession session => exact absurd rfl (hentry session)
      | _ => simp [sessionLedger, Client.disposed, Client.call, World.called]
    have hheld : (world.called 0 entry).heap.clients[0]? =
        some (client.call entry) := by
      simp [World.called, Heap.modifyClient, hreceiving.held]
    have hannounces : (client.call entry).messageSessionHandlerSet = true :=
      messageSessionHandlerSet_of_append rfl hreceiving.announces
    exact ⟨client.call entry, hreceiving.keep rfl rfl hheld hannounces
      (hsingle.congr rfl rfl rfl rfl) hledger rfl, hledger⟩
  · have hheld : (world.called number entry).heap.clients[0]? =
        some client := by
      simp [World.called, Heap.modifyClient, hnumber, hreceiving.held]
    exact ⟨client, hreceiving.keep rfl rfl hheld hreceiving.announces
      (hsingle.congr rfl rfl rfl rfl) rfl rfl, rfl⟩

/-- Events other than messages open and dispose of no session. -/
theorem Receiving.step_other (hreceiving : Receiving world client)
    (hregular : (Inbound.other event).Regular)
    (hstep : step lib world event = .ok (reply, next)) :
    ∃ after, Receiving next after ∧
      sessionLedger after next.client.mListener =
        sessionLedger client world.client.mListener := by
  obtain ⟨hcreates, hreceives⟩ := hregular
  cases effect_of_step hstep with
  | setUp => cases hcreates
  | connectStarted xmppUser xmppServer hempty =>
      simp [Event.createsClient, hempty] at hcreates
  | sessionAdopted => cases hreceives
  | stanzaSent event message current =>
      apply hreceiving.called current (.send message)
      simp
  | connectionOpened toggle current =>
      apply hreceiving.called current (.connect toggle)
      simp
  | _ =>
      exact ⟨client, hreceiving.keep rfl rfl hreceiving.held
        hreceiving.announces (hreceiving.single.congr rfl rfl rfl rfl) rfl rfl,
        rfl⟩

end Regular

/-! Runs. -/

def Signal.isHandleMsg : Signal → Bool
  | .mSignalHandleMsg _ _ _ => true
  | _ => false

/-- The signal of a received message, by the peers at that time. -/
def messageSignalOf (executed : Executed World Inbound Reply) :
    Option Signal :=
  match executed.event with
  | .message sender msg =>
      some (messageSignal sender msg executed.before.client.mRoster)
  | .other _ => none

/-- The session opened for a received message: one at an unused address if
there is none for its sender. -/
def openedSession (executed : Executed World Inbound Reply) : Option Nat :=
  match executed.event with
  | .message sender _ =>
      if executed.before.sessionFor 0 sender = none then
        some executed.before.heap.nextAddress
      else none
  | .other _ => none

/-- What a run has received: the message signals are those of its messages,
and the ledger holds the sessions it has opened. -/
def Received (lib : Library) (ready : World) (inbound : List Inbound)
    (world : World) : Prop :=
  ∃ client, Receiving world client ∧
    world.signals.filter Signal.isHandleMsg =
      ((inboxMachine lib ready).trace inbound).filterMap messageSignalOf ∧
    sessionLedger client world.client.mListener =
      ((inboxMachine lib ready).trace inbound).filterMap openedSession

section Runs

variable {lib : Library} {first : Event} {ready world next : World}
  {client : Client} {inbound : Inbound} {event : Event} {reply : Reply}

theorem filter_emissions_of_not_receives (peers : UnorderedMap String XmppPeer)
    (hreceives : event.receives = false) :
    (event.emissions peers).filter Signal.isHandleMsg = [] := by
  cases event with
  | callback number cb =>
      cases cb with
      | handleMessage msg sess => cases hreceives
      | onDisconnect e =>
          by_cases hclean : e = .connNoError <;>
            simp [Event.emissions, Signal.isHandleMsg, hclean]
      | handleRosterPresence item resource presence msg =>
          cases hlookup : peers.lookup item.jidJID.username <;>
            simp [Event.emissions, Signal.isHandleMsg, hlookup]
      | _ => simp [Event.emissions, Signal.isHandleMsg]
  | _ => simp [Event.emissions]

/-- The client of a first `setup` receives for the listener, and has received
nothing yet. -/
theorem received_nil (hfirst : first.createsClient = true)
    (hsetup : step lib { client := XmppClient.new } first =
      .ok (reply, ready)) :
    Received lib ready [] ready := by
  have hreceived : ∀ username server enableLogging thread,
      Received lib ready [] ({ (World.installed
        { client := XmppClient.new } (configuredClient lib "" username server
          enableLogging)) with client.mListenerThread := thread }) := by
    intro username server enableLogging thread
    refine ⟨_, ⟨rfl, rfl, rfl, ?_, .unopened rfl rfl, ?_, ?_⟩, rfl, ?_⟩
    all_goals
      cases enableLogging <;>
        simp [Client.messageSessionHandlerSet, configuredClient, sessionLedger,
          Client.disposed, World.installed, XmppClient.new, XmppListener.new,
          trace, traceFrom]
  cases effect_of_step hsetup with
  | setUp username server enableLogging =>
      exact hreceived username server enableLogging none
  | connectStarted xmppUser xmppServer =>
      exact hreceived xmppUser xmppServer false (some { toggle := true })
  | connectRefused xmppUser xmppServer hempty =>
      simp [Event.createsClient, hempty] at hfirst
  | stanzaSent event message current hstanza =>
      rw [(Event.neutral_of_stanza hstanza).createsClient] at hfirst
      cases hfirst
  | stanzaRefused event message hstanza =>
      rw [(Event.neutral_of_stanza hstanza).createsClient] at hfirst
      cases hfirst
  | _ => cases hfirst

/-- One step of the inbox: what it adds to the message signals and to the
ledger. -/
theorem Receiving.step (hreceiving : Receiving world client)
    (hregular : inbound.Regular)
    (hstep : (inboxMachine lib ready).step world inbound =
      .ok (reply, next)) :
    ∃ after, Receiving next after ∧
      next.signals.filter Signal.isHandleMsg =
        world.signals.filter Signal.isHandleMsg ++
          (messageSignalOf ⟨world, inbound, reply⟩).toList ∧
      sessionLedger after next.client.mListener =
        sessionLedger client world.client.mListener ++
          (openedSession ⟨world, inbound, reply⟩).toList := by
  cases inbound with
  | message sender msg =>
      rw [hreceiving.step_message sender msg] at hstep
      simp only [Except.ok.injEq, Prod.mk.injEq] at hstep
      obtain ⟨rfl, rfl⟩ := hstep
      obtain ⟨after, hafter, hledger⟩ := hreceiving.holding sender
      refine ⟨after, hafter.emitted _, ?_, ?_⟩
      · have hsignals := World.holding_signals world sender
        simp [World.emitted, hsignals, messageSignalOf, messageSignal,
          Signal.isHandleMsg]
      · change sessionLedger after (world.holding sender).client.mListener = _
        rw [hledger]
        by_cases hnew : world.sessionFor 0 sender = none <;>
          simp [openedSession, hnew]
  | other event =>
      change CinderXmpp.step lib world event = _ at hstep
      obtain ⟨after, hafter, hledger⟩ := hreceiving.step_other hregular hstep
      refine ⟨after, hafter, ?_, by simpa [openedSession] using hledger⟩
      rw [step_signals hreceiving.delegated hstep, List.filter_append,
        filter_emissions_of_not_receives _ hregular.2]
      rfl

/-- The step law along a run. -/
theorem Reaches.received {history : List Inbound}
    (hstart : Received lib ready [] ready)
    (hregular : ∀ one ∈ history, one.Regular)
    (hreach : (inboxMachine lib ready).Reaches history world) :
    Received lib ready history world := by
  have hguarded : Guarded (fun _ one => Inbound.Regular one) history := by
    intro pre one hinit
    exact hregular one (mem_of_prefix_snoc hinit)
  apply Machine.Reaches.invariant_of_guarded (I := Received lib ready) hstart
    ?_ hguarded hreach
  intro pre before one reply after hbefore hone hreceived hstep
  obtain ⟨client, hreceiving, hsignals, hledger⟩ := hreceived
  obtain ⟨next, hnext, hmore, hlonger⟩ := hreceiving.step hone hstep
  refine ⟨next, hnext, ?_, ?_⟩
  · rw [hmore, hsignals, hbefore.filterMap_trace_snoc messageSignalOf hstep]
  · rw [hlonger, hledger, hbefore.filterMap_trace_snoc openedSession hstep]

/-- No sequence of messages ends the process. -/
theorem exists_reaches_messages (hstart : Received lib ready [] ready)
    (messages : List (JID × Message)) :
    ∃ world, (inboxMachine lib ready).Reaches
      (messages.map fun one => .message one.1 one.2) world := by
  induction messages using List.reverseRecOn with
  | nil => exact ⟨ready, reaches_nil_iff.mpr rfl⟩
  | append_singleton earlier one ih =>
      obtain ⟨world, hworld⟩ := ih
      have hregular : ∀ inbound ∈ earlier.map fun one =>
          Inbound.message one.1 one.2, inbound.Regular := by
        intro inbound hmem
        obtain ⟨message, _, rfl⟩ := List.mem_map.mp hmem
        trivial
      obtain ⟨client, hreceiving, _⟩ :=
        Reaches.received hstart hregular hworld
      rw [List.map_append]
      exact ⟨_, hworld.snoc (hreceiving.step_message one.1 one.2)⟩

end Runs

/-- No message is lost or duplicated although one session is kept.  On the
client of one `setup`, every sequence of messages is received to its end; and
after any history of messages, with other callbacks and calls in between: every
next message causes one signal, with the peer of its own sender; the message
signals are those of the messages in their order; the session invariant holds;
and of the sessions opened so far, each but the present one was disposed of
exactly once. -/
theorem single_session_keeps_messages (lib : Library) (first : Event)
    (reply : Reply) (ready : World) (hfirst : first.createsClient = true)
    (hsetup : step lib { client := XmppClient.new } first =
      .ok (reply, ready)) :
    (∀ messages : List (JID × Message), ∃ world,
      (inboxMachine lib ready).Reaches
        (messages.map fun one => .message one.1 one.2) world) ∧
    ∀ history world, (∀ one ∈ history, Inbound.Regular one) →
      (inboxMachine lib ready).Reaches history world →
      (∀ sender msg, ∃ next,
        (inboxMachine lib ready).step world (.message sender msg) =
          .ok (.void, next) ∧
        next.signals = world.signals ++ [.mSignalHandleMsg
          (senderPeer sender.username world.client.mRoster) msg.subject
          msg.body]) ∧
      world.signals.filter Signal.isHandleMsg =
        ((inboxMachine lib ready).trace history).filterMap messageSignalOf ∧
      ∃ client, world.heap.clients[0]? = some client ∧
        SingleSession client world.client.mListener ∧
        client.disposed ++ world.client.mListener.mSession.toList =
          ((inboxMachine lib ready).trace history).filterMap openedSession ∧
        (((inboxMachine lib ready).trace history).filterMap
          openedSession).Nodup := by
  have hstart := received_nil hfirst hsetup
  refine ⟨exists_reaches_messages hstart, ?_⟩
  intro history world hregular hreach
  obtain ⟨client, hreceiving, hsignals, hledger⟩ :=
    Reaches.received hstart hregular hreach
  refine ⟨?_, hsignals, client, hreceiving.held, hreceiving.single, hledger,
    ?_⟩
  · intro sender msg
    refine ⟨_, hreceiving.step_message sender msg, ?_⟩
    rw [← World.holding_signals world sender]
    rfl
  · rw [← hledger]
    exact hreceiving.once

namespace SingleSessionWitness

def alice : JID := ⟨"alice", "example.org", "phone"⟩

def bob : JID := ⟨"bob", "example.org", "desk"⟩

def text (body : String) : Message :=
  ⟨.chat, ⟨"carol", "example.org", ""⟩, body, ""⟩

/-- Two senders in turn, and a second message on a session that is live. -/
def interleaved : List Inbound :=
  [.message alice (text "a1"), .message bob (text "b1"),
    .message alice (text "a2"), .message alice (text "a3")]

/-- Alice's session is evicted for Bob's and opened again: three sessions, of
which the first two are disposed of, and four signals in the order of the
messages. -/
theorem single_session_keeps_messages_interleaved :
    ∃ ready world client,
      step .documented { client := XmppClient.new }
        (.setup "carol" "example.org" false) = .ok (.void, ready) ∧
      (inboxMachine .documented ready).Reaches interleaved world ∧
      world.signals.filter Signal.isHandleMsg =
        [.mSignalHandleMsg {} "" "a1", .mSignalHandleMsg {} "" "b1",
          .mSignalHandleMsg {} "" "a2", .mSignalHandleMsg {} "" "a3"] ∧
      world.heap.clients[0]? = some client ∧
      client.disposed ++ world.client.mListener.mSession.toList =
        [0, 3, 6] := by
  have hkeeps := single_session_keeps_messages .documented
    (.setup "carol" "example.org" false) .void _ rfl rfl
  obtain ⟨_, hsignals, client, hclient, _, hledger, _⟩ :=
    hkeeps.2 interleaved _ (by decide) rfl
  exact ⟨_, _, client, rfl, rfl, hsignals, hclient, hledger⟩

end SingleSessionWitness

end CinderXmpp
