/-
How a client receives messages, as gloox documents it: a message goes to the
handler on the live session of its sender, and a sender without one gets a new
session first, which is announced to the listener.
-/
import CinderXmpp.StepEffect

namespace CinderXmpp

open Gloox

/-- The live session on which a client has a handler for a sender. -/
def World.sessionFor (world : World) (number : Nat) (sender : JID) :
    Option MessageSession :=
  world.heap.clients[number]?.bind (Client.sessionFor sender)

/-- Hand a message to the handler registered on a session, if there is one. -/
def deliverMessage (msg : Message) (session : MessageSession) : XmppM Unit :=
  if session.messageHandlerSet then XmppListener.handleMessage msg session
  else pure ()

/-- Open a session for a sender and announce it to the listener. -/
def announceSession (number : Nat) (sender : JID) : XmppM Nat := do
  let session ← openSession number sender
  XmppListener.handleMessageSession number session
  return session

/-- Receive a message on a client.  After an announcement the session is looked
up again, since the listener may have disposed of it. -/
def receiveMessage (number : Nat) (sender : JID) (msg : Message) :
    XmppM Unit := do
  match (← get).sessionFor number sender with
  | some session => deliverMessage msg session
  | none => do
      let client := (← get).heap.clients[number]?
      if client.any Client.messageSessionHandlerSet then
        let address ← announceSession number sender
        let client := (← get).heap.clients[number]?
        match client.bind (Client.sessionAt address) with
        | some session => deliverMessage msg session
        | none => pure ()
      else pure ()

/-- What comes in: a message for the first client, or any other call or
callback. -/
inductive Inbound where
  | message (sender : JID) (msg : Message)
  | other (event : Event)
deriving Repr

/-- The wrapper with the first client as its inbox, from a given world on. -/
def inboxMachine (lib : Library) (ready : World) :
    Machine World Inbound Reply Fault where
  start := ready
  step world inbound :=
    match inbound with
    | .message sender msg => perform (void (receiveMessage 0 sender msg)) world
    | .other event => step lib world event

/-- The callbacks that are part of receiving a message. -/
def Event.receives : Event → Bool
  | .callback _ (.handleMessage _ _) => true
  | .callback _ (.handleMessageSession _) => true
  | _ => false

/-- Messages, and events that neither create a client nor are part of receiving
a message. -/
def Inbound.Regular : Inbound → Prop
  | .message _ _ => True
  | .other event => event.createsClient = false ∧ event.receives = false

instance : DecidablePred Inbound.Regular
  | .message _ _ => .isTrue trivial
  | .other _ => inferInstanceAs (Decidable (_ ∧ _))

/-- The one signal of a message. -/
def messageSignal (sender : JID) (msg : Message)
    (peers : UnorderedMap String XmppPeer) : Signal :=
  .mSignalHandleMsg (senderPeer sender.username peers) msg.subject msg.body

theorem run_deliverMessage (msg : Message) {session : MessageSession}
    {world : World} (hhandler : session.messageHandlerSet = true)
    (hdelegate : world.delegated = true) :
    (deliverMessage msg session).run world =
      .ok () (world.emitted
        [messageSignal session.target msg world.client.mRoster]) := by
  unfold deliverMessage XmppListener.handleMessage
  rw [if_pos hhandler, run_delegateTo, if_pos hdelegate,
    run_client_handleMessage]
  rfl

theorem run_announceSession (number : Nat) (sender : JID) {world : World}
    {mClient : Nat} (hclient : world.client.mListener.mClient = some mClient) :
    (announceSession number sender).run world =
      .ok world.heap.nextAddress (world.adopting mClient number sender) := by
  simp [announceSession, run_openSession, XmppListener.handleMessageSession,
    run_newFilter, hclient, adoptedHeap, filteredHeap, Heap.modifyClient,
    Heap.bump, World.adopting]

/-! The session of a new sender. -/

/-- A session as the listener leaves it when it has taken it over. -/
def adoptedSession (address : Nat) (sender : JID) : MessageSession where
  address := address
  target := sender
  messageHandlerSet := true
  filters := [⟨address + 1, .messageEvent, true⟩,
    ⟨address + 2, .chatState, true⟩]

section Adoption

variable {client : Client} {session : Nat} {mSession : Option Nat}

/-- Editing the session at an address that is not among them changes none. -/
theorem map_at_of_fresh {sessions : List MessageSession}
    (hfresh : ∀ live ∈ sessions, live.address ≠ session)
    (edit : MessageSession → MessageSession) :
    (sessions.map fun live =>
      if live.address = session then edit live else live) = sessions := by
  rw [List.map_congr_left (g := id)]
  · simp
  · intro live hlive
    exact if_neg (hfresh live hlive)

/-- What the announcement of a session does to the live sessions of any
client: the current one loses the session that the listener held, and the
announcing one gains the new one. -/
theorem sessions_adoptedClient
    (hfresh : ∀ live ∈ client.sessions, live.address ≠ session)
    (hnew : mSession ≠ some session) (mClient owner : Nat) (target : JID)
    (number : Nat) :
    (adoptedClient mClient mSession owner target session number
        client).sessions =
      (if mClient = number then
        client.sessions.filter fun live => !(some live.address == mSession)
      else client.sessions) ++
        if owner = number then [adoptedSession session target] else [] := by
  have hkept : ∀ live ∈ client.sessions.filter
      (fun live => !(some live.address == mSession)),
      live.address ≠ session :=
    fun live hlive => hfresh live (List.mem_of_mem_filter hlive)
  have hbne : (some session == mSession) = false := by
    simpa using hnew.symm
  unfold adoptedClient
  by_cases howner : owner = number <;> by_cases hclient : mClient = number <;>
    simp [howner, hclient, Client.openSession, Client.disposeMessageSession,
      Client.modifySession, Client.call, bne, hbne, map_at_of_fresh hfresh,
      map_at_of_fresh hkept, adoptedSession,
      MessageSession.registerMessageHandler, MessageSession.attach]

/-- The listener never gives up the session that was just announced to it. -/
theorem sessionAt_adoptedClient
    (hfresh : ∀ live ∈ client.sessions, live.address ≠ session)
    (hnew : mSession ≠ some session) (mClient number : Nat) (target : JID) :
    (adoptedClient mClient mSession number target session number
        client).sessionAt session =
      some (adoptedSession session target) := by
  have hothers : ∀ kept : List MessageSession, kept ⊆ client.sessions →
      kept.find? (fun live => live.address = session) = none := by
    intro kept hkept
    rw [List.find?_eq_none]
    intro live hlive
    simpa using hfresh live (hkept hlive)
  unfold Client.sessionAt
  rw [sessions_adoptedClient hfresh hnew, if_pos rfl, List.find?_append]
  split
  · rw [hothers _ (List.filter_subset_self _)]
    simp [adoptedSession]
  · rw [hothers _ (List.Subset.refl _)]
    simp [adoptedSession]

end Adoption

section Reception

variable {world : World} {number : Nat} {sender : JID}

/-- A session that is found for a sender is the sender's. -/
theorem World.sessionFor_eq_some {session : MessageSession}
    (hsession : world.sessionFor number sender = some session) :
    session.target = sender ∧ session.messageHandlerSet = true := by
  obtain ⟨client, _, hfound⟩ := Option.bind_eq_some_iff.mp hsession
  have hlive := List.find?_some hfound
  rw [Bool.and_eq_true, decide_eq_true_eq] at hlive
  exact hlive.symm

/-- Receiving on a live session of the sender. -/
theorem run_receiveMessage_of_session {session : MessageSession}
    (hsession : world.sessionFor number sender = some session)
    (hdelegated : world.delegated = true) (msg : Message) :
    (receiveMessage number sender msg).run world =
      .ok () (world.emitted
        [messageSignal sender msg world.client.mRoster]) := by
  obtain ⟨rfl, hhandler⟩ := World.sessionFor_eq_some hsession
  unfold receiveMessage
  rw [EStateM.run_bind, EStateM.run_get]
  dsimp only
  rw [hsession]
  exact run_deliverMessage msg hhandler hdelegated

/-- Receiving for a sender without one: a session is opened, taken over by the
listener, and used. -/
theorem run_receiveMessage_of_no_session
    (hsession : world.sessionFor number sender = none)
    (hdelegated : world.delegated = true) {client : Client}
    (hclient : world.heap.clients[number]? = some client)
    (hhandler : client.messageSessionHandlerSet = true)
    (hfresh : ∀ live ∈ client.sessions, live.address ≠ world.heap.nextAddress)
    {current : Nat} (hcurrent : world.client.mListener.mClient = some current)
    (hnew : world.client.mListener.mSession ≠ some world.heap.nextAddress)
    (msg : Message) :
    (receiveMessage number sender msg).run world =
      .ok () ((world.adopting current number sender).emitted
        [messageSignal sender msg world.client.mRoster]) := by
  have hafter : (world.adopting current number sender).heap.clients[number]? =
      some (adoptedClient current world.client.mListener.mSession number sender
        world.heap.nextAddress number client) := by
    unfold World.adopting
    rw [getElem?_adoptedHeap, hclient]
    rfl
  have hat := sessionAt_adoptedClient hfresh hnew current number sender
  have hdeliver : (deliverMessage msg
      (adoptedSession world.heap.nextAddress sender)).run
        (world.adopting current number sender) =
      .ok () ((world.adopting current number sender).emitted
        [messageSignal sender msg world.client.mRoster]) :=
    run_deliverMessage msg rfl hdelegated
  unfold receiveMessage
  simp [hsession, hclient, hhandler, run_announceSession number sender hcurrent,
    hafter, hat, hdeliver]

end Reception

end CinderXmpp
