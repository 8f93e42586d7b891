/-
Sending over a whole run.  What reached the gloox client is compared with the
replies of the calls to `sendMessage`, also where a disconnect left by an
exception in between.
-/
import CinderXmpp.ConnectedFlag

namespace CinderXmpp

open Gloox History Machine

/-- The stanza of a call to `sendMessage` that returned true. -/
def acceptedStanza (lib : Library) (executed : Executed World Event Reply) :
    Option Message :=
  if executed.reply = .bool true then
    executed.event.stanza lib executed.before
  else none

/-- The last lifecycle callback reported a connection, `onConnect` or
`onTLSConnect`. -/
def lastReportedUp (events : List Event) : Prop :=
  lastSome Event.lifecycle events = some true

instance (events : List Event) : Decidable (lastReportedUp events) :=
  inferInstanceAs (Decidable (_ = _))

theorem Reaches.mIsConnected_iff {lib : Library} {delegate : Bool}
    {events : List Event} {world : World}
    (hreach : (listenerMachine lib delegate).Reaches events world) :
    world.client.mListener.mIsConnected = true ↔ lastReportedUp events := by
  rw [Reaches.mIsConnected_eq_lastSome hreach]
  unfold lastReportedUp
  cases lastSome Event.lifecycle events <;> simp

section Stanzas

variable {lib : Library} {world next : World} {event : Event} {reply : Reply}

theorem Client.sent_call {entry : ClientCall}
    (hentry : ∀ message, entry ≠ .send message) (client : Client) :
    (client.call entry).sent = client.sent := by
  cases entry with
  | send message => exact absurd rfl (hentry message)
  | _ => simp [Client.sent, Client.call]

@[simp] theorem Client.sent_openSession (address : Nat) (target : JID)
    (client : Client) :
    (client.openSession address target).sent = client.sent := rfl

@[simp] theorem Client.sent_modifySession (address : Nat)
    (edit : MessageSession → MessageSession) (client : Client) :
    (client.modifySession address edit).sent = client.sent := rfl

@[simp] theorem Client.sent_disposeMessageSession (session : Option Nat)
    (client : Client) :
    (client.disposeMessageSession session).sent = client.sent := by
  have hno : ∀ message,
      ClientCall.disposeMessageSession session ≠ .send message := by
    simp
  exact Client.sent_call hno client

theorem sent_adoptedClient (mClient : Nat) (mSession : Option Nat)
    (owner : Nat) (target : JID) (session number : Nat) (client : Client) :
    (adoptedClient mClient mSession owner target session number client).sent =
      client.sent := by
  unfold adoptedClient
  split_ifs <;> simp

theorem World.sentTo_called_of_no_send {target : Nat} {entry : ClientCall}
    (hentry : ∀ message, entry ≠ .send message) (number : Nat) :
    (world.called target entry).sentTo number = world.sentTo number := by
  unfold World.sentTo World.called Heap.modifyClient
  simp only [List.getElem?_modify]
  cases world.heap.clients[number]? with
  | none => rfl
  | some client =>
      by_cases htarget : target = number <;>
        simp [htarget, Client.sent_call hentry]

/-- A new client has been handed nothing. -/
theorem World.sentTo_installed (username server : String)
    (enableLogging : Bool) (number : Nat) :
    (world.installed (configuredClient lib world.client.mListener.mServer
      username server enableLogging)).sentTo number = world.sentTo number := by
  unfold World.sentTo World.installed
  rcases lt_trichotomy number world.heap.clients.length with hlt | heq | hgt
  · simp [List.getElem?_append_left hlt]
  · subst heq
    cases enableLogging <;> simp [configuredClient, Client.sent]
  · have hlength : (world.heap.clients ++ [configuredClient lib
        world.client.mListener.mServer username server enableLogging]).length ≤
        number := by
      rw [List.length_append]
      exact hgt
    simp [List.getElem?_eq_none hlength, List.getElem?_eq_none hgt.le]

/-- While only the client with this number can be current, a step hands it
the stanza of an accepted `sendMessage`, and nothing else. -/
theorem step_sentTo {number : Nat}
    (hcurrent : ∀ current, world.client.mListener.mClient = some current →
      current = number ∧ number < world.heap.clients.length)
    (hstep : step lib world event = .ok (reply, next)) :
    next.sentTo number = world.sentTo number ++
      (acceptedStanza lib ⟨world, event, reply⟩).toList := by
  cases effect_of_step hstep with
  | stanzaSent event message current hstanza haccepts =>
      obtain ⟨_, _, hclient⟩ := World.accepts_eq_some_iff.mp haccepts
      obtain ⟨rfl, hlt⟩ := hcurrent current hclient
      simp [acceptedStanza, hstanza, World.sentTo_called hlt]
  | stanzaRefused event message hstanza haccepts =>
      simp [acceptedStanza]
  | sessionAdopted client mClient target hclient =>
      simp [acceptedStanza, World.sentTo, World.adopting, getElem?_adoptedHeap,
        Function.comp_def, sent_adoptedClient]
  | setUp username server enableLogging =>
      simp [acceptedStanza, World.sentTo_installed]
  | connectStarted xmppUser xmppServer hempty hthread =>
      have hinstalled : (world.installed (configuredClient lib
          world.client.mListener.mServer xmppUser xmppServer false)).sentTo
            number = world.sentTo number :=
        World.sentTo_installed xmppUser xmppServer false number
      simpa [acceptedStanza, Event.stanza, World.connecting, World.sentTo]
        using hinstalled
  | connectionOpened toggle current hconnected hclient =>
      have hno : ∀ message, ClientCall.connect toggle ≠ .send message := by
        simp
      rw [World.sentTo_called_of_no_send hno]
      simp [acceptedStanza]
  | inert client cb reply hinert hreply =>
      simp [acceptedStanza, Event.stanza]
  | undelegated client cb hdelegate hroster =>
      simp [acceptedStanza]
  | _ => simp [acceptedStanza, Event.stanza, World.sentTo, World.emitted]

end Stanzas

section OneSetup

variable {lib : Library} {first event : Event} {tail pre : List Event}
  {world : World}

theorem countP_createsClient_cons (hfirst : first.createsClient = true)
    (htail : ∀ later ∈ tail, later.createsClient = false) :
    (first :: tail).countP Event.createsClient = 1 := by
  have hnone : tail.countP Event.createsClient = 0 := by
    rw [List.countP_eq_zero]
    intro later hlater
    simp [htail later hlater]
  rw [List.countP_cons_of_pos hfirst, hnone]

/-- In a run that starts with its only `setup`, exactly one client is there at
every later point. -/
theorem countP_createsClient_prefix (hfirst : first.createsClient = true)
    (htail : ∀ later ∈ tail, later.createsClient = false)
    (hinit : pre ++ [event] <+: first :: tail)
    (hevent : event.createsClient = false) :
    pre.countP Event.createsClient = 1 := by
  cases pre with
  | nil =>
      obtain ⟨rfl, -⟩ := List.cons_prefix_cons.mp hinit
      simp [hfirst] at hevent
  | cons head rest =>
      obtain ⟨rfl, hrest⟩ := List.cons_prefix_cons.mp hinit
      apply countP_createsClient_cons hfirst
      intro later hlater
      exact htail later (hrest.subset (List.mem_append_left _ hlater))

theorem Reaches.current_of_countP_le
    (hreach : (clientMachine lib).Reaches pre world)
    (hone : pre.countP Event.createsClient ≤ 1) {current : Nat}
    (hcurrent : world.client.mListener.mClient = some current) :
    current = 0 ∧ 0 < world.heap.clients.length := by
  have hlt := Reaches.mClient_lt hreach hcurrent
  have hlength := Reaches.clients_length hreach
  refine ⟨?_, ?_⟩ <;> omega

end OneSetup

/-- Send gating.  In every run after one `setup`, whatever callbacks and calls
follow and however its disconnects end: the client was handed the stanzas of
exactly the calls that returned true, in order; a call returns true exactly if
it has a body and the last lifecycle callback before it reported a connection;
and no call changes a field. -/
theorem sent_eq_accepted (lib : Library) (first : Event) (tail : List Event)
    (world : World) (hfirst : first.createsClient = true)
    (htail : ∀ later ∈ tail, later.createsClient = false)
    (hreach : (clientMachine lib).Reaches (first :: tail) world) :
    world.sentTo 0 =
      ((clientMachine lib).trace (first :: tail)).filterMap
        (acceptedStanza lib) ∧
    (∀ pre event before message, pre ++ [event] <+: first :: tail →
      (clientMachine lib).Reaches pre before →
      event.stanza lib before = some message →
      ∃ accepted after, step lib before event = .ok (.bool accepted, after) ∧
        (accepted = true ↔ message.body ≠ "" ∧ lastReportedUp pre) ∧
        after.client = before.client) := by
  refine ⟨?_, ?_⟩
  · have hone : Guarded (fun pre _ => pre.countP Event.createsClient ≤ 1)
        (first :: tail) := by
      intro pre event hinit
      rw [← countP_createsClient_cons hfirst htail]
      exact ((List.prefix_append pre [event]).trans hinit).sublist.countP_le
    apply Machine.Reaches.log (fun world => world.sentTo 0)
      (acceptedStanza lib) rfl ?_ hone hreach
    intro events before event reply after hbefore hcount hstep
    apply step_sentTo ?_ hstep
    intro current hcurrent
    obtain ⟨rfl, hlt⟩ :=
      Reaches.current_of_countP_le hbefore hcount hcurrent
    exact ⟨rfl, hlt⟩
  · intro pre event before message hinit hbefore hstanza
    have hneutral := Event.neutral_of_stanza hstanza
    have hone := countP_createsClient_prefix hfirst htail hinit
      hneutral.createsClient
    obtain ⟨accepted, after, hstep, haccepted, hclient, -⟩ :=
      Reaches.step_stanza hbefore (Reaches.one_client hbefore hone) hstanza
    rw [Reaches.mIsConnected_iff hbefore] at haccepted
    exact ⟨accepted, after, hstep, haccepted, hclient⟩

namespace SendGatingWitness

def bob : JID := ⟨"bob", "example.org", ""⟩

/-- The calls and callbacks after the `setup`: a send between TLS and a
disconnect that throws, one right after it, and two once logged in again. -/
def reconnection : List Event :=
  [.callback 0 .onTLSConnect, .send bob "hi" "",
    .callback 0 (.onDisconnect .connTlsFailed), .send bob "lost" "",
    .callback 0 .onConnect, .send bob "" "", .send bob "back" "re"]

/-- The disconnect leaves by an exception, and the flag is down after it: of
the four calls, the two that returned true reached the client. -/
theorem sent_eq_accepted_reconnection :
    ∃ world, (clientMachine .documented).Reaches
        (.setup "alice" "example.org" false :: reconnection) world ∧
      ((clientMachine .documented).trace
        (.setup "alice" "example.org" false :: reconnection)).map
          Executed.reply =
        [.void, .bool true, .bool true, .threw .xmppAuthExc, .bool false,
          .void, .bool false, .bool true] ∧
      world.sentTo 0 =
        [⟨.chat, bob, "hi", ""⟩, ⟨.chat, bob, "back", "re"⟩] := by
  refine ⟨_, rfl, rfl, ?_⟩
  exact (sent_eq_accepted .documented (.setup "alice" "example.org" false)
    reconnection _ rfl (by decide) rfl).1

end SendGatingWitness

end CinderXmpp
