/-
Where outgoing messages go.  `XmppClient::sendMessage` completes a recipient
with the server that the listener remembers.  No function stores the server or
the user of a login in the listener, so both fields stay as constructed.
-/
import CinderXmpp.ConnectedFlag
import CinderXmpp.LoginAddress

namespace CinderXmpp

open Gloox History

namespace XmppListener

def isConnected (listener : XmppListener) : Bool := listener.mIsConnected

def server (listener : XmppListener) : String := listener.mServer

def username (listener : XmppListener) : String := listener.mUsername

end XmppListener

/-- The call returns true and hands the current client one stanza, with this
JID as its recipient. -/
def HandsOver (lib : Library) (world : World)
    (recipient message subject : String) (jid : JID) : Prop :=
  ∃ current next, world.client.mListener.mClient = some current ∧
    step lib world (.sendMessage recipient message subject) =
      .ok (.bool true, next) ∧
    next.sentTo current =
      world.sentTo current ++ [⟨.chat, jid, message, subject⟩]

/-- The call hands over a stanza for the recipient at the given server. -/
def SendsTo (lib : Library) (world : World)
    (recipient message subject server : String) : Prop :=
  ∃ jid, HandsOver lib world recipient message subject jid ∧
    jid.username = recipient ∧ jid.server = server

section Fields

variable {lib : Library} {delegate : Bool} {events : List Event}
  {world next : World} {event : Event} {reply : Reply}
  {recipient message subject : String}

theorem HandsOver.unique {jid jid' : JID}
    (hjid : HandsOver lib world recipient message subject jid)
    (hjid' : HandsOver lib world recipient message subject jid') :
    jid = jid' := by
  obtain ⟨current, next, hcurrent, hstep, hsent⟩ := hjid
  obtain ⟨current', next', hcurrent', hstep', hsent'⟩ := hjid'
  rw [hcurrent] at hcurrent'
  obtain rfl := Option.some.inj hcurrent'
  rw [hstep] at hstep'
  simp only [Except.ok.injEq, Prod.mk.injEq, true_and] at hstep'
  subst hstep'
  rw [hsent] at hsent'
  simpa using hsent'

/-- No step assigns the listener's server or username. -/
theorem step_server_username
    (hstep : step lib world event = .ok (reply, next)) :
    next.client.mListener.server = world.client.mListener.server ∧
      next.client.mListener.username = world.client.mListener.username := by
  cases effect_of_step hstep <;> exact ⟨rfl, rfl⟩

theorem Reaches.server_username
    (hreach : (listenerMachine lib delegate).Reaches events world) :
    world.client.mListener.server = "" ∧
      world.client.mListener.username = "" := by
  apply Machine.Reaches.invariant
    (I := fun _ world => world.client.mListener.server = "" ∧
      world.client.mListener.username = "") ⟨rfl, rfl⟩ ?_ hreach
  intro _ world event reply next _ hfields hstep
  obtain ⟨hserver, husername⟩ := step_server_username hstep
  exact ⟨hserver.trans hfields.1, husername.trans hfields.2⟩

/-- While connected, a message with a body goes to the JID that the library
reads in the recipient's address at the remembered server. -/
theorem Reaches.handsOver
    (hreach : (listenerMachine lib delegate).Reaches events world)
    (hcreated : 0 < events.countP Event.createsClient)
    (hconnected : world.client.mListener.isConnected = true)
    (hmessage : message ≠ "") :
    HandsOver lib world recipient message subject
      (lib.parseJID
        (recipient ++ "@" ++ world.client.mListener.server)) := by
  obtain ⟨earlier, hcount⟩ := Nat.exists_eq_succ_of_ne_zero hcreated.ne'
  have hcurrent : world.client.mListener.mClient = some earlier := by
    rw [Reaches.mClient_eq hreach, hcount]
    rfl
  have hstanza : (Event.sendMessage recipient message subject).stanza lib
      world = some ⟨.chat, lib.parseJID
        (recipient ++ "@" ++ world.client.mListener.mServer), message,
        subject⟩ := rfl
  obtain ⟨accepted, next, hstep, haccepted, -, hsent⟩ :=
    Reaches.step_stanza hreach hcurrent hstanza
  obtain rfl := haccepted.mpr ⟨hmessage, hconnected⟩
  exact ⟨earlier, next, hcurrent, hstep, hsent⟩

end Fields

/-- Outgoing messages never go to the server that was logged in to.  Take any
run in which a `connect` returned true, and the state it leads to: the listener
remembers neither the server nor the user, and while connected every message
with a body, for every recipient without separators, is accepted and handed
over for the recipient at no server. -/
theorem never_sends_to_server (lib : Library)
    (hparse : ∀ address, lib.parseJID address = splitJID address)
    (events : List Event) (before world : World) (user server : String)
    (hreach : (clientMachine lib).Reaches events world)
    (hconnect : ⟨before, .connect user server, .bool true⟩ ∈
      (clientMachine lib).trace events) :
    world.client.mListener.server ≠ server ∧
    world.client.mListener.username ≠ user ∧
    (world.client.mListener.isConnected = true →
      ∀ recipient message subject, '@' ∉ recipient.toList →
        '/' ∉ recipient.toList → message ≠ "" →
        HandsOver lib world recipient message subject ⟨recipient, "", ""⟩ ∧
          ¬ SendsTo lib world recipient message subject server) := by
  obtain ⟨pre, connected, hinit, -, hstep⟩ := hreach.of_mem_trace hconnect
  obtain ⟨huser, hserver, -⟩ := step_connect_true hstep
  obtain ⟨hnoServer, hnoUser⟩ := Reaches.server_username hreach
  refine ⟨?_, ?_, ?_⟩
  · rw [hnoServer]
    exact hserver.symm
  · rw [hnoUser]
    exact huser.symm
  intro hconnected recipient message subject hrecipient _ hmessage
  have hcreates : (Event.connect user server).createsClient = true := by
    simp [Event.createsClient, huser, hserver]
  have hcreated : 0 < events.countP Event.createsClient := by
    rw [List.countP_pos_iff]
    exact ⟨_, mem_of_prefix_snoc hinit, hcreates⟩
  have hhands : HandsOver lib world recipient message subject
      ⟨recipient, "", ""⟩ := by
    have hread : HandsOver lib world recipient message subject _ :=
      Reaches.handsOver hreach hcreated hconnected hmessage
    rw [hnoServer, hparse, splitJID_join_at hrecipient] at hread
    exact hread
  refine ⟨hhands, ?_⟩
  rintro ⟨jid, hjid, _, hdomain⟩
  rw [HandsOver.unique hjid hhands] at hdomain
  exact hserver hdomain.symm

namespace ServerAddressWitness

/-- A login, up to the report of the connection. -/
def login : List Event :=
  [.connect "alice" "example.org", .callback 0 .onConnect]

/-- After the login the listener remembers no server, and a message for bob is
accepted and handed over for `bob` at no server at all. -/
theorem not_sends_to_server_login :
    ∃ connected world,
      step .documented { client := XmppClient.new }
        (.connect "alice" "example.org") = .ok (.bool true, connected) ∧
      (clientMachine .documented).Reaches login world ∧
      world.client.mListener.isConnected = true ∧
      world.client.mListener.server ≠ "example.org" ∧
      world.client.mListener.username ≠ "alice" ∧
      ∃ next, step .documented world (.sendMessage "bob" "hi" "") =
          .ok (.bool true, next) ∧
        next.sentTo 0 = [⟨.chat, ⟨"bob", "", ""⟩, "hi", ""⟩] := by
  exact ⟨_, _, rfl, rfl, rfl, by decide, by decide, _, rfl, rfl⟩

theorem never_sends_to_server_login :
    ∃ world, (clientMachine .documented).Reaches login world ∧
      ¬ SendsTo .documented world "bob" "hi" "" "example.org" := by
  have hnever := never_sends_to_server .documented (fun _ => rfl) login _ _
    "alice" "example.org" rfl List.mem_cons_self
  obtain ⟨_, _, hsends⟩ := hnever
  exact ⟨_, rfl, (hsends rfl "bob" "hi" "" (by decide) (by decide)
    (by decide)).2⟩

end ServerAddressWitness

end CinderXmpp
