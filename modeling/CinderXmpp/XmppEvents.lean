/-
The wrapper as a machine: the calls an application makes and the callbacks that
gloox delivers, in any order.  An exception that leaves a callback is handled
by the caller of the callback and shows as the reply; what it unwinds of an
`openConnection` that waits for the callback is no part of this machine.
-/
import CinderXmpp.Lib.Machine
import CinderXmpp.XmppListener

namespace CinderXmpp

open Gloox History

/-- A gloox callback with its arguments.  A message session is announced by the
JID it was opened for. -/
inductive Callback where
  | onConnect
  | onDisconnect (e : ConnectionError)
  | onTLSConnect
  | handleMessage (msg : Message) (sess : MessageSession)
  | handleMessageEvent (jid : JID)
  | handleChatState (jid : JID)
  | handleMessageSession (target : JID)
  | handleLog (message : String)
  | handlePresence
  | handleRoster (roster : Roster)
  | handleRosterPresence (item : RosterItem) (resource : String)
      (presence : PresenceType) (msg : String)
  | handleRosterError
  | handleItemAdded (jid : JID)
  | handleItemSubscribed (jid : JID)
  | handleItemRemoved (jid : JID)
  | handleItemUpdated (jid : JID)
  | handleItemUnsubscribed (jid : JID)
  | handleSelfPresence (item : RosterItem) (resource : String)
      (presence : PresenceType) (msg : String)
  | handleSubscriptionRequest (jid : JID) (msg : String)
  | handleUnsubscriptionRequest (jid : JID) (msg : String)
  | handleNonrosterPresence
deriving Repr

/-- One step of a run: a callback from one of the clients, or a call into the
listener (`setup`, `openConnection`, `send`) or the client (`connect`,
`sendMessage`). -/
inductive Event where
  | callback (client : Nat) (cb : Callback)
  | setup (username server : String) (enableLogging : Bool)
  | openConnection (toggle : Bool)
  | send (recipient : JID) (message subject : String)
  | connect (xmppUser xmppServer : String)
  | sendMessage (recipient message subject : String)
deriving Repr

/-- What the caller gets back. -/
inductive Reply where
  | void
  | bool (value : Bool)
  | threw (exc : XmppExc)
deriving DecidableEq, Repr

/-- gloox opens a session for a JID before it announces it. -/
def openSession (client : Nat) (target : JID) : XmppM Nat := do
  let address ← allocate
  modify fun world =>
    { world with
      heap := world.heap.modifyClient client
        (Client.openSession address target) }
  return address

/-- `void` functions reply with `Reply.void`. -/
def void (call : XmppM Unit) : XmppM Reply := do
  call
  return .void

/-- Functions that return a boolean. -/
def boolean (call : XmppM Bool) : XmppM Reply := do
  return .bool (← call)

/-- The listener's member function behind a callback. -/
def Callback.deliver (client : Nat) : Callback → XmppM Reply
  | .onConnect => void XmppListener.onConnect
  | .onDisconnect e => void (XmppListener.onDisconnect e)
  | .onTLSConnect => boolean XmppListener.onTLSConnect
  | .handleMessage msg sess => void (XmppListener.handleMessage msg sess)
  | .handleMessageEvent jid => void (XmppListener.handleMessageEvent jid)
  | .handleChatState jid => void (XmppListener.handleChatState jid)
  | .handleMessageSession target => void do
      let session ← openSession client target
      XmppListener.handleMessageSession client session
  | .handleLog message => void (XmppListener.handleLog message)
  | .handlePresence => void XmppListener.handlePresence
  | .handleRoster roster => void (XmppListener.handleRoster roster)
  | .handleRosterPresence item resource presence msg =>
      void (XmppListener.handleRosterPresence item resource presence msg)
  | .handleRosterError => void XmppListener.handleRosterError
  | .handleItemAdded jid => void (XmppListener.handleItemAdded jid)
  | .handleItemSubscribed jid => void (XmppListener.handleItemSubscribed jid)
  | .handleItemRemoved jid => void (XmppListener.handleItemRemoved jid)
  | .handleItemUpdated jid => void (XmppListener.handleItemUpdated jid)
  | .handleItemUnsubscribed jid =>
      void (XmppListener.handleItemUnsubscribed jid)
  | .handleSelfPresence item resource presence msg =>
      void (XmppListener.handleSelfPresence item resource presence msg)
  | .handleSubscriptionRequest jid msg =>
      boolean (XmppListener.handleSubscriptionRequest jid msg)
  | .handleUnsubscriptionRequest jid msg =>
      boolean (XmppListener.handleUnsubscriptionRequest jid msg)
  | .handleNonrosterPresence => void XmppListener.handleNonrosterPresence

/-- The code that an event runs.  `openConnection` ends here where it makes its
call of `Client::connect`; the callbacks within that are events of their own,
and what the function does after it is left to `loopMachine` and
`processMachine`. -/
def Event.execute (lib : Library) : Event → XmppM Reply
  | .callback client cb => cb.deliver client
  | .setup username server enableLogging =>
      void (XmppListener.setup lib username server enableLogging)
  | .openConnection toggle => void do
      let _ ← XmppListener.openConnection toggle
  | .send recipient message subject =>
      boolean (XmppListener.sendMessage recipient message subject)
  | .connect xmppUser xmppServer =>
      boolean (XmppClient.connect lib xmppUser xmppServer)
  | .sendMessage recipient message subject =>
      boolean (XmppClient.sendMessage lib recipient message subject)

/-- Run code on a world.  A thrown exception reaches the caller. -/
def perform (call : XmppM Reply) (world : World) :
    Except Fault (Reply × World) :=
  match call.run world with
  | .ok reply next => .ok (reply, next)
  | .error (.exception exc) next => .ok (.threw exc, next)
  | .error (.fault fault) _ => .error fault

/-- Run an event's code. -/
def step (lib : Library) (world : World) (event : Event) :
    Except Fault (Reply × World) :=
  perform (event.execute lib) world

/-- A listener with or without a delegate, and nothing set up yet. -/
def World.start (delegate : Bool) : World :=
  { client := { mListener := XmppListener.new delegate } }

/-- A listener, together with its `XmppClient` if it has a delegate. -/
def listenerMachine (lib : Library) (delegate : Bool) :
    Machine World Event Reply Fault where
  start := World.start delegate
  step := step lib

/-- An `XmppClient` from its construction on. -/
def clientMachine (lib : Library) : Machine World Event Reply Fault where
  start := { client := XmppClient.new }
  step := step lib

theorem clientMachine_eq (lib : Library) :
    clientMachine lib = listenerMachine lib true := rfl

end CinderXmpp
