/-
The part of the gloox library that the wrapper talks to.  Only gloox's headers
are in the repository: its data types follow them, a client is the log of the
calls made on it together with the sessions it owns, and what the compiled
library computes is a `Library` parameter.
-/
import Mathlib.Data.List.Nodup

namespace Gloox

/-- A Jabber ID, as its three (prepped) parts. -/
structure JID where
  username : String
  server : String
  resource : String
deriving DecidableEq, Repr

/-- The JID made of the node and server parts alone. -/
def JID.bareJID (jid : JID) : JID := { jid with resource := "" }

/-- What the compiled library supplies: the parser behind `JID(string)` and
two string constants that the headers only declare. -/
structure Library where
  parseJID : String → JID
  glooxVersion : String
  xmlnsChatStates : String

/-- A JID string read as the headers document it, `user@host/resource`: the
node ends at the first `@`, the server at the first slash after it. -/
def splitJID (jid : String) : JID :=
  let chars := jid.toList
  let node := if '@' ∈ chars then chars.takeWhile (· != '@') else []
  let rest := if '@' ∈ chars then (chars.dropWhile (· != '@')).drop 1 else chars
  { username := String.ofList node
    server := String.ofList (rest.takeWhile (· != '/'))
    resource := String.ofList ((rest.dropWhile (· != '/')).drop 1) }

example : splitJID "alice@example.org/phone" =
    ⟨"alice", "example.org", "phone"⟩ := by
  decide

/-- A library that reads JIDs as documented, with stand-ins for the two
constants. -/
def Library.documented : Library where
  parseJID := splitJID
  glooxVersion := "1.0"
  xmlnsChatStates := "http://jabber.org/protocol/chatstates"

inductive ConnectionError where
  | connNoError
  | connStreamError
  | connStreamVersionError
  | connStreamClosed
  | connProxyAuthRequired
  | connProxyAuthFailed
  | connProxyNoSupportedAuth
  | connIoError
  | connParseError
  | connConnectionRefused
  | connDnsError
  | connOutOfMemory
  | connNoSupportedAuth
  | connTlsFailed
  | connTlsNotAvailable
  | connCompressionFailed
  | connAuthenticationFailed
  | connUserDisconnected
  | connNotConnected
deriving DecidableEq, Repr

/-- `Presence::PresenceType`. -/
inductive PresenceType where
  | available
  | chat
  | away
  | dnd
  | xa
  | unavailable
  | probe
  | error
  | invalid
deriving DecidableEq, Repr

/-- The enumerator's number. -/
def PresenceType.toInt : PresenceType → Nat
  | .available => 0
  | .chat => 1
  | .away => 2
  | .dnd => 3
  | .xa => 4
  | .unavailable => 5
  | .probe => 6
  | .error => 7
  | .invalid => 8

/-- The presence types under which a roster item keeps a resource. -/
def PresenceType.online : PresenceType → Bool
  | .available | .chat | .away | .dnd | .xa => true
  | .unavailable | .probe | .error | .invalid => false

/-- A roster item; `jidJID` is documented to be the contact's bare JID. -/
structure RosterItem where
  jidJID : JID
  isBare : jidJID.bareJID = jidJID
deriving DecidableEq, Repr

theorem RosterItem.ext_jidJID {left right : RosterItem}
    (heq : left.jidJID = right.jidJID) : left = right := by
  cases left
  cases right
  simpa using heq

/-- The item of a JID on the roster: the contact under its bare JID. -/
def RosterItem.ofJID (jid : JID) : RosterItem := ⟨jid.bareJID, rfl⟩

/-- A map from bare JIDs to items, as its items in iteration order.  The key of
an item is its own JID, so no JID occurs twice. -/
structure Roster where
  items : List RosterItem
  keysNodup : (items.map RosterItem.jidJID).Nodup
deriving Repr

/-- The usernames of the items, in iteration order. -/
def Roster.usernames (roster : Roster) : List String :=
  roster.items.map fun item => item.jidJID.username

/-- `Message::MessageType`. -/
inductive MessageType where
  | chat
  | error
  | groupchat
  | headline
  | normal
  | invalid
deriving DecidableEq, Repr

/-- The parts of a message stanza that the wrapper sets or reads. -/
structure Message where
  subtype : MessageType
  recipient : JID
  body : String
  subject : String
deriving DecidableEq, Repr

/-- Which kind of message filter is attached to a session. -/
inductive FilterKind where
  | messageEvent
  | chatState
deriving DecidableEq, Repr

/-- A message filter by its address; `handlerSet` says that the listener was
registered as its handler. -/
structure MessageFilter where
  address : Nat
  kind : FilterKind
  handlerSet : Bool
deriving DecidableEq, Repr

/-- A message session by its address.  `messageHandlerSet` says that the
listener was registered as its message handler. -/
structure MessageSession where
  address : Nat
  target : JID
  messageHandlerSet : Bool := false
  filters : List MessageFilter := []
deriving DecidableEq, Repr

/-- `MessageSession::registerMessageHandler` with the listener. -/
def MessageSession.registerMessageHandler (session : MessageSession) :
    MessageSession :=
  { session with messageHandlerSet := true }

/-- Hook a filter into the session's filter chain. -/
def MessageSession.attach (filter : MessageFilter) (session : MessageSession) :
    MessageSession :=
  { session with filters := session.filters ++ [filter] }

/-- A call that the wrapper makes on a client. -/
inductive ClientCall where
  | registerPresenceHandler
  | registerConnectionListener
  | registerMessageSessionHandler (types : Nat)
  | registerRosterListener
  | setVersion (name version os : String)
  | setIdentity (category type : String)
  | addFeature (feature : String)
  | registerLogHandler
  | connect (block : Bool)
  | recv
  | send (message : Message)
  | disposeMessageSession (session : Option Nat)
  | disconnect
deriving DecidableEq, Repr

/-- A client object: its constructor's arguments, the calls made on it so far,
its live sessions, and whether it was deleted. -/
structure Client where
  jid : JID
  password : String
  calls : List ClientCall := []
  sessions : List MessageSession := []
  deleted : Bool := false
deriving DecidableEq, Repr

/-- Append a call to the client's log. -/
def Client.call (entry : ClientCall) (client : Client) : Client :=
  { client with calls := client.calls ++ [entry] }

/-- `delete` of the client object. -/
def Client.delete (client : Client) : Client := { client with deleted := true }

/-- The stanzas handed to the client, oldest first. -/
def Client.sent (client : Client) : List Message :=
  client.calls.filterMap fun entry =>
    match entry with
    | .send message => some message
    | _ => none

/-- The sessions that were disposed of, oldest first. -/
def Client.disposed (client : Client) : List Nat :=
  client.calls.filterMap fun entry =>
    match entry with
    | .disposeMessageSession session => session
    | _ => none

/-- A handler is registered for the sessions of messages of any type. -/
def Client.messageSessionHandlerSet (client : Client) : Bool :=
  client.calls.contains (.registerMessageSessionHandler 0)

/-- The live session for a full JID that has a message handler. -/
def Client.sessionFor (jid : JID) (client : Client) : Option MessageSession :=
  client.sessions.find? fun live =>
    live.messageHandlerSet && decide (live.target = jid)

/-- The live session at an address. -/
def Client.sessionAt (address : Nat) (client : Client) :
    Option MessageSession :=
  client.sessions.find? fun live => live.address = address

/-- `ClientBase::disposeMessageSession`: forget and delete a live session;
a null session changes nothing.  That a session of another client changes
nothing either is assumed: the header does not say. -/
def Client.disposeMessageSession (session : Option Nat) (client : Client) :
    Client :=
  let kept := client.sessions.filter fun live => some live.address != session
  { client.call (.disposeMessageSession session) with sessions := kept }

/-- Create a session for a JID. -/
def Client.openSession (address : Nat) (target : JID) (client : Client) :
    Client :=
  { client with
    sessions := client.sessions ++ [{ address := address, target := target }] }

/-- Edit the live session at an address. -/
def Client.modifySession (address : Nat)
    (edit : MessageSession → MessageSession) (client : Client) : Client :=
  { client with
    sessions := client.sessions.map fun live =>
      if live.address = address then edit live else live }

/-- The library's side of the world: every client created so far, and the next
unused address for a session or a filter. -/
structure Heap where
  clients : List Client := []
  nextAddress : Nat := 0
deriving DecidableEq, Repr

/-- Take the next unused address. -/
def Heap.bump (heap : Heap) : Heap :=
  { heap with nextAddress := heap.nextAddress + 1 }

/-- Edit the client with a given number. -/
def Heap.modifyClient (client : Nat) (edit : Client → Client) (heap : Heap) :
    Heap :=
  { heap with clients := heap.clients.modify client edit }

end Gloox
