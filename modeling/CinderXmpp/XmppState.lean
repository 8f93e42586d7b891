/-
The objects behind one `XmppClient` and the ways in which a call on them can
end.  `World` is everything a call can read or write: the client with the
listener it owns, the gloox objects, and the signals emitted so far.
-/
import CinderXmpp.Lib.UnorderedMap
import CinderXmpp.XmppPeer

namespace CinderXmpp

open Gloox

/-- The exception classes of `XmppClient.h`. -/
inductive XmppExc where
  | xmppExc
  | xmppAuthExc
  | xmppProtocolExc
  | xmppStreamExc
  | xmppConnectionExc
deriving DecidableEq, Repr

/-- What a call can follow although it points to nothing.  No other undefined
behaviour is modelled: a call runs as a whole, so threads do not race for a
field, and what gloox hands to a callback is alive for as long. -/
inductive Undefined where
  /-- `mRoster.end()` is dereferenced. -/
  | derefEnd
  /-- A member of the null client is called. -/
  | nullClient
deriving DecidableEq, Repr

/-- Why the process is terminated. -/
inductive Terminate where
  /-- A joinable `std::thread` is destroyed. -/
  | joinableThread
  /-- An exception leaves a thread function or a destructor. -/
  | uncaught (exc : XmppExc)
deriving DecidableEq, Repr

/-- What no caller can recover from. -/
inductive Fault where
  | undefined (cause : Undefined)
  | terminate (cause : Terminate)
deriving DecidableEq, Repr

/-- How a call ends when it does not return. -/
inductive Failure where
  | exception (exc : XmppExc)
  | fault (fault : Fault)
deriving DecidableEq, Repr

/-- Where the thread function `XmppListener::openConnection` stands: not yet
entered, inside one of gloox's blocking calls, or returned. -/
inductive ThreadPoint where
  | created
  | inConnect
  | inRecv
  | finished
deriving DecidableEq, Repr

/-- The `std::thread` behind a `ThreadRef`, with the argument its function is
started with.  Nothing in the sources joins or detaches it, so it is joinable
from its start on. -/
structure ListenerThread where
  toggle : Bool
  point : ThreadPoint := .created
  joinable : Bool := true
deriving DecidableEq, Repr

/-- The fields of `XmppListener`.  A client is its number, a session or filter
its address, and `mDelegate` says whether the delegate pointer is set. -/
structure XmppListener where
  mIsConnected : Bool := false
  mServer : String := ""
  mUsername : String := ""
  mClient : Option Nat := none
  mSession : Option Nat := none
  mMessageEventFilter : Option Nat := none
  mChatStateFilter : Option Nat := none
  mDelegate : Bool := false
deriving DecidableEq, Repr

/-- The fields of `XmppClient` other than its signals. -/
structure XmppClient where
  mListener : XmppListener := {}
  mListenerThread : Option ListenerThread := none
  mRoster : UnorderedMap String XmppPeer := ∅
deriving DecidableEq

/-- One emission of one of the six signals, with its arguments. -/
inductive Signal where
  | mSignalConnect
  | mSignalDisconnect
  | mSignalTlsConnect
  | mSignalRoster (userlist : List String)
  | mSignalHandleMsg (peer : XmppPeer) (subject body : String)
  | mSignalRosterPresence (peer : XmppPeer) (resource : String)
      (status : Status) (message : String)
deriving DecidableEq, Repr

structure World where
  client : XmppClient := {}
  heap : Heap := {}
  signals : List Signal := []
deriving DecidableEq

/-- A member function: it reads and writes the world, and may throw with the
writes made so far kept. -/
abbrev XmppM := EStateM Failure World

/-- Emit a signal. -/
def emit (signal : Signal) : XmppM Unit :=
  modify fun world => { world with signals := world.signals ++ [signal] }

/-- `throw` of one of the exception classes. -/
def throwExc {α : Type} (exc : XmppExc) : XmppM α := throw (.exception exc)

/-- Undefined behaviour. -/
def undefinedBehaviour {α : Type} (cause : Undefined) : XmppM α :=
  throw (.fault (.undefined cause))

/-- Make a call on a gloox client. -/
def callClient (client : Nat) (entry : ClientCall) : XmppM Unit :=
  modify fun world =>
    { world with heap := world.heap.modifyClient client (Client.call entry) }

/-- A new address for a session or a filter. -/
def allocate : XmppM Nat :=
  modifyGet fun world =>
    (world.heap.nextAddress, { world with heap := world.heap.bump })

end CinderXmpp
