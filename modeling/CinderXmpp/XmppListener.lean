/-
`XmppListener`: the object registered with gloox for every kind of callback.
-/
import CinderXmpp.XmppDelegate

namespace CinderXmpp

open Gloox

namespace XmppListener

/-- The constructor; `delegate` says whether the pointer is set. -/
def new (delegate : Bool) : XmppListener := { mDelegate := delegate }

/-- `if (mDelegate) mDelegate->...`. -/
def delegateTo (call : XmppM Unit) : XmppM Unit := do
  if (← get).client.mListener.mDelegate then call

def setup (lib : Library) (username server : String) (enableLogging : Bool) :
    XmppM Unit := do
  let mServer := (← get).client.mListener.mServer
  let address := username ++ "@" ++ (if server.isEmpty then mServer else server)
  let mClient := (← get).heap.clients.length
  modify fun world =>
    { world with
      heap.clients := world.heap.clients ++
        [{ jid := lib.parseJID address, password := username }],
      client.mListener.mClient := some mClient }
  callClient mClient .registerPresenceHandler
  callClient mClient .registerConnectionListener
  callClient mClient (.registerMessageSessionHandler 0)
  callClient mClient .registerRosterListener
  callClient mClient (.setVersion "messageTest" lib.glooxVersion "Linux")
  callClient mClient (.setIdentity "client" "bot")
  callClient mClient (.addFeature lib.xmlnsChatStates)
  if enableLogging then
    callClient mClient .registerLogHandler

/-- `openConnection` up to its first blocking call, `Client::connect`. -/
def openConnection (toggle : Bool) : XmppM ThreadPoint := do
  let listener := (← get).client.mListener
  match listener.mIsConnected, listener.mClient with
  | false, some mClient => do
      callClient mClient (.connect toggle)
      return .inConnect
  | _, _ => return .finished

/-- The head of the receive loop of `openConnection`. -/
def receiveLoop (ce : ConnectionError) : XmppM ThreadPoint := do
  match ce, (← get).client.mListener.mClient with
  | .connNoError, some mClient => do
      callClient mClient .recv
      return .inRecv
  | _, _ => return .finished

/-- `openConnection` after `Client::connect` has returned. -/
def connectReturned (success : Bool) : XmppM ThreadPoint := do
  if success then receiveLoop .connNoError else return .finished

def onConnect : XmppM Unit := do
  modify fun world => { world with client.mListener.mIsConnected := true }
  delegateTo XmppClient.onConnect

def onDisconnect (e : ConnectionError) : XmppM Unit := do
  modify fun world => { world with client.mListener.mIsConnected := false }
  delegateTo (XmppClient.onDisconnect e)

def onTLSConnect : XmppM Bool := do
  modify fun world => { world with client.mListener.mIsConnected := true }
  delegateTo XmppClient.onTLSConnect
  return true

def handleMessage (msg : Message) (sess : MessageSession) : XmppM Unit :=
  delegateTo (XmppClient.handleMessage msg sess)

def handleMessageEvent (_from : JID) : XmppM Unit := pure ()

def handleChatState (_from : JID) : XmppM Unit := pure ()

/-- `new MessageEventFilter( mSession )` and its chat-state sibling: a filter
attaches itself to the session it is made for, and the listener then becomes
its handler. -/
def newFilter (client session : Nat) (kind : FilterKind) : XmppM Nat := do
  let address ← allocate
  modify fun world =>
    { world with
      heap := world.heap.modifyClient client
        (Client.modifySession session
          (MessageSession.attach ⟨address, kind, true⟩)) }
  return address

/-- `owner` is the client that announces its new session. -/
def handleMessageSession (owner session : Nat) : XmppM Unit := do
  match (← get).client.mListener.mClient with
  | none => undefinedBehaviour .nullClient
  | some mClient =>
      let mSession := (← get).client.mListener.mSession
      modify fun world =>
        { world with
          heap := world.heap.modifyClient mClient
            (Client.disposeMessageSession mSession) }
      modify fun world =>
        { world with
          client.mListener.mSession := some session,
          heap := world.heap.modifyClient owner
            (Client.modifySession session
              MessageSession.registerMessageHandler) }
      let messageEventFilter ← newFilter owner session .messageEvent
      modify fun world =>
        { world with
          client.mListener.mMessageEventFilter := some messageEventFilter }
      let chatStateFilter ← newFilter owner session .chatState
      modify fun world =>
        { world with client.mListener.mChatStateFilter := some chatStateFilter }

/-- The log line goes to the console, which nothing reads. -/
def handleLog (_message : String) : XmppM Unit := pure ()

def handlePresence : XmppM Unit := pure ()

def handleRoster (roster : Roster) : XmppM Unit :=
  delegateTo (XmppClient.handleRoster roster)

def handleRosterPresence (item : RosterItem) (resource : String)
    (presence : PresenceType) (msg : String) : XmppM Unit :=
  delegateTo (XmppClient.handleRosterPresence item resource presence msg)

def handleRosterError : XmppM Unit := pure ()

def handleItemAdded (_jid : JID) : XmppM Unit := pure ()

def handleItemSubscribed (_jid : JID) : XmppM Unit := pure ()

def handleItemRemoved (_jid : JID) : XmppM Unit := pure ()

def handleItemUpdated (_jid : JID) : XmppM Unit := pure ()

def handleItemUnsubscribed (_jid : JID) : XmppM Unit := pure ()

def handleSelfPresence (_item : RosterItem) (_resource : String)
    (_presence : PresenceType) (_msg : String) : XmppM Unit := pure ()

def handleSubscriptionRequest (_jid : JID) (_msg : String) : XmppM Bool :=
  pure false

def handleUnsubscriptionRequest (_jid : JID) (_msg : String) : XmppM Bool :=
  pure false

def handleNonrosterPresence : XmppM Unit := pure ()

def sendMessage (recipient : JID) (message subject : String) : XmppM Bool := do
  let listener := (← get).client.mListener
  match listener.mClient with
  | none => return false
  | some mClient =>
      if !listener.mIsConnected || message.isEmpty then
        return false
      else do
        callClient mClient (.send ⟨.chat, recipient, message, subject⟩)
        return true

end XmppListener

namespace XmppClient

/-- The constructor: the listener is assigned one whose delegate is this. -/
def new : XmppClient := { mListener := XmppListener.new true }

/-- Drop the last reference to a thread: a joinable one ends the process. -/
def releaseThread (thread : Option ListenerThread) : XmppM Unit :=
  match thread with
  | some dropped =>
      if dropped.joinable then
        throw (.fault (.terminate .joinableThread))
      else pure ()
  | none => pure ()

/-- The assignment to `mListenerThread` drops the only reference to the thread
that was there. -/
def assignListenerThread (thread : ListenerThread) : XmppM Unit := do
  let old := (← get).client.mListenerThread
  modify fun world => { world with client.mListenerThread := some thread }
  releaseThread old

def connect (lib : Library) (xmppUser xmppServer : String) : XmppM Bool := do
  if xmppUser.isEmpty || xmppServer.isEmpty then
    return false
  else do
    XmppListener.setup lib xmppUser xmppServer false
    -- `this` is passed for `toggle`: a pointer that converts to true.
    assignListenerThread { toggle := true }
    return true

def sendMessage (lib : Library) (recipient message subject : String) :
    XmppM Bool := do
  let r := recipient ++ "@" ++ (← get).client.mListener.mServer
  XmppListener.sendMessage (lib.parseJID r) message subject

end XmppClient

end CinderXmpp
