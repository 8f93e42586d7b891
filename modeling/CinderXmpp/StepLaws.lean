/-
What one step of a run does, function by function.  Every later invariant is
derived from these laws; none unfolds the functions again.
-/
import CinderXmpp.XmppEvents

namespace CinderXmpp

open Gloox History

/-- The delegate pointer of the listener is set. -/
abbrev World.delegated (world : World) : Bool :=
  world.client.mListener.mDelegate

/-- The world after its emissions have been extended. -/
def World.emitted (world : World) (signals : List Signal) : World :=
  { world with signals := world.signals ++ signals }

/-- The exception that `XmppClient::onDisconnect` throws for a reason. -/
def disconnectExc : ConnectionError → Option XmppExc
  | .connNoError => none
  | .connStreamError | .connStreamClosed | .connIoError => some .xmppStreamExc
  | .connProxyAuthRequired | .connProxyAuthFailed | .connProxyNoSupportedAuth
  | .connTlsFailed | .connTlsNotAvailable | .connNoSupportedAuth
  | .connAuthenticationFailed => some .xmppAuthExc
  | .connParseError | .connStreamVersionError => some .xmppProtocolExc
  | .connUserDisconnected | .connNotConnected | .connDnsError
  | .connConnectionRefused => some .xmppConnectionExc
  | .connOutOfMemory | .connCompressionFailed => some .xmppExc

theorem disconnectExc_eq_none_iff (e : ConnectionError) :
    disconnectExc e = none ↔ e = .connNoError := by
  cases e <;> simp [disconnectExc]

@[simp] theorem run_map {α β : Type} (f : α → β) (call : XmppM α)
    (world : World) :
    (f <$> call).run world =
      match call.run world with
      | .ok value next => .ok (f value) next
      | .error failure next => .error failure next := by
  rw [map_eq_pure_bind, EStateM.run_bind]
  cases call.run world <;> rfl

/-- Performing a `void` function is running it. -/
theorem perform_void (call : XmppM Unit) (world : World) :
    perform (void call) world =
      match call.run world with
      | .ok _ next => .ok (.void, next)
      | .error (.exception exc) next => .ok (.threw exc, next)
      | .error (.fault fault) _ => .error fault := by
  have hvoid : void call = (fun _ => Reply.void) <$> call := by
    rw [map_eq_pure_bind]
    rfl
  rw [perform, hvoid, run_map]
  cases call.run world with
  | ok value next => rfl
  | error failure next => cases failure <;> rfl

theorem perform_boolean (call : XmppM Bool) (world : World) :
    perform (boolean call) world =
      match call.run world with
      | .ok value next => .ok (.bool value, next)
      | .error (.exception exc) next => .ok (.threw exc, next)
      | .error (.fault fault) _ => .error fault := by
  have hboolean : boolean call = Reply.bool <$> call := by
    rw [map_eq_pure_bind]
    rfl
  rw [perform, hboolean, run_map]
  cases call.run world with
  | ok value next => rfl
  | error failure next => cases failure <;> rfl

theorem run_emit (signal : Signal) (world : World) :
    (emit signal).run world = .ok () (world.emitted [signal]) := by
  simp [emit, World.emitted]

theorem run_delegateTo (call : XmppM Unit) (world : World) :
    (XmppListener.delegateTo call).run world =
      if world.delegated then call.run world else .ok () world := by
  unfold XmppListener.delegateTo World.delegated
  cases hdelegate : world.client.mListener.mDelegate <;> simp [hdelegate]

theorem run_client_onDisconnect (e : ConnectionError) (world : World) :
    (XmppClient.onDisconnect e).run world =
      match disconnectExc e with
      | none => .ok () (world.emitted [.mSignalDisconnect])
      | some exc => .error (.exception exc) world := by
  cases e <;>
    simp [XmppClient.onDisconnect, disconnectExc, throwExc, run_emit]

/-- The loop of `handleRoster` fills the map and lists the names. -/
theorem handleRoster_fold (items : List RosterItem)
    (mRoster : UnorderedMap String XmppPeer) (userlist : List String) :
    items.foldl
      (fun (acc : UnorderedMap String XmppPeer × List String) item =>
        let username := item.jidJID.username
        (UnorderedMap.insertNew username { mUsername := username } acc.1,
          acc.2 ++ [username]))
      (mRoster, userlist) =
    (UnorderedMap.insertAll (fun item => item.jidJID.username)
        (fun item => { mUsername := item.jidJID.username }) items mRoster,
      userlist ++ items.map fun item => item.jidJID.username) := by
  induction items generalizing mRoster userlist with
  | nil => simp [UnorderedMap.insertAll]
  | cons head tail ih =>
      simp only [List.foldl_cons, List.map_cons]
      rw [ih]
      simp [UnorderedMap.insertAll]

/-- The peers made for a roster: one for each username, from the first item
that has it. -/
def freshPeers (roster : Roster) : UnorderedMap String XmppPeer :=
  UnorderedMap.insertAll (fun item => item.jidJID.username)
    (fun item => { mUsername := item.jidJID.username }) roster.items ∅

theorem run_client_handleRoster (roster : Roster) (world : World) :
    (XmppClient.handleRoster roster).run world =
      .ok () ({ world with client.mRoster := freshPeers roster }.emitted
        [.mSignalRoster roster.usernames]) := by
  simp [XmppClient.handleRoster, handleRoster_fold, run_emit, freshPeers,
    Roster.usernames]

/-- The peers after a presence event for a username. -/
def presencePeers (name : String) (presence : PresenceType)
    (peers : UnorderedMap String XmppPeer) : UnorderedMap String XmppPeer :=
  UnorderedMap.adjust name
    (XmppPeer.setStatus (XmppPeer.presenceToStatus presence)) peers

theorem run_client_handleRosterPresence (item : RosterItem) (resource : String)
    (presence : PresenceType) (message : String) (world : World) :
    (XmppClient.handleRosterPresence item resource presence message).run world =
      match world.client.mRoster.lookup item.jidJID.username with
      | some peer =>
          let status := XmppPeer.presenceToStatus presence
          .ok () ({ world with
              client.mRoster := presencePeers item.jidJID.username presence
                world.client.mRoster }.emitted
            [.mSignalRosterPresence (peer.setStatus status) resource status
              message])
      | none => .error (.fault (.undefined .derefEnd)) world := by
  cases hlookup : world.client.mRoster.lookup item.jidJID.username with
  | none =>
      have hnot : item.jidJID.username ∉ world.client.mRoster :=
        Finmap.lookup_eq_none.mp hlookup
      simp [XmppClient.handleRosterPresence, hnot, hlookup, undefinedBehaviour]
  | some peer =>
      have hmem : item.jidJID.username ∈ world.client.mRoster :=
        Finmap.mem_of_lookup_eq_some hlookup
      simp [XmppClient.handleRosterPresence, hmem, hlookup, run_emit,
        presencePeers]

/-- The peer that `XmppClient::handleMessage` passes on for a sender. -/
def senderPeer (name : String) (peers : UnorderedMap String XmppPeer) :
    XmppPeer :=
  (peers.lookup name).getD {}

theorem run_client_handleMessage (msg : Message) (sess : MessageSession)
    (world : World) :
    (XmppClient.handleMessage msg sess).run world =
      .ok () (world.emitted [.mSignalHandleMsg
        (senderPeer sess.target.username world.client.mRoster)
        msg.subject msg.body]) := by
  cases hlookup : world.client.mRoster.lookup sess.target.username <;>
    simp [XmppClient.handleMessage, senderPeer, hlookup, run_emit]

/-- The stanza a call to either `sendMessage` would hand to the client. -/
def Event.stanza (lib : Library) (world : World) : Event → Option Message
  | .send recipient message subject =>
      some ⟨.chat, recipient, message, subject⟩
  | .sendMessage recipient message subject =>
      some ⟨.chat,
        lib.parseJID (recipient ++ "@" ++ world.client.mListener.mServer),
        message, subject⟩
  | _ => none

/-- The gate of `XmppListener::sendMessage`. -/
def World.accepts (world : World) (body : String) : Option Nat :=
  if world.client.mListener.mIsConnected && !body.isEmpty then
    world.client.mListener.mClient
  else none

theorem World.accepts_eq_some_iff {world : World} {body : String}
    {current : Nat} :
    world.accepts body = some current ↔
      world.client.mListener.mIsConnected = true ∧ body ≠ "" ∧
        world.client.mListener.mClient = some current := by
  unfold World.accepts
  cases world.client.mListener.mIsConnected <;>
    by_cases hbody : body = "" <;>
    simp [hbody]

/-- The world after a call on one of the clients. -/
def World.called (world : World) (client : Nat) (entry : ClientCall) : World :=
  { world with heap := world.heap.modifyClient client (Client.call entry) }

theorem run_callClient (client : Nat) (entry : ClientCall) (world : World) :
    (callClient client entry).run world =
      .ok () (world.called client entry) := by
  simp [callClient, World.called]

theorem run_listener_sendMessage (recipient : JID) (message subject : String)
    (world : World) :
    (XmppListener.sendMessage recipient message subject).run world =
      match world.accepts message with
      | some client => .ok true (world.called client
          (.send ⟨.chat, recipient, message, subject⟩))
      | none => .ok false world := by
  unfold World.accepts
  cases hclient : world.client.mListener.mClient with
  | none => simp [XmppListener.sendMessage, hclient]
  | some client =>
      cases hconnected : world.client.mListener.mIsConnected <;>
        cases hempty : message.isEmpty <;>
        simp [XmppListener.sendMessage, hclient, hconnected, hempty,
          run_callClient]

theorem run_client_sendMessage (lib : Library)
    (recipient message subject : String) (world : World) :
    (XmppClient.sendMessage lib recipient message subject).run world =
      (XmppListener.sendMessage (lib.parseJID
        (recipient ++ "@" ++ world.client.mListener.mServer)) message
        subject).run world := by
  unfold XmppClient.sendMessage
  rw [EStateM.run_bind, EStateM.run_get]

/-- The client that `setup` creates, after its registrations. -/
def configuredClient (lib : Library) (mServer username server : String)
    (enableLogging : Bool) : Client where
  jid := lib.parseJID
    (username ++ "@" ++ (if server.isEmpty then mServer else server))
  password := username
  calls := [.registerPresenceHandler, .registerConnectionListener,
    .registerMessageSessionHandler 0, .registerRosterListener,
    .setVersion "messageTest" lib.glooxVersion "Linux",
    .setIdentity "client" "bot", .addFeature lib.xmlnsChatStates] ++
    if enableLogging then [.registerLogHandler] else []

/-- The world after a client was created and made the current one. -/
def World.installed (world : World) (client : Client) : World :=
  { world with
    heap.clients := world.heap.clients ++ [client],
    client.mListener.mClient := some world.heap.clients.length }

/-- Editing an element and mapping can be exchanged. -/
theorem map_modify_of_comm {α β : Type} {f : α → β} {edit : α → α}
    (edited : β → β) (hcomm : ∀ a, f (edit a) = edited (f a)) (l : List α)
    (i : Nat) : (l.modify i edit).map f = (l.map f).modify i edited := by
  induction l generalizing i with
  | nil => simp
  | cons head tail ih =>
      cases i with
      | zero => simp [hcomm]
      | succ i => simp [ih]

private theorem modify_append_length {α : Type} (init : List α) (last : α)
    (edit : α → α) :
    (init ++ [last]).modify init.length edit = init ++ [edit last] := by
  induction init with
  | nil => rfl
  | cons head tail ih => simp [ih]

theorem World.installed_called (world : World) (client : Client)
    (entry : ClientCall) :
    (world.installed client).called world.heap.clients.length entry =
      world.installed (client.call entry) := by
  simp [World.installed, World.called, Heap.modifyClient,
    modify_append_length]

theorem run_setup (lib : Library) (username server : String)
    (enableLogging : Bool) (world : World) :
    (XmppListener.setup lib username server enableLogging).run world =
      .ok () (world.installed (configuredClient lib
        world.client.mListener.mServer username server enableLogging)) := by
  have hinstall : ∀ fresh : Client,
      { world with
        heap.clients := world.heap.clients ++ [fresh],
        client.mListener.mClient := some world.heap.clients.length } =
      world.installed fresh := fun _ => rfl
  cases enableLogging <;>
    simp [XmppListener.setup, run_callClient, hinstall, configuredClient,
      World.installed_called, Client.call]

theorem run_releaseThread (thread : Option ListenerThread) (world : World) :
    (XmppClient.releaseThread thread).run world =
      if thread.any ListenerThread.joinable then
        .error (.fault (.terminate .joinableThread)) world
      else .ok () world := by
  cases thread with
  | none => rfl
  | some dropped =>
      cases hjoinable : dropped.joinable <;>
        simp [XmppClient.releaseThread, hjoinable]

/-- The gloox objects after a filter was made for a session. -/
def filteredHeap (owner session : Nat) (kind : FilterKind) (heap : Heap) :
    Heap :=
  heap.bump.modifyClient owner
    (Client.modifySession session
      (MessageSession.attach ⟨heap.nextAddress, kind, true⟩))

theorem run_newFilter (owner session : Nat) (kind : FilterKind)
    (world : World) :
    (XmppListener.newFilter owner session kind).run world =
      .ok world.heap.nextAddress
        { world with heap := filteredHeap owner session kind world.heap } := by
  simp [XmppListener.newFilter, allocate, filteredHeap]

theorem run_openSession (client : Nat) (target : JID) (world : World) :
    (openSession client target).run world =
      .ok world.heap.nextAddress { world with
        heap := world.heap.bump.modifyClient client
          (Client.openSession world.heap.nextAddress target) } := by
  simp [openSession, allocate]

/-- The gloox objects after `owner` has opened a session for `target` and the
listener has taken it in place of `mSession`. -/
def adoptedHeap (mClient : Nat) (mSession : Option Nat) (owner : Nat)
    (target : JID) (heap : Heap) : Heap :=
  let session := heap.nextAddress
  let opened := heap.bump.modifyClient owner
    (Client.openSession session target)
  let disposed := opened.modifyClient mClient
    (Client.disposeMessageSession mSession)
  let handled := disposed.modifyClient owner
    (Client.modifySession session MessageSession.registerMessageHandler)
  filteredHeap owner session .chatState
    (filteredHeap owner session .messageEvent handled)

/-- One client's share in `adoptedHeap`. -/
def adoptedClient (mClient : Nat) (mSession : Option Nat) (owner : Nat)
    (target : JID) (session number : Nat) (client : Client) : Client :=
  let opened :=
    if owner = number then client.openSession session target else client
  let disposed :=
    if mClient = number then opened.disposeMessageSession mSession else opened
  if owner = number then
    disposed
      |>.modifySession session MessageSession.registerMessageHandler
      |>.modifySession session
        (MessageSession.attach ⟨session + 1, .messageEvent, true⟩)
      |>.modifySession session
        (MessageSession.attach ⟨session + 2, .chatState, true⟩)
  else disposed

theorem getElem?_adoptedHeap (mClient : Nat) (mSession : Option Nat)
    (owner : Nat) (target : JID) (heap : Heap) (number : Nat) :
    (adoptedHeap mClient mSession owner target heap).clients[number]? =
      heap.clients[number]?.map
        (adoptedClient mClient mSession owner target heap.nextAddress
          number) := by
  simp only [adoptedHeap, filteredHeap, Heap.modifyClient, Heap.bump,
    List.getElem?_modify]
  cases heap.clients[number]? with
  | none => rfl
  | some client =>
      by_cases howner : owner = number <;>
        by_cases hcurrent : mClient = number <;>
        simp [adoptedClient, howner, hcurrent]

/-- The world after `owner` has announced its new session to the listener. -/
def World.adopting (world : World) (mClient owner : Nat) (target : JID) :
    World :=
  { world with
    heap := adoptedHeap mClient world.client.mListener.mSession owner target
      world.heap,
    client.mListener := { world.client.mListener with
      mSession := some world.heap.nextAddress,
      mMessageEventFilter := some (world.heap.nextAddress + 1),
      mChatStateFilter := some (world.heap.nextAddress + 2) } }

/-! Steps. -/

section Steps

variable (lib : Library) (world : World) (client : Nat)

/-- Callbacks whose overrides have an empty body. -/
def Callback.inert : Callback → Bool
  | .handleMessageEvent _ | .handleChatState _ | .handleLog _
  | .handlePresence | .handleRosterError | .handleItemAdded _
  | .handleItemSubscribed _ | .handleItemRemoved _ | .handleItemUpdated _
  | .handleItemUnsubscribed _ | .handleSelfPresence _ _ _ _
  | .handleSubscriptionRequest _ _ | .handleUnsubscriptionRequest _ _
  | .handleNonrosterPresence => true
  | _ => false

/-- They reply the same in any world, and leave it alone. -/
theorem step_inert {cb : Callback} (hinert : cb.inert = true) :
    ∃ reply, (∀ exc, reply ≠ .threw exc) ∧
      ∀ world, step lib world (.callback client cb) = .ok (reply, world) := by
  cases cb <;> first
    | exact ⟨.void, nofun, fun _ => rfl⟩
    | exact ⟨.bool false, nofun, fun _ => rfl⟩
    | cases hinert

theorem step_setup (username server : String) (enableLogging : Bool) :
    step lib world (.setup username server enableLogging) =
      .ok (.void, world.installed (configuredClient lib
        world.client.mListener.mServer username server enableLogging)) := by
  simp [step, Event.execute, perform_void, run_setup]

/-- The world after `connect` has passed its check, up to the assignment of
the thread. -/
def World.connecting (world : World) (lib : Library)
    (xmppUser xmppServer : String) : World :=
  let installed := world.installed (configuredClient lib
    world.client.mListener.mServer xmppUser xmppServer false)
  { installed with client.mListenerThread := some { toggle := true } }

theorem step_connect (xmppUser xmppServer : String) :
    step lib world (.connect xmppUser xmppServer) =
      if xmppUser.isEmpty || xmppServer.isEmpty then
        .ok (.bool false, world)
      else
        match world.client.mListenerThread with
        | none => .ok (.bool true, world.connecting lib xmppUser xmppServer)
        | some dropped =>
            if dropped.joinable then .error (.terminate .joinableThread)
            else
              .ok (.bool true, world.connecting lib xmppUser xmppServer) := by
  by_cases hempty : (xmppUser.isEmpty || xmppServer.isEmpty) = true
  · simp [step, Event.execute, perform_boolean, XmppClient.connect, hempty]
  · cases hthread : world.client.mListenerThread with
    | none =>
        simp [step, Event.execute, perform_boolean, XmppClient.connect, hempty,
          run_setup, XmppClient.assignListenerThread, run_releaseThread,
          World.connecting, World.installed, hthread]
    | some dropped =>
        cases hjoinable : dropped.joinable <;>
          simp [step, Event.execute, perform_boolean, XmppClient.connect,
            hempty, run_setup, XmppClient.assignListenerThread,
            run_releaseThread, World.connecting, World.installed, hthread,
            hjoinable]

theorem step_openConnection (toggle : Bool) :
    step lib world (.openConnection toggle) =
      .ok (.void,
        match world.client.mListener.mIsConnected,
          world.client.mListener.mClient with
        | false, some current => world.called current (.connect toggle)
        | _, _ => world) := by
  cases hconnected : world.client.mListener.mIsConnected <;>
    cases hclient : world.client.mListener.mClient <;>
    simp [step, Event.execute, perform_void, XmppListener.openConnection,
      run_callClient, hconnected, hclient]

theorem step_openConnection_opens {world : World} {current : Nat}
    (hconnected : world.client.mListener.mIsConnected = false)
    (hclient : world.client.mListener.mClient = some current) (toggle : Bool) :
    step lib world (.openConnection toggle) =
      .ok (.void, world.called current (.connect toggle)) := by
  rw [step_openConnection, hconnected, hclient]

theorem step_openConnection_skips {world : World}
    (hskip : world.client.mListener.mIsConnected = true ∨
      world.client.mListener.mClient = none) (toggle : Bool) :
    step lib world (.openConnection toggle) = .ok (.void, world) := by
  rw [step_openConnection]
  rcases hskip with hconnected | hclient
  · rw [hconnected]
  · rw [hclient]
    cases world.client.mListener.mIsConnected <;> rfl

theorem step_onConnect :
    step lib world (.callback client .onConnect) =
      .ok (.void, { world with client.mListener.mIsConnected := true }.emitted
        (if world.delegated then [.mSignalConnect] else [])) := by
  cases hdelegate : world.client.mListener.mDelegate <;>
    simp [step, Event.execute, Callback.deliver, perform_void,
      XmppListener.onConnect, run_delegateTo, XmppClient.onConnect, run_emit,
      hdelegate, World.emitted]

theorem step_onTLSConnect :
    step lib world (.callback client .onTLSConnect) =
      .ok (.bool true,
        { world with client.mListener.mIsConnected := true }.emitted
          (if world.delegated then [.mSignalTlsConnect] else [])) := by
  cases hdelegate : world.client.mListener.mDelegate <;>
    simp [step, Event.execute, Callback.deliver, perform_boolean,
      XmppListener.onTLSConnect, run_delegateTo, XmppClient.onTLSConnect,
      run_emit, hdelegate, World.emitted]

/-- The flag is lowered before the delegate is called, so it is down also when
the delegate throws. -/
theorem step_onDisconnect (e : ConnectionError) :
    step lib world (.callback client (.onDisconnect e)) =
      let lowered := { world with client.mListener.mIsConnected := false }
      if world.delegated then
        match disconnectExc e with
        | none => .ok (.void, lowered.emitted [.mSignalDisconnect])
        | some exc => .ok (.threw exc, lowered)
      else .ok (.void, lowered) := by
  cases hdelegate : world.client.mListener.mDelegate <;>
    cases hexc : disconnectExc e <;>
    simp [step, Event.execute, Callback.deliver, perform_void,
      XmppListener.onDisconnect, run_delegateTo, run_client_onDisconnect,
      hdelegate, hexc]

theorem step_handleMessage (msg : Message) (sess : MessageSession) :
    step lib world (.callback client (.handleMessage msg sess)) =
      .ok (.void, world.emitted
        (if world.delegated then [.mSignalHandleMsg
          (senderPeer sess.target.username world.client.mRoster)
          msg.subject msg.body] else [])) := by
  cases hdelegate : world.client.mListener.mDelegate <;>
    simp [step, Event.execute, Callback.deliver, perform_void,
      XmppListener.handleMessage, run_delegateTo, run_client_handleMessage,
      hdelegate, World.emitted]

theorem step_handleRoster (roster : Roster) :
    step lib world (.callback client (.handleRoster roster)) =
      .ok (.void,
        if world.delegated then
          { world with client.mRoster := freshPeers roster }.emitted
            [.mSignalRoster roster.usernames]
        else world) := by
  cases hdelegate : world.client.mListener.mDelegate <;>
    simp [step, Event.execute, Callback.deliver, perform_void,
      XmppListener.handleRoster, run_delegateTo, run_client_handleRoster,
      hdelegate]

theorem step_handleRosterPresence (item : RosterItem) (resource : String)
    (presence : PresenceType) (msg : String) :
    step lib world (.callback client
        (.handleRosterPresence item resource presence msg)) =
      if world.delegated then
        match world.client.mRoster.lookup item.jidJID.username with
        | some peer =>
            let status := XmppPeer.presenceToStatus presence
            .ok (.void, { world with
                client.mRoster := presencePeers item.jidJID.username presence
                  world.client.mRoster }.emitted
              [.mSignalRosterPresence (peer.setStatus status) resource status
                msg])
        | none => .error (.undefined .derefEnd)
      else .ok (.void, world) := by
  cases hdelegate : world.client.mListener.mDelegate <;>
    cases hlookup : world.client.mRoster.lookup item.jidJID.username <;>
    simp [step, Event.execute, Callback.deliver, perform_void,
      XmppListener.handleRosterPresence, run_delegateTo,
      run_client_handleRosterPresence, hdelegate, hlookup]

theorem step_handleMessageSession (target : JID) :
    step lib world (.callback client (.handleMessageSession target)) =
      match world.client.mListener.mClient with
      | none => .error (.undefined .nullClient)
      | some mClient =>
          .ok (.void, world.adopting mClient client target) := by
  cases hclient : world.client.mListener.mClient with
  | none =>
      simp [step, Event.execute, Callback.deliver, perform_void,
        run_openSession, XmppListener.handleMessageSession, undefinedBehaviour,
        hclient]
  | some mClient =>
      simp [step, Event.execute, Callback.deliver, perform_void,
        run_openSession, XmppListener.handleMessageSession, run_newFilter,
        hclient, World.adopting, adoptedHeap, filteredHeap, Heap.modifyClient,
        Heap.bump]

theorem perform_sendMessage (recipient : JID) (message subject : String) :
    perform (boolean (XmppListener.sendMessage recipient message subject))
        world =
      match world.accepts message with
      | some current => .ok (.bool true, world.called current
          (.send ⟨.chat, recipient, message, subject⟩))
      | none => .ok (.bool false, world) := by
  rw [perform_boolean, run_listener_sendMessage]
  cases world.accepts message <;> rfl

/-- Both `sendMessage` functions hand their stanza to the current client when
the gate is open, and change nothing otherwise. -/
theorem step_stanza {event : Event} {message : Message}
    (hstanza : event.stanza lib world = some message) :
    step lib world event =
      match world.accepts message.body with
      | some current => .ok (.bool true, world.called current (.send message))
      | none => .ok (.bool false, world) := by
  cases event with
  | send recipient body subject =>
      obtain rfl := Option.some.inj hstanza
      exact perform_sendMessage world recipient body subject
  | sendMessage recipient body subject =>
      obtain rfl := Option.some.inj hstanza
      have hrun := run_client_sendMessage lib recipient body subject world
      have hlistener := perform_sendMessage world (lib.parseJID
        (recipient ++ "@" ++ world.client.mListener.mServer)) body subject
      rw [perform_boolean, ← hrun, ← perform_boolean] at hlistener
      exact hlistener
  | callback client cb => simp [Event.stanza] at hstanza
  | setup username server enableLogging => simp [Event.stanza] at hstanza
  | openConnection toggle => simp [Event.stanza] at hstanza
  | connect xmppUser xmppServer => simp [Event.stanza] at hstanza

end Steps

end CinderXmpp
