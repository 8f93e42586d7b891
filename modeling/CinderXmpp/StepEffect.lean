/-
Everything a step can do, said once: an effect for each kind of event, and from
it how each component of the world moves.
-/
import CinderXmpp.StepLaws

namespace CinderXmpp

open Gloox History

/-- `Effect lib world event reply next`: the event may turn `world` into `next`
with this reply. -/
inductive Effect (lib : Library) (world : World) :
    Event → Reply → World → Prop where
  | inert (client : Nat) (cb : Callback) (reply : Reply)
      (hinert : cb.inert = true) (hreply : ∀ exc, reply ≠ .threw exc) :
      Effect lib world (.callback client cb) reply world
  | connected (client : Nat) :
      Effect lib world (.callback client .onConnect) .void
        ({ world with client.mListener.mIsConnected := true }.emitted
          (if world.delegated then [.mSignalConnect] else []))
  | secured (client : Nat) :
      Effect lib world (.callback client .onTLSConnect) (.bool true)
        ({ world with client.mListener.mIsConnected := true }.emitted
          (if world.delegated then [.mSignalTlsConnect] else []))
  | disconnected (client : Nat) (e : ConnectionError)
      (hreturns : world.delegated = true → e = .connNoError) :
      Effect lib world (.callback client (.onDisconnect e)) .void
        ({ world with client.mListener.mIsConnected := false }.emitted
          (if world.delegated then [.mSignalDisconnect] else []))
  | disconnectThrew (client : Nat) (e : ConnectionError) (exc : XmppExc)
      (hdelegate : world.delegated = true) (hexc : disconnectExc e = some exc) :
      Effect lib world (.callback client (.onDisconnect e)) (.threw exc)
        { world with client.mListener.mIsConnected := false }
  | messaged (client : Nat) (msg : Message) (sess : MessageSession) :
      Effect lib world (.callback client (.handleMessage msg sess)) .void
        (world.emitted
          (if world.delegated then [.mSignalHandleMsg
            (senderPeer sess.target.username world.client.mRoster)
            msg.subject msg.body] else []))
  | sessionAdopted (client mClient : Nat) (target : JID)
      (hclient : world.client.mListener.mClient = some mClient) :
      Effect lib world (.callback client (.handleMessageSession target)) .void
        (world.adopting mClient client target)
  | rosterLoaded (client : Nat) (roster : Roster)
      (hdelegate : world.delegated = true) :
      Effect lib world (.callback client (.handleRoster roster)) .void
        ({ world with client.mRoster := freshPeers roster }.emitted
          [.mSignalRoster roster.usernames])
  | presenceSeen (client : Nat) (item : RosterItem) (resource : String)
      (presence : PresenceType) (msg : String) (peer : XmppPeer)
      (hdelegate : world.delegated = true)
      (hlookup :
        world.client.mRoster.lookup item.jidJID.username = some peer) :
      Effect lib world
        (.callback client (.handleRosterPresence item resource presence msg))
        .void
        ({ world with
            client.mRoster := presencePeers item.jidJID.username presence
              world.client.mRoster }.emitted
          [.mSignalRosterPresence
            (peer.setStatus (XmppPeer.presenceToStatus presence)) resource
            (XmppPeer.presenceToStatus presence) msg])
  | undelegated (client : Nat) (cb : Callback)
      (hdelegate : world.delegated = false)
      (hroster : (∃ roster, cb = .handleRoster roster) ∨
        ∃ item resource presence msg,
          cb = .handleRosterPresence item resource presence msg) :
      Effect lib world (.callback client cb) .void world
  | setUp (username server : String) (enableLogging : Bool) :
      Effect lib world (.setup username server enableLogging) .void
        (world.installed (configuredClient lib
          world.client.mListener.mServer username server enableLogging))
  | connectionOpened (toggle : Bool) (current : Nat)
      (hconnected : world.client.mListener.mIsConnected = false)
      (hclient : world.client.mListener.mClient = some current) :
      Effect lib world (.openConnection toggle) .void
        (world.called current (.connect toggle))
  | connectionSkipped (toggle : Bool)
      (hskip : world.client.mListener.mIsConnected = true ∨
        world.client.mListener.mClient = none) :
      Effect lib world (.openConnection toggle) .void world
  | stanzaSent (event : Event) (message : Message) (current : Nat)
      (hstanza : event.stanza lib world = some message)
      (haccepts : world.accepts message.body = some current) :
      Effect lib world event (.bool true)
        (world.called current (.send message))
  | stanzaRefused (event : Event) (message : Message)
      (hstanza : event.stanza lib world = some message)
      (haccepts : world.accepts message.body = none) :
      Effect lib world event (.bool false) world
  | connectRefused (xmppUser xmppServer : String)
      (hempty : (xmppUser.isEmpty || xmppServer.isEmpty) = true) :
      Effect lib world (.connect xmppUser xmppServer) (.bool false) world
  | connectStarted (xmppUser xmppServer : String)
      (hempty : (xmppUser.isEmpty || xmppServer.isEmpty) = false)
      (hthread : ∀ old, world.client.mListenerThread = some old →
        old.joinable = false) :
      Effect lib world (.connect xmppUser xmppServer) (.bool true)
        (world.connecting lib xmppUser xmppServer)

theorem effect_of_stanza {lib : Library} {world next : World} {event : Event}
    {reply : Reply} {message : Message}
    (hstanza : event.stanza lib world = some message)
    (hstep : step lib world event = .ok (reply, next)) :
    Effect lib world event reply next := by
  rw [step_stanza lib world hstanza] at hstep
  cases haccepts : world.accepts message.body with
  | some current =>
      simp only [haccepts, Except.ok.injEq, Prod.mk.injEq] at hstep
      obtain ⟨rfl, rfl⟩ := hstep
      exact .stanzaSent event message current hstanza haccepts
  | none =>
      simp only [haccepts, Except.ok.injEq, Prod.mk.injEq] at hstep
      obtain ⟨rfl, rfl⟩ := hstep
      exact .stanzaRefused event message hstanza haccepts

theorem effect_of_disconnect {lib : Library} {world next : World} {client : Nat}
    {e : ConnectionError} {reply : Reply}
    (hstep : step lib world (.callback client (.onDisconnect e)) =
      .ok (reply, next)) :
    Effect lib world (.callback client (.onDisconnect e)) reply next := by
  rw [step_onDisconnect] at hstep
  cases hdelegate : world.delegated with
  | false =>
      simp only [hdelegate, Bool.false_eq_true, ↓reduceIte, Except.ok.injEq,
        Prod.mk.injEq] at hstep
      obtain ⟨rfl, rfl⟩ := hstep
      have heffect := @Effect.disconnected lib world client e
        (by simp [hdelegate])
      simpa [hdelegate, World.emitted] using heffect
  | true =>
      cases hexc : disconnectExc e with
      | none =>
          simp only [hdelegate, hexc, ↓reduceIte, Except.ok.injEq,
            Prod.mk.injEq] at hstep
          obtain ⟨rfl, rfl⟩ := hstep
          have heffect := @Effect.disconnected lib world client e
            (fun _ => (disconnectExc_eq_none_iff e).mp hexc)
          simpa [hdelegate] using heffect
      | some exc =>
          simp only [if_pos hdelegate, hexc, Except.ok.injEq,
            Prod.mk.injEq] at hstep
          obtain ⟨rfl, rfl⟩ := hstep
          exact .disconnectThrew client e exc hdelegate hexc

theorem effect_of_callback {lib : Library} {world next : World} {client : Nat}
    {cb : Callback} {reply : Reply}
    (hstep : step lib world (.callback client cb) = .ok (reply, next)) :
    Effect lib world (.callback client cb) reply next := by
  by_cases hinert : cb.inert = true
  · obtain ⟨actual, hreply, hactual⟩ := step_inert lib client hinert
    rw [hactual] at hstep
    simp only [Except.ok.injEq, Prod.mk.injEq] at hstep
    obtain ⟨rfl, rfl⟩ := hstep
    exact .inert client cb actual hinert hreply
  cases cb with
  | onConnect =>
      rw [step_onConnect] at hstep
      simp only [Except.ok.injEq, Prod.mk.injEq] at hstep
      obtain ⟨rfl, rfl⟩ := hstep
      exact .connected client
  | onTLSConnect =>
      rw [step_onTLSConnect] at hstep
      simp only [Except.ok.injEq, Prod.mk.injEq] at hstep
      obtain ⟨rfl, rfl⟩ := hstep
      exact .secured client
  | onDisconnect e => exact effect_of_disconnect hstep
  | handleMessage msg sess =>
      rw [step_handleMessage] at hstep
      simp only [Except.ok.injEq, Prod.mk.injEq] at hstep
      obtain ⟨rfl, rfl⟩ := hstep
      exact .messaged client msg sess
  | handleMessageSession target =>
      rw [step_handleMessageSession] at hstep
      split at hstep
      · cases hstep
      next mClient hclient =>
          simp only [Except.ok.injEq, Prod.mk.injEq] at hstep
          obtain ⟨rfl, rfl⟩ := hstep
          exact .sessionAdopted client mClient target hclient
  | handleRoster roster =>
      rw [step_handleRoster] at hstep
      cases hdelegate : world.delegated with
      | true =>
          simp only [hdelegate, ↓reduceIte, Except.ok.injEq,
            Prod.mk.injEq] at hstep
          obtain ⟨rfl, rfl⟩ := hstep
          exact .rosterLoaded client roster hdelegate
      | false =>
          simp only [hdelegate, Bool.false_eq_true, ↓reduceIte,
            Except.ok.injEq, Prod.mk.injEq] at hstep
          obtain ⟨rfl, rfl⟩ := hstep
          exact .undelegated client _ hdelegate (.inl ⟨roster, rfl⟩)
  | handleRosterPresence item resource presence msg =>
      rw [step_handleRosterPresence] at hstep
      cases hdelegate : world.delegated with
      | true =>
          cases hlookup :
              world.client.mRoster.lookup item.jidJID.username with
          | none => simp [hdelegate, hlookup] at hstep
          | some peer =>
              simp only [hdelegate, hlookup, ↓reduceIte, Except.ok.injEq,
                Prod.mk.injEq] at hstep
              obtain ⟨rfl, rfl⟩ := hstep
              exact .presenceSeen client item resource presence msg peer
                hdelegate hlookup
      | false =>
          simp only [hdelegate, Bool.false_eq_true, ↓reduceIte,
            Except.ok.injEq, Prod.mk.injEq] at hstep
          obtain ⟨rfl, rfl⟩ := hstep
          exact .undelegated client _ hdelegate
            (.inr ⟨item, resource, presence, msg, rfl⟩)
  | _ => exact absurd rfl hinert

/-- Every step has one of the listed effects. -/
theorem effect_of_step {lib : Library} {world next : World} {event : Event}
    {reply : Reply} (hstep : step lib world event = .ok (reply, next)) :
    Effect lib world event reply next := by
  cases event with
  | callback client cb => exact effect_of_callback hstep
  | setup username server enableLogging =>
      rw [step_setup] at hstep
      simp only [Except.ok.injEq, Prod.mk.injEq] at hstep
      obtain ⟨rfl, rfl⟩ := hstep
      exact .setUp username server enableLogging
  | openConnection toggle =>
      rw [step_openConnection] at hstep
      simp only [Except.ok.injEq, Prod.mk.injEq] at hstep
      obtain ⟨rfl, rfl⟩ := hstep
      cases hconnected : world.client.mListener.mIsConnected with
      | true => exact .connectionSkipped toggle (.inl hconnected)
      | false =>
          cases hclient : world.client.mListener.mClient with
          | none => exact .connectionSkipped toggle (.inr hclient)
          | some current =>
              exact .connectionOpened toggle current hconnected hclient
  | send recipient message subject => exact effect_of_stanza rfl hstep
  | sendMessage recipient message subject => exact effect_of_stanza rfl hstep
  | connect xmppUser xmppServer =>
      rw [step_connect] at hstep
      cases hempty : xmppUser.isEmpty || xmppServer.isEmpty with
      | true =>
          simp only [hempty, ↓reduceIte, Except.ok.injEq,
            Prod.mk.injEq] at hstep
          obtain ⟨rfl, rfl⟩ := hstep
          exact .connectRefused xmppUser xmppServer hempty
      | false =>
          simp only [hempty, Bool.false_eq_true, ↓reduceIte] at hstep
          cases hthread : world.client.mListenerThread with
          | none =>
              simp only [hthread, Except.ok.injEq, Prod.mk.injEq] at hstep
              obtain ⟨rfl, rfl⟩ := hstep
              exact .connectStarted xmppUser xmppServer hempty
                (by simp [hthread])
          | some old =>
              cases hjoinable : old.joinable with
              | true => simp [hthread, hjoinable] at hstep
              | false =>
                  simp only [hthread, hjoinable, Bool.false_eq_true, ↓reduceIte,
                    Except.ok.injEq, Prod.mk.injEq] at hstep
                  obtain ⟨rfl, rfl⟩ := hstep
                  refine .connectStarted xmppUser xmppServer hempty ?_
                  intro dropped hdropped
                  rw [hthread] at hdropped
                  obtain rfl := Option.some.inj hdropped
                  exact hjoinable

/-- The three ways in which a step ends the run. -/
inductive FaultOf (world : World) : Event → Fault → Prop where
  | derefEnd (client : Nat) (item : RosterItem) (resource : String)
      (presence : PresenceType) (msg : String)
      (hlookup : item.jidJID.username ∉ world.client.mRoster) :
      FaultOf world
        (.callback client (.handleRosterPresence item resource presence msg))
        (.undefined .derefEnd)
  | nullClient (client : Nat) (target : JID)
      (hclient : world.client.mListener.mClient = none) :
      FaultOf world (.callback client (.handleMessageSession target))
        (.undefined .nullClient)
  | joinableThread (xmppUser xmppServer : String) (old : ListenerThread)
      (hempty : (xmppUser.isEmpty || xmppServer.isEmpty) = false)
      (hthread : world.client.mListenerThread = some old)
      (hjoinable : old.joinable = true) :
      FaultOf world (.connect xmppUser xmppServer) (.terminate .joinableThread)

theorem faultOf_callback {lib : Library} {world : World} {client : Nat}
    {cb : Callback} {fault : Fault}
    (hstep : step lib world (.callback client cb) = .error fault) :
    FaultOf world (.callback client cb) fault := by
  by_cases hinert : cb.inert = true
  · obtain ⟨reply, _, hreply⟩ := step_inert lib client hinert
    simp [hreply] at hstep
  cases cb with
  | onConnect => simp [step_onConnect] at hstep
  | onTLSConnect => simp [step_onTLSConnect] at hstep
  | onDisconnect e =>
      rw [step_onDisconnect] at hstep
      cases hdelegate : world.delegated <;> cases hexc : disconnectExc e <;>
        simp [hdelegate, hexc] at hstep
  | handleMessage msg sess => simp [step_handleMessage] at hstep
  | handleRoster roster => simp [step_handleRoster] at hstep
  | handleMessageSession target =>
      rw [step_handleMessageSession] at hstep
      cases hclient : world.client.mListener.mClient with
      | some mClient => simp [hclient] at hstep
      | none =>
          simp only [hclient, Except.error.injEq] at hstep
          subst hstep
          exact .nullClient client target hclient
  | handleRosterPresence item resource presence msg =>
      rw [step_handleRosterPresence] at hstep
      cases hdelegate : world.delegated with
      | false => simp [hdelegate] at hstep
      | true =>
          cases hlookup :
              world.client.mRoster.lookup item.jidJID.username with
          | some peer => simp [hdelegate, hlookup] at hstep
          | none =>
              simp only [hdelegate, hlookup, ↓reduceIte,
                Except.error.injEq] at hstep
              subst hstep
              exact .derefEnd client item resource presence msg
                (Finmap.lookup_eq_none.mp hlookup)
  | _ => exact absurd rfl hinert

/-- Every fault has one of the listed causes. -/
theorem faultOf_step {lib : Library} {world : World} {event : Event}
    {fault : Fault} (hstep : step lib world event = .error fault) :
    FaultOf world event fault := by
  have hnone : ∀ message, event.stanza lib world ≠ some message := by
    intro message hstanza
    rw [step_stanza lib world hstanza] at hstep
    cases haccepts : world.accepts message.body <;> simp [haccepts] at hstep
  cases event with
  | callback client cb => exact faultOf_callback hstep
  | setup username server enableLogging => simp [step_setup] at hstep
  | openConnection toggle => simp [step_openConnection] at hstep
  | send recipient message subject => exact absurd rfl (hnone _)
  | sendMessage recipient message subject => exact absurd rfl (hnone _)
  | connect xmppUser xmppServer =>
      rw [step_connect] at hstep
      cases hempty : xmppUser.isEmpty || xmppServer.isEmpty with
      | true => simp [hempty] at hstep
      | false =>
          cases hthread : world.client.mListenerThread with
          | none => simp [hempty, hthread] at hstep
          | some old =>
              cases hjoinable : old.joinable with
              | false => simp [hempty, hthread, hjoinable] at hstep
              | true =>
                  simp only [hempty, hthread, hjoinable, Bool.false_eq_true,
                    ↓reduceIte, Except.error.injEq] at hstep
                  subst hstep
                  exact .joinableThread xmppUser xmppServer old hempty hthread
                    hjoinable

/-! How each component of the world moves. -/

/-- What an event writes to the connected flag. -/
def Event.lifecycle : Event → Option Bool
  | .callback _ .onConnect => some true
  | .callback _ .onTLSConnect => some true
  | .callback _ (.onDisconnect _) => some false
  | _ => none

/-- What an event makes of the peers. -/
def Event.peersAfter (peers : UnorderedMap String XmppPeer) :
    Event → UnorderedMap String XmppPeer
  | .callback _ (.handleRoster roster) => freshPeers roster
  | .callback _ (.handleRosterPresence item _ presence _) =>
      presencePeers item.jidJID.username presence peers
  | _ => peers

/-- The signals an event emits. -/
def Event.emissions (peers : UnorderedMap String XmppPeer) :
    Event → List Signal
  | .callback _ .onConnect => [.mSignalConnect]
  | .callback _ (.onDisconnect e) =>
      if e = .connNoError then [.mSignalDisconnect] else []
  | .callback _ .onTLSConnect => [.mSignalTlsConnect]
  | .callback _ (.handleMessage msg sess) =>
      [.mSignalHandleMsg (senderPeer sess.target.username peers)
        msg.subject msg.body]
  | .callback _ (.handleRoster roster) => [.mSignalRoster roster.usernames]
  | .callback _ (.handleRosterPresence item resource presence msg) =>
      match peers.lookup item.jidJID.username with
      | some peer =>
          [.mSignalRosterPresence
            (peer.setStatus (XmppPeer.presenceToStatus presence)) resource
            (XmppPeer.presenceToStatus presence) msg]
      | none => []
  | _ => []

/-- A `connect` that passes its check, and so starts a thread. -/
def Event.startsThread : Event → Bool
  | .connect xmppUser xmppServer => !(xmppUser.isEmpty || xmppServer.isEmpty)
  | _ => false

/-- Calls that create a gloox client. -/
def Event.createsClient : Event → Bool
  | .setup _ _ _ => true
  | .connect xmppUser xmppServer => !(xmppUser.isEmpty || xmppServer.isEmpty)
  | _ => false

/-- What calls to `sendMessage` and callbacks with an empty body leave
alone. -/
structure Event.Neutral (event : Event) : Prop where
  lifecycle : event.lifecycle = none
  peersAfter : ∀ peers, event.peersAfter peers = peers
  emissions : ∀ peers, event.emissions peers = []
  startsThread : event.startsThread = false
  createsClient : event.createsClient = false

theorem Event.neutral_of_stanza {lib : Library} {world : World} {event : Event}
    {message : Message} (hstanza : event.stanza lib world = some message) :
    event.Neutral := by
  cases event with
  | send recipient body subject =>
      exact ⟨rfl, fun _ => rfl, fun _ => rfl, rfl, rfl⟩
  | sendMessage recipient body subject =>
      exact ⟨rfl, fun _ => rfl, fun _ => rfl, rfl, rfl⟩
  | _ => simp [Event.stanza] at hstanza

theorem Event.neutral_of_inert (client : Nat) {cb : Callback}
    (hinert : cb.inert = true) : (Event.callback client cb).Neutral := by
  cases cb <;> first
    | exact ⟨rfl, fun _ => rfl, fun _ => rfl, rfl, rfl⟩
    | cases hinert

section Components

variable {lib : Library} {world next : World} {event : Event} {reply : Reply}

/-- The delegate pointer never changes. -/
theorem step_delegated (hstep : step lib world event = .ok (reply, next)) :
    next.delegated = world.delegated := by
  cases effect_of_step hstep <;> rfl

theorem step_mIsConnected (hstep : step lib world event = .ok (reply, next)) :
    next.client.mListener.mIsConnected =
      event.lifecycle.getD world.client.mListener.mIsConnected := by
  cases effect_of_step hstep with
  | inert client cb reply hinert =>
      rw [(Event.neutral_of_inert client hinert).lifecycle]
      rfl
  | undelegated client cb hdelegate hroster =>
      rcases hroster with ⟨_, rfl⟩ | ⟨_, _, _, _, rfl⟩ <;> rfl
  | stanzaSent event message current hstanza haccepts =>
      rw [(Event.neutral_of_stanza hstanza).lifecycle]
      rfl
  | stanzaRefused event message hstanza haccepts =>
      rw [(Event.neutral_of_stanza hstanza).lifecycle]
      rfl
  | _ => rfl

theorem step_mRoster (hdelegate : world.delegated = true)
    (hstep : step lib world event = .ok (reply, next)) :
    next.client.mRoster = event.peersAfter world.client.mRoster := by
  cases effect_of_step hstep with
  | inert client cb reply hinert =>
      rw [(Event.neutral_of_inert client hinert).peersAfter]
  | undelegated client cb hnot hroster => simp [hdelegate] at hnot
  | stanzaSent event message current hstanza haccepts =>
      rw [(Event.neutral_of_stanza hstanza).peersAfter]
      rfl
  | stanzaRefused event message hstanza haccepts =>
      rw [(Event.neutral_of_stanza hstanza).peersAfter]
  | _ => rfl

theorem step_signals (hdelegate : world.delegated = true)
    (hstep : step lib world event = .ok (reply, next)) :
    next.signals = world.signals ++ event.emissions world.client.mRoster := by
  cases effect_of_step hstep with
  | inert client cb reply hinert =>
      rw [(Event.neutral_of_inert client hinert).emissions, List.append_nil]
  | undelegated client cb hnot hroster => simp [hdelegate] at hnot
  | stanzaSent event message current hstanza haccepts =>
      rw [(Event.neutral_of_stanza hstanza).emissions, List.append_nil]
      rfl
  | stanzaRefused event message hstanza haccepts =>
      rw [(Event.neutral_of_stanza hstanza).emissions, List.append_nil]
  | connected client =>
      simp [Event.emissions, World.emitted, hdelegate]
  | secured client =>
      simp [Event.emissions, World.emitted, hdelegate]
  | disconnected client e hreturns =>
      simp [Event.emissions, World.emitted, hdelegate, hreturns hdelegate]
  | disconnectThrew client e exc _ hexc =>
      have hne : e ≠ .connNoError := by
        rintro rfl
        simp [disconnectExc] at hexc
      simp [Event.emissions, hne]
  | messaged client msg sess =>
      simp [Event.emissions, World.emitted, hdelegate]
  | presenceSeen client item resource presence msg peer _ hlookup =>
      simp [Event.emissions, World.emitted, hlookup]
  | rosterLoaded client roster _ => rfl
  | _ =>
      simp [Event.emissions, World.called, World.installed, World.connecting,
        World.adopting]

theorem step_mListenerThread
    (hstep : step lib world event = .ok (reply, next)) :
    next.client.mListenerThread =
      if event.startsThread then some { toggle := true }
      else world.client.mListenerThread := by
  cases effect_of_step hstep with
  | stanzaSent event message current hstanza haccepts =>
      rw [(Event.neutral_of_stanza hstanza).startsThread]
      rfl
  | stanzaRefused event message hstanza haccepts =>
      rw [(Event.neutral_of_stanza hstanza).startsThread]
      rfl
  | connectRefused xmppUser xmppServer hempty =>
      simp [Event.startsThread, hempty]
  | connectStarted xmppUser xmppServer hempty hthread =>
      simp [Event.startsThread, hempty, World.connecting]
  | _ => rfl

/-- A new client becomes the current one; no other event changes the
pointer. -/
theorem step_mClient (hstep : step lib world event = .ok (reply, next)) :
    next.client.mListener.mClient =
      if event.createsClient then some world.heap.clients.length
      else world.client.mListener.mClient := by
  cases effect_of_step hstep with
  | stanzaSent event message current hstanza haccepts =>
      rw [(Event.neutral_of_stanza hstanza).createsClient]
      rfl
  | stanzaRefused event message hstanza haccepts =>
      rw [(Event.neutral_of_stanza hstanza).createsClient]
      rfl
  | connectRefused xmppUser xmppServer hempty =>
      simp [Event.createsClient, hempty]
  | connectStarted xmppUser xmppServer hempty hthread =>
      simp [Event.createsClient, hempty, World.connecting, World.installed]
  | _ => rfl

theorem step_clients_length (hstep : step lib world event = .ok (reply, next)) :
    next.heap.clients.length =
      world.heap.clients.length + if event.createsClient then 1 else 0 := by
  cases effect_of_step hstep with
  | stanzaSent event message current hstanza haccepts =>
      simp [(Event.neutral_of_stanza hstanza).createsClient, World.called,
        Heap.modifyClient]
  | stanzaRefused event message hstanza haccepts =>
      rw [(Event.neutral_of_stanza hstanza).createsClient]
      rfl
  | connectRefused xmppUser xmppServer hempty =>
      simp [Event.createsClient, hempty]
  | connectStarted xmppUser xmppServer hempty hthread =>
      simp [Event.createsClient, hempty, World.connecting, World.installed]
  | setUp => simp [Event.createsClient, World.installed]
  | connectionOpened =>
      simp [Event.createsClient, World.called, Heap.modifyClient]
  | sessionAdopted =>
      simp [Event.createsClient, World.adopting, adoptedHeap, filteredHeap,
        Heap.modifyClient, Heap.bump]
  | _ => rfl

/-- A presence event only goes through for a peer that is there. -/
theorem step_presence_mem {client : Nat} {item : RosterItem}
    {resource msg : String} {presence : PresenceType}
    (hdelegate : world.delegated = true)
    (hstep : step lib world (.callback client
      (.handleRosterPresence item resource presence msg)) =
        .ok (reply, next)) :
    item.jidJID.username ∈ world.client.mRoster := by
  cases effect_of_step hstep with
  | inert _ _ _ hinert => cases hinert
  | undelegated _ _ hnot => simp [hdelegate] at hnot
  | presenceSeen _ _ _ _ _ peer _ hlookup =>
      exact Finmap.mem_of_lookup_eq_some hlookup
  | stanzaSent _ _ _ hstanza => simp [Event.stanza] at hstanza
  | stanzaRefused _ _ hstanza => simp [Event.stanza] at hstanza

/-- A joinable thread is never replaced. -/
theorem step_startsThread {old : ListenerThread}
    (hthread : world.client.mListenerThread = some old)
    (hjoinable : old.joinable = true)
    (hstep : step lib world event = .ok (reply, next)) :
    event.startsThread = false := by
  cases event with
  | connect xmppUser xmppServer =>
      by_contra hstarts
      have hempty : (xmppUser.isEmpty || xmppServer.isEmpty) = false := by
        simpa [Event.startsThread] using hstarts
      simp [step_connect, hempty, hthread, hjoinable] at hstep
  | _ => rfl

/-- The only exceptions are those of `onDisconnect`. -/
theorem step_threw {exc : XmppExc}
    (hstep : step lib world event = .ok (.threw exc, next)) :
    ∃ client e, event = .callback client (.onDisconnect e) ∧
      disconnectExc e = some exc := by
  generalize hreply : Reply.threw exc = reply at hstep
  cases effect_of_step hstep with
  | inert client cb _ _ hnot => exact absurd hreply.symm (hnot exc)
  | disconnectThrew client e thrown _ hexc =>
      obtain rfl := Reply.threw.inj hreply
      exact ⟨client, e, rfl, hexc⟩
  | _ => cases hreply

end Components

/-- The client that is current after this many were created. -/
def currentClient : Nat → Option Nat
  | 0 => none
  | created + 1 => some created

section Clients

variable {lib : Library} {delegate : Bool} {events : List Event}
  {world : World}

theorem Reaches.clients_length
    (hreach : (listenerMachine lib delegate).Reaches events world) :
    world.heap.clients.length = events.countP Event.createsClient := by
  apply Machine.Reaches.accumulator (fun world => world.heap.clients.length)
    Event.createsClient rfl ?_ hreach
  intro events world event reply next _ hstep
  exact step_clients_length hstep

theorem Reaches.mClient_eq
    (hreach : (listenerMachine lib delegate).Reaches events world) :
    world.client.mListener.mClient =
      currentClient (events.countP Event.createsClient) := by
  apply Machine.Reaches.invariant
    (I := fun events world => world.client.mListener.mClient =
      currentClient (events.countP Event.createsClient)) rfl ?_ hreach
  intro events world event reply next hbefore hcurrent hstep
  rw [step_mClient hstep, hcurrent, Reaches.clients_length hbefore,
    List.countP_append, List.countP_singleton]
  cases event.createsClient <;> rfl

/-- A current client is one that was created. -/
theorem Reaches.mClient_lt {current : Nat}
    (hreach : (listenerMachine lib delegate).Reaches events world)
    (hcurrent : world.client.mListener.mClient = some current) :
    current < world.heap.clients.length := by
  rw [Reaches.mClient_eq hreach] at hcurrent
  rw [Reaches.clients_length hreach]
  cases hcount : events.countP Event.createsClient with
  | zero =>
      rw [hcount] at hcurrent
      cases hcurrent
  | succ earlier =>
      rw [hcount] at hcurrent
      obtain rfl := Option.some.inj hcurrent
      exact Nat.lt_succ_self _

/-- In a run that created one client, this client is the current one. -/
theorem Reaches.one_client
    (hreach : (listenerMachine lib delegate).Reaches events world)
    (hone : events.countP Event.createsClient = 1) :
    world.client.mListener.mClient = some 0 := by
  rw [Reaches.mClient_eq hreach, hone]
  rfl

end Clients

/-- A client's listener always has the client as its delegate. -/
theorem Reaches.delegated {lib : Library} {events : List Event} {world : World}
    (hreach : (clientMachine lib).Reaches events world) :
    world.delegated = true := by
  apply Machine.Reaches.invariant (I := fun _ world => world.delegated = true)
    rfl ?_ hreach
  intro _ world event reply next _ hdelegate hstep
  exact (step_delegated hstep).trans hdelegate

end CinderXmpp
