/-
What a client is for, without its maps, objects and threads: contacts by name,
each with a status, and what the subscribers are told.  An `XmppClient` refines
this, and fails where it fails.
-/
import CinderXmpp.Lib.Projection
import CinderXmpp.RosterHistory

namespace CinderXmpp

open Gloox History Machine

/-- What the subscribers can learn of. -/
inductive Notice where
  | connected
  | secured
  | disconnected
  | roster (names : List String)
  | presence (name resource : String) (status : Status) (text : String)
  | message (name subject body : String)
deriving DecidableEq, Repr

/-- The contacts with their statuses, and everything told so far. -/
structure Conversation where
  contacts : String → Option Status
  told : List Signal

/-- The peer that stands for a contact with a status. -/
def contactPeer (name : String) (status : Status) : XmppPeer where
  mUsername := name
  mConnected := decide (status.toInt < 5)
  mStatus := status

/-- The peer shown for the sender of a message, who may not be a contact. -/
def Conversation.sender (c : Conversation) (name : String) : XmppPeer :=
  ((c.contacts name).map (contactPeer name)).getD {}

/-- One notice.  The presence of someone who is not a contact has no meaning;
the fault is the name. -/
def Conversation.hear (c : Conversation) :
    Notice → Except String (Unit × Conversation)
  | .connected => .ok ((), { c with told := c.told ++ [.mSignalConnect] })
  | .secured => .ok ((), { c with told := c.told ++ [.mSignalTlsConnect] })
  | .disconnected =>
      .ok ((), { c with told := c.told ++ [.mSignalDisconnect] })
  | .roster names =>
      .ok ((), {
        contacts := fun name => if name ∈ names then some .invalid else none
        told := c.told ++ [.mSignalRoster names] })
  | .presence name resource status text =>
      match c.contacts name with
      | some _ => .ok ((), {
          contacts := Function.update c.contacts name (some status)
          told := c.told ++ [.mSignalRosterPresence (contactPeer name status)
            resource status text] })
      | none => .error name
  | .message name subject body =>
      .ok ((), { c with
        told := c.told ++ [.mSignalHandleMsg (c.sender name) subject body] })

/-- A conversation from its beginning: no contacts, and nothing told. -/
def conversationMachine : Machine Conversation Notice Unit String where
  start := { contacts := fun _ => none, told := [] }
  step := Conversation.hear

/-- What an event lets the subscribers know of.  A disconnect with an error is
not among it: the client throws instead. -/
def Event.notices : Event → List Notice
  | .callback _ .onConnect => [.connected]
  | .callback _ .onTLSConnect => [.secured]
  | .callback _ (.onDisconnect e) =>
      if e = .connNoError then [.disconnected] else []
  | .callback _ (.handleRoster roster) => [.roster roster.usernames]
  | .callback _ (.handleRosterPresence item resource presence msg) =>
      [.presence item.jidJID.username resource
        (XmppPeer.presenceToStatus presence) msg]
  | .callback _ (.handleMessage msg sess) =>
      [.message sess.target.username msg.subject msg.body]
  | _ => []

/-- A client's world as a conversation. -/
def World.conversation (world : World) : Conversation where
  contacts name := (world.client.mRoster.lookup name).map XmppPeer.status
  told := world.signals

/-- Every peer in the map is the one that its name and its status make. -/
def World.Faithful (world : World) : Prop :=
  ∀ name peer, world.client.mRoster.lookup name = some peer →
    peer = contactPeer name peer.status

theorem Reaches.faithful {lib : Library} {events : List Event} {world : World}
    (hreach : (clientMachine lib).Reaches events world) : world.Faithful := by
  intro name peer hpeer
  rw [Reaches.peer_eq hreach hpeer]
  rfl

section Steps

variable {lib : Library} {world next : World} {event : Event} {reply : Reply}

theorem World.Faithful.sender_eq (hfaithful : world.Faithful) (name : String) :
    world.conversation.sender name =
      senderPeer name world.client.mRoster := by
  simp only [Conversation.sender, World.conversation, senderPeer]
  cases hlookup : world.client.mRoster.lookup name with
  | none => rfl
  | some peer =>
      have hpeer := hfaithful name peer hlookup
      rw [Option.map_some, Option.map_some, ← hpeer]

theorem contacts_freshPeers (roster : Roster) (name : String) :
    ((freshPeers roster).lookup name).map XmppPeer.status =
      if name ∈ roster.usernames then some .invalid else none := by
  rw [lookup_freshPeers]
  split <;> rfl

theorem contacts_presencePeers {name : String} {peer : XmppPeer}
    {peers : UnorderedMap String XmppPeer} (presence : PresenceType)
    (hlookup : peers.lookup name = some peer) :
    (fun other => ((presencePeers name presence peers).lookup other).map
        XmppPeer.status) =
      Function.update (fun other => (peers.lookup other).map XmppPeer.status)
        name (some (XmppPeer.presenceToStatus presence)) := by
  funext other
  unfold presencePeers
  rw [UnorderedMap.lookup_adjust, Function.update_apply]
  by_cases hname : name = other
  · subst hname
    simp [hlookup]
  · simp [hname, Ne.symm hname]

/-- One step of a client, seen as a conversation. -/
theorem step_conversation (hfaithful : world.Faithful)
    (hdelegate : world.delegated = true)
    (hstep : step lib world event = .ok (reply, next)) :
    conversationMachine.runFrom world.conversation event.notices =
      .ok next.conversation := by
  cases effect_of_step hstep with
  | inert client cb reply hinert =>
      have hnone : (Event.callback client cb).notices = [] := by
        cases cb <;> first | rfl | cases hinert
      rw [hnone]
      rfl
  | undelegated client cb hnot => simp [hdelegate] at hnot
  | stanzaSent event message current hstanza =>
      cases event <;> first | rfl | simp [Event.stanza] at hstanza
  | stanzaRefused event message hstanza =>
      cases event <;> first | rfl | simp [Event.stanza] at hstanza
  | connected client =>
      simp [Event.notices, Machine.runFrom, conversationMachine,
        Conversation.hear, World.conversation, World.emitted, hdelegate]
  | secured client =>
      simp [Event.notices, Machine.runFrom, conversationMachine,
        Conversation.hear, World.conversation, World.emitted, hdelegate]
  | disconnected client e hreturns =>
      simp [Event.notices, Machine.runFrom, conversationMachine,
        Conversation.hear, World.conversation, World.emitted, hdelegate,
        hreturns hdelegate]
  | disconnectThrew client e exc _ hexc =>
      have hne : e ≠ .connNoError := by
        rintro rfl
        cases hexc
      simp [Event.notices, Machine.runFrom, World.conversation, hne]
  | messaged client msg sess =>
      have hsender := hfaithful.sender_eq sess.target.username
      simp only [Event.notices, Machine.runFrom, conversationMachine,
        Conversation.hear, hsender]
      simp [World.conversation, World.emitted, hdelegate]
  | rosterLoaded client roster =>
      simp [Event.notices, Machine.runFrom, conversationMachine,
        Conversation.hear, World.conversation, World.emitted,
        contacts_freshPeers]
  | presenceSeen client item resource presence msg peer _ hlookup =>
      have hpeer : peer.setStatus (XmppPeer.presenceToStatus presence) =
          contactPeer item.jidJID.username
            (XmppPeer.presenceToStatus presence) := by
        rw [hfaithful _ _ hlookup]
        rfl
      simp [Event.notices, Machine.runFrom, conversationMachine,
        Conversation.hear, World.conversation, World.emitted, hlookup, hpeer,
        contacts_presencePeers presence hlookup]
  | _ => rfl

/-- A client seen as a conversation. -/
def clientProjection (lib : Library) :
    Projection (clientMachine lib) conversationMachine where
  view := World.conversation
  select := Event.notices
  start := rfl
  step _ _ _ _ _ hs hstep :=
    step_conversation (Reaches.faithful hs) (Reaches.delegated hs) hstep

/-- Where an orderly step has undefined behaviour, the conversation has no
meaning. -/
theorem Reaches.conversation_fault {events : List Event}
    (hreach : (clientMachine lib).Reaches events world)
    (horderly : Orderly events event) {fault : Fault}
    (hstep : step lib world event = .error fault) :
    ∃ name, conversationMachine.runFrom world.conversation event.notices =
      .error name := by
  by_cases hknown : KnownPresence events event
  · obtain ⟨reply, next, hok⟩ := Reaches.step_ok hreach horderly hknown
    cases hok.symm.trans hstep
  unfold KnownPresence at hknown
  push Not at hknown
  obtain ⟨item, hitem, hunknown⟩ := hknown
  rw [← Reaches.mem_mRoster_iff hreach, ← Finmap.lookup_eq_none] at hunknown
  refine ⟨item.jidJID.username, ?_⟩
  cases event with
  | callback client cb =>
      cases cb with
      | handleRosterPresence seen resource presence msg =>
          obtain rfl := Option.some.inj hitem
          simp [Event.notices, Machine.runFrom, conversationMachine,
            Conversation.hear, World.conversation, hunknown]
      | _ => cases hitem
  | _ => cases hitem

end Steps

/-- A client refines the conversation of its notices: every run is seen as one,
and an orderly history is executed to its end exactly when its notices are
meaningful, each presence being that of a contact. -/
theorem client_refines_conversation (lib : Library) (events : List Event) :
    (∀ world, (clientMachine lib).Reaches events world →
      conversationMachine.Reaches (events.flatMap Event.notices)
        world.conversation) ∧
    (Guarded Orderly events →
      ((∃ world, (clientMachine lib).Reaches events world) ↔
        ∃ c, conversationMachine.Reaches
          (events.flatMap Event.notices) c)) := by
  constructor
  · intro world hreach
    exact (clientProjection lib).reaches hreach
  · intro horderly
    apply (clientProjection lib).exists_reaches_iff ?_ horderly
    intro pre world event fault hreach hevent hstep
    exact Reaches.conversation_fault hreach hevent hstep

namespace ConversationWitness

def alice : RosterItem := .ofJID ⟨"alice", "example.org", ""⟩

def session (sender : String) : MessageSession where
  address := 0
  target := ⟨sender, "example.org", "phone"⟩

def text (body : String) : Message :=
  ⟨.chat, ⟨"carol", "example.org", ""⟩, body, ""⟩

/-- A login, a contact who comes online and writes, a stranger who writes, and
a connection that breaks. -/
def events : List Event :=
  [.connect "carol" "example.org", .openConnection true,
    .callback 0 .onConnect, .callback 0 (.handleRoster ⟨[alice], by decide⟩),
    .callback 0 (.handleRosterPresence alice "phone" .chat "hi"),
    .callback 0 (.handleMessage (text "a1") (session "alice")),
    .callback 0 (.handleMessage (text "b1") (session "bob")),
    .sendMessage "alice" "hello" "", .callback 0 (.onDisconnect .connIoError)]

/-- The history is executed, and what it tells is read off its notices. -/
theorem client_refines_conversation_events :
    ∃ world, (clientMachine .documented).Reaches events world ∧
      world.signals = [.mSignalConnect, .mSignalRoster ["alice"],
        .mSignalRosterPresence ⟨"alice", true, .chat⟩ "phone" .chat "hi",
        .mSignalHandleMsg ⟨"alice", true, .chat⟩ "" "a1",
        .mSignalHandleMsg {} "" "b1"] := by
  have hrefines := client_refines_conversation .documented events
  obtain ⟨world, hworld⟩ := (hrefines.2 (by decide)).mpr ⟨_, rfl⟩
  have htold : conversationMachine.Reaches (events.flatMap Event.notices) _ :=
    rfl
  refine ⟨world, hworld, ?_⟩
  change world.conversation.told = _
  rw [(hrefines.1 world hworld).unique htold]
  rfl

end ConversationWitness

end CinderXmpp
