/-
The roster state of a running client is the fold of its event history, and
every presence event announces the peer it has just updated.
-/
import CinderXmpp.RosterHistory

namespace CinderXmpp

open Gloox History

/-- The peers are what the history says: the usernames of the last roster, each
with the status of its last presence since, and connected exactly when that
status precedes `Unavailable`, which is when gloox reported the contact
online. -/
structure FoldsHistory (events : List Event) (world : World) : Prop where
  keys : Finmap.keys world.client.mRoster = (lastUsernames events).toFinset
  peer : ∀ name peer, world.client.mRoster.lookup name = some peer →
    peer.username = name ∧
    peer.status = statusAfter (lastPresence name events) ∧
    (peer.isConnected = true ↔
      peer.status.toInt < Status.unavailable.toInt) ∧
    (peer.isConnected = true ↔
      (lastPresence name events).any PresenceType.online = true)

/-- A peer is connected after a last presence that is an online one. -/
theorem isConnected_peerAfter_iff (name : String)
    (last : Option PresenceType) :
    (peerAfter name last).isConnected = true ↔
      last.any PresenceType.online = true := by
  cases last with
  | none => exact Iff.rfl
  | some presence =>
      rw [Option.any_some, ← presenceToStatus_lt_five_iff]
      exact decide_eq_true_iff

theorem Reaches.foldsHistory {lib : Library} {events : List Event}
    {world : World} (hreach : (clientMachine lib).Reaches events world) :
    FoldsHistory events world where
  keys := Reaches.keys_mRoster hreach
  peer := by
    intro name peer hpeer
    rw [Reaches.peer_eq hreach hpeer]
    exact ⟨rfl, rfl, decide_eq_true_iff, isConnected_peerAfter_iff name _⟩

/-- The presence event after `pre` emits one signal: the updated peer, its
status, and the resource and message of the event. -/
def AnnouncesPeer (lib : Library) (pre : List Event) (client : Nat)
    (item : RosterItem) (resource : String) (presence : PresenceType)
    (msg : String) : Prop :=
  ∃ before after peer,
    (clientMachine lib).Reaches pre before ∧
    (clientMachine lib).Reaches (pre ++ [.callback client
      (.handleRosterPresence item resource presence msg)]) after ∧
    after.client.mRoster.lookup item.jidJID.username = some peer ∧
    peer.status = XmppPeer.presenceToStatus presence ∧
    after.signals = before.signals ++
      [.mSignalRosterPresence peer resource peer.status msg]

theorem Reaches.announcesPeer {lib : Library} {pre : List Event} {client : Nat}
    {item : RosterItem} {resource msg : String} {presence : PresenceType}
    {after : World}
    (hreach : (clientMachine lib).Reaches (pre ++ [.callback client
      (.handleRosterPresence item resource presence msg)]) after) :
    AnnouncesPeer lib pre client item resource presence msg := by
  obtain ⟨before, reply, hbefore, hstep⟩ :=
    Machine.reaches_append_singleton_iff.mp hreach
  have hdelegate := Reaches.delegated hbefore
  obtain ⟨peer, hpeer⟩ :=
    Finmap.mem_iff.mp (step_presence_mem hdelegate hstep)
  refine ⟨before, after,
    peer.setStatus (XmppPeer.presenceToStatus presence), hbefore, hreach,
    ?_, rfl, ?_⟩
  · rw [step_mRoster hdelegate hstep]
    simp [Event.peersAfter, presencePeers, hpeer]
  · rw [step_signals hdelegate hstep]
    simp [Event.emissions, hpeer]

/-- The calls and callbacks of a client other than `connect` and the
announcement of a session. -/
def Event.running : Event → Bool
  | .connect _ _ => false
  | .callback _ (.handleMessageSession _) => false
  | _ => true

theorem Event.running_cases {event : Event} (hrunning : event.running = true) :
    event.announcesSession = false ∧ event.startsThread = false := by
  cases event with
  | callback client cb =>
      cases cb <;> first
        | exact ⟨rfl, rfl⟩
        | cases hrunning
  | connect xmppUser xmppServer => cases hrunning
  | _ => exact ⟨rfl, rfl⟩

theorem orderly_of_running {events : List Event}
    (hrunning : ∀ event ∈ events, event.running = true) :
    Guarded Orderly events := by
  intro pre event hinit
  obtain ⟨hsession, hthread⟩ :=
    Event.running_cases (hrunning event (mem_of_prefix_snoc hinit))
  exact ⟨fun h => by simp [hsession] at h, fun h => by simp [hthread] at h⟩

/-- The roster state is the fold of the event history: a run whose presence
events are for usernames of the last roster is executed to its end, leaves the
peers as the history says, and announces the updated peer at each of its
presence events, whatever their type. -/
theorem roster_folds_history (lib : Library) (events : List Event)
    (hrunning : ∀ event ∈ events, event.running = true)
    (hknown : Guarded KnownPresence events) :
    ∃ world, (clientMachine lib).Reaches events world ∧
      FoldsHistory events world ∧
      ∀ pre client item resource presence msg,
        pre ++ [.callback client
          (.handleRosterPresence item resource presence msg)] <+: events →
        AnnouncesPeer lib pre client item resource presence msg := by
  obtain ⟨world, hreach⟩ := exists_reaches_of_orderly lib
    (orderly_of_running hrunning) hknown
  refine ⟨world, hreach, Reaches.foldsHistory hreach, ?_⟩
  intro pre client item resource presence msg hinit
  obtain ⟨after, hafter⟩ := hreach.of_prefix hinit
  exact Reaches.announcesPeer hafter

namespace RosterFoldWitness

def alice : RosterItem := .ofJID ⟨"alice", "example.org", ""⟩

def bob : RosterItem := .ofJID ⟨"bob", "example.org", ""⟩

/-- Two contacts, a presence of each kind that the enumerations treat
differently, a failing disconnect and a send in between. -/
def events : List Event :=
  [.callback 0 (.handleRoster ⟨[alice, bob], by decide⟩),
    .callback 0 (.handleRosterPresence alice "phone" .chat "hi"),
    .callback 0 (.onDisconnect .connIoError),
    .sendMessage "bob" "hello" "",
    .callback 0 (.handleRosterPresence bob "desk" .error "")]

/-- The hypotheses hold of this run, and at its end the contact whose last
presence was an error is an unconnected peer of status `Invalid`. -/
theorem roster_folds_history_events :
    ∃ world, (clientMachine .documented).Reaches events world ∧
      FoldsHistory events world ∧
      world.client.mRoster.lookup "bob" =
        some ⟨"bob", false, .invalid⟩ := by
  obtain ⟨world, hreach, hfolds, _⟩ := roster_folds_history .documented events
    (by decide) (by decide)
  refine ⟨world, hreach, hfolds, ?_⟩
  rw [Reaches.lookup_eq hreach]
  decide

end RosterFoldWitness

end CinderXmpp
