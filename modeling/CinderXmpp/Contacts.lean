/-
Contacts are known by their username alone.  gloox's roster is keyed by bare
JID, so contacts with one node on several domains share a peer, and a message
from any domain is given the peer of its sender's node.
-/
import CinderXmpp.RosterHistory

namespace CinderXmpp

open Gloox History

/-- The items of a roster are told apart by their usernames. -/
def Roster.DistinctUsernames (roster : Roster) : Prop :=
  roster.usernames.Nodup

/-- The keys of the peers made for a roster are its usernames. -/
theorem keys_freshPeers (roster : Roster) :
    Finmap.keys (freshPeers roster) = roster.usernames.toFinset :=
  UnorderedMap.keys_insertAll_empty _ _ roster.items

/-- There is a peer for each item exactly when usernames tell them apart. -/
theorem card_freshPeers_eq_length_iff (roster : Roster) :
    (Finmap.keys (freshPeers roster)).card = roster.items.length ↔
      Roster.DistinctUsernames roster :=
  UnorderedMap.card_keys_insertAll_eq_length_iff _ _ roster.items

/-- A presence event with its arguments. -/
def presenceEvent (client : Nat) (item : RosterItem) (resource : String)
    (presence : PresenceType) (msg : String) : Event :=
  .callback client (.handleRosterPresence item resource presence msg)

section Frame

variable {lib : Library} {events : List Event} {world next : World}
  {reply : Reply}

/-- The frame of a presence event: no peer under another username moves. -/
theorem Reaches.lookup_presence_of_ne
    (hreach : (clientMachine lib).Reaches events world) {client : Nat}
    {item : RosterItem} {resource msg : String} {presence : PresenceType}
    (hstep : step lib world (presenceEvent client item resource presence msg) =
      .ok (reply, next))
    {name : String} (hne : item.jidJID.username ≠ name) :
    next.client.mRoster.lookup name = world.client.mRoster.lookup name := by
  rw [step_mRoster (Reaches.delegated hreach) hstep]
  exact UnorderedMap.lookup_adjust_of_ne hne _ _

theorem Reaches.lookup_presence_self
    (hreach : (clientMachine lib).Reaches events world) {client : Nat}
    {item : RosterItem} {resource msg : String} {presence : PresenceType}
    (hstep : step lib world (presenceEvent client item resource presence msg) =
      .ok (reply, next)) :
    next.client.mRoster.lookup item.jidJID.username =
      (world.client.mRoster.lookup item.jidJID.username).map
        (XmppPeer.setStatus (XmppPeer.presenceToStatus presence)) := by
  rw [step_mRoster (Reaches.delegated hreach) hstep]
  exact UnorderedMap.lookup_adjust_self _ _ _

theorem Reaches.presence_ok
    (hreach : (clientMachine lib).Reaches events world) (client : Nat)
    {item : RosterItem} (hmem : item.jidJID.username ∈ lastUsernames events)
    (resource : String) (presence : PresenceType) (msg : String) :
    ∃ reply next,
      step lib world (presenceEvent client item resource presence msg) =
        .ok (reply, next) := by
  refine Reaches.step_ok hreach ⟨?_, ?_⟩ ?_
  · intro hsession
    cases hsession
  · intro hstarts
    cases hstarts
  · intro about habout
    obtain rfl := Option.some.inj habout
    exact hmem

/-- Loading a roster replaces the peers and emits the names in its order. -/
theorem Reaches.load
    (hreach : (clientMachine lib).Reaches events world) (client : Nat)
    (roster : Roster) :
    ∃ loaded, (clientMachine lib).Reaches
        (events ++ [.callback client (.handleRoster roster)]) loaded ∧
      loaded.client.mRoster = freshPeers roster ∧
      loaded.signals = world.signals ++ [.mSignalRoster roster.usernames] := by
  have hstep := step_handleRoster lib world client roster
  rw [Reaches.delegated hreach, if_pos rfl] at hstep
  exact ⟨_, hreach.snoc hstep, rfl, rfl⟩

end Frame

/-- Presence events for items of the roster, from any client. -/
def ForItems (roster : Roster) (later : List Event) : Prop :=
  ∀ event ∈ later, ∃ client, ∃ item ∈ roster.items,
    ∃ resource presence msg,
      event = presenceEvent client item resource presence msg

/-- After the roster was loaded and any presence events for its items have
come in, one more event for an item leaves the stored status and flag of the
peer of every item with another JID as they were. -/
def FramedByItem (lib : Library) (events : List Event) (client : Nat)
    (roster : Roster) : Prop :=
  ∀ later, ForItems roster later →
    ∀ item ∈ roster.items, ∀ other ∈ roster.items,
      item.jidJID ≠ other.jidJID →
    ∀ source resource presence msg world next,
      (clientMachine lib).Reaches
        (events ++ [.callback client (.handleRoster roster)] ++ later) world →
      (clientMachine lib).Reaches
        (events ++ [.callback client (.handleRoster roster)] ++ later ++
          [presenceEvent source item resource presence msg]) next →
      (next.client.mRoster.lookup other.jidJID.username).map
          (fun peer => (peer.status, peer.isConnected)) =
        (world.client.mRoster.lookup other.jidJID.username).map
          (fun peer => (peer.status, peer.isConnected))

/-- The contacts of a roster are kept apart: one peer for each item, no name
twice in the emitted list, and no presence event that moves another item's
peer. -/
structure KeptApart (lib : Library) (events : List Event) (client : Nat)
    (roster : Roster) : Prop where
  size : ∀ world, (clientMachine lib).Reaches
      (events ++ [.callback client (.handleRoster roster)]) world →
    (Finmap.keys world.client.mRoster).card = roster.items.length
  names : ∀ before world, (clientMachine lib).Reaches events before →
    (clientMachine lib).Reaches
      (events ++ [.callback client (.handleRoster roster)]) world →
    ∃ userlist, world.signals = before.signals ++ [.mSignalRoster userlist] ∧
      userlist.Nodup
  frame : FramedByItem lib events client roster

theorem username_ne_of_distinct {roster : Roster}
    (hdistinct : Roster.DistinctUsernames roster) {item other : RosterItem}
    (hitem : item ∈ roster.items) (hother : other ∈ roster.items)
    (hne : item.jidJID ≠ other.jidJID) :
    item.jidJID.username ≠ other.jidJID.username := by
  intro hname
  apply hne
  exact congrArg RosterItem.jidJID
    (List.inj_on_of_nodup_map hdistinct hitem hother hname)

theorem framedByItem_of_distinct (lib : Library) (events : List Event)
    (client : Nat) {roster : Roster}
    (hdistinct : Roster.DistinctUsernames roster) :
    FramedByItem lib events client roster := by
  intro later _ item hitem other hother hne source resource presence msg world
    next hworld hnext
  obtain ⟨middle, reply, hmiddle, hstep⟩ :=
    Machine.reaches_append_singleton_iff.mp hnext
  obtain rfl := hworld.unique hmiddle
  rw [Reaches.lookup_presence_of_ne hworld hstep
    (username_ne_of_distinct hdistinct hitem hother hne)]

/-- Two items with one username share a peer: the first one to come online
takes the other one along. -/
theorem distinct_of_framedByItem {lib : Library} {events : List Event}
    {before : World} (hreach : (clientMachine lib).Reaches events before)
    {client : Nat} {roster : Roster}
    (hframe : FramedByItem lib events client roster) :
    Roster.DistinctUsernames roster := by
  apply List.Nodup.map_on ?_ (List.Nodup.of_map _ roster.keysNodup)
  intro item hitem other hother hname
  by_contra hne
  obtain ⟨loaded, hloaded, hpeers, _⟩ := Reaches.load hreach client roster
  have hlookup : loaded.client.mRoster.lookup other.jidJID.username =
      some { mUsername := other.jidJID.username } := by
    rw [hpeers, lookup_freshPeers]
    exact if_pos (List.mem_map_of_mem hother)
  have hmem : item.jidJID.username ∈ lastUsernames
      (events ++ [.callback client (.handleRoster roster)]) := by
    rw [lastUsernames_append_singleton]
    exact List.mem_map_of_mem hitem
  obtain ⟨reply, moved, hstep⟩ :=
    Reaches.presence_ok hloaded client hmem "" .available ""
  have hmoved := Reaches.lookup_presence_self hloaded hstep
  rw [hname, hlookup] at hmoved
  have hkept := hframe [] (by simp [ForItems]) item hitem other hother
    (fun heq => hne (RosterItem.ext_jidJID heq)) client "" .available "" loaded
    moved (by simpa using hloaded) (by simpa using hloaded.snoc hstep)
  rw [hmoved, hlookup] at hkept
  revert hkept
  simp [XmppPeer.setStatus, XmppPeer.status, XmppPeer.presenceToStatus,
    PresenceType.toInt, Status.ofInt]

theorem keptApart_of_distinct (lib : Library) (events : List Event)
    (client : Nat) {roster : Roster}
    (hdistinct : Roster.DistinctUsernames roster) :
    KeptApart lib events client roster where
  size := by
    intro world hworld
    obtain ⟨before, _, hbefore, _⟩ :=
      Machine.reaches_append_singleton_iff.mp hworld
    obtain ⟨loaded, hloaded, hpeers, _⟩ := Reaches.load hbefore client roster
    obtain rfl := hworld.unique hloaded
    rw [hpeers]
    exact (card_freshPeers_eq_length_iff roster).mpr hdistinct
  names := by
    intro before world hbefore hworld
    obtain ⟨loaded, hloaded, _, hsignals⟩ := Reaches.load hbefore client roster
    obtain rfl := hworld.unique hloaded
    exact ⟨roster.usernames, hsignals, hdistinct⟩
  frame := framedByItem_of_distinct lib events client hdistinct

/-- Contacts are told apart by their usernames: loading a roster leaves peers
under exactly its usernames and emits the names of its items, a presence event
leaves the peers of other usernames alone, and the items themselves are kept
apart exactly when no two of them share a username. -/
theorem contacts_kept_apart_iff (lib : Library) (events : List Event)
    (before : World) (hreach : (clientMachine lib).Reaches events before)
    (client : Nat) (roster : Roster) :
    (∃ loaded, (clientMachine lib).Reaches
        (events ++ [.callback client (.handleRoster roster)]) loaded ∧
      Finmap.keys loaded.client.mRoster = roster.usernames.toFinset ∧
      loaded.signals = before.signals ++ [.mSignalRoster roster.usernames]) ∧
    (∀ item resource presence msg next name,
      (clientMachine lib).Reaches (events ++
        [presenceEvent client item resource presence msg]) next →
      item.jidJID.username ≠ name →
      next.client.mRoster.lookup name = before.client.mRoster.lookup name) ∧
    (KeptApart lib events client roster ↔
      Roster.DistinctUsernames roster) := by
  refine ⟨?_, ?_, ?_, keptApart_of_distinct lib events client⟩
  · obtain ⟨loaded, hloaded, hpeers, hsignals⟩ :=
      Reaches.load hreach client roster
    refine ⟨loaded, hloaded, ?_, hsignals⟩
    rw [hpeers, keys_freshPeers]
  · intro item resource presence msg next name hnext hne
    obtain ⟨middle, reply, hmiddle, hstep⟩ :=
      Machine.reaches_append_singleton_iff.mp hnext
    obtain rfl := hreach.unique hmiddle
    exact Reaches.lookup_presence_of_ne hreach hstep hne
  · intro hkept
    exact distinct_of_framedByItem hreach hkept.frame

/-! The sender of a message. -/

/-- The item of the last roster whose peer is stored under a name. -/
def rosterOwner (events : List Event) (name : String) : Option RosterItem :=
  (lastSome Event.roster? events).bind fun roster =>
    Roster.owner? roster name

/-- If the peer that a message emits is an entry of `mRoster`, then the entry
was made for an item of the last roster whose JID is the bare JID of the
session's target. -/
def AttributedToContact (events : List Event) (world : World)
    (sess : MessageSession) (peer : XmppPeer) : Prop :=
  ∀ name, world.client.mRoster.lookup name = some peer →
    ∃ item, rosterOwner events name = some item ∧
      item.jidJID = sess.target.bareJID

theorem rosterOwner_eq_none_iff {events : List Event} {name : String} :
    rosterOwner events name = none ↔ name ∉ lastUsernames events := by
  unfold rosterOwner lastUsernames
  cases lastSome Event.roster? events with
  | none => simp
  | some roster => exact Roster.owner?_eq_none_iff

theorem rosterOwner_username {events : List Event} {name : String}
    {item : RosterItem} (howner : rosterOwner events name = some item) :
    item.jidJID.username = name := by
  obtain ⟨roster, _, hitem⟩ := Option.bind_eq_some_iff.mp howner
  exact (Roster.owner?_eq_some hitem).2

/-- Two bare JIDs with one node are equal when their servers are. -/
theorem jidJID_eq_bareJID_iff {item : RosterItem} {target : JID}
    (hname : item.jidJID.username = target.username) :
    item.jidJID = target.bareJID ↔ item.jidJID.server = target.server := by
  constructor
  · intro heq
    rw [heq]
    rfl
  · intro hserver
    rw [← item.isBare]
    simp [JID.bareJID, hname, hserver]

/-- The peer of a reachable client that has a name is the one under it. -/
theorem Reaches.name_eq {lib : Library} {events : List Event} {world : World}
    (hreach : (clientMachine lib).Reaches events world) {name : String}
    {peer : XmppPeer} (hpeer : world.client.mRoster.lookup name = some peer) :
    name = peer.mUsername := by
  rw [Reaches.peer_eq hreach hpeer]
  rfl

section Attribution

variable {lib : Library} {events : List Event} {world : World}
  {sess : MessageSession}

/-- An entry under the sender's username is attributed rightly exactly when its
item is on the sender's server. -/
theorem Reaches.attributed_iff_of_owner
    (hreach : (clientMachine lib).Reaches events world) {item : RosterItem}
    (howner : rosterOwner events sess.target.username = some item)
    {peer : XmppPeer}
    (hpeer : world.client.mRoster.lookup sess.target.username = some peer) :
    AttributedToContact events world sess peer ↔
      item.jidJID.server = sess.target.server := by
  rw [← jidJID_eq_bareJID_iff (rosterOwner_username howner)]
  constructor
  · intro hattributed
    obtain ⟨found, hfound, hjid⟩ := hattributed _ hpeer
    obtain rfl := Option.some.inj (howner.symm.trans hfound)
    exact hjid
  · intro hjid name hname
    obtain rfl : name = sess.target.username :=
      (Reaches.name_eq hreach hname).trans (Reaches.name_eq hreach hpeer).symm
    exact ⟨item, howner, hjid⟩

/-- Without an entry for the sender the default peer is passed on, which is
that of a contact only if the contact is named like it. -/
theorem Reaches.attributed_iff_of_no_owner
    (hreach : (clientMachine lib).Reaches events world)
    (howner : rosterOwner events sess.target.username = none) :
    AttributedToContact events world sess {} ↔
      world.client.mRoster.lookup "unknown" ≠ some {} := by
  constructor
  · intro hattributed hunknown
    obtain ⟨item, hitem, hjid⟩ := hattributed "unknown" hunknown
    have hname : sess.target.username = "unknown" := by
      rw [← rosterOwner_username hitem, hjid]
      rfl
    rw [hname, hitem] at howner
    cases howner
  · intro hnot name hname
    obtain rfl : name = "unknown" := Reaches.name_eq hreach hname
    exact absurd hname hnot

end Attribution

/-- A message is attributed by the node of its sender.  It emits one signal,
whose peer is the entry made for the first item of the last roster with the
sender's username, and that item is the sender exactly when its server is the
sender's.  Without such an item the peer is the default one, which has the
value of an entry only if a contact named `unknown` has no status yet. -/
theorem message_attributed_by_username (lib : Library) (events : List Event)
    (world : World) (hreach : (clientMachine lib).Reaches events world)
    (client : Nat) (msg : Message) (sess : MessageSession) :
    ∃ next peer, (clientMachine lib).Reaches
        (events ++ [.callback client (.handleMessage msg sess)]) next ∧
      next.signals = world.signals ++
        [.mSignalHandleMsg peer msg.subject msg.body] ∧
      (∀ item, rosterOwner events sess.target.username = some item →
        item.jidJID.username = sess.target.username ∧
        world.client.mRoster.lookup sess.target.username = some peer ∧
        (AttributedToContact events world sess peer ↔
          item.jidJID.server = sess.target.server)) ∧
      (rosterOwner events sess.target.username = none →
        world.client.mRoster.lookup sess.target.username = none ∧
        peer = {} ∧
        (AttributedToContact events world sess peer ↔
          world.client.mRoster.lookup "unknown" ≠ some {})) := by
  have hstep := step_handleMessage lib world client msg sess
  have hlookup := Reaches.lookup_eq hreach sess.target.username
  refine ⟨_, senderPeer sess.target.username world.client.mRoster,
    hreach.snoc hstep, ?_, ?_, ?_⟩
  · rw [Reaches.delegated hreach]
    rfl
  · intro item howner
    have hname := rosterOwner_username howner
    have hmem : sess.target.username ∈ lastUsernames events := by
      by_contra hnot
      rw [← rosterOwner_eq_none_iff, howner] at hnot
      cases hnot
    rw [if_pos hmem] at hlookup
    have hpeer : world.client.mRoster.lookup sess.target.username =
        some (senderPeer sess.target.username world.client.mRoster) := by
      simp [senderPeer, hlookup]
    exact ⟨hname, hpeer, Reaches.attributed_iff_of_owner hreach howner hpeer⟩
  · intro howner
    rw [if_neg (rosterOwner_eq_none_iff.mp howner)] at hlookup
    have hpeer : senderPeer sess.target.username world.client.mRoster = {} := by
      simp [senderPeer, hlookup]
    rw [hpeer]
    exact ⟨hlookup, rfl, Reaches.attributed_iff_of_no_owner hreach howner⟩

namespace ContactsWitness

def aliceHome : RosterItem := .ofJID ⟨"alice", "home.org", ""⟩

def aliceWork : RosterItem := .ofJID ⟨"alice", "work.org", ""⟩

def bob : RosterItem := .ofJID ⟨"bob", "home.org", ""⟩

/-- Two contacts with one node on different servers. -/
def twoAlices : Roster := ⟨[aliceHome, aliceWork], by decide⟩

/-- Two contacts that usernames tell apart. -/
def aliceAndBob : Roster := ⟨[aliceHome, bob], by decide⟩

/-- For the first roster all three parts fail: there is one peer for two items,
its name is emitted twice, and a presence of one item connects the other. -/
theorem contacts_not_kept_apart_twoAlices :
    aliceHome.jidJID ≠ aliceWork.jidJID ∧
    (∃ loaded, (clientMachine .documented).Reaches
        [.callback 0 (.handleRoster twoAlices)] loaded ∧
      (Finmap.keys loaded.client.mRoster).card = 1 ∧
      loaded.signals = [.mSignalRoster ["alice", "alice"]] ∧
      loaded.client.mRoster.lookup aliceWork.jidJID.username =
        some { mUsername := "alice" }) ∧
    (∃ moved, (clientMachine .documented).Reaches
        [.callback 0 (.handleRoster twoAlices),
          presenceEvent 0 aliceHome "phone" .available ""] moved ∧
      moved.client.mRoster.lookup aliceWork.jidJID.username =
        some ⟨"alice", true, .available⟩) ∧
    ¬ KeptApart .documented [] 0 twoAlices := by
  refine ⟨by decide, ⟨_, rfl, rfl, rfl, rfl⟩, ⟨_, rfl, rfl⟩, ?_⟩
  intro hkept
  exact absurd (hkept.size _ rfl) (by decide)

theorem contacts_kept_apart_iff_aliceAndBob :
    KeptApart .documented [] 0 aliceAndBob :=
  (contacts_kept_apart_iff .documented [] _ rfl 0 aliceAndBob).2.2.mpr
    (by unfold Roster.DistinctUsernames; decide)

/-- One contact is on the roster, and comes online. -/
def aliceOnline : List Event :=
  [.callback 0 (.handleRoster ⟨[aliceHome], by decide⟩),
    presenceEvent 0 aliceHome "phone" .available ""]

/-- A session with a stranger who has the contact's node on another server. -/
def impostor : MessageSession :=
  { address := 0, target := ⟨"alice", "evil.net", "x"⟩ }

def hello : Message :=
  { subtype := .chat, recipient := ⟨"carol", "home.org", ""⟩, body := "hi",
    subject := "" }

/-- The stranger is presented as the contact, status and flag included. -/
theorem stranger_attributed_to_contact :
    ∃ world next, (clientMachine .documented).Reaches aliceOnline world ∧
      (clientMachine .documented).Reaches
        (aliceOnline ++ [.callback 0 (.handleMessage hello impostor)]) next ∧
      next.signals = world.signals ++
        [.mSignalHandleMsg ⟨"alice", true, .available⟩ "" "hi"] ∧
      world.client.mRoster.lookup impostor.target.username =
        some ⟨"alice", true, .available⟩ ∧
      aliceHome.jidJID ≠ impostor.target.bareJID ∧
      ¬ AttributedToContact aliceOnline world impostor
        ⟨"alice", true, .available⟩ := by
  refine ⟨_, _, rfl, rfl, rfl, rfl, by decide, ?_⟩
  intro hattributed
  obtain ⟨item, howner, hjid⟩ := hattributed "alice" rfl
  obtain rfl : aliceHome = item := Option.some.inj howner
  exact absurd hjid (by decide)

theorem message_attributed_by_username_aliceOnline :
    ∃ next peer, (clientMachine .documented).Reaches
        (aliceOnline ++ [.callback 0 (.handleMessage hello
          { address := 0, target := ⟨"alice", "home.org", "phone"⟩ })]) next ∧
      next.signals.getLast? = some (.mSignalHandleMsg peer "" "hi") := by
  obtain ⟨next, peer, hnext, hsignals, _⟩ := message_attributed_by_username
    .documented aliceOnline _ rfl 0 hello
    { address := 0, target := ⟨"alice", "home.org", "phone"⟩ }
  refine ⟨next, peer, hnext, ?_⟩
  rw [hsignals, List.getLast?_append]
  rfl

end ContactsWitness

end CinderXmpp
