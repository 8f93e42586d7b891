/-
The connected flag of a peer against the resources of its roster item.  A peer
has one status, and every presence overwrites it, while an item is online as
long as any of its resources is.
-/
import CinderXmpp.Contacts
import CinderXmpp.Lib.LiveSet

namespace CinderXmpp

open Gloox History

/-- What a presence does to the resources of the item of a JID: `Unavailable`
removes the resource, an online type records it. -/
def Event.resourceChange? (jid : JID) : Event → Option (Change String)
  | .callback _ (.handleRosterPresence item resource presence _) =>
      if item.jidJID = jid then
        if presence.online then some (.opened resource)
        else if presence = .unavailable then some (.closed resource)
        else none
      else none
  | _ => none

/-- What the events since a full roster do to the resources of an item. -/
def resourceChanges (jid : JID) (later : List Event) : List (Change String) :=
  later.filterMap (Event.resourceChange? jid)

/-- The resources an item has after the events since a full roster. -/
def resources (jid : JID) (later : List Event) : Finset String :=
  Change.live (resourceChanges jid later)

/-- `RosterItem::online`: at least one resource is online. -/
def Online (jid : JID) (later : List Event) : Prop :=
  (resources jid later).Nonempty

/-- Presence events for items of the roster that record or remove a
resource. -/
def ResourceEvents (roster : Roster) (later : List Event) : Prop :=
  ∀ event ∈ later, ∃ client, ∃ item ∈ roster.items,
    ∃ resource presence msg,
      (presence.online = true ∨ presence = .unavailable) ∧
      event = presenceEvent client item resource presence msg

theorem ResourceEvents.forItems {roster : Roster} {later : List Event}
    (hlater : ResourceEvents roster later) : ForItems roster later := by
  intro event hevent
  obtain ⟨client, item, hitem, resource, presence, msg, _, hpresence⟩ :=
    hlater event hevent
  exact ⟨client, item, hitem, resource, presence, msg, hpresence⟩

theorem ForItems.of_append_singleton {roster : Roster} {later : List Event}
    {event : Event} (hlater : ForItems roster (later ++ [event])) :
    ForItems roster later ∧ ∃ client, ∃ item ∈ roster.items,
      ∃ resource presence msg,
        event = presenceEvent client item resource presence msg :=
  ⟨fun earlier hearlier => hlater earlier (List.mem_append_left _ hearlier),
    hlater event (List.mem_append_right _ List.mem_cons_self)⟩

section Loaded

variable (events : List Event) (client : Nat) (roster : Roster)

/-- The history of a run that loads a roster and then sees presences. -/
def loadedThen (later : List Event) : List Event :=
  events ++ [.callback client (.handleRoster roster)] ++ later

theorem loadedThen_append_singleton (later : List Event) (event : Event) :
    loadedThen events client roster (later ++ [event]) =
      loadedThen events client roster later ++ [event] := by
  simp [loadedThen]

theorem lastUsernames_loadedThen {later : List Event}
    (hlater : ForItems roster later) :
    lastUsernames (loadedThen events client roster later) =
      roster.usernames := by
  induction later using List.reverseRecOn with
  | nil => simp [loadedThen, lastUsernames_append_singleton, Event.roster?]
  | append_singleton pre event ih =>
      obtain ⟨hpre, source, item, _, resource, presence, msg, rfl⟩ :=
        hlater.of_append_singleton
      rw [loadedThen_append_singleton, lastUsernames_append_singleton]
      exact ih hpre

theorem lastPresence_loadedThen {later : List Event}
    (hlater : ForItems roster later) (name : String) :
    lastPresence name (loadedThen events client roster later) =
      lastSome (Event.presenceOf? name) later := by
  induction later using List.reverseRecOn with
  | nil => simp [loadedThen, lastPresence_append_singleton, Event.roster?]
  | append_singleton pre event ih =>
      obtain ⟨hpre, source, item, _, resource, presence, msg, rfl⟩ :=
        hlater.of_append_singleton
      rw [loadedThen_append_singleton, lastPresence_append_singleton,
        lastSome_append_singleton, ih hpre]
      rfl

/-- After a roster was loaded, presences of its items always go through. -/
theorem exists_reaches_loadedThen {lib : Library} {before : World}
    (hreach : (clientMachine lib).Reaches events before) {later : List Event}
    (hlater : ForItems roster later) :
    ∃ world, (clientMachine lib).Reaches
      (loadedThen events client roster later) world := by
  induction later using List.reverseRecOn with
  | nil =>
      obtain ⟨loaded, hloaded, _⟩ := Reaches.load hreach client roster
      exact ⟨loaded, by simpa [loadedThen] using hloaded⟩
  | append_singleton pre event ih =>
      obtain ⟨hpre, source, item, hitem, resource, presence, msg, rfl⟩ :=
        hlater.of_append_singleton
      obtain ⟨world, hworld⟩ := ih hpre
      have hmem : item.jidJID.username ∈
          lastUsernames (loadedThen events client roster pre) := by
        rw [lastUsernames_loadedThen events client roster hpre]
        exact List.mem_map_of_mem hitem
      obtain ⟨reply, next, hstep⟩ :=
        Reaches.presence_ok hworld source hmem resource presence msg
      refine ⟨next, ?_⟩
      rw [loadedThen_append_singleton]
      exact hworld.snoc hstep

end Loaded

/-- When usernames tell the items apart, the status that the last presence of a
username leaves is a connected one exactly when the last change of its item's
resources records one. -/
theorem statusAfter_lt_five_iff {roster : Roster}
    (hdistinct : Roster.DistinctUsernames roster) {later : List Event}
    (hlater : ResourceEvents roster later) {item : RosterItem}
    (hitem : item ∈ roster.items) :
    (statusAfter (lastSome (Event.presenceOf? item.jidJID.username)
        later)).toInt < 5 ↔
      ∃ resource, (resourceChanges item.jidJID later).getLast? =
        some (.opened resource) := by
  change _ ↔ ∃ resource,
    lastSome (Event.resourceChange? item.jidJID) later = some (.opened resource)
  induction later using List.reverseRecOn with
  | nil => simp [statusAfter, Status.toInt]
  | append_singleton pre event ih =>
      have hpre : ResourceEvents roster pre := fun earlier hearlier =>
        hlater earlier (List.mem_append_left _ hearlier)
      obtain ⟨source, owner, howner, resource, presence, msg, htype, rfl⟩ :=
        hlater event (List.mem_append_right _ List.mem_cons_self)
      rw [lastSome_append_singleton, lastSome_append_singleton]
      by_cases hjid : owner.jidJID = item.jidJID
      · have hname : owner.jidJID.username = item.jidJID.username := by
          rw [hjid]
        rcases htype with honline | rfl
        · simp [presenceEvent, Event.presenceOf?, Event.resourceChange?, hjid,
            honline, statusAfter, presenceToStatus_lt_five_iff]
        · simp [presenceEvent, Event.presenceOf?, Event.resourceChange?, hjid,
            statusAfter, presenceToStatus_lt_five_iff, PresenceType.online]
      · have hname := username_ne_of_distinct hdistinct howner hitem hjid
        simpa [presenceEvent, Event.presenceOf?, Event.resourceChange?, hjid,
          hname] using ih hpre

/-- A peer follows the last presence of its contact: it is connected exactly
when the last presence of the item records a resource.  So a connected peer is
online, and the two agree except where the last presence has removed one
resource and another one is still online. -/
theorem peer_follows_last_presence (lib : Library) (events : List Event)
    (before : World) (hreach : (clientMachine lib).Reaches events before)
    (client : Nat) (roster : Roster)
    (hdistinct : Roster.DistinctUsernames roster) (later : List Event)
    (hlater : ResourceEvents roster later) :
    ∃ world, (clientMachine lib).Reaches
        (events ++ [.callback client (.handleRoster roster)] ++ later) world ∧
      ∀ item ∈ roster.items, ∃ peer,
        world.client.mRoster.lookup item.jidJID.username = some peer ∧
        (peer.isConnected = true ↔ ∃ resource,
          (resourceChanges item.jidJID later).getLast? =
            some (.opened resource)) ∧
        (peer.isConnected = true → Online item.jidJID later) ∧
        ((peer.isConnected = true ↔ Online item.jidJID later) ↔
          ¬ ∃ resource other, (resourceChanges item.jidJID later).getLast? =
              some (.closed resource) ∧
            other ∈ resources item.jidJID later ∧ other ≠ resource) := by
  obtain ⟨world, hworld⟩ :=
    exists_reaches_loadedThen events client roster hreach hlater.forItems
  refine ⟨world, hworld, ?_⟩
  intro item hitem
  have hmem : item.jidJID.username ∈ roster.usernames :=
    List.mem_map_of_mem hitem
  have hpeer := Reaches.lookup_eq hworld item.jidJID.username
  rw [lastUsernames_loadedThen events client roster hlater.forItems,
    if_pos hmem] at hpeer
  have hconnected : (historyPeer item.jidJID.username
      (loadedThen events client roster later)).isConnected = true ↔
      ∃ resource, (resourceChanges item.jidJID later).getLast? =
        some (.opened resource) := by
    rw [← statusAfter_lt_five_iff hdistinct hlater hitem,
      ← lastPresence_loadedThen events client roster hlater.forItems]
    exact decide_eq_true_iff
  refine ⟨_, hpeer, hconnected, ?_, ?_⟩
  · intro hpeerConnected
    exact ((Change.exists_opened_iff _).mp (hconnected.mp hpeerConnected)).1
  · rw [hconnected]
    exact Change.opened_iff_nonempty_iff (resourceChanges item.jidJID later)

namespace ResourcesWitness

def alice : RosterItem := .ofJID ⟨"alice", "example.org", ""⟩

def bob : RosterItem := .ofJID ⟨"bob", "example.org", ""⟩

def contacts : Roster := ⟨[alice, bob], by decide⟩

/-- Two resources of one contact interleave with a third presence; the first
one goes away while the second is online. -/
def twoDevices : List Event :=
  [presenceEvent 0 alice "phone" .available "",
    presenceEvent 0 bob "desk" .away "",
    presenceEvent 0 alice "laptop" .chat "",
    presenceEvent 0 alice "phone" .unavailable ""]

theorem resourceEvents_twoDevices : ResourceEvents contacts twoDevices := by
  intro event hevent
  simp only [twoDevices, List.mem_cons, List.not_mem_nil, or_false] at hevent
  rcases hevent with rfl | rfl | rfl | rfl
  · exact ⟨0, alice, by decide, _, _, _, .inl rfl, rfl⟩
  · exact ⟨0, bob, by decide, _, _, _, .inl rfl, rfl⟩
  · exact ⟨0, alice, by decide, _, _, _, .inl rfl, rfl⟩
  · exact ⟨0, alice, by decide, _, _, _, .inr rfl, rfl⟩

/-- The contact is online on one device, and its peer is not connected. -/
theorem online_peer_not_connected_twoDevices :
    Roster.DistinctUsernames contacts ∧ ResourceEvents contacts twoDevices ∧
    ∃ world peer, (clientMachine .documented).Reaches
        ([.callback 0 (.handleRoster contacts)] ++ twoDevices) world ∧
      world.client.mRoster.lookup alice.jidJID.username = some peer ∧
      "laptop" ∈ resources alice.jidJID twoDevices ∧
      Online alice.jidJID twoDevices ∧ peer.isConnected = false ∧
      ¬ (peer.isConnected = true ↔ Online alice.jidJID twoDevices) := by
  have hlaptop : "laptop" ∈ resources alice.jidJID twoDevices := by decide
  refine ⟨by unfold Roster.DistinctUsernames; decide,
    resourceEvents_twoDevices, _, ⟨"alice", false, .unavailable⟩, rfl, rfl,
    hlaptop, ⟨_, hlaptop⟩, rfl, ?_⟩
  intro hagree
  cases hagree.mpr ⟨_, hlaptop⟩

theorem peer_follows_last_presence_twoDevices :
    ∃ world, (clientMachine .documented).Reaches
        ([] ++ [.callback 0 (.handleRoster contacts)] ++ twoDevices) world ∧
      ∃ peer, world.client.mRoster.lookup bob.jidJID.username = some peer ∧
        (peer.isConnected = true ↔ Online bob.jidJID twoDevices) := by
  obtain ⟨world, hworld, hpeers⟩ := peer_follows_last_presence .documented []
    _ rfl 0 contacts (by unfold Roster.DistinctUsernames; decide) twoDevices
    resourceEvents_twoDevices
  obtain ⟨peer, hpeer, _, _, hagree⟩ := hpeers bob (by decide)
  refine ⟨world, hworld, peer, hpeer, hagree.mpr ?_⟩
  rintro ⟨resource, other, hlast, _⟩
  have hopened : (resourceChanges bob.jidJID twoDevices).getLast? =
      some (.opened "desk") := by decide
  rw [hopened] at hlast
  cases hlast

end ResourcesWitness

end CinderXmpp
