/-
The peers as a function of the event history: the last roster gives the keys,
the last presence of a username since then gives its peer.  No other event
matters.
-/
import CinderXmpp.StepEffect

namespace CinderXmpp

open Gloox History

/-- The roster an event delivers. -/
def Event.roster? : Event → Option Roster
  | .callback _ (.handleRoster roster) => some roster
  | _ => none

/-- The presence an event reports for a username. -/
def Event.presenceOf? (name : String) : Event → Option PresenceType
  | .callback _ (.handleRosterPresence item _ presence _) =>
      if item.jidJID.username = name then some presence else none
  | _ => none

/-- The events after the last `handleRoster`. -/
def sinceRoster (events : List Event) : List Event :=
  since (fun event => event.roster?.isSome) events

/-- The usernames in the argument of the last `handleRoster`; none before the
first one. -/
def lastUsernames (events : List Event) : List String :=
  ((lastSome Event.roster? events).map Roster.usernames).getD []

/-- The last presence reported for a username after the last `handleRoster`. -/
def lastPresence (name : String) (events : List Event) : Option PresenceType :=
  lastSome (Event.presenceOf? name) (sinceRoster events)

/-- The status after a last presence, if there was one. -/
def statusAfter : Option PresenceType → Status
  | some presence => XmppPeer.presenceToStatus presence
  | none => .invalid

/-- The peer of a username after its last presence, if there was one. -/
def peerAfter (name : String) (last : Option PresenceType) : XmppPeer where
  mUsername := name
  mConnected := decide ((statusAfter last).toInt < 5)
  mStatus := statusAfter last

/-- The peer that the history gives a username. -/
def historyPeer (name : String) (events : List Event) : XmppPeer :=
  peerAfter name (lastPresence name events)

@[simp] theorem lastUsernames_nil : lastUsernames [] = [] := rfl

theorem lastUsernames_append_singleton (events : List Event) (event : Event) :
    lastUsernames (events ++ [event]) =
      match event.roster? with
      | some roster => roster.usernames
      | none => lastUsernames events := by
  unfold lastUsernames
  rw [lastSome_append_singleton]
  cases event.roster? <;> rfl

theorem lastPresence_append_singleton (name : String) (events : List Event)
    (event : Event) :
    lastPresence name (events ++ [event]) =
      if event.roster?.isSome then none
      else (event.presenceOf? name).or (lastPresence name events) := by
  unfold lastPresence sinceRoster
  rw [since_append_singleton]
  cases event.roster?.isSome <;> simp

/-- An event delivers a roster, reports a presence, or leaves the peers and
their history alone. -/
theorem Event.roster_cases (event : Event) :
    (∃ client roster, event = .callback client (.handleRoster roster)) ∨
    (∃ client item resource presence msg, event = .callback client
      (.handleRosterPresence item resource presence msg)) ∨
    ((∀ peers, event.peersAfter peers = peers) ∧ event.roster? = none ∧
      ∀ name, event.presenceOf? name = none) := by
  cases event with
  | callback client cb =>
      cases cb with
      | handleRoster roster => exact .inl ⟨client, roster, rfl⟩
      | handleRosterPresence item resource presence msg =>
          exact .inr (.inl ⟨client, item, resource, presence, msg, rfl⟩)
      | _ => exact .inr (.inr ⟨fun _ => rfl, rfl, fun _ => rfl⟩)
  | _ => exact .inr (.inr ⟨fun _ => rfl, rfl, fun _ => rfl⟩)

/-- The first item with a username: the one its peer is made for. -/
def Roster.owner? (roster : Roster) (name : String) : Option RosterItem :=
  roster.items.find? fun item => decide (item.jidJID.username = name)

theorem Roster.owner?_eq_some {roster : Roster} {name : String}
    {item : RosterItem} (howner : Roster.owner? roster name = some item) :
    item ∈ roster.items ∧ item.jidJID.username = name :=
  ⟨List.mem_of_find?_eq_some howner, by simpa using List.find?_some howner⟩

theorem Roster.owner?_eq_none_iff {roster : Roster} {name : String} :
    Roster.owner? roster name = none ↔ name ∉ roster.usernames := by
  simp [Roster.owner?, Roster.usernames, List.find?_eq_none]

/-- `insert` keeps the entry that is there, so the peer under a name is the one
made for the owner of the name. -/
theorem lookup_freshPeers_eq_owner (roster : Roster) (name : String) :
    (freshPeers roster).lookup name =
      (Roster.owner? roster name).map
        fun item => { mUsername := item.jidJID.username } := by
  unfold freshPeers Roster.owner?
  rw [UnorderedMap.lookup_insertAll]
  simp

theorem lookup_freshPeers (roster : Roster) (name : String) :
    (freshPeers roster).lookup name =
      if name ∈ roster.usernames then some { mUsername := name } else none := by
  rw [lookup_freshPeers_eq_owner]
  cases howner : Roster.owner? roster name with
  | none => simp [Roster.owner?_eq_none_iff.mp howner]
  | some item =>
      obtain ⟨hitem, hname⟩ := Roster.owner?_eq_some howner
      have hmem : name ∈ roster.usernames := by
        rw [← hname]
        exact List.mem_map_of_mem hitem
      simp [hmem, hname]

@[simp] theorem setStatus_peerAfter (name : String)
    (last : Option PresenceType) (presence : PresenceType) :
    (peerAfter name last).setStatus (XmppPeer.presenceToStatus presence) =
      peerAfter name (some presence) := rfl

/-- One step keeps the agreement of the peers with the history. -/
theorem lookup_peersAfter {events : List Event} {event : Event}
    {peers : UnorderedMap String XmppPeer} (name : String)
    (hpeers : peers.lookup name =
      if name ∈ lastUsernames events then some (historyPeer name events)
      else none) :
    (event.peersAfter peers).lookup name =
      if name ∈ lastUsernames (events ++ [event]) then
        some (historyPeer name (events ++ [event]))
      else none := by
  unfold historyPeer at hpeers ⊢
  rw [lastUsernames_append_singleton, lastPresence_append_singleton]
  rcases event.roster_cases with ⟨client, roster, rfl⟩ |
    ⟨client, item, resource, presence, msg, rfl⟩ | ⟨hsame, hroster, hpresence⟩
  · exact lookup_freshPeers roster name
  · simp only [Event.peersAfter, presencePeers, Event.roster?,
      Event.presenceOf?]
    rw [UnorderedMap.lookup_adjust, hpeers]
    by_cases hname : item.jidJID.username = name
    · by_cases hmem : name ∈ lastUsernames events <;> simp [hname, hmem]
    · simp [hname]
  · simp [hsame, hpeers, hroster, hpresence]

section Runs

variable {lib : Library} {events : List Event} {world : World}

/-- The peers of every reachable client are those of its history. -/
theorem Reaches.lookup_eq (hreach : (clientMachine lib).Reaches events world)
    (name : String) :
    world.client.mRoster.lookup name =
      if name ∈ lastUsernames events then some (historyPeer name events)
      else none := by
  apply Machine.Reaches.invariant
    (I := fun events world => world.client.mRoster.lookup name =
      if name ∈ lastUsernames events then some (historyPeer name events)
      else none) ?_ ?_ hreach
  · simp [clientMachine, XmppClient.new]
  · intro events world event reply next hbefore hpeers hstep
    rw [step_mRoster (Reaches.delegated hbefore) hstep]
    exact lookup_peersAfter name hpeers

theorem Reaches.mem_mRoster_iff
    (hreach : (clientMachine lib).Reaches events world) (name : String) :
    name ∈ world.client.mRoster ↔ name ∈ lastUsernames events := by
  rw [← Finmap.lookup_isSome, Reaches.lookup_eq hreach name]
  split <;> simp_all

theorem Reaches.keys_mRoster
    (hreach : (clientMachine lib).Reaches events world) :
    Finmap.keys world.client.mRoster = (lastUsernames events).toFinset := by
  ext name
  rw [Finmap.mem_keys, Reaches.mem_mRoster_iff hreach, List.mem_toFinset]

theorem Reaches.peer_eq (hreach : (clientMachine lib).Reaches events world)
    {name : String} {peer : XmppPeer}
    (hpeer : world.client.mRoster.lookup name = some peer) :
    peer = historyPeer name events := by
  rw [Reaches.lookup_eq hreach name] at hpeer
  split at hpeer
  · exact (Option.some.inj hpeer).symm
  · cases hpeer

end Runs

/-! Which events a run can take. -/

/-- The item a presence event is about. -/
def Event.presenceItem? : Event → Option RosterItem
  | .callback _ (.handleRosterPresence item _ _ _) => some item
  | _ => none

/-- A presence event is for a username of the last roster. -/
def KnownPresence (pre : List Event) (event : Event) : Prop :=
  ∀ item ∈ event.presenceItem?, item.jidJID.username ∈ lastUsernames pre

instance (pre : List Event) (event : Event) :
    Decidable (KnownPresence pre event) :=
  inferInstanceAs (Decidable (∀ item ∈ event.presenceItem?, _))

def Event.announcesSession : Event → Bool
  | .callback _ (.handleMessageSession _) => true
  | _ => false

/-- A session is announced only once there is a client, and only one `connect`
gets past its check: the next one would end the process. -/
def Orderly (pre : List Event) (event : Event) : Prop :=
  (event.announcesSession = true → pre.any Event.createsClient = true) ∧
    (event.startsThread = true → pre.any Event.startsThread = false)

instance (pre : List Event) (event : Event) : Decidable (Orderly pre event) :=
  inferInstanceAs (Decidable (_ ∧ _))

section Progress

variable {lib : Library} {events : List Event} {world : World}

theorem Reaches.mClient_isSome
    (hreach : (clientMachine lib).Reaches events world) :
    world.client.mListener.mClient.isSome = events.any Event.createsClient := by
  rw [clientMachine_eq] at hreach
  rw [Reaches.mClient_eq hreach, Bool.eq_iff_iff, List.any_eq_true,
    ← List.countP_pos_iff]
  cases events.countP Event.createsClient <;> simp [currentClient]

theorem Reaches.mListenerThread_eq
    (hreach : (clientMachine lib).Reaches events world) :
    world.client.mListenerThread =
      if events.any Event.startsThread then some { toggle := true }
      else none := by
  apply Machine.Reaches.invariant
    (I := fun events world => world.client.mListenerThread =
      if events.any Event.startsThread then some { toggle := true }
      else none) rfl ?_ hreach
  intro events world event reply next _ hthread hstep
  rw [step_mListenerThread hstep, hthread, List.any_append]
  cases hstarts : event.startsThread <;> simp [hstarts]

/-- At a reachable client, a presence event dereferences `end()` exactly when
its username is not one of the last roster. -/
theorem Reaches.step_presence_error_iff
    (hreach : (clientMachine lib).Reaches events world) (client : Nat)
    (item : RosterItem) (resource : String) (presence : PresenceType)
    (msg : String) :
    step lib world (.callback client
        (.handleRosterPresence item resource presence msg)) =
      .error (.undefined .derefEnd) ↔
    item.jidJID.username ∉ lastUsernames events := by
  rw [step_handleRosterPresence, Reaches.delegated hreach, if_pos rfl,
    ← Reaches.mem_mRoster_iff hreach]
  cases hlookup : world.client.mRoster.lookup item.jidJID.username with
  | none => simpa using Finmap.lookup_eq_none.mp hlookup
  | some peer => simpa using Finmap.mem_of_lookup_eq_some hlookup

/-- An orderly event can only fail by an unknown presence, and an orderly event
with a known presence is executed. -/
theorem Reaches.step_ok (hreach : (clientMachine lib).Reaches events world)
    {event : Event} (horderly : Orderly events event)
    (hknown : KnownPresence events event) :
    ∃ reply next, step lib world event = .ok (reply, next) := by
  cases hstep : step lib world event with
  | ok result => exact ⟨result.1, result.2, rfl⟩
  | error fault =>
      exfalso
      cases faultOf_step hstep with
      | derefEnd client item resource presence msg hlookup =>
          rw [Reaches.mem_mRoster_iff hreach] at hlookup
          exact hlookup (hknown item rfl)
      | nullClient client target hclient =>
          have hsome := Reaches.mClient_isSome hreach
          rw [hclient, horderly.1 rfl] at hsome
          cases hsome
      | joinableThread xmppUser xmppServer old hempty hthread hjoinable =>
          have hnone := Reaches.mListenerThread_eq hreach
          have hfirst := horderly.2 (by simp [Event.startsThread, hempty])
          simp [hfirst, hthread] at hnone

/-- An orderly history of known presences is executed to its end. -/
theorem exists_reaches_of_orderly (lib : Library) {events : List Event}
    (horderly : Guarded Orderly events)
    (hknown : Guarded KnownPresence events) :
    ∃ world, (clientMachine lib).Reaches events world := by
  apply Machine.exists_reaches_of_guarded
    (G := fun pre event => Orderly pre event ∧ KnownPresence pre event) ?_ ?_
  · intro pre world event hreach _ hguard
    exact Reaches.step_ok hreach hguard.1 hguard.2
  · intro pre event hinit
    exact ⟨horderly pre event hinit, hknown pre event hinit⟩

end Progress

end CinderXmpp
