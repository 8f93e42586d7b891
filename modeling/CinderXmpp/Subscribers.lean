/-
What the subscribers of a client's signals can learn, and how they can tell
peers apart.  Both are read off the conversation that the process refines.
-/
import CinderXmpp.ProcessRefinement

namespace CinderXmpp

open Gloox History Machine

/-- What an action lets the subscribers know of. -/
def Action.notices : Action → List Notice
  | .callback cb => (Event.callback 0 cb).notices
  | _ => []

/-- A process seen as a conversation. -/
def conversationProjection (lib : Library) :
    Projection (processMachine lib) conversationMachine :=
  (processProjection lib).comp (clientProjection lib)

theorem select_conversationProjection (lib : Library) (action : Action) :
    (conversationProjection lib).select action = action.notices := by
  cases action <;>
    simp [conversationProjection, Projection.comp, processProjection,
      clientProjection, Action.events, Action.event?, Action.notices,
      Event.notices]

theorem flatMap_conversationProjection (lib : Library)
    (actions : List Action) :
    actions.flatMap (conversationProjection lib).select =
      actions.flatMap Action.notices :=
  List.flatMap_congr fun action _ => select_conversationProjection lib action

/-- Equal conversations of faithful worlds come from equal peers. -/
theorem mRoster_eq_of_conversation {world other : World}
    (hworld : world.Faithful) (hother : other.Faithful)
    (hsame : world.conversation = other.conversation) :
    world.client.mRoster = other.client.mRoster := by
  apply Finmap.ext_lookup
  intro name
  have hstatus : (world.client.mRoster.lookup name).map XmppPeer.status =
      (other.client.mRoster.lookup name).map XmppPeer.status :=
    congrFun (congrArg Conversation.contacts hsame) name
  cases hleft : world.client.mRoster.lookup name with
  | none =>
      rw [hleft] at hstatus
      exact (Option.map_eq_none_iff.mp hstatus.symm).symm
  | some peer =>
      rw [hleft] at hstatus
      obtain ⟨twin, hright, htwin⟩ := Option.map_eq_some_iff.mp hstatus.symm
      rw [hright, hworld name peer hleft, hother name twin hright, htwin]

/-- Subscribers hear the notices of a run and nothing else.  Two runs of two
processes, whatever is sent in them, however their threads and the application
interleave, whatever sessions and other callbacks gloox adds, and whatever the
library computes, emit the same signals and end with the same peers if gloox
reports the same notices in the same order. -/
theorem subscribers_hear_notices (lib lib' : Library)
    {actions others : List Action} {p q : Process}
    (hp : (processMachine lib).Reaches actions p)
    (hq : (processMachine lib').Reaches others q)
    (hsame : actions.flatMap Action.notices =
      others.flatMap Action.notices) :
    p.world.signals = q.world.signals ∧
      p.world.client.mRoster = q.world.client.mRoster := by
  have hagree : p.world.conversation = q.world.conversation := by
    apply (conversationProjection lib).agree (conversationProjection lib') hp hq
    rw [flatMap_conversationProjection, flatMap_conversationProjection, hsame]
  refine ⟨congrArg Conversation.told hagree, ?_⟩
  have hleft : p.world.unthreaded.Faithful :=
    Reaches.faithful ((processProjection lib).reaches hp)
  have hright : q.world.unthreaded.Faithful :=
    Reaches.faithful ((processProjection lib').reaches hq)
  exact mRoster_eq_of_conversation hleft hright hagree

/-! Peers as subscribers see them. -/

/-- The peer that a signal carries. -/
def Signal.peer? : Signal → Option XmppPeer
  | .mSignalHandleMsg peer _ _ => some peer
  | .mSignalRosterPresence peer _ _ _ => some peer
  | _ => none

/-- The peer is the one that its name and its status make. -/
def XmppPeer.Plain (peer : XmppPeer) : Prop :=
  peer = contactPeer peer.username peer.status

theorem plain_contactPeer (name : String) (status : Status) :
    (contactPeer name status).Plain := rfl

theorem Conversation.plain_sender (c : Conversation) (name : String) :
    (c.sender name).Plain := by
  unfold Conversation.sender
  cases c.contacts name <;> rfl

/-- Every peer that was told is plain. -/
def Conversation.PlainPeers (c : Conversation) : Prop :=
  ∀ signal ∈ c.told, ∀ peer, signal.peer? = some peer → peer.Plain

theorem Conversation.PlainPeers.tell {c : Conversation} (hplain : c.PlainPeers)
    {contacts : String → Option Status} {signal : Signal}
    (hsignal : ∀ peer, signal.peer? = some peer → peer.Plain) :
    Conversation.PlainPeers ⟨contacts, c.told ++ [signal]⟩ := by
  intro told htold
  rcases List.mem_append.mp htold with hearlier | hlast
  · exact hplain told hearlier
  · rw [List.mem_singleton.mp hlast]
    exact hsignal

theorem Conversation.PlainPeers.hear {c next : Conversation} {notice : Notice}
    {reply : Unit} (hplain : c.PlainPeers)
    (hstep : c.hear notice = .ok (reply, next)) : next.PlainPeers := by
  cases notice with
  | presence name resource status text =>
      simp only [Conversation.hear] at hstep
      cases hcontact : c.contacts name with
      | none => simp [hcontact] at hstep
      | some earlier =>
          simp only [hcontact] at hstep
          cases hstep
          apply hplain.tell
          intro peer hpeer
          obtain rfl := Option.some.inj hpeer
          exact plain_contactPeer name status
  | message name subject body =>
      cases hstep
      apply hplain.tell
      intro peer hpeer
      obtain rfl := Option.some.inj hpeer
      exact c.plain_sender name
  | _ =>
      cases hstep
      apply hplain.tell
      intro peer hpeer
      cases hpeer

theorem Reaches.plainPeers {notices : List Notice} {c : Conversation}
    (hreach : conversationMachine.Reaches notices c) : c.PlainPeers := by
  apply Machine.Reaches.invariant (I := fun _ c => Conversation.PlainPeers c)
    ?_ ?_ hreach
  · intro signal hsignal
    cases hsignal
  · intro _ before notice reply after _ hplain hstep
    exact hplain.hear hstep

/-- A client shows a peer: in its map, or with a signal it has emitted. -/
def World.Shows (world : World) (peer : XmppPeer) : Prop :=
  (∃ name, world.client.mRoster.lookup name = some peer) ∨
    ∃ signal ∈ world.signals, signal.peer? = some peer

theorem Reaches.plain_of_shows {lib : Library} {events : List Event}
    {world : World} (hreach : (clientMachine lib).Reaches events world)
    {peer : XmppPeer} (hshows : world.Shows peer) : peer.Plain := by
  rcases hshows with ⟨name, hlookup⟩ | ⟨signal, hsignal, hpeer⟩
  · have hfaithful := Reaches.faithful hreach name peer hlookup
    rw [hfaithful]
    exact plain_contactPeer name peer.status
  · exact Reaches.plainPeers ((clientProjection lib).reaches hreach) signal
      hsignal peer hpeer

theorem XmppPeer.Plain.isConnected_iff {peer : XmppPeer} (hplain : peer.Plain) :
    peer.isConnected = true ↔ XmppPeer.statusString peer.status ∈
      ["available", "chat", "away", "do not disturb", "extended away"] := by
  have hflag : peer.isConnected = decide (peer.status.toInt < 5) :=
    congrArg XmppPeer.mConnected hplain
  rw [hflag, decide_eq_true_iff]
  cases peer.status <;> decide

theorem XmppPeer.Plain.eq_iff {left right : XmppPeer} (hleft : left.Plain)
    (hright : right.Plain) :
    left = right ↔ XmppPeer.operatorEq left right = true ∧
      XmppPeer.statusString left.status =
        XmppPeer.statusString right.status := by
  constructor
  · rintro rfl
    simp [XmppPeer.operatorEq]
  · rintro ⟨hname, htext⟩
    have hnames : left.username = right.username := by
      simpa [XmppPeer.operatorEq] using hname
    rw [hleft, hright, hnames, XmppPeer.statusString_injective htext]

theorem XmppPeer.Plain.ne_iff {left right : XmppPeer} (hleft : left.Plain)
    (hright : right.Plain) :
    left ≠ right ↔ XmppPeer.operatorNe left right = true ∨
      XmppPeer.statusString left.status ≠
        XmppPeer.statusString right.status := by
  rw [Ne, hleft.eq_iff hright, not_and_or, XmppPeer.operatorNe_eq_not,
    Bool.not_eq_true, Bool.not_eq_true']

/-- `operator==` compares names only, but next to the status text it tells
peers apart: two peers shown by any clients, at any points of any runs, are the
same in all their fields exactly when they compare equal and their statuses
have the same text, and differ exactly when they compare unequal or the texts
do; and whether a peer is connected can be read off the text. -/
theorem shown_peers_identified (lib lib' : Library) {events others : List Event}
    {world other : World} (hworld : (clientMachine lib).Reaches events world)
    (hother : (clientMachine lib').Reaches others other)
    {left right : XmppPeer} (hleft : world.Shows left)
    (hright : other.Shows right) :
    (left = right ↔ XmppPeer.operatorEq left right = true ∧
      XmppPeer.statusString left.status =
        XmppPeer.statusString right.status) ∧
    (left ≠ right ↔ XmppPeer.operatorNe left right = true ∨
      XmppPeer.statusString left.status ≠
        XmppPeer.statusString right.status) ∧
    (left.isConnected = true ↔ XmppPeer.statusString left.status ∈
      ["available", "chat", "away", "do not disturb", "extended away"]) := by
  have hplain := Reaches.plain_of_shows hworld hleft
  have hplain' := Reaches.plain_of_shows hother hright
  exact ⟨hplain.eq_iff hplain', hplain.ne_iff hplain', hplain.isConnected_iff⟩

namespace SubscribersWitness

def alice : RosterItem := .ofJID ⟨"alice", "example.org", ""⟩

def presence : Action :=
  .callback (.handleRosterPresence alice "phone" .chat "hi")

def roster : Action := .callback (.handleRoster ⟨[alice], by decide⟩)

/-- A quiet run: the application only connects. -/
def quiet : List Action :=
  [.connect "carol" "example.org", .threadStarts, .callback .onConnect, roster,
    presence]

/-- The same notices at other moments of another login, between sends and a
session of someone else. -/
def busy : List Action :=
  [.sendMessage "alice" "early" "", .connect "dave" "example.net",
    .threadStarts, .callback .onConnect, .connectReturns true,
    .sendMessage "alice" "hello" "", roster, .recvReturns .connNoError,
    .callback (.handleMessageSession ⟨"bob", "example.org", "desk"⟩), presence,
    .recvReturns .connStreamClosed]

theorem subscribers_hear_notices_quiet_busy :
    ∃ p q, (processMachine .documented).Reaches quiet p ∧
      (processMachine .documented).Reaches busy q ∧
      p.world.client.mListener ≠ q.world.client.mListener ∧
      p.world.signals = q.world.signals := by
  refine ⟨_, _, rfl, rfl, by decide, ?_⟩
  have hquiet : (processMachine .documented).Reaches quiet _ := rfl
  have hbusy : (processMachine .documented).Reaches busy _ := rfl
  exact (subscribers_hear_notices .documented .documented hquiet hbusy rfl).1

def online : List Event :=
  [.callback 0 (.handleRoster ⟨[alice], by decide⟩),
    .callback 0 (.handleRosterPresence alice "phone" .chat "")]

def offline : List Event :=
  online ++ [.callback 0 (.handleRosterPresence alice "phone" .unavailable "")]

/-- The same contact at two points of a run: equal for `operator==`, with two
texts, and not the same peer. -/
theorem shown_peers_identified_alice :
    ∃ world other left right,
      (clientMachine .documented).Reaches online world ∧ world.Shows left ∧
      (clientMachine .documented).Reaches offline other ∧ other.Shows right ∧
      XmppPeer.operatorEq left right = true ∧ left ≠ right := by
  obtain ⟨world, honline, hleft⟩ : ∃ world,
      (clientMachine .documented).Reaches online world ∧
        world.Shows ⟨"alice", true, .chat⟩ :=
    ⟨_, rfl, .inr ⟨_, List.mem_cons_of_mem _ List.mem_cons_self, rfl⟩⟩
  obtain ⟨other, hoffline, hright⟩ : ∃ other,
      (clientMachine .documented).Reaches offline other ∧
        other.Shows ⟨"alice", false, .unavailable⟩ :=
    ⟨_, rfl, .inr ⟨_, List.mem_cons_of_mem _ (List.mem_cons_of_mem _
      List.mem_cons_self), rfl⟩⟩
  refine ⟨_, _, _, _, honline, hleft, hoffline, hright, by decide, ?_⟩
  rw [(shown_peers_identified .documented .documented honline hoffline hleft
    hright).2.1]
  decide

end SubscribersWitness

end CinderXmpp
