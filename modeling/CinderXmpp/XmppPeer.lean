/-
`XmppPeer`: the presence record the client keeps for one contact.
-/
import CinderXmpp.Gloox

namespace CinderXmpp

open Gloox

/-- `XmppPeer::status_t`. -/
inductive Status where
  | available
  | chat
  | away
  | dnd
  | xa
  | unavailable
  | invalid
deriving DecidableEq, Repr

/-- The enumerator's number. -/
def Status.toInt : Status → Nat
  | .available => 0
  | .chat => 1
  | .away => 2
  | .dnd => 3
  | .xa => 4
  | .unavailable => 5
  | .invalid => 6

/-- The cast `status_t(value)` for a number that names an enumerator. -/
def Status.ofInt : Nat → Status
  | 0 => .available
  | 1 => .chat
  | 2 => .away
  | 3 => .dnd
  | 4 => .xa
  | 5 => .unavailable
  | _ => .invalid

/-- The fields of a peer, with the default arguments of its constructor. -/
structure XmppPeer where
  mUsername : String := "unknown"
  mConnected : Bool := false
  mStatus : Status := .invalid
deriving DecidableEq, Repr

def XmppPeer.isConnected (peer : XmppPeer) : Bool := peer.mConnected

def XmppPeer.username (peer : XmppPeer) : String := peer.mUsername

def XmppPeer.status (peer : XmppPeer) : Status := peer.mStatus

def XmppPeer.setStatus (value : Status) (peer : XmppPeer) : XmppPeer :=
  { peer with mStatus := value, mConnected := decide (value.toInt < 5) }

def XmppPeer.presenceToStatus (value : PresenceType) : Status :=
  if value.toInt ≤ 6 then Status.ofInt value.toInt else .invalid

/-- The `default` of the switch, from which control runs off the end of the
function, is for numbers that name no enumerator. -/
def XmppPeer.statusString : Status → String
  | .available => "available"
  | .chat => "chat"
  | .away => "away"
  | .dnd => "do not disturb"
  | .xa => "extended away"
  | .unavailable => "unavailable"
  | .invalid => "invalid"

/-- `operator==` on peers. -/
def XmppPeer.operatorEq (lhs rhs : XmppPeer) : Bool :=
  lhs.username == rhs.username

/-- `operator!=` on peers. -/
def XmppPeer.operatorNe (lhs rhs : XmppPeer) : Bool :=
  lhs.username != rhs.username

theorem XmppPeer.operatorNe_eq_not (lhs rhs : XmppPeer) :
    XmppPeer.operatorNe lhs rhs = !XmppPeer.operatorEq lhs rhs := rfl

@[simp] theorem XmppPeer.setStatus_status (value : Status) (peer : XmppPeer) :
    (peer.setStatus value).status = value := rfl

/-- The two enumerations agree up to `Unavailable`, where they part: a probe
and an error become `Invalid`, and neither counts as connected. -/
theorem presenceToStatus_lt_five_iff (value : PresenceType) :
    (XmppPeer.presenceToStatus value).toInt < 5 ↔
      value.online = true := by
  cases value <;> decide

theorem XmppPeer.statusString_injective :
    Function.Injective XmppPeer.statusString := by
  intro left right hsame
  cases left <;> cases right <;> first
    | rfl
    | simp [XmppPeer.statusString] at hsame

end CinderXmpp
