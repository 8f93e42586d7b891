/-
The address of a login.  `setup` joins user and server with `@` just as they
are given, so the address reads back as the same pair exactly if the user has
no `@` and the server no slash.
-/
import CinderXmpp.Lib.Separator
import CinderXmpp.StepEffect

namespace CinderXmpp

open Gloox Separator

/-- The address that `XmppListener::setup` makes a JID of. -/
def XmppListener.loginAddress (listener : XmppListener)
    (username server : String) : String :=
  username ++ "@" ++ (if server.isEmpty then listener.mServer else server)

theorem configuredClient_jid (lib : Library) (listener : XmppListener)
    (username server : String) (enableLogging : Bool) :
    (configuredClient lib listener.mServer username server enableLogging).jid =
      lib.parseJID (listener.loginAddress username server) := rfl

/-! Addresses as strings. -/

section Addresses

variable {node server : String}

theorem toList_join_at (node server : String) :
    (node ++ "@" ++ server).toList = node.toList ++ '@' :: server.toList := by
  simp

/-- An address with an `@`, read with the separators of the format. -/
theorem splitJID_of_mem_at {jid : String} (hat : '@' ∈ jid.toList) :
    splitJID jid =
      { username := String.ofList (before '@' jid.toList)
        server := String.ofList (before '/' (after '@' jid.toList))
        resource := String.ofList (after '/' (after '@' jid.toList)) } := by
  simp [splitJID, hat, before, after]

theorem splitJID_join_at (hnode : '@' ∉ node.toList) :
    splitJID (node ++ "@" ++ server) =
      { username := node
        server := String.ofList (before '/' server.toList)
        resource := String.ofList (after '/' server.toList) } := by
  have hat : '@' ∈ (node ++ "@" ++ server).toList := by
    simp
  rw [splitJID_of_mem_at hat, toList_join_at,
    before_append_cons_eq_iff.mpr hnode, after_append_cons hnode,
    String.ofList_toList]

/-- The round trip: node and server are read back, with no resource, exactly
if neither contains the separator that ends it. -/
theorem splitJID_join_at_eq_iff :
    splitJID (node ++ "@" ++ server) = ⟨node, server, ""⟩ ↔
      '@' ∉ node.toList ∧ '/' ∉ server.toList := by
  constructor
  · intro hread
    have hat : '@' ∈ (node ++ "@" ++ server).toList := by
      simp
    have hnode : '@' ∉ node.toList := by
      have husername := congrArg (fun jid => jid.username.toList) hread
      simp only [splitJID_of_mem_at hat, toList_join_at,
        String.toList_ofList] at husername
      exact before_append_cons_eq_iff.mp husername
    refine ⟨hnode, ?_⟩
    have hserver := congrArg (fun jid => jid.server.toList) hread
    simp only [splitJID_join_at hnode, String.toList_ofList] at hserver
    rw [← hserver]
    exact not_mem_before '/' _
  · rintro ⟨hnode, hserver⟩
    rw [splitJID_join_at hnode, before_of_not_mem hserver,
      after_of_not_mem hserver, String.ofList_toList]

theorem join_at_inj {node' server' : String} (hnode : '@' ∉ node.toList)
    (hnode' : '@' ∉ node'.toList)
    (heq : node ++ "@" ++ server = node' ++ "@" ++ server') :
    node = node' ∧ server = server' := by
  have hlist := congrArg String.toList heq
  rw [toList_join_at, toList_join_at] at hlist
  obtain ⟨hleft, hright⟩ := append_cons_inj hnode hnode' hlist
  exact ⟨String.toList_inj.mp hleft, String.toList_inj.mp hright⟩

end Addresses

/-! Logins. -/

section Logins

variable {lib : Library} {world next : World} {user server : String}

/-- A `connect` that returns true was given a user and a server, and has made
a client for their address the current one. -/
theorem step_connect_true
    (hstep : step lib world (.connect user server) = .ok (.bool true, next)) :
    user ≠ "" ∧ server ≠ "" ∧ next = world.connecting lib user server := by
  generalize hreply : Reply.bool true = reply at hstep
  cases effect_of_step hstep with
  | connectStarted _ _ hempty _ =>
      simpa using hempty
  | connectRefused => cases hreply
  | stanzaSent _ _ _ hstanza => simp [Event.stanza] at hstanza
  | stanzaRefused => cases hreply

theorem XmppListener.loginAddress_of_ne (listener : XmppListener)
    (hserver : server ≠ "") :
    listener.loginAddress user server = user ++ "@" ++ server := by
  simp [XmppListener.loginAddress, hserver]

end Logins

/-- The login address round trip.  A `connect` that returns true creates a
client with the JID that its address reads as: this is the given user at the
given server, without a resource, exactly if the user has no `@` and the server
no slash.  Two accepted pairs whose users have no `@` share no address. -/
theorem login_address_round_trip (lib : Library)
    (hparse : ∀ address, lib.parseJID address = splitJID address)
    (world next : World) (user server : String)
    (hstep : step lib world (.connect user server) = .ok (.bool true, next)) :
    (∃ client, next.heap.clients = world.heap.clients ++ [client] ∧
      client.jid = lib.parseJID
        (world.client.mListener.loginAddress user server) ∧
      (client.jid = ⟨user, server, ""⟩ ↔
        '@' ∉ user.toList ∧ '/' ∉ server.toList)) ∧
    (∀ (world' next' : World) (user' server' : String),
      step lib world' (.connect user' server') = .ok (.bool true, next') →
      '@' ∉ user.toList → '@' ∉ user'.toList →
      world.client.mListener.loginAddress user server =
        world'.client.mListener.loginAddress user' server' →
      user = user' ∧ server = server') := by
  obtain ⟨_, hserver, rfl⟩ := step_connect_true hstep
  refine ⟨⟨_, rfl, configuredClient_jid lib _ user server false, ?_⟩, ?_⟩
  · rw [configuredClient_jid, hparse, XmppListener.loginAddress_of_ne _ hserver]
    exact splitJID_join_at_eq_iff
  · intro world' next' user' server' hstep' huser huser' heq
    obtain ⟨_, hserver', _⟩ := step_connect_true hstep'
    rw [XmppListener.loginAddress_of_ne _ hserver,
      XmppListener.loginAddress_of_ne _ hserver'] at heq
    exact join_at_inj huser huser' heq

namespace LoginAddressWitness

/-- A client that was just constructed. -/
def fresh : World := { client := XmppClient.new }

/-- A user typed as a full address: its own `@` ends the node, and the rest of
it goes to the server.  And one address stands for two accepted pairs. -/
theorem not_round_trip_full_user :
    (∃ next client, step .documented fresh
        (.connect "alice@example.org" "example.org") = .ok (.bool true, next) ∧
      next.heap.clients = [client] ∧
      client.jid = ⟨"alice", "example.org@example.org", ""⟩ ∧
      client.jid ≠ ⟨"alice@example.org", "example.org", ""⟩) ∧
    (∃ next, step .documented fresh (.connect "a@b" "c") =
      .ok (.bool true, next)) ∧
    (∃ next, step .documented fresh (.connect "a" "b@c") =
      .ok (.bool true, next)) ∧
    fresh.client.mListener.loginAddress "a@b" "c" =
      fresh.client.mListener.loginAddress "a" "b@c" :=
  ⟨⟨_, _, rfl, rfl, rfl, by decide⟩, ⟨_, rfl⟩, ⟨_, rfl⟩, rfl⟩

theorem login_address_round_trip_alice :
    ∃ next client, step .documented fresh (.connect "alice" "example.org") =
        .ok (.bool true, next) ∧
      next.heap.clients = [client] ∧
      client.jid = ⟨"alice", "example.org", ""⟩ := by
  have hlogin := login_address_round_trip .documented (fun _ => rfl) fresh _
    "alice" "example.org" rfl
  obtain ⟨⟨client, hclients, _, hjid⟩, _⟩ := hlogin
  exact ⟨_, client, rfl, hclients, hjid.mpr (by decide)⟩

end LoginAddressWitness

end CinderXmpp
