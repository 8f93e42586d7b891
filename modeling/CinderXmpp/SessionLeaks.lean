/-
The sessions of a listener that was set up more than once.  The listener keeps
one session and disposes of it through the client that is current when the next
one comes; a session of an earlier client stays live there.
-/
import CinderXmpp.CallLog
import CinderXmpp.Lib.Handover
import CinderXmpp.SingleSession

namespace CinderXmpp

open Gloox History Machine Grant

/-- The client that announces a session. -/
def Event.announcer? : Event → Option Nat
  | .callback owner (.handleMessageSession _) => some owner
  | _ => none

/-- Sessions are announced by clients that were created. -/
def AnnouncedByClient (pre : List Event) (event : Event) : Prop :=
  ∀ owner ∈ event.announcer?, owner < created pre

instance (pre : List Event) (event : Event) :
    Decidable (AnnouncedByClient pre event) :=
  inferInstanceAs (Decidable (∀ owner ∈ event.announcer?, _))

/-- The session that an event makes the listener's own, and the client through
which the one before it is disposed of. -/
def granted (pre : List Event) : Event → List (Grant Nat MessageSession)
  | .callback owner (.handleMessageSession target) =>
      [{ owner := owner
         item := adoptedSession (3 * pre.countP Event.announcesSession) target
         receiver := currentClient (created pre) }]
  | _ => []

/-- The sessions that a history has made the listener's own. -/
def grants (events : List Event) : List (Grant Nat MessageSession) :=
  contributions granted events

/-- The live sessions of the client with a number, as the history has them:
those it was left with, and the present one if it is the client's. -/
def historySessions (events : List Event) (number : Nat) :
    Option (List MessageSession) :=
  if number < created events then
    some (leaked number (grants events) ++ present number (grants events))
  else none

section Grants

variable {events : List Event} {event : Event}

theorem grants_append_singleton (events : List Event) (event : Event) :
    grants (events ++ [event]) = grants events ++ granted events event :=
  contributions_append_singleton granted events event

theorem granted_of_not_announces (hnot : event.announcesSession = false)
    (pre : List Event) : granted pre event = [] := by
  cases event with
  | callback owner cb =>
      cases cb with
      | handleMessageSession target => cases hnot
      | _ => rfl
  | _ => rfl

theorem Event.announces_cases (event : Event) :
    (∃ owner target, event = .callback owner (.handleMessageSession target)) ∨
      event.announcesSession = false := by
  cases event with
  | callback owner cb =>
      cases cb with
      | handleMessageSession target => exact .inl ⟨owner, target, rfl⟩
      | _ => exact .inr rfl
  | _ => exact .inr rfl

/-- The addresses of the sessions, three apart. -/
theorem map_address_grants (events : List Event) :
    (grants events).map (fun grant => grant.item.address) =
      (List.range (events.countP Event.announcesSession)).map (3 * ·) := by
  induction events using List.reverseRecOn with
  | nil => rfl
  | append_singleton pre event ih =>
      rw [grants_append_singleton, List.map_append, ih, List.countP_append,
        List.countP_singleton]
      rcases event.announces_cases with ⟨owner, target, rfl⟩ | hnot
      · simp [granted, adoptedSession, Event.announcesSession,
          List.range_succ]
      · simp [granted_of_not_announces hnot, hnot]

theorem getLast?_grants (events : List Event) :
    (grants events).getLast?.map (fun grant => grant.item.address) =
      lastSession events := by
  rw [← List.getLast?_map, map_address_grants]
  unfold lastSession
  cases events.countP Event.announcesSession with
  | zero => rfl
  | succ earlier => simp [List.range_succ]

/-- No leaked session has the address of the present one. -/
theorem address_ne_of_mem_leaked {number : Nat} {session : MessageSession}
    (hsession : session ∈ leaked number (grants events)) :
    some session.address ≠ lastSession events := by
  have hmem : session.address ∈
      ((grants events).map fun grant => grant.item.address).dropLast := by
    have hdropped := mem_dropLast_of_mem_leaked hsession
    have hmapped := List.mem_map_of_mem (f := MessageSession.address) hdropped
    rwa [List.map_dropLast, List.map_map] at hmapped
  rw [map_address_grants] at hmem
  unfold lastSession
  cases hcount : events.countP Event.announcesSession with
  | zero => simp
  | succ earlier =>
      rw [hcount] at hmem
      obtain ⟨before, hlt, heq⟩ : ∃ before < earlier,
          3 * before = session.address := by
        simpa [List.range_succ] using hmem
      intro hlast
      have hsame : session.address = 3 * earlier := Option.some.inj hlast
      omega

/-- A granted session has an address that was used. -/
theorem address_lt_of_mem_held {number : Nat} {session : MessageSession}
    (hsession : session ∈
      leaked number (grants events) ++ present number (grants events)) :
    session.address < 3 * events.countP Event.announcesSession := by
  obtain ⟨grant, hgrant, _, rfl⟩ := exists_of_mem_held hsession
  have hmem : grant.item.address ∈
      (grants events).map fun grant => grant.item.address :=
    List.mem_map_of_mem (f := fun grant => grant.item.address) hgrant
  rw [map_address_grants, List.mem_map] at hmem
  obtain ⟨index, hindex, heq⟩ := hmem
  have hlt : index < events.countP Event.announcesSession :=
    List.mem_range.mp hindex
  change 3 * index = grant.item.address at heq
  omega

/-- Only clients that were created own sessions. -/
theorem owner_lt_of_mem_grants (hannounced : Guarded AnnouncedByClient events)
    {grant : Grant Nat MessageSession} (hgrant : grant ∈ grants events) :
    grant.owner < created events := by
  induction events using List.reverseRecOn with
  | nil => cases hgrant
  | append_singleton pre event ih =>
      obtain ⟨hpre, hevent⟩ := guarded_append_singleton.mp hannounced
      rw [created_append_singleton]
      rw [grants_append_singleton, List.mem_append] at hgrant
      rcases hgrant with hearlier | hlast
      · exact (ih hpre hearlier).trans_le (Nat.le_add_right _ _)
      · rcases event.announces_cases with ⟨owner, target, rfl⟩ | hnot
        · rw [granted, List.mem_singleton] at hlast
          subst hlast
          exact (hevent owner rfl).trans_le (Nat.le_add_right _ _)
        · rw [granted_of_not_announces hnot] at hlast
          cases hlast

theorem held_eq_nil_of_not_created
    (hannounced : Guarded AnnouncedByClient events) {number : Nat}
    (hnumber : created events ≤ number) :
    leaked number (grants events) ++ present number (grants events) = [] := by
  rw [List.eq_nil_iff_forall_not_mem]
  intro session hsession
  obtain ⟨grant, hgrant, rfl, _⟩ := exists_of_mem_held hsession
  exact absurd (owner_lt_of_mem_grants hannounced hgrant) hnumber.not_gt

end Grants

/-- The live sessions of the clients of a world, by their numbers. -/
def World.sessions? (world : World) (number : Nat) :
    Option (List MessageSession) :=
  world.heap.clients[number]?.map Client.sessions

section Steps

variable {lib : Library} {world next : World} {event : Event} {reply : Reply}

theorem World.sessions?_called (world : World) (current number : Nat)
    (entry : ClientCall) :
    (world.called current entry).sessions? number =
      world.sessions? number := by
  unfold World.sessions? World.called Heap.modifyClient
  simp only [List.getElem?_modify, Option.map_eq_map, Option.map_map]
  congr 1
  funext client
  by_cases hcurrent : current = number <;> simp [hcurrent, Client.call]

theorem World.sessions?_installed (world : World) (client : Client)
    (number : Nat) :
    (world.installed client).sessions? number =
      if number = world.heap.clients.length then some client.sessions
      else world.sessions? number := by
  unfold World.sessions? World.installed
  rw [List.getElem?_append]
  rcases lt_trichotomy number world.heap.clients.length with hlt | rfl | hgt
  · simp [hlt, hlt.ne]
  · simp
  · have hpos : number - world.heap.clients.length ≠ 0 := by omega
    rw [if_neg hgt.not_gt, if_neg hgt.ne', List.getElem?_singleton,
      if_neg hpos, List.getElem?_eq_none hgt.le]

/-- A step without an announcement leaves the live sessions alone; a new client
starts without any. -/
theorem step_sessions?_of_not_announces (hnot : event.announcesSession = false)
    (hstep : step lib world event = .ok (reply, next)) (number : Nat) :
    next.sessions? number =
      if event.createsClient = true ∧ number = world.heap.clients.length then
        some []
      else world.sessions? number := by
  cases effect_of_step hstep with
  | inert client cb reply hinert =>
      simp [(Event.neutral_of_inert client hinert).createsClient]
  | stanzaSent event message current hstanza =>
      simp [(Event.neutral_of_stanza hstanza).createsClient,
        World.sessions?_called]
  | stanzaRefused event message hstanza =>
      simp [(Event.neutral_of_stanza hstanza).createsClient]
  | sessionAdopted => cases hnot
  | setUp =>
      simp [Event.createsClient, World.sessions?_installed, configuredClient]
  | connectionOpened =>
      simp [Event.createsClient, World.sessions?_called]
  | connectRefused xmppUser xmppServer hempty =>
      simp [Event.createsClient, hempty]
  | connectStarted xmppUser xmppServer hempty =>
      have hinstalled := World.sessions?_installed world (configuredClient lib
        world.client.mListener.mServer xmppUser xmppServer false) number
      change (world.connecting lib xmppUser xmppServer).sessions? number = _
        at hinstalled
      rw [hinstalled]
      simp [Event.createsClient, hempty, configuredClient]
  | _ => simp [Event.createsClient, World.sessions?, World.emitted]

/-- A step that announces a session. -/
theorem step_sessions?_of_announces {owner : Nat} {target : JID}
    (hstep : step lib world (.callback owner (.handleMessageSession target)) =
      .ok (reply, next)) (number : Nat) :
    ∃ current, world.client.mListener.mClient = some current ∧
      next.heap.clients[number]? = world.heap.clients[number]?.map
        (adoptedClient current world.client.mListener.mSession owner target
          world.heap.nextAddress number) := by
  rw [step_handleMessageSession] at hstep
  cases hclient : world.client.mListener.mClient with
  | none => simp [hclient] at hstep
  | some current =>
      simp only [hclient, Except.ok.injEq, Prod.mk.injEq] at hstep
      obtain ⟨_, rfl⟩ := hstep
      exact ⟨current, rfl, getElem?_adoptedHeap _ _ _ _ _ _⟩

end Steps

section Runs

variable {lib : Library} {delegate : Bool} {events : List Event}
  {world next : World} {event : Event} {reply : Reply}

theorem address_lt_of_held {number : Nat} {sessions : List MessageSession}
    (hsessions : some sessions = historySessions events number)
    {live : MessageSession} (hlive : live ∈ sessions) :
    live.address < 3 * events.countP Event.announcesSession := by
  unfold historySessions at hsessions
  split at hsessions
  · obtain rfl := Option.some.inj hsessions
    exact address_lt_of_mem_held hlive
  · cases hsessions

theorem lastSession_ne (events : List Event) :
    lastSession events ≠ some (3 * events.countP Event.announcesSession) := by
  unfold lastSession
  cases events.countP Event.announcesSession with
  | zero => simp
  | succ earlier =>
      intro hsame
      have heq : 3 * earlier = 3 * (earlier + 1) := Option.some.inj hsame
      omega

theorem historySessions_of_not_announces
    (hannounced : Guarded AnnouncedByClient events)
    (hnot : event.announcesSession = false) (number : Nat) :
    historySessions (events ++ [event]) number =
      if event.createsClient = true ∧ number = created events then some []
      else historySessions events number := by
  unfold historySessions
  rw [grants_append_singleton, granted_of_not_announces hnot, List.append_nil,
    created_append_singleton]
  cases hcreates : event.createsClient with
  | false => simp
  | true =>
      rcases lt_trichotomy number (created events) with hlt | rfl | hgt
      · have hlonger : number < created events + 1 := by omega
        simp [hlt, hlt.ne, hlonger]
      · have hnone := held_eq_nil_of_not_created hannounced
          (le_refl (created events))
        simp [hnone]
      · have hnot : ¬ number < created events + 1 := by omega
        simp [hnot, hgt.not_gt, hgt.ne']

theorem historySessions_of_announces (owner : Nat) (target : JID)
    (number : Nat) :
    historySessions
        (events ++ [.callback owner (.handleMessageSession target)]) number =
      (historySessions events number).map fun sessions =>
        (if currentClient (created events) = some number then
          sessions.filter fun live => !(some live.address == lastSession events)
        else sessions) ++
          if owner = number then
            [adoptedSession (3 * events.countP Event.announcesSession) target]
          else [] := by
  have hslot : ∀ last, (grants events).getLast? = some last →
      (some last.item.address == lastSession events) = true := by
    intro last hlast
    rw [← getLast?_grants, hlast]
    simp
  have hleaked : ∀ session ∈ leaked number (grants events),
      (some session.address == lastSession events) = false := by
    intro session hsession
    simpa using address_ne_of_mem_leaked hsession
  unfold historySessions
  rw [grants_append_singleton, created_append_singleton]
  simp only [Event.createsClient, Bool.false_eq_true, ↓reduceIte, Nat.add_zero,
    granted]
  rw [← held_append_singleton hslot hleaked]
  split <;> rfl

/-- The live sessions of every reachable listener are those of its history. -/
theorem Reaches.sessions?_eq (hannounced : Guarded AnnouncedByClient events)
    (hreach : (listenerMachine lib delegate).Reaches events world)
    (number : Nat) :
    world.sessions? number = historySessions events number := by
  apply Machine.Reaches.invariant_of_guarded
    (I := fun events world => Guarded AnnouncedByClient events ∧
      world.sessions? number = historySessions events number)
    ⟨guarded_nil _, rfl⟩ ?_ hannounced hreach |>.2
  intro events world event reply next hbefore hevent hinv hstep
  obtain ⟨hearlier, hsessions⟩ := hinv
  refine ⟨guarded_append_singleton.mpr ⟨hearlier, hevent⟩, ?_⟩
  obtain ⟨haddress, hsession⟩ := Reaches.session_eq hbefore
  rcases event.announces_cases with ⟨owner, target, rfl⟩ | hnot
  · obtain ⟨current, hcurrent, hclients⟩ :=
      step_sessions?_of_announces hstep number
    rw [historySessions_of_announces, ← hsessions]
    unfold World.sessions? at hsessions ⊢
    rw [hclients]
    cases hat : world.heap.clients[number]? with
    | none => rfl
    | some client =>
        rw [hat, Option.map_some] at hsessions
        have hfresh : ∀ live ∈ client.sessions,
            live.address ≠ world.heap.nextAddress := by
          intro live hlive
          rw [haddress]
          exact (address_lt_of_held hsessions hlive).ne
        have hnew : world.client.mListener.mSession ≠
            some world.heap.nextAddress := by
          rw [hsession, haddress]
          exact lastSession_ne events
        rw [Option.map_some, Option.map_some, Option.map_some,
          sessions_adoptedClient hfresh hnew, hsession, haddress]
        have hsame : currentClient (created events) = some current :=
          (Reaches.mClient_eq hbefore).symm.trans hcurrent
        rw [hsame]
        simp only [Option.some.injEq, Option.map_some]
  · rw [step_sessions?_of_not_announces hnot hstep,
      historySessions_of_not_announces hearlier hnot, hsessions,
      Reaches.clients_length hbefore]
    rfl

end Runs

/-- Which sessions a listener leaks.  In a run with any number of `setup`s, in
which sessions are announced by clients that were created, the live sessions of
each client are those it was left with and the present one if it is its own,
each with the listener as its handler and with its own two filters.  So a live
session is not the one the listener holds exactly if, when the next session was
announced, by whichever client, its own client was no longer the current
one. -/
theorem sessions_of_history (lib : Library) (delegate : Bool)
    {events : List Event} (hannounced : Guarded AnnouncedByClient events)
    {world : World}
    (hreach : (listenerMachine lib delegate).Reaches events world)
    (number : Nat) :
    (world.heap.clients[number]?).map Client.sessions =
      historySessions events number ∧
    ∀ client, world.heap.clients[number]? = some client →
      ∀ session, session ∈ client.sessions ∧
          some session.address ≠ world.client.mListener.mSession ↔
        ∃ pre last next, pre ++ [last, next] <+: grants events ∧
          last.owner = number ∧ last.item = session ∧
          next.receiver ≠ some number := by
  have hsessions : (world.heap.clients[number]?).map Client.sessions =
      historySessions events number :=
    Reaches.sessions?_eq hannounced hreach number
  refine ⟨hsessions, ?_⟩
  intro client hclient session
  rw [← mem_leaked_iff, (Reaches.session_eq hreach).2]
  have hcreated : number < created events := by
    have hlt := (List.getElem?_eq_some_iff.mp hclient).1
    rwa [Reaches.clients_length hreach] at hlt
  have heq : client.sessions =
      leaked number (grants events) ++ present number (grants events) := by
    rw [hclient, historySessions, if_pos hcreated] at hsessions
    exact Option.some.inj hsessions
  rw [heq, List.mem_append]
  constructor
  · rintro ⟨hleaked | hpresent, hother⟩
    · exact hleaked
    · cases hslot : (grants events).getLast? with
      | none => simp [present, hslot] at hpresent
      | some last =>
          have hlast := getLast?_grants events
          rw [hslot, Option.map_some] at hlast
          rw [present, hslot, Option.map_some, Option.getD_some,
            itemOf] at hpresent
          by_cases howner : last.owner = number
          · rw [if_pos howner, List.mem_singleton] at hpresent
            rw [hpresent] at hother
            exact absurd hlast hother
          · simp [howner] at hpresent
  · intro hleaked
    exact ⟨.inl hleaked, address_ne_of_mem_leaked hleaked⟩

namespace SessionLeaksWitness

def alice : JID := ⟨"alice", "example.org", "phone"⟩

def bob : JID := ⟨"bob", "example.org", "desk"⟩

/-- Two sessions of a first client; the listener is set up again, and the next
session comes from the new client. -/
def replaced : List Event :=
  [.setup "carol" "example.org" false,
    .callback 0 (.handleMessageSession alice),
    .callback 0 (.handleMessageSession bob),
    .setup "carol" "example.net" false,
    .callback 1 (.handleMessageSession alice)]

/-- The first session was disposed of, the second stays live on the first
client, and the third is the listener's. -/
theorem sessions_of_history_replaced :
    ∃ world, (listenerMachine .documented true).Reaches replaced world ∧
      (world.heap.clients[0]?).map Client.sessions =
        some [adoptedSession 3 bob] ∧
      (world.heap.clients[1]?).map Client.sessions =
        some [adoptedSession 6 alice] ∧
      world.client.mListener.mSession = some 6 := by
  have hannounced : Guarded AnnouncedByClient replaced := by decide
  have hreplaced : (listenerMachine .documented true).Reaches replaced _ := rfl
  exact ⟨_, hreplaced,
    (sessions_of_history .documented true hannounced hreplaced 0).1,
    (sessions_of_history .documented true hannounced hreplaced 1).1, rfl⟩

end SessionLeaksWitness

end CinderXmpp
