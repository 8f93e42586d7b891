/-
What each call and callback reads and writes, and which of them may come in
either order.  An application calls from its own threads while gloox calls back
from the listener's; each call or callback runs to its end here.
-/
import CinderXmpp.Lib.Footprint
import CinderXmpp.StepEffect

namespace CinderXmpp

open Gloox History Machine

/-- The parts of a world. -/
inductive Part where
  | settings
  | flag
  | clients
  | sessions
  | thread
  | peers
  | signals
deriving DecidableEq, Repr

/-- A client without its sessions. -/
def Client.withoutSessions (client : Client) : Client :=
  { client with sessions := [] }

/-- The live sessions of the client with a number. -/
def Heap.sessions (heap : Heap) (number : Nat) : List MessageSession :=
  (heap.clients[number]?.map Client.sessions).getD []

theorem heap_eq_of_sessions {heap' heap : Heap}
    (hclients : heap'.clients.map Client.withoutSessions =
      heap.clients.map Client.withoutSessions)
    (hsessions : Heap.sessions heap' = Heap.sessions heap)
    (haddress : heap'.nextAddress = heap.nextAddress) : heap' = heap := by
  have hlength : heap'.clients.length = heap.clients.length := by
    simpa using congrArg List.length hclients
  have hsame : heap'.clients = heap.clients := by
    refine List.ext_getElem hlength fun i hi' hi => ?_
    have hrest : Client.withoutSessions heap'.clients[i] =
        Client.withoutSessions heap.clients[i] := by
      simpa [hi', hi] using congrArg (fun clients => clients[i]?) hclients
    have hown : heap'.clients[i].sessions = heap.clients[i].sessions := by
      simpa [Heap.sessions, hi', hi] using congrFun hsessions i
    calc heap'.clients[i]
        = { Client.withoutSessions heap'.clients[i] with
            sessions := heap'.clients[i].sessions } := rfl
      _ = { Client.withoutSessions heap.clients[i] with
            sessions := heap.clients[i].sessions } := by rw [hrest, hown]
      _ = heap.clients[i] := rfl
  cases heap'
  cases heap
  simp_all

/-- The settings of a listener that nothing changes; its flag; gloox's clients,
and which of them is current; their sessions, and what the listener holds of
them; and what the client owns. -/
def World.parts : Parts World Part where
  Value
    | .settings => String × String × Bool
    | .flag => Bool
    | .clients => List Client × Option Nat
    | .sessions =>
        (Nat → List MessageSession) × Nat × Option Nat × Option Nat × Option Nat
    | .thread => Option ListenerThread
    | .peers => UnorderedMap String XmppPeer
    | .signals => List Signal
  get
    | .settings, world => (world.client.mListener.mServer,
        world.client.mListener.mUsername, world.client.mListener.mDelegate)
    | .flag, world => world.client.mListener.mIsConnected
    | .clients, world => (world.heap.clients.map Client.withoutSessions,
        world.client.mListener.mClient)
    | .sessions, world => (Heap.sessions world.heap, world.heap.nextAddress,
        world.client.mListener.mSession,
        world.client.mListener.mMessageEventFilter,
        world.client.mListener.mChatStateFilter)
    | .thread, world => world.client.mListenerThread
    | .peers, world => world.client.mRoster
    | .signals, world => world.signals
  ext := by
    intro world world' hparts
    have hsettings := hparts .settings
    have hflag := hparts .flag
    have hclients := hparts .clients
    have hsessions := hparts .sessions
    have hthread := hparts .thread
    have hpeers := hparts .peers
    have hsignals := hparts .signals
    simp only [Prod.mk.injEq] at hsettings hclients hsessions
    have hheap : world.heap = world'.heap :=
      heap_eq_of_sessions hclients.1 hsessions.1 hsessions.2.1
    obtain ⟨⟨⟨⟩⟩⟩ := world
    obtain ⟨⟨⟨⟩⟩⟩ := world'
    simp_all

/-- What a callback reads and writes.  `handleMessage` follows a pointer to its
session, which must not be disposed of before. -/
def Callback.footprint : Callback → Footprint Part
  | .onConnect | .onDisconnect _ | .onTLSConnect =>
      ⟨{.settings}, {.flag, .signals}⟩
  | .handleMessage _ _ => ⟨{.settings, .peers, .sessions}, {.signals}⟩
  | .handleMessageSession _ => ⟨∅, {.clients, .sessions}⟩
  | .handleRoster _ | .handleRosterPresence _ _ _ _ =>
      ⟨{.settings}, {.peers, .signals}⟩
  | .handleMessageEvent _ | .handleChatState _ | .handleLog _
  | .handlePresence | .handleRosterError | .handleItemAdded _
  | .handleItemSubscribed _ | .handleItemRemoved _ | .handleItemUpdated _
  | .handleItemUnsubscribed _ | .handleSelfPresence _ _ _ _
  | .handleSubscriptionRequest _ _ | .handleUnsubscriptionRequest _ _
  | .handleNonrosterPresence => ⟨∅, ∅⟩

/-- What a call or callback reads and writes. -/
def Event.footprint : Event → Footprint Part
  | .callback _ cb => cb.footprint
  | .setup _ _ _ => ⟨{.settings}, {.clients}⟩
  | .openConnection _ | .send _ _ _ => ⟨{.flag}, {.clients}⟩
  | .connect _ _ => ⟨{.settings}, {.clients, .thread}⟩
  | .sendMessage _ _ _ => ⟨{.settings, .flag}, {.clients}⟩

/-- Neither event writes a part that the other reads or writes. -/
def Event.Independent (a b : Event) : Prop :=
  a.footprint.Independent b.footprint

instance (a b : Event) : Decidable (a.Independent b) :=
  inferInstanceAs (Decidable (a.footprint.Independent b.footprint))

section Parts

variable {world world' : World} {part : Part}

theorem Heap.sessions_called (world : World) (current : Nat)
    (entry : ClientCall) :
    Heap.sessions (world.called current entry).heap =
      Heap.sessions world.heap := by
  funext number
  unfold Heap.sessions World.called Heap.modifyClient
  simp only [List.getElem?_modify, Option.map_eq_map, Option.map_map]
  by_cases hcurrent : current = number
  · simp only [hcurrent, ↓reduceIte]
    rfl
  · simp only [hcurrent, ↓reduceIte]
    rfl

theorem Heap.sessions_installed (world : World) {client : Client}
    (hfresh : client.sessions = []) :
    Heap.sessions (world.installed client).heap = Heap.sessions world.heap := by
  funext number
  unfold Heap.sessions World.installed
  rw [List.getElem?_append]
  by_cases hlt : number < world.heap.clients.length
  · simp [hlt]
  · rw [if_neg hlt, List.getElem?_singleton, List.getElem?_eq_none (by omega)]
    split <;> simp [hfresh]

/-- A call on a client is seen in the clients alone. -/
theorem World.parts_called (hpart : part ≠ .clients) (world : World)
    (current : Nat) (entry : ClientCall) :
    World.parts.get part (world.called current entry) =
      World.parts.get part world := by
  cases part with
  | clients => exact absurd rfl hpart
  | sessions =>
      simp only [World.parts, Heap.sessions_called]
      rfl
  | _ => rfl

/-- So is a new client. -/
theorem World.parts_installed (hpart : part ≠ .clients) (world : World)
    {client : Client} (hfresh : client.sessions = []) :
    World.parts.get part (world.installed client) =
      World.parts.get part world := by
  cases part with
  | clients => exact absurd rfl hpart
  | sessions =>
      simp only [World.parts, Heap.sessions_installed world hfresh]
      rfl
  | _ => rfl

theorem World.parts_connecting (hpart : part ≠ .thread) (world : World)
    (lib : Library) (xmppUser xmppServer : String) :
    World.parts.get part (world.connecting lib xmppUser xmppServer) =
      World.parts.get part (world.installed (configuredClient lib
        world.client.mListener.mServer xmppUser xmppServer false)) := by
  cases part with
  | thread => exact absurd rfl hpart
  | _ => rfl

theorem World.clients_called
    (hsame : World.parts.get .clients world' = World.parts.get .clients world)
    (current : Nat) (entry : ClientCall) :
    World.parts.get .clients (world'.called current entry) =
      World.parts.get .clients (world.called current entry) := by
  simp only [World.parts, Prod.mk.injEq] at hsame ⊢
  have hcomm : ∀ client : Client, Client.withoutSessions (client.call entry) =
      (Client.withoutSessions client).call entry := fun _ => rfl
  refine ⟨?_, hsame.2⟩
  unfold World.called Heap.modifyClient
  simp only [map_modify_of_comm (Client.call entry) hcomm, hsame.1]

theorem World.clients_installed
    (hsame : World.parts.get .clients world' = World.parts.get .clients world)
    (client : Client) :
    World.parts.get .clients (world'.installed client) =
      World.parts.get .clients (world.installed client) := by
  simp only [World.parts, Prod.mk.injEq] at hsame ⊢
  have hlength : world'.heap.clients.length = world.heap.clients.length := by
    simpa using congrArg List.length hsame.1
  unfold World.installed
  simp only [List.map_append, hsame.1, hlength, and_self]

end Parts

section Bounds

variable {lib : Library} {world next : World} {event : Event} {reply : Reply}

theorem Event.writes_of_stanza {message : Message}
    (hstanza : event.stanza lib world = some message) :
    event.footprint.writes = {.clients} := by
  cases event <;> first
    | rfl
    | cases hstanza

/-- A step changes only what it writes. -/
theorem step_frame (hstep : step lib world event = .ok (reply, next))
    (part : Part) (hpart : part ∉ event.footprint.writes) :
    World.parts.get part next = World.parts.get part world := by
  cases effect_of_step hstep with
  | inert | undelegated | connectionSkipped | stanzaRefused
  | connectRefused => rfl
  | connectionOpened toggle current =>
      simp only [Event.footprint, Finset.mem_singleton] at hpart
      exact World.parts_called hpart world current _
  | stanzaSent _ message current hstanza =>
      rw [Event.writes_of_stanza hstanza, Finset.mem_singleton] at hpart
      exact World.parts_called hpart world current _
  | setUp =>
      simp only [Event.footprint, Finset.mem_singleton] at hpart
      exact World.parts_installed hpart world rfl
  | connectStarted =>
      simp only [Event.footprint, Finset.mem_insert, Finset.mem_singleton,
        not_or] at hpart
      exact (World.parts_connecting hpart.2 world lib _ _).trans
        (World.parts_installed hpart.1 world rfl)
  | _ =>
    cases part <;> first
      | rfl
      | simp [Event.footprint, Callback.footprint] at hpart

section Locality

variable {world' : World} {client : Nat}

/-- Two worlds agree on the parts of a footprint. -/
def Agree (fp : Footprint Part) (world' world : World) : Prop :=
  ∀ part ∈ fp.touches, World.parts.get part world' = World.parts.get part world

theorem agree_iff {fp : Footprint Part} :
    Agree fp world' world ↔
      (∀ part ∈ fp.reads,
        World.parts.get part world' = World.parts.get part world) ∧
      ∀ part ∈ fp.writes,
        World.parts.get part world' = World.parts.get part world :=
  Finset.forall_mem_union

/-- What the event does in `world`, it does in `world'` as well, as far as it
touches them. -/
def Event.Alike (lib : Library) (world' world : World) (event : Event) : Prop :=
  ∀ reply next, step lib world event = .ok (reply, next) →
    ∃ next', step lib world' event = .ok (reply, next') ∧
      Agree event.footprint next' next

/-- A step that always succeeds, with an outcome that depends on what it
touches alone. -/
theorem Event.alike_of_law {replyOf : World → Reply} {after : World → World}
    (hlaw : ∀ world, step lib world event = .ok (replyOf world, after world))
    (hreply : replyOf world' = replyOf world)
    (hafter : Agree event.footprint (after world') (after world)) :
    event.Alike lib world' world := by
  intro reply next hstep
  rw [hlaw] at hstep
  simp only [Except.ok.injEq, Prod.mk.injEq] at hstep
  obtain ⟨rfl, rfl⟩ := hstep
  exact ⟨_, by rw [hlaw, hreply], hafter⟩

theorem Agree.called {fp : Footprint Part} (hsame : Agree fp world' world)
    (current : Nat) (entry : ClientCall) :
    Agree fp (world'.called current entry) (world.called current entry) := by
  intro part hpart
  by_cases hclients : part = .clients
  · subst hclients
    exact World.clients_called (hsame .clients hpart) current entry
  · rw [World.parts_called hclients, World.parts_called hclients]
    exact hsame part hpart

theorem Agree.installed {fp : Footprint Part} (hsame : Agree fp world' world)
    {client : Client} (hfresh : client.sessions = []) :
    Agree fp (world'.installed client) (world.installed client) := by
  intro part hpart
  by_cases hclients : part = .clients
  · subst hclients
    exact World.clients_installed (hsame .clients hpart) client
  · rw [World.parts_installed hclients world' hfresh,
      World.parts_installed hclients world hfresh]
    exact hsame part hpart

/-- What reads the settings finds the same server and delegate. -/
theorem Agree.settings {fp : Footprint Part} (hsame : Agree fp world' world)
    (hreads : .settings ∈ fp.reads) :
    world'.client.mListener.mServer = world.client.mListener.mServer ∧
      world'.delegated = world.delegated := by
  have hsettings := hsame .settings (Finset.mem_union_left _ hreads)
  simp only [World.parts, Prod.mk.injEq] at hsettings
  exact ⟨hsettings.1, hsettings.2.2⟩

theorem Agree.gate {toggle : Bool}
    (hsame : Agree (Event.footprint (.openConnection toggle)) world' world) :
    world'.client.mListener.mIsConnected =
        world.client.mListener.mIsConnected ∧
      world'.client.mListener.mClient = world.client.mListener.mClient := by
  simp_all [agree_iff, Event.footprint, World.parts]

/-! Callbacks with a branch. -/

theorem alike_onDisconnect {e : ConnectionError}
    (hsame : Agree (Callback.footprint (.onDisconnect e)) world' world) :
    Event.Alike lib world' world (.callback client (.onDisconnect e)) := by
  intro reply next hstep
  have hdelegate := (hsame.settings (by simp [Callback.footprint])).2
  rw [step_onDisconnect] at hstep ⊢
  rw [hdelegate]
  cases hdelegated : world.delegated with
  | false =>
      obtain ⟨rfl, rfl⟩ : Reply.void = reply ∧ _ = next := by
        simpa [hdelegated] using hstep
      refine ⟨_, rfl, ?_⟩
      simp_all [agree_iff, Event.footprint, Callback.footprint, World.parts]
  | true =>
      cases hexc : disconnectExc e with
      | none =>
          obtain ⟨rfl, rfl⟩ : Reply.void = reply ∧ _ = next := by
            simpa [hdelegated, hexc] using hstep
          refine ⟨_, rfl, ?_⟩
          simp_all [agree_iff, Event.footprint, Callback.footprint,
            World.parts, World.emitted]
      | some exc =>
          obtain ⟨rfl, rfl⟩ : Reply.threw exc = reply ∧ _ = next := by
            simpa [hdelegated, hexc] using hstep
          refine ⟨_, rfl, ?_⟩
          simp_all [agree_iff, Event.footprint, Callback.footprint,
            World.parts]

theorem alike_handleRosterPresence {item : RosterItem} {resource msg : String}
    {presence : PresenceType}
    (hsame : Agree (Callback.footprint
      (.handleRosterPresence item resource presence msg)) world' world) :
    Event.Alike lib world' world (.callback client
      (.handleRosterPresence item resource presence msg)) := by
  intro reply next hstep
  have hdelegate := (hsame.settings (by simp [Callback.footprint])).2
  have hpeers : world'.client.mRoster = world.client.mRoster := by
    simp_all [agree_iff, Callback.footprint, World.parts]
  rw [step_handleRosterPresence] at hstep ⊢
  rw [hdelegate, hpeers]
  cases hdelegated : world.delegated with
  | false =>
      obtain ⟨rfl, rfl⟩ : Reply.void = reply ∧ world = next := by
        simpa [hdelegated] using hstep
      exact ⟨world', rfl, hsame⟩
  | true =>
      cases hlookup : world.client.mRoster.lookup item.jidJID.username with
      | none => simp [hdelegated, hlookup] at hstep
      | some peer =>
          obtain ⟨rfl, rfl⟩ : Reply.void = reply ∧ _ = next := by
            simpa [hdelegated, hlookup] using hstep
          refine ⟨_, rfl, ?_⟩
          simp_all [agree_iff, Event.footprint, Callback.footprint,
            World.parts, World.emitted]

theorem alike_handleMessageSession {target : JID}
    (hsame : Agree (Callback.footprint (.handleMessageSession target)) world'
      world) :
    Event.Alike lib world' world
      (.callback client (.handleMessageSession target)) := by
  intro reply next hstep
  have hclients := hsame .clients (by simp [Callback.footprint,
    Footprint.touches])
  have hsessions := hsame .sessions (by simp [Callback.footprint,
    Footprint.touches])
  simp only [World.parts, Prod.mk.injEq] at hclients hsessions
  have hheap : world'.heap = world.heap :=
    heap_eq_of_sessions hclients.1 hsessions.1 hsessions.2.1
  rw [step_handleMessageSession] at hstep ⊢
  rw [hclients.2]
  cases hclient : world.client.mListener.mClient with
  | none => simp [hclient] at hstep
  | some mClient =>
      obtain ⟨rfl, rfl⟩ : Reply.void = reply ∧ _ = next := by
        simpa [hclient] using hstep
      refine ⟨_, rfl, ?_⟩
      simp_all [agree_iff, Event.footprint, Callback.footprint, World.parts,
        World.adopting]

theorem alike_callback {cb : Callback}
    (hsame : Agree cb.footprint world' world) :
    Event.Alike lib world' world (.callback client cb) := by
  cases cb with
  | onConnect =>
      apply Event.alike_of_law (step_onConnect lib · client) rfl
      simp_all [agree_iff, Event.footprint, Callback.footprint, World.parts,
        World.emitted]
  | onTLSConnect =>
      apply Event.alike_of_law (step_onTLSConnect lib · client) rfl
      simp_all [agree_iff, Event.footprint, Callback.footprint, World.parts,
        World.emitted]
  | handleMessage msg sess =>
      apply Event.alike_of_law (step_handleMessage lib · client msg sess) rfl
      simp_all [agree_iff, Event.footprint, Callback.footprint, World.parts,
        World.emitted]
  | handleRoster roster =>
      apply Event.alike_of_law (step_handleRoster lib · client roster) rfl
      cases hdelegated : world.client.mListener.mDelegate <;>
        simp_all [agree_iff, Event.footprint, Callback.footprint, World.parts,
          World.emitted]
  | onDisconnect e => exact alike_onDisconnect hsame
  | handleRosterPresence item resource presence msg =>
      exact alike_handleRosterPresence hsame
  | handleMessageSession target => exact alike_handleMessageSession hsame
  | _ =>
      -- the remaining handlers answer gloox and leave the world alone
      intro reply next hstep
      cases hstep
      exact ⟨world', rfl, hsame⟩

/-! Calls. -/

/-- Both `sendMessage`s, by the gate and the stanza that they share. -/
theorem alike_stanza {message : Message}
    (hstanza : event.stanza lib world = some message)
    (hstanza' : event.stanza lib world' = some message)
    (haccepts : world'.accepts message.body = world.accepts message.body)
    (hsame : Agree event.footprint world' world) :
    event.Alike lib world' world := by
  intro reply next hstep
  rw [step_stanza _ _ hstanza] at hstep
  rw [step_stanza _ _ hstanza', haccepts]
  cases hgate : world.accepts message.body with
  | none =>
      obtain ⟨rfl, rfl⟩ : Reply.bool false = reply ∧ world = next := by
        simpa [hgate] using hstep
      exact ⟨world', rfl, hsame⟩
  | some current =>
      obtain ⟨rfl, rfl⟩ : Reply.bool true = reply ∧ _ = next := by
        simpa [hgate] using hstep
      exact ⟨_, rfl, hsame.called current _⟩

theorem alike_connect {xmppUser xmppServer : String}
    (hsame : Agree (Event.footprint (.connect xmppUser xmppServer)) world'
      world) :
    Event.Alike lib world' world (.connect xmppUser xmppServer) := by
  intro reply next hstep
  have hserver := (hsame.settings (by simp [Event.footprint])).1
  have hconnecting : Agree (Event.footprint (.connect xmppUser xmppServer))
      (world'.connecting lib xmppUser xmppServer)
      (world.connecting lib xmppUser xmppServer) := by
    intro part hpart
    by_cases hthread : part = .thread
    · subst hthread
      rfl
    · rw [World.parts_connecting hthread, World.parts_connecting hthread,
        hserver]
      exact hsame.installed rfl part hpart
  have hthread : world'.client.mListenerThread = world.client.mListenerThread :=
    hsame .thread (by simp [Event.footprint, Footprint.touches])
  rw [step_connect] at hstep ⊢
  rw [hthread]
  by_cases hempty : (xmppUser.isEmpty || xmppServer.isEmpty) = true
  · rw [if_pos hempty] at hstep ⊢
    obtain ⟨rfl, rfl⟩ : Reply.bool false = reply ∧ world = next := by
      simpa using hstep
    exact ⟨world', rfl, hsame⟩
  · rw [if_neg hempty] at hstep ⊢
    cases hold : world.client.mListenerThread with
    | none =>
        obtain ⟨rfl, rfl⟩ : Reply.bool true = reply ∧ _ = next := by
          simpa [hold] using hstep
        exact ⟨_, rfl, hconnecting⟩
    | some dropped =>
        cases hjoinable : dropped.joinable with
        | true => simp [hold, hjoinable] at hstep
        | false =>
            obtain ⟨rfl, rfl⟩ : Reply.bool true = reply ∧ _ = next := by
              simpa [hold, hjoinable] using hstep
            exact ⟨_, by simp [hjoinable], hconnecting⟩

/-- What a step replies and leaves depends on what it touches alone. -/
theorem Event.alike_of_agree (hsame : Agree event.footprint world' world) :
    event.Alike lib world' world := by
  cases event with
  | callback client cb => exact alike_callback hsame
  | connect xmppUser xmppServer => exact alike_connect hsame
  | setup username server enableLogging =>
      apply Event.alike_of_law (step_setup lib · username server enableLogging)
        rfl
      have hserver := (hsame.settings (by simp [Event.footprint])).1
      rw [hserver]
      exact hsame.installed rfl
  | openConnection toggle =>
      apply Event.alike_of_law (step_openConnection lib · toggle) rfl
      have hgate := hsame.gate
      rw [hgate.1, hgate.2]
      cases world.client.mListener.mIsConnected <;>
        cases world.client.mListener.mClient <;> first
          | exact hsame
          | exact hsame.called _ _
  | send recipient message subject =>
      refine alike_stanza rfl rfl ?_ hsame
      simp_all [agree_iff, Event.footprint, World.parts, World.accepts]
  | sendMessage recipient message subject =>
      have hserver := (hsame.settings (by simp [Event.footprint])).1
      refine alike_stanza rfl (by simp only [Event.stanza, hserver]) ?_ hsame
      simp_all [agree_iff, Event.footprint, World.parts, World.accepts]

end Locality

/-- Every step stays within its footprint. -/
theorem footprint_bounds (lib : Library) (event : Event) :
    event.footprint.Bounds World.parts (step lib · event) where
  frame hstep := step_frame hstep
  locality hsame hstep := Event.alike_of_agree hsame _ _ hstep

end Bounds

/-- What the application does. -/
def Event.isCall : Event → Bool
  | .callback _ _ => false
  | _ => true

/-- Callbacks that say something about others: all but those about the
connection and those that announce a session. -/
def Callback.bringsData : Callback → Bool
  | .onConnect | .onDisconnect _ | .onTLSConnect
  | .handleMessageSession _ => false
  | _ => true

/-- Calls go to the clients, and read the flag. -/
theorem Event.touches_of_isCall {call : Event} (hcall : call.isCall = true) :
    call.footprint.writes ⊆ {.clients, .thread} ∧
      call.footprint.touches ⊆ {.settings, .flag, .clients, .thread} := by
  cases call with
  | callback => cases hcall
  | _ => simp [Event.footprint, Footprint.touches, Finset.insert_subset_iff]

/-- Data goes to the peers and the subscribers. -/
theorem Callback.touches_of_bringsData {cb : Callback}
    (hdata : cb.bringsData = true) :
    cb.footprint.writes ⊆ {.peers, .signals} ∧
      cb.footprint.touches ⊆ {.settings, .peers, .signals, .sessions} := by
  cases cb <;> first
    | exact absurd hdata Bool.false_ne_true
    | simp [Callback.footprint, Footprint.touches, Finset.insert_subset_iff]

theorem independent_of_bringsData {call : Event} (hcall : call.isCall = true)
    {client : Nat} {cb : Callback} (hdata : cb.bringsData = true) :
    Event.Independent (.callback client cb) call := by
  obtain ⟨hcallWrites, hcallTouches⟩ := Event.touches_of_isCall hcall
  obtain ⟨hdataWrites, hdataTouches⟩ := Callback.touches_of_bringsData hdata
  constructor
  · exact Disjoint.mono hdataWrites hcallTouches (by decide)
  · exact Disjoint.mono hcallWrites hdataTouches (by decide)

end CinderXmpp
