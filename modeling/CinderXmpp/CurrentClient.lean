/-
The connected flag and the client pointer of one listener over several
`setup`s.  `setup` replaces the pointer without touching the flag or the client
that was there, and the callbacks of every client write the one flag.
-/
import CinderXmpp.ConnectedFlag

namespace CinderXmpp

open Gloox History

/-- What an event says about the connection of one client. -/
def Event.reportOf? (client : Nat) : Event → Option Bool
  | .callback source .onConnect =>
      if source = client then some true else none
  | .callback source (.onDisconnect _) =>
      if source = client then some false else none
  | _ => none

/-- The client has reported `onConnect`, and not `onDisconnect` since. -/
def reportsConnected (client : Nat) (events : List Event) : Bool :=
  (lastSome (Event.reportOf? client) events).getD false

theorem reportsConnected_append_singleton (client : Nat) (events : List Event)
    (event : Event) :
    reportsConnected client (events ++ [event]) =
      (event.reportOf? client).getD (reportsConnected client events) := by
  unfold reportsConnected
  rw [lastSome_append_singleton]
  cases event.reportOf? client <;> rfl

/-- The number of clients that a history has created. -/
def created (events : List Event) : Nat := events.countP Event.createsClient

theorem created_append_singleton (events : List Event) (event : Event) :
    created (events ++ [event]) =
      created events + if event.createsClient then 1 else 0 := by
  unfold created
  rw [List.countP_append, List.countP_singleton]

/-- The steps of a listener on its own: `setup`, `openConnection` and
`sendMessage` calls, and connects and disconnects that come from any client
created so far. -/
def ListenerCall (pre : List Event) : Event → Prop
  | .setup _ _ _ => True
  | .openConnection _ => True
  | .send _ _ _ => True
  | .callback client .onConnect => client < created pre
  | .callback client (.onDisconnect _) => client < created pre
  | _ => False

instance (pre : List Event) : DecidablePred (ListenerCall pre)
  | .setup _ _ _ => .isTrue trivial
  | .openConnection _ => .isTrue trivial
  | .send _ _ _ => .isTrue trivial
  | .connect _ _ => .isFalse id
  | .sendMessage _ _ _ => .isFalse id
  | .callback client cb =>
      match cb with
      | .onConnect => inferInstanceAs (Decidable (client < created pre))
      | .onDisconnect _ => inferInstanceAs (Decidable (client < created pre))
      | .onTLSConnect | .handleMessage _ _ | .handleMessageEvent _
      | .handleChatState _ | .handleMessageSession _ | .handleLog _
      | .handlePresence | .handleRoster _ | .handleRosterPresence _ _ _ _
      | .handleRosterError | .handleItemAdded _ | .handleItemSubscribed _
      | .handleItemRemoved _ | .handleItemUpdated _ | .handleItemUnsubscribed _
      | .handleSelfPresence _ _ _ _ | .handleSubscriptionRequest _ _
      | .handleUnsubscriptionRequest _ _ | .handleNonrosterPresence =>
          .isFalse id

/-- The five kinds of a listener's steps. -/
theorem ListenerCall.cases {pre : List Event} {event : Event}
    (hcall : ListenerCall pre event) :
    (∃ username server logging, event = .setup username server logging) ∨
    (∃ client, client < created pre ∧ event = .callback client .onConnect) ∨
    (∃ client e, client < created pre ∧
      event = .callback client (.onDisconnect e)) ∨
    (∃ toggle, event = .openConnection toggle) ∨
    (∃ recipient body subject, event = .send recipient body subject) := by
  cases event with
  | setup username server logging => exact .inl ⟨_, _, _, rfl⟩
  | openConnection toggle => exact .inr (.inr (.inr (.inl ⟨_, rfl⟩)))
  | send recipient body subject =>
      exact .inr (.inr (.inr (.inr ⟨_, _, _, rfl⟩)))
  | callback client cb =>
      cases cb with
      | onConnect => exact .inr (.inl ⟨client, hcall, rfl⟩)
      | onDisconnect e => exact .inr (.inr (.inl ⟨client, e, hcall, rfl⟩))
      | _ => exact hcall.elim
  | _ => exact hcall.elim

/-- A client was disconnected and deleted. -/
def Client.released (client : Client) : Prop :=
  .disconnect ∈ client.calls ∧ client.deleted = true

/-- The flag speaks about the current client: while it is up, the current
client is connected. -/
def FlagOfCurrent (events : List Event) (world : World) : Prop :=
  world.client.mListener.mIsConnected = true →
    ∃ current, world.client.mListener.mClient = some current ∧
      reportsConnected current events = true

/-- What the flag and the pointer should keep after every step of a run: the
flag belongs to the current client, a message is only accepted for a connected
client, and the clients of earlier `setup`s are released. -/
structure BelongsToCurrent (lib : Library) (events : List Event)
    (world : World) : Prop where
  flag : FlagOfCurrent events world
  stanza : ∀ recipient body subject next,
    step lib world (.send recipient body subject) = .ok (.bool true, next) →
    ∃ current, reportsConnected current events = true ∧
      next = world.called current (.send ⟨.chat, recipient, body, subject⟩)
  earlier : ∀ client gone, world.heap.clients[client]? = some gone →
    world.client.mListener.mClient ≠ some client → Client.released gone

section Deletion

/-- No client was deleted. -/
def Heap.Undeleted (heap : Heap) : Prop :=
  ∀ (index : Nat) (client : Client),
    heap.clients[index]? = some client → client.deleted = false

theorem Heap.Undeleted.modifyClient {heap : Heap} (hheap : Heap.Undeleted heap)
    (index : Nat) {edit : Client → Client}
    (hedit : ∀ client, (edit client).deleted = client.deleted) :
    Heap.Undeleted (heap.modifyClient index edit) := by
  intro at_ client hclient
  simp only [Heap.modifyClient, List.getElem?_modify] at hclient
  obtain ⟨old, hold, rfl⟩ := Option.map_eq_some_iff.mp hclient
  split
  · rw [hedit]
    exact hheap at_ old hold
  · exact hheap at_ old hold

theorem Heap.Undeleted.installed {world : World}
    (hheap : Heap.Undeleted world.heap) {client : Client}
    (hclient : client.deleted = false) :
    Heap.Undeleted (world.installed client).heap := by
  intro index found hfound
  simp only [World.installed, List.getElem?_append] at hfound
  split at hfound
  · exact hheap index found hfound
  · rw [List.getElem?_singleton] at hfound
    split at hfound
    · obtain rfl := Option.some.inj hfound
      exact hclient
    · cases hfound

theorem Heap.Undeleted.adopted {heap : Heap} (hheap : Heap.Undeleted heap)
    (mClient : Nat) (mSession : Option Nat) (owner : Nat) (target : JID) :
    Heap.Undeleted (adoptedHeap mClient mSession owner target heap) := by
  intro index client hclient
  rw [getElem?_adoptedHeap] at hclient
  obtain ⟨old, hold, rfl⟩ := Option.map_eq_some_iff.mp hclient
  unfold adoptedClient
  split_ifs <;> exact hheap index old hold

/-- No step deletes a client. -/
theorem step_undeleted {lib : Library} {world next : World} {event : Event}
    {reply : Reply} (hheap : Heap.Undeleted world.heap)
    (hstep : step lib world event = .ok (reply, next)) :
    Heap.Undeleted next.heap := by
  cases effect_of_step hstep with
  | setUp => exact hheap.installed rfl
  | connectStarted => exact hheap.installed rfl
  | connectionOpened => exact hheap.modifyClient _ fun _ => rfl
  | stanzaSent => exact hheap.modifyClient _ fun _ => rfl
  | sessionAdopted => exact hheap.adopted _ _ _ _
  | _ => exact hheap

end Deletion

section Runs

variable {lib : Library} {delegate : Bool} {events : List Event}
  {world : World}

theorem Reaches.undeleted
    (hreach : (listenerMachine lib delegate).Reaches events world) :
    Heap.Undeleted world.heap := by
  apply Machine.Reaches.invariant
    (I := fun _ world => Heap.Undeleted world.heap) ?_ ?_ hreach
  · intro index client hclient
    simp [listenerMachine, World.start] at hclient
  · intro _ world event reply next _ hheap hstep
    exact step_undeleted hheap hstep

/-- The listener's own steps never fail. -/
theorem exists_reaches_of_listenerCalls (lib : Library) (delegate : Bool)
    (hrun : Guarded ListenerCall events) :
    ∃ world, (listenerMachine lib delegate).Reaches events world := by
  apply Machine.exists_reaches_of_guarded ?_ hrun
  intro pre world event _ _ hcall
  cases hstep : step lib world event with
  | ok result => exact ⟨result.1, result.2, hstep⟩
  | error fault => cases faultOf_step hstep <;> exact hcall.elim

/-- Without an `onTLSConnect` the flag is the one of `onConnect`. -/
theorem Reaches.mIsConnected_eq_loggedIn
    (hrun : Guarded ListenerCall events)
    (hreach : (listenerMachine lib delegate).Reaches events world) :
    world.client.mListener.mIsConnected = loggedIn events := by
  have hsecured : secured events = false := by
    clear hreach
    induction events using List.reverseRecOn with
    | nil => rfl
    | append_singleton pre event ih =>
        obtain ⟨hpre, hcall⟩ := guarded_append_singleton.mp hrun
        rw [secured_append_singleton, ih hpre]
        rcases hcall.cases with ⟨_, _, _, rfl⟩ | ⟨_, _, rfl⟩ | ⟨_, _, _, rfl⟩ |
          ⟨_, rfl⟩ | ⟨_, _, _, rfl⟩ <;> rfl
  rw [Reaches.mIsConnected_eq hreach, hsecured, Bool.or_false]

end Runs

/-- A client that does not exist yet has reported nothing. -/
theorem reportsConnected_of_not_created {events : List Event}
    (hrun : Guarded ListenerCall events) {client : Nat}
    (hclient : created events ≤ client) :
    reportsConnected client events = false := by
  induction events using List.reverseRecOn with
  | nil => rfl
  | append_singleton pre event ih =>
      obtain ⟨hpre, hcall⟩ := guarded_append_singleton.mp hrun
      rw [created_append_singleton] at hclient
      have hearlier := ih hpre (by omega)
      rw [reportsConnected_append_singleton]
      rcases hcall.cases with ⟨_, _, _, rfl⟩ | ⟨source, hsource, rfl⟩ |
        ⟨source, e, hsource, rfl⟩ | ⟨_, rfl⟩ | ⟨_, _, _, rfl⟩
      · exact hearlier
      · have hne : source ≠ client := by omega
        simp [Event.reportOf?, hne, hearlier]
      · have hne : source ≠ client := by omega
        simp [Event.reportOf?, hne, hearlier]
      · exact hearlier
      · exact hearlier

theorem loggedIn_of_created_eq_zero {events : List Event}
    (hrun : Guarded ListenerCall events) (hzero : created events = 0) :
    loggedIn events = false := by
  induction events using List.reverseRecOn with
  | nil => rfl
  | append_singleton pre event ih =>
      obtain ⟨hpre, hcall⟩ := guarded_append_singleton.mp hrun
      rw [created_append_singleton] at hzero
      have hearlier := ih hpre (by omega)
      rw [loggedIn_append_singleton, hearlier]
      rcases hcall.cases with ⟨_, _, _, rfl⟩ | ⟨source, hsource, rfl⟩ |
        ⟨source, e, hsource, rfl⟩ | ⟨_, rfl⟩ | ⟨_, _, _, rfl⟩
      · rfl
      · omega
      · rfl
      · rfl
      · rfl

/-- An event keeps the flag with the current client: `setup` comes while the
flag is down, and `onConnect` comes from the current client, or while the
current client is connected. -/
def KeepsFlag (pre : List Event) : Event → Prop
  | .setup _ _ _ => loggedIn pre = false
  | .callback client .onConnect =>
      ∃ current, currentClient (created pre) = some current ∧
        (client = current ∨ reportsConnected current pre = true)
  | _ => True

/-- The flag's property as a fact about the events alone. -/
def FlagOfLast (events : List Event) : Prop :=
  loggedIn events = true →
    ∃ current, currentClient (created events) = some current ∧
      reportsConnected current events = true

theorem flagOfLast_append_singleton_iff {pre : List Event} {event : Event}
    (hpre : Guarded ListenerCall pre) (hcall : ListenerCall pre event)
    (hflag : FlagOfLast pre) :
    FlagOfLast (pre ++ [event]) ↔ KeepsFlag pre event := by
  unfold FlagOfLast at hflag ⊢
  rw [loggedIn_append_singleton, created_append_singleton]
  simp only [reportsConnected_append_singleton]
  rcases hcall.cases with ⟨username, server, logging, rfl⟩ |
    ⟨client, hclient, rfl⟩ | ⟨client, e, hclient, rfl⟩ | ⟨toggle, rfl⟩ |
    ⟨recipient, body, subject, rfl⟩
  · have hfresh := reportsConnected_of_not_created hpre (le_refl (created pre))
    simp [KeepsFlag, Event.isDisconnect, Event.isLogin, Event.createsClient,
      Event.reportOf?, currentClient, hfresh]
  · simp only [KeepsFlag, Event.isDisconnect, Event.isLogin,
      Event.createsClient, Event.reportOf?, Bool.not_false, Bool.or_true,
      Bool.and_self, Bool.false_eq_true, ↓reduceIte, Nat.add_zero,
      forall_const]
    constructor
    · rintro ⟨current, hcurrent, hreports⟩
      refine ⟨current, hcurrent, ?_⟩
      by_cases heq : client = current
      · exact .inl heq
      · exact .inr (by simpa [heq] using hreports)
    · rintro ⟨current, hcurrent, heq | hreports⟩
      · exact ⟨current, hcurrent, by simp [heq]⟩
      · refine ⟨current, hcurrent, ?_⟩
        by_cases heq : client = current <;> simp [heq, hreports]
  · simp [KeepsFlag, Event.isDisconnect]
  · simpa [KeepsFlag, Event.isDisconnect, Event.isLogin, Event.createsClient,
      Event.reportOf?] using hflag
  · simpa [KeepsFlag, Event.isDisconnect, Event.isLogin, Event.createsClient,
      Event.reportOf?] using hflag

section Runs

variable {lib : Library} {delegate : Bool} {events : List Event}
  {world : World}

theorem Reaches.flagOfCurrent_iff (hrun : Guarded ListenerCall events)
    (hreach : (listenerMachine lib delegate).Reaches events world) :
    FlagOfCurrent events world ↔ FlagOfLast events := by
  unfold FlagOfCurrent FlagOfLast
  rw [Reaches.mIsConnected_eq_loggedIn hrun hreach, Reaches.mClient_eq hreach]
  rfl

/-- The flag belongs to the current client throughout a run exactly when every
event keeps it so. -/
theorem forall_prefix_flagOfCurrent_iff (lib : Library) (delegate : Bool)
    (hrun : Guarded ListenerCall events) :
    (∀ pre world, pre <+: events →
        (listenerMachine lib delegate).Reaches pre world →
        FlagOfCurrent pre world) ↔
      Guarded KeepsFlag events := by
  rw [← forall_prefix_iff_guarded (F := FlagOfLast) (by simp [FlagOfLast])
    (fun _ _ => flagOfLast_append_singleton_iff) hrun]
  constructor
  · intro hflag pre hinit
    have hpre := hrun.of_prefix hinit
    obtain ⟨world, hworld⟩ := exists_reaches_of_listenerCalls lib delegate hpre
    exact (Reaches.flagOfCurrent_iff hpre hworld).mp
      (hflag pre world hinit hworld)
  · intro hflag pre world hinit hworld
    exact (Reaches.flagOfCurrent_iff (hrun.of_prefix hinit) hworld).mpr
      (hflag pre hinit)

/-- With one client at most, every event keeps the flag with it. -/
theorem keepsFlag_of_created_le_one (hrun : Guarded ListenerCall events)
    (hone : created events ≤ 1) : Guarded KeepsFlag events := by
  intro pre event hinit
  have hmono : created (pre ++ [event]) ≤ created events :=
    hinit.sublist.countP_le
  rw [created_append_singleton] at hmono
  have hpre := hrun.of_prefix ((List.prefix_append pre [event]).trans hinit)
  rcases (hrun pre event hinit).cases with ⟨username, server, logging, rfl⟩ |
    ⟨client, hclient, rfl⟩ | ⟨client, e, hclient, rfl⟩ | ⟨toggle, rfl⟩ |
    ⟨recipient, body, subject, rfl⟩
  · simp only [Event.createsClient, ↓reduceIte] at hmono
    exact loggedIn_of_created_eq_zero hpre (by omega)
  · have hzero : client = 0 := by omega
    have hcreated : created pre = 1 := by omega
    exact ⟨0, by rw [hcreated]; rfl, .inl hzero⟩
  · trivial
  · trivial
  · trivial

/-- A message is only accepted while the flag is up, and goes to the current
client. -/
theorem FlagOfCurrent.stanza (hflag : FlagOfCurrent events world)
    {recipient : JID} {body subject : String} {next : World}
    (hstep : step lib world (.send recipient body subject) =
      .ok (.bool true, next)) :
    ∃ current, reportsConnected current events = true ∧
      next = world.called current
        (.send ⟨.chat, recipient, body, subject⟩) := by
  have hstanza : (Event.send recipient body subject).stanza lib world =
      some ⟨.chat, recipient, body, subject⟩ := rfl
  rw [step_stanza lib world hstanza] at hstep
  cases haccepts : world.accepts body with
  | none => simp [haccepts] at hstep
  | some current =>
      simp only [haccepts, Except.ok.injEq, Prod.mk.injEq, true_and] at hstep
      obtain ⟨hconnected, _, hclient⟩ := World.accepts_eq_some_iff.mp haccepts
      obtain ⟨other, hother, hreports⟩ := hflag hconnected
      rw [hclient] at hother
      obtain rfl := Option.some.inj hother
      exact ⟨current, hreports, hstep.symm⟩

/-- With two clients the first one is still there. -/
theorem created_le_one_of_belongsToCurrent
    (hreach : (listenerMachine lib delegate).Reaches events world)
    (hbelongs : BelongsToCurrent lib events world) : created events ≤ 1 := by
  by_contra hmany
  have hlength : world.heap.clients.length = created events :=
    Reaches.clients_length hreach
  have hfirst : 0 < world.heap.clients.length := by omega
  have hcurrent : world.client.mListener.mClient ≠ some 0 := by
    rw [Reaches.mClient_eq hreach]
    change currentClient (created events) ≠ some 0
    obtain ⟨more, hmore⟩ : ∃ more, created events = more + 2 :=
      ⟨created events - 2, by omega⟩
    rw [hmore]
    simp [currentClient]
  have hgone := hbelongs.earlier 0 _ (List.getElem?_eq_getElem hfirst) hcurrent
  have hkept := Reaches.undeleted hreach 0 _ (List.getElem?_eq_getElem hfirst)
  rw [hgone.2] at hkept
  cases hkept

/-- The flag, the accepted messages and the clients of earlier `setup`s are in
order throughout a run exactly when it calls `setup` at most once: a second
call neither disconnects nor deletes the client that was there.  The flag alone
stays with the current client exactly when every `setup` comes while the flag
is down and no other client reports `onConnect` while the current one is not
connected. -/
theorem belongsToCurrent_iff (lib : Library) (delegate : Bool)
    (events : List Event) (hrun : Guarded ListenerCall events) :
    (∃ world, (listenerMachine lib delegate).Reaches events world) ∧
    ((∀ pre world, pre <+: events →
        (listenerMachine lib delegate).Reaches pre world →
        BelongsToCurrent lib pre world) ↔ created events ≤ 1) ∧
    ((∀ pre world, pre <+: events →
        (listenerMachine lib delegate).Reaches pre world →
        FlagOfCurrent pre world) ↔ Guarded KeepsFlag events) := by
  have hexists := exists_reaches_of_listenerCalls lib delegate hrun
  refine ⟨hexists, ⟨?_, ?_⟩, forall_prefix_flagOfCurrent_iff lib delegate hrun⟩
  · intro hbelongs
    obtain ⟨world, hworld⟩ := hexists
    exact created_le_one_of_belongsToCurrent hworld
      (hbelongs events world (List.prefix_refl _) hworld)
  · intro hone pre world hinit hworld
    have hflag := (forall_prefix_flagOfCurrent_iff lib delegate hrun).mpr
      (keepsFlag_of_created_le_one hrun hone) pre world hinit hworld
    refine ⟨hflag, fun _ _ _ _ => hflag.stanza, ?_⟩
    intro client gone hgone hother
    exfalso
    have hpre : created pre ≤ 1 := le_trans hinit.sublist.countP_le hone
    have hlength : world.heap.clients.length = created pre :=
      Reaches.clients_length hworld
    have hlt : client < world.heap.clients.length :=
      (List.getElem?_eq_some_iff.mp hgone).1
    have hzero : client = 0 := by omega
    have hcreated : created pre = 1 := by omega
    apply hother
    rw [Reaches.mClient_eq hworld, hzero]
    change currentClient (created pre) = some 0
    rw [hcreated]
    rfl

end Runs

namespace CurrentClientWitness

def bob : JID := ⟨"bob", "example.org", ""⟩

/-- The listener reconnects to another server while it is connected. -/
def secondSetup : List Event :=
  [.setup "alice" "first.org" false, .callback 0 .onConnect,
    .setup "alice" "second.org" false]

/-- The flag is up for a client that never connected, a message for it is
accepted, and the first client is neither disconnected nor deleted. -/
theorem flag_not_of_current_secondSetup :
    Guarded ListenerCall secondSetup ∧
    ∃ world next first,
      (listenerMachine .documented true).Reaches secondSetup world ∧
      world.client.mListener.mIsConnected = true ∧
      world.client.mListener.mClient = some 1 ∧
      reportsConnected 1 secondSetup = false ∧
      step .documented world (.send bob "hi" "") = .ok (.bool true, next) ∧
      next.sentTo 1 = [⟨.chat, bob, "hi", ""⟩] ∧
      world.heap.clients[0]? = some first ∧
      .disconnect ∉ first.calls ∧ first.deleted = false ∧
      ¬ BelongsToCurrent .documented secondSetup world := by
  refine ⟨by decide, _, _, _, rfl, rfl, rfl, rfl, rfl, rfl, rfl, by decide, rfl,
    ?_⟩
  intro hbelongs
  obtain ⟨current, hcurrent, hreports⟩ := hbelongs.flag rfl
  obtain rfl : 1 = current := Option.some.inj hcurrent
  exact absurd hreports (by decide)

/-- One client that connects, sends and disconnects. -/
def oneSetup : List Event :=
  [.setup "alice" "first.org" false, .openConnection true,
    .callback 0 .onConnect, .send bob "hi" "",
    .callback 0 (.onDisconnect .connNoError)]

theorem belongsToCurrent_iff_oneSetup :
    ∃ world, (listenerMachine .documented true).Reaches oneSetup world ∧
      BelongsToCurrent .documented oneSetup world := by
  obtain ⟨⟨world, hworld⟩, hbelongs, _⟩ :=
    belongsToCurrent_iff .documented true oneSetup (by decide)
  refine ⟨world, hworld, ?_⟩
  exact hbelongs.mpr (by decide) oneSetup world (List.prefix_refl _) hworld

end CurrentClientWitness

end CinderXmpp
