/-
The connected flag as a function of the event history.  Both `onConnect` and
`onTLSConnect` raise it and `onDisconnect` lowers it, so it is up from the end
of the TLS handshake on, before authentication has finished.
-/
import CinderXmpp.StepEffect

namespace CinderXmpp

open Gloox History

def Event.isLogin : Event → Bool
  | .callback _ .onConnect => true
  | _ => false

def Event.isSecuring : Event → Bool
  | .callback _ .onTLSConnect => true
  | _ => false

def Event.isDisconnect : Event → Bool
  | .callback _ (.onDisconnect _) => true
  | _ => false

/-- There was an `onConnect`, and no `onDisconnect` since. -/
def loggedIn (events : List Event) : Bool :=
  (since Event.isDisconnect events).any Event.isLogin

/-- There was an `onTLSConnect`, and no `onDisconnect` since. -/
def secured (events : List Event) : Bool :=
  (since Event.isDisconnect events).any Event.isSecuring

@[simp] theorem loggedIn_nil : loggedIn [] = false := rfl

theorem loggedIn_append_singleton (events : List Event) (event : Event) :
    loggedIn (events ++ [event]) =
      (!event.isDisconnect && (loggedIn events || event.isLogin)) := by
  unfold loggedIn
  rw [since_append_singleton]
  cases event.isDisconnect <;> simp

theorem secured_append_singleton (events : List Event) (event : Event) :
    secured (events ++ [event]) =
      (!event.isDisconnect && (secured events || event.isSecuring)) := by
  unfold secured
  rw [since_append_singleton]
  cases event.isDisconnect <;> simp

/-- An event writes the connected flag or is none of the three callbacks. -/
theorem Event.lifecycle_cases (event : Event) :
    (∃ client, event = .callback client .onConnect) ∨
    (∃ client, event = .callback client .onTLSConnect) ∨
    (∃ client e, event = .callback client (.onDisconnect e)) ∨
    (event.lifecycle = none ∧ event.isLogin = false ∧
      event.isSecuring = false ∧ event.isDisconnect = false) := by
  cases event with
  | callback client cb =>
      cases cb with
      | onConnect => exact .inl ⟨client, rfl⟩
      | onTLSConnect => exact .inr (.inl ⟨client, rfl⟩)
      | onDisconnect e => exact .inr (.inr (.inl ⟨client, e, rfl⟩))
      | _ => exact .inr (.inr (.inr ⟨rfl, rfl, rfl, rfl⟩))
  | _ => exact .inr (.inr (.inr ⟨rfl, rfl, rfl, rfl⟩))

/-- The stanzas that were handed to a client. -/
def World.sentTo (world : World) (client : Nat) : List Message :=
  ((world.heap.clients[client]?).map Client.sent).getD []

section Runs

variable {lib : Library} {delegate : Bool} {events : List Event}
  {world : World}

/-- The flag holds what the last event that writes it has written. -/
theorem Reaches.mIsConnected_eq_lastSome
    (hreach : (listenerMachine lib delegate).Reaches events world) :
    world.client.mListener.mIsConnected =
      (lastSome Event.lifecycle events).getD false := by
  apply Machine.Reaches.register
    (fun world => world.client.mListener.mIsConnected) Event.lifecycle ?_ hreach
  intro world event reply next hstep
  exact step_mIsConnected hstep

theorem lastSome_lifecycle_eq (events : List Event) :
    (lastSome Event.lifecycle events).getD false =
      (loggedIn events || secured events) := by
  induction events using List.reverseRecOn with
  | nil => rfl
  | append_singleton pre event ih =>
      rw [lastSome_append_singleton, loggedIn_append_singleton,
        secured_append_singleton]
      rcases event.lifecycle_cases with ⟨client, rfl⟩ | ⟨client, rfl⟩ |
        ⟨client, e, rfl⟩ | ⟨hkeep, hlogin, hsecuring, hdisconnect⟩
      · simp [Event.lifecycle, Event.isDisconnect, Event.isLogin]
      · simp [Event.lifecycle, Event.isDisconnect, Event.isSecuring]
      · simp [Event.lifecycle, Event.isDisconnect]
      · simp [hkeep, hlogin, hsecuring, hdisconnect, ih]

theorem Reaches.mIsConnected_eq
    (hreach : (listenerMachine lib delegate).Reaches events world) :
    world.client.mListener.mIsConnected =
      (loggedIn events || secured events) :=
  (Reaches.mIsConnected_eq_lastSome hreach).trans (lastSome_lifecycle_eq events)

theorem World.sentTo_called {client : Nat} {message : Message}
    (hclient : client < world.heap.clients.length) :
    (world.called client (.send message)).sentTo client =
      world.sentTo client ++ [message] := by
  simp [World.sentTo, World.called, Heap.modifyClient, Client.sent, Client.call,
    List.getElem?_eq_getElem hclient]

/-- What either `sendMessage` does in a run: it returns true exactly if there
is a body and the flag is up, hands its stanza to the current client exactly
then, and changes no field of the client or the listener. -/
theorem Reaches.step_stanza {event : Event} {message : Message}
    {current : Nat}
    (hreach : (listenerMachine lib delegate).Reaches events world)
    (hcurrent : world.client.mListener.mClient = some current)
    (hstanza : event.stanza lib world = some message) :
    ∃ accepted next, step lib world event = .ok (.bool accepted, next) ∧
      (accepted = true ↔ message.body ≠ "" ∧
        world.client.mListener.mIsConnected = true) ∧
      next.client = world.client ∧
      next.sentTo current =
        world.sentTo current ++ if accepted then [message] else [] := by
  have hstep := CinderXmpp.step_stanza lib world hstanza
  cases haccepts : world.accepts message.body with
  | none =>
      simp only [haccepts] at hstep
      refine ⟨false, world, hstep, ?_, rfl, by simp⟩
      constructor
      · intro hfalse
        cases hfalse
      · rintro ⟨hbody, hconnected⟩
        have hopen : world.accepts message.body = some current :=
          World.accepts_eq_some_iff.mpr ⟨hconnected, hbody, hcurrent⟩
        rw [haccepts] at hopen
        cases hopen
  | some receiver =>
      obtain ⟨hconnected, hbody, hreceiver⟩ :=
        World.accepts_eq_some_iff.mp haccepts
      rw [hcurrent] at hreceiver
      obtain rfl := Option.some.inj hreceiver
      simp only [haccepts] at hstep
      exact ⟨true, _, hstep, by simp [hbody, hconnected], rfl,
        World.sentTo_called (Reaches.mClient_lt hreach hcurrent)⟩

end Runs

/-! The documented order. -/

/-- Where a connection stands in gloox's documented order. -/
inductive Phase where
  | idle
  | secured
  | loggedIn
deriving DecidableEq, Repr

/-- One event in the documented order: TLS at most once and before login, login
once, and `onDisconnect` at any time.  Other events are not restricted. -/
def Phase.next : Phase → Event → Option Phase
  | .idle, .callback _ .onTLSConnect => some .secured
  | .idle, .callback _ .onConnect => some .loggedIn
  | .secured, .callback _ .onConnect => some .loggedIn
  | .secured, .callback _ .onTLSConnect => none
  | .loggedIn, .callback _ .onTLSConnect => none
  | .loggedIn, .callback _ .onConnect => none
  | _, .callback _ (.onDisconnect _) => some .idle
  | phase, _ => some phase

/-- The phase after a history in the documented order; `none` after any
other. -/
def phaseAfter (events : List Event) : Option Phase :=
  events.foldl (fun phase event => phase.bind fun now => now.next event)
    (some .idle)

theorem phaseAfter_append_singleton (events : List Event) (event : Event) :
    phaseAfter (events ++ [event]) =
      (phaseAfter events).bind fun now => now.next event := by
  simp [phaseAfter]

theorem Phase.next_of_lifecycle_none {event : Event} (phase : Phase)
    (hkeep : event.lifecycle = none) : phase.next event = some phase := by
  cases event with
  | callback client cb =>
      cases cb <;> first
        | (cases hkeep; done)
        | (cases phase <;> rfl)
  | _ => cases phase <;> rfl

/-- What the phase says of the history: login is a phase of its own, and the
flag is raised in every phase but the first. -/
theorem phaseAfter_eq_some {events : List Event} {phase : Phase}
    (hphase : phaseAfter events = some phase) :
    (loggedIn events = true ↔ phase = .loggedIn) ∧
      (phase = .secured → secured events = true) ∧
      (phase = .idle → secured events = false) := by
  induction events using List.reverseRecOn generalizing phase with
  | nil =>
      obtain rfl := Option.some.inj hphase
      exact ⟨by simp, nofun, fun _ => rfl⟩
  | append_singleton earlier event ih =>
      rw [phaseAfter_append_singleton] at hphase
      obtain ⟨before, hbefore, hnext⟩ := Option.bind_eq_some_iff.mp hphase
      obtain ⟨hlogin, hsecured, hidle⟩ := ih hbefore
      rw [loggedIn_append_singleton, secured_append_singleton]
      rcases event.lifecycle_cases with ⟨client, rfl⟩ | ⟨client, rfl⟩ |
        ⟨client, e, rfl⟩ | ⟨hkeep, hnoLogin, hnoSecuring, hnoDisconnect⟩
      · cases before <;> simp only [Phase.next, Option.some.injEq,
          reduceCtorEq] at hnext
        all_goals
          subst hnext
          simp [Event.isDisconnect, Event.isLogin]
      · cases before <;> simp only [Phase.next, Option.some.injEq,
          reduceCtorEq] at hnext
        subst hnext
        simp [Event.isDisconnect, Event.isSecuring, Event.isLogin, hlogin]
      · have hsome : phase = .idle := by
          cases before <;> exact (Option.some.inj hnext).symm
        subst hsome
        simp [Event.isDisconnect]
      · rw [Phase.next_of_lifecycle_none before hkeep] at hnext
        obtain rfl := Option.some.inj hnext
        simpa [hnoLogin, hnoSecuring, hnoDisconnect] using
          ⟨hlogin, hsecured, hidle⟩

/-- Nothing is sent while no connection was reported.  In every run on one
client the flag is up exactly at the points after an `onConnect` or an
`onTLSConnect` with no `onDisconnect` since, and exactly there a message with a
body is accepted and handed to the client.  In the documented order, the points
before login at which the flag is up are those between TLS and login. -/
theorem connected_iff_login_or_secured (lib : Library) (delegate : Bool)
    (events : List Event) (world : World)
    (hreach : (listenerMachine lib delegate).Reaches events world)
    (hone : events.countP Event.createsClient = 1) :
    (world.client.mListener.mIsConnected = true ↔
      loggedIn events = true ∨ secured events = true) ∧
    (∀ event message, event.stanza lib world = some message →
      ∃ accepted next, step lib world event = .ok (.bool accepted, next) ∧
        (accepted = true ↔ message.body ≠ "" ∧
          (loggedIn events = true ∨ secured events = true)) ∧
        next.sentTo 0 =
          world.sentTo 0 ++ if accepted then [message] else []) ∧
    (∀ phase, phaseAfter events = some phase →
      (world.client.mListener.mIsConnected = true ∧ loggedIn events = false ↔
        phase = .secured)) := by
  have hflag := Reaches.mIsConnected_eq hreach
  have hup : world.client.mListener.mIsConnected = true ↔
      loggedIn events = true ∨ secured events = true := by
    rw [hflag, Bool.or_eq_true]
  refine ⟨hup, ?_, ?_⟩
  · intro event message hstanza
    obtain ⟨accepted, next, hstep, haccepted, -, hsent⟩ :=
      Reaches.step_stanza hreach (Reaches.one_client hreach hone) hstanza
    rw [hup] at haccepted
    exact ⟨accepted, next, hstep, haccepted, hsent⟩
  · intro phase hphase
    obtain ⟨hlogin, hsecured, hidle⟩ := phaseAfter_eq_some hphase
    rw [hflag]
    cases phase with
    | idle => simp [hidle rfl]
    | secured => simp [hsecured rfl, Bool.eq_false_iff, hlogin]
    | loggedIn => simp [hlogin.mpr rfl]

namespace ConnectedFlagWitness

def bob : JID := ⟨"bob", "example.org", ""⟩

/-- A connection on a fresh client up to the end of the TLS handshake. -/
def handshake : List Event :=
  [.setup "alice" "example.org" false, .callback 0 .onTLSConnect]

/-- A message is sent after the handshake, and then authentication fails. -/
def sentBeforeLogin : List Event :=
  handshake ++ [.send bob "hi" "",
    .callback 0 (.onDisconnect .connAuthenticationFailed)]

/-- The run keeps the documented order and never logs in.  Yet the flag is up
at the send, which returns true and reaches the client. -/
theorem sent_before_login_sentBeforeLogin :
    (phaseAfter sentBeforeLogin).isSome = true ∧
    (∀ pre ∈ sentBeforeLogin.inits, loggedIn pre = false) ∧
    ∃ world next last,
      (listenerMachine .documented true).Reaches handshake world ∧
      world.client.mListener.mIsConnected = true ∧
      step .documented world (.send bob "hi" "") = .ok (.bool true, next) ∧
      next.sentTo 0 = [⟨.chat, bob, "hi", ""⟩] ∧
      (listenerMachine .documented true).Reaches sentBeforeLogin last := by
  exact ⟨by decide, by decide, _, _, _, rfl, rfl, rfl, rfl, rfl⟩

theorem connected_iff_login_or_secured_handshake :
    ∃ world, (listenerMachine .documented true).Reaches handshake world ∧
      world.client.mListener.mIsConnected = true ∧
      loggedIn handshake = false :=
  ⟨_, rfl, ((connected_iff_login_or_secured .documented true handshake _ rfl
    (by decide)).2.2 .secured (by decide)).mpr rfl⟩

end ConnectedFlagWitness

end CinderXmpp
