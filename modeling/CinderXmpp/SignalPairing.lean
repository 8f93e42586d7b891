/-
Connect and disconnect signals against the callbacks behind them.  Only a
disconnect without an error reaches its signal; every other reason leaves the
function by an exception before.
-/
import CinderXmpp.ConnectedFlag

namespace CinderXmpp

open Gloox History

/-- The reason that an `onDisconnect` carries. -/
def Event.reason? : Event → Option ConnectionError
  | .callback _ (.onDisconnect e) => some e
  | _ => none

/-- An `onDisconnect` without an error. -/
def Event.isCleanDisconnect (event : Event) : Bool :=
  decide (event.reason? = some .connNoError)

theorem Event.reason?_eq_none {event : Event}
    (hdisconnect : event.isDisconnect = false) : event.reason? = none := by
  cases event with
  | callback client cb =>
      cases cb <;> first | rfl | cases hdisconnect
  | _ => rfl

theorem count_connect_emissions (peers : UnorderedMap String XmppPeer)
    (event : Event) :
    (event.emissions peers).count .mSignalConnect =
      if event.isLogin then 1 else 0 := by
  cases event with
  | callback client cb =>
      cases cb with
      | onDisconnect e =>
          by_cases hclean : e = .connNoError <;>
            simp [Event.emissions, Event.isLogin, hclean]
      | handleRosterPresence item resource presence msg =>
          cases hlookup : peers.lookup item.jidJID.username <;>
            simp [Event.emissions, Event.isLogin, hlookup]
      | _ => simp [Event.emissions, Event.isLogin]
  | _ => simp [Event.emissions, Event.isLogin]

theorem count_disconnect_emissions (peers : UnorderedMap String XmppPeer)
    (event : Event) :
    (event.emissions peers).count .mSignalDisconnect =
      if event.isCleanDisconnect then 1 else 0 := by
  cases event with
  | callback client cb =>
      cases cb with
      | onDisconnect e =>
          by_cases hclean : e = .connNoError <;>
            simp [Event.emissions, Event.isCleanDisconnect, Event.reason?,
              hclean]
      | handleRosterPresence item resource presence msg =>
          cases hlookup : peers.lookup item.jidJID.username <;>
            simp [Event.emissions, Event.isCleanDisconnect, Event.reason?,
              hlookup]
      | _ => simp [Event.emissions, Event.isCleanDisconnect, Event.reason?]
  | _ => simp [Event.emissions, Event.isCleanDisconnect, Event.reason?]

section Counts

variable {lib : Library} {events : List Event} {world : World}

/-- A signal that certain events emit once, and no others, was emitted as often
as these events occurred. -/
theorem Reaches.count_signal {signal : Signal} {emits : Event → Bool}
    (hemits : ∀ peers event,
      (event.emissions peers).count signal = if emits event then 1 else 0)
    (hreach : (clientMachine lib).Reaches events world) :
    world.signals.count signal = events.countP emits := by
  apply Machine.Reaches.accumulator (fun world => world.signals.count signal)
    emits List.count_nil ?_ hreach
  intro events world event reply next hbefore hstep
  rw [step_signals (Reaches.delegated hbefore) hstep, List.count_append, hemits]

theorem Reaches.count_connect
    (hreach : (clientMachine lib).Reaches events world) :
    world.signals.count .mSignalConnect = events.countP Event.isLogin :=
  Reaches.count_signal count_connect_emissions hreach

theorem Reaches.count_disconnect
    (hreach : (clientMachine lib).Reaches events world) :
    world.signals.count .mSignalDisconnect =
      events.countP Event.isCleanDisconnect :=
  Reaches.count_signal count_disconnect_emissions hreach

end Counts

/-- The connect signals outnumber the disconnect signals by one if a reported
connection is open, and equal them otherwise. -/
def Paired (events : List Event) (world : World) : Prop :=
  world.signals.count .mSignalConnect =
    world.signals.count .mSignalDisconnect + if loggedIn events then 1 else 0

instance (events : List Event) (world : World) :
    Decidable (Paired events world) :=
  inferInstanceAs (Decidable (_ = _))

/-- A connection reports `onConnect` at most once. -/
def ReportedOnce (pre : List Event) (event : Event) : Prop :=
  event.isLogin = true → loggedIn pre = false

instance (pre : List Event) (event : Event) :
    Decidable (ReportedOnce pre event) :=
  inferInstanceAs (Decidable (_ → _))

/-- A disconnect is without an error exactly when it ends a connection that was
reported. -/
def CleanWhenReported (pre : List Event) (event : Event) : Prop :=
  ∀ e ∈ event.reason?, e = .connNoError ↔ loggedIn pre = true

instance (pre : List Event) (event : Event) :
    Decidable (CleanWhenReported pre event) :=
  inferInstanceAs (Decidable (∀ e ∈ event.reason?, _))

/-- The pairing as a fact about the callbacks alone. -/
def PairedCallbacks (events : List Event) : Prop :=
  events.countP Event.isLogin =
    events.countP Event.isCleanDisconnect + if loggedIn events then 1 else 0

theorem Reaches.paired_iff {lib : Library} {events : List Event} {world : World}
    (hreach : (clientMachine lib).Reaches events world) :
    Paired events world ↔ PairedCallbacks events := by
  unfold Paired PairedCallbacks
  rw [Reaches.count_connect hreach, Reaches.count_disconnect hreach]

/-- One more callback keeps the pairing exactly when it is not a disconnect of
the wrong kind. -/
theorem pairedCallbacks_append_singleton_iff {pre : List Event} {event : Event}
    (honce : ReportedOnce pre event) (hpaired : PairedCallbacks pre) :
    PairedCallbacks (pre ++ [event]) ↔ CleanWhenReported pre event := by
  unfold PairedCallbacks at hpaired ⊢
  rw [List.countP_append, List.countP_append, List.countP_singleton,
    List.countP_singleton, loggedIn_append_singleton, hpaired]
  rcases event.lifecycle_cases with ⟨client, rfl⟩ | ⟨client, rfl⟩ |
    ⟨client, e, rfl⟩ | ⟨_, hlogin, _, hdisconnect⟩
  · have hclosed : loggedIn pre = false := honce rfl
    simp [Event.isLogin, Event.isCleanDisconnect, Event.reason?,
      Event.isDisconnect, CleanWhenReported, hclosed]
  · cases loggedIn pre <;>
      simp [Event.isLogin, Event.isCleanDisconnect, Event.reason?,
        Event.isDisconnect, CleanWhenReported]
  · by_cases hclean : e = .connNoError <;> cases hopen : loggedIn pre <;>
      simp [Event.isLogin, Event.isCleanDisconnect, Event.reason?,
        Event.isDisconnect, CleanWhenReported, hclean, hopen]
  · have hreason := Event.reason?_eq_none hdisconnect
    cases loggedIn pre <;>
      simp [Event.isCleanDisconnect, CleanWhenReported, hlogin, hreason,
        hdisconnect]

theorem forall_prefix_pairedCallbacks_iff {events : List Event}
    (honce : Guarded ReportedOnce events) :
    (∀ pre, pre <+: events → PairedCallbacks pre) ↔
      Guarded CleanWhenReported events :=
  forall_prefix_iff_guarded (F := PairedCallbacks) rfl
    (fun _ _ _ => pairedCallbacks_append_singleton_iff) honce

/-- Each `onConnect` emits one connect signal, each `onDisconnect` without an
error one disconnect signal, and any other reason none: it is thrown as the
exception of its class, with the flag down.  So the two signals of a run that
reports each connection at most once are paired throughout exactly when the
connections that were reported, and only these, end without an error. -/
theorem signals_paired_iff (lib : Library) (events : List Event) (world : World)
    (hreach : (clientMachine lib).Reaches events world)
    (honce : Guarded ReportedOnce events) :
    world.signals.count .mSignalConnect = events.countP Event.isLogin ∧
    world.signals.count .mSignalDisconnect =
      events.countP Event.isCleanDisconnect ∧
    (∀ client e, e ≠ .connNoError → ∃ exc next, disconnectExc e = some exc ∧
      step lib world (.callback client (.onDisconnect e)) =
        .ok (.threw exc, next) ∧
      next.signals = world.signals ∧
      next.client.mListener.mIsConnected = false) ∧
    ((∀ pre before, pre <+: events → (clientMachine lib).Reaches pre before →
        Paired pre before) ↔
      Guarded CleanWhenReported events) := by
  refine ⟨Reaches.count_connect hreach, Reaches.count_disconnect hreach, ?_, ?_⟩
  · intro client e herror
    have hstep := step_onDisconnect lib world client e
    rw [Reaches.delegated hreach, if_pos rfl] at hstep
    cases hexc : disconnectExc e with
    | none => exact absurd ((disconnectExc_eq_none_iff e).mp hexc) herror
    | some exc =>
        simp only [hexc] at hstep
        exact ⟨exc, _, rfl, hstep, rfl, rfl⟩
  · rw [← forall_prefix_pairedCallbacks_iff honce]
    constructor
    · intro hpaired pre hinit
      obtain ⟨before, hbefore⟩ := hreach.of_prefix hinit
      exact (Reaches.paired_iff hbefore).mp (hpaired pre before hinit hbefore)
    · intro hpaired pre before hinit hbefore
      exact (Reaches.paired_iff hbefore).mpr (hpaired pre hinit)

namespace SignalPairingWitness

/-- Two connections, both reported; the first ends with an I/O error. -/
def brokenConnection : List Event :=
  [.callback 0 .onConnect, .callback 0 (.onDisconnect .connIoError),
    .callback 0 .onConnect, .callback 0 (.onDisconnect .connNoError)]

/-- After the error no connection is open, and the one connect signal has no
disconnect signal; the next signal is a second connect. -/
theorem signals_not_paired_brokenConnection :
    Guarded ReportedOnce brokenConnection ∧
    (∃ world, (clientMachine .documented).Reaches
        (brokenConnection.take 2) world ∧
      loggedIn (brokenConnection.take 2) = false ∧
      world.client.mListener.mIsConnected = false ∧
      world.signals = [.mSignalConnect] ∧
      ¬ Paired (brokenConnection.take 2) world) ∧
    ∃ world, (clientMachine .documented).Reaches brokenConnection world ∧
      world.signals =
        [.mSignalConnect, .mSignalConnect, .mSignalDisconnect] :=
  ⟨by decide, ⟨_, rfl, rfl, rfl, rfl, by decide⟩, _, rfl, rfl⟩

/-- The same two connections, both ended without an error. -/
def cleanConnections : List Event :=
  [.callback 0 .onConnect, .callback 0 (.onDisconnect .connNoError),
    .callback 0 .onConnect, .callback 0 (.onDisconnect .connNoError)]

theorem signals_paired_iff_cleanConnections :
    ∃ world, (clientMachine .documented).Reaches (cleanConnections.take 3)
        world ∧ loggedIn (cleanConnections.take 3) = true ∧
      Paired (cleanConnections.take 3) world := by
  refine ⟨_, rfl, rfl, ?_⟩
  exact (signals_paired_iff .documented cleanConnections _ rfl
    (by decide)).2.2.2.mpr (by decide) _ _ (List.take_prefix 3 _) rfl

end SignalPairingWitness

end CinderXmpp
