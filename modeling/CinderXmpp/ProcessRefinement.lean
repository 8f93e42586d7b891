/-
A process refines its client, and the client its conversation.  Up to the calls
of the receive loop and the point its thread has reached, a run of the process
is a run of the client on the calls and callbacks that the run has.
-/
import CinderXmpp.Conversation
import CinderXmpp.ProcessThreads

namespace CinderXmpp

open Gloox History Machine

/-- The calls and callbacks of the client that an action makes. -/
def Action.events : Action → List Event
  | .threadStarts => [.openConnection true]
  | action => action.event?.toList

section Processes

variable {lib : Library} {p q : Process} {action : Action} {reply : Reply}

theorem Action.events_eq {event : Event}
    (hevent : action.event? = some event) : action.events = [event] := by
  cases action with
  | threadStarts => cases hevent
  | _ => simp [Action.events, hevent]

theorem Action.turns_events (action : Action) :
    (action.turns.flatMap fun turn => turn.event?.toList) = action.events := by
  cases action <;> rfl

theorem World.unthreaded_rested (world : World) :
    world.rested.unthreaded = world.unthreaded := by
  unfold World.unthreaded World.rested
  cases world.client.mListenerThread <;> rfl

/-- A process seen as its client: the listener with threads that it is, without
its receive loops. -/
def processProjection (lib : Library) :
    Projection (processMachine lib) (clientMachine lib) where
  view p := p.world.unthreaded
  select := Action.events
  start := rfl
  step actions p action reply q hs hstep := by
    have hseen := ((threadProjection lib).comp (loopProjection lib true)).step
      actions p action reply q hs hstep
    rw [← World.unthreaded_rested p.world, ← World.unthreaded_rested q.world,
      ← Action.turns_events action]
    exact hseen

/-- A fault of the client does not depend on its thread either. -/
theorem step_fault_unthreaded {world : World} {event : Event} {fault : Fault}
    (hstep : CinderXmpp.step lib world event = .error fault) :
    CinderXmpp.step lib world.unthreaded event = .error fault := by
  cases faultOf_step hstep with
  | derefEnd client item resource presence msg hlookup =>
      rw [step_handleRosterPresence] at hstep ⊢
      have hnone : world.unthreaded.client.mRoster.lookup
          item.jidJID.username = none := Finmap.lookup_eq_none.mpr hlookup
      have hsame : world.unthreaded.delegated = world.delegated := rfl
      rw [hsame, hnone]
      cases hdelegate : world.delegated with
      | true => rfl
      | false => simp [hdelegate] at hstep
  | nullClient client target hclient =>
      have hsame : world.unthreaded.client.mListener.mClient = none := hclient
      rw [step_handleMessageSession, hsame]
  | joinableThread xmppUser xmppServer old hempty hthread hjoinable =>
      rw [step_connect, if_neg (by simp [hempty])]
      simp [World.unthreaded, hthread, hjoinable]

/-- What would end the process itself, and not its client: an error that gloox
disconnects with, or the destruction after a `connect`. -/
def Survivable (pre : List Action) (action : Action) : Prop :=
  (∀ e, action = .callback (.onDisconnect e) → e = .connNoError) ∧
    (action = .destroy → connects pre = 0)

/-- The action can come after the actions before it. -/
def Possible (lib : Library) (pre : List Action) (action : Action) : Prop :=
  (processMachine lib).run (pre ++ [action]) ≠ .error .impossible

/-- Where a survivable action fails, the client fails. -/
theorem Reaches.client_fault {actions : List Action} {halt : Halt}
    (hreach : (processMachine lib).Reaches actions p)
    (hpossible : Possible lib actions action)
    (hsurvivable : Survivable actions action)
    (hstep : Process.step lib p action = .error halt) :
    ∃ fault, (clientMachine lib).runFrom p.world.unthreaded action.events =
      .error fault := by
  cases halt with
  | impossible =>
      refine absurd ?_ hpossible
      exact run_eq_error_iff.mpr
        ⟨actions, action, p, List.prefix_refl _, hreach, hstep⟩
  | fault fault =>
      cases (Reaches.phase hreach).fails hstep with
      | called _ event _ hevent hcall =>
          have hseen := step_fault_unthreaded hcall
          refine ⟨fault, ?_⟩
          rw [Action.events_eq hevent]
          simp only [Machine.runFrom, clientMachine, hseen]
      | thrown e exc hexc =>
          have hclean := hsurvivable.1 e rfl
          subst hclean
          cases hexc
      | dropped hjoinable =>
          have hnone := (Reaches.tracked hreach).joinable
          rw [if_pos (hsurvivable.2 rfl), hjoinable] at hnone
          cases hnone

theorem Reaches.survivable {actions : List Action}
    (hreach : (processMachine lib).Reaches actions p) :
    Guarded Survivable actions := by
  have hharmless := Reaches.harmless hreach
  intro pre action hinit
  have hmem := mem_of_prefix_snoc hinit
  refine ⟨?_, ?_⟩
  · rintro e rfl
    exact hharmless.clean e hmem
  · rintro rfl
    have hmono : connects (pre ++ [.destroy]) ≤ connects actions :=
      hinit.sublist.countP_le
    rw [connects_append_singleton, hharmless.kept hmem] at hmono
    omega

theorem guarded_possible {actions : List Action}
    (hpossible : (processMachine lib).run actions ≠ .error .impossible) :
    Guarded (Possible lib) actions := by
  intro pre action hinit hfault
  exact hpossible (run_eq_error_mono hfault hinit)

end Processes

/-- A process refines its client.  Every run of the process is, up to the calls
of the receive loop and the point of the thread, a run of the client on the
calls and callbacks of the run; and a list of possible actions is executed to
its end exactly when the client executes its calls and callbacks, gloox reports
no disconnect with an error, and nothing is destroyed after a `connect`. -/
theorem process_refines_client (lib : Library) (actions : List Action) :
    (∀ p, (processMachine lib).Reaches actions p →
      (clientMachine lib).Reaches (actions.flatMap Action.events)
        p.world.unthreaded) ∧
    ((processMachine lib).run actions ≠ .error .impossible →
      ((∃ p, (processMachine lib).Reaches actions p) ↔
        (∃ world, (clientMachine lib).Reaches
          (actions.flatMap Action.events) world) ∧
        Guarded Survivable actions)) := by
  refine ⟨fun p hreach => (processProjection lib).reaches hreach, ?_⟩
  intro hpossible
  constructor
  · rintro ⟨p, hreach⟩
    exact ⟨⟨_, (processProjection lib).reaches hreach⟩,
      Reaches.survivable hreach⟩
  · rintro ⟨hclient, hsurvivable⟩
    have hguarded : Guarded (fun pre action =>
        Possible lib pre action ∧ Survivable pre action) actions := by
      intro pre action hinit
      exact ⟨guarded_possible hpossible pre action hinit,
        hsurvivable pre action hinit⟩
    refine ((processProjection lib).exists_reaches_iff ?_ hguarded).mpr hclient
    intro pre p action halt hreach hguard hstep
    exact Reaches.client_fault hreach hguard.1 hguard.2 hstep

/-! What a process follows without a check. -/

/-- The peers of a process are those of its client. -/
theorem Reaches.process_mem_mRoster_iff {lib : Library} {actions : List Action}
    {p : Process} (hreach : (processMachine lib).Reaches actions p)
    (name : String) :
    name ∈ p.world.client.mRoster ↔
      name ∈ lastUsernames (actions.flatMap Action.events) :=
  Reaches.mem_mRoster_iff ((processProjection lib).reaches hreach) name

/-- gloox reports a presence, on the listener thread, for a username that is not
one of the last roster. -/
def UnknownPresence (lib : Library) (pre : List Action) (action : Action) :
    Prop :=
  ∃ item resource presence msg p,
    action = .callback (.handleRosterPresence item resource presence msg) ∧
    (processMachine lib).Reaches pre p ∧
    (p.point? = some .inConnect ∨ p.point? = some .inRecv) ∧
    item.jidJID.username ∉ lastUsernames (pre.flatMap Action.events)

theorem Reaches.undefined_iff {lib : Library} {pre : List Action} {p : Process}
    (hreach : (processMachine lib).Reaches pre p) {action : Action}
    {cause : Undefined} :
    Process.step lib p action = .error (.fault (.undefined cause)) ↔
      cause = .derefEnd ∧ UnknownPresence lib pre action := by
  have hphase := Reaches.phase hreach
  constructor
  · intro hstep
    have henabled := Process.enabled_of_step_eq_fault hstep
    cases hphase.fails hstep with
    | called _ event _ hevent hcall =>
        have hclient : ∀ cb, action = .callback cb →
            (p.point? = some .inConnect ∨ p.point? = some .inRecv) ∧
              p.world.client.mListener.mClient = some 0 := by
          rintro cb rfl
          have hinside := hphase.inLibrary_iff.mp henabled
          refine ⟨hinside, ?_⟩
          rcases hphase.point?_cases with hnone | ⟨_, _, _, hclient, _⟩
          · simp [hnone] at hinside
          · exact hclient
        cases faultOf_step hcall with
        | derefEnd client item resource presence msg hunknown =>
            cases action with
            | callback cb =>
                obtain rfl := (Event.callback.inj (Option.some.inj hevent)).2
                rw [Reaches.process_mem_mRoster_iff hreach] at hunknown
                exact ⟨rfl, item, resource, presence, msg, p, rfl, hreach,
                  (hclient _ rfl).1, hunknown⟩
            | _ => cases hevent
        | nullClient client target hnone =>
            cases action with
            | callback cb => cases hnone.symm.trans (hclient cb rfl).2
            | _ => cases hevent
  · rintro ⟨rfl, item, resource, presence, msg, before, rfl, hbefore, hinside,
      hunknown⟩
    obtain rfl := hbefore.unique hreach
    rw [← Reaches.process_mem_mRoster_iff hreach,
      ← Finmap.lookup_eq_none] at hunknown
    have henabled : before.enabled (.callback
        (.handleRosterPresence item resource presence msg)) = true :=
      hphase.inLibrary_iff.mpr hinside
    have hcall : CinderXmpp.step lib before.world (.callback 0
        (.handleRosterPresence item resource presence msg)) =
          .error (.undefined .derefEnd) := by
      rw [step_handleRosterPresence, if_pos (Reaches.tracked hreach).delegated,
        hunknown]
    have hperform : perform (Action.execute lib before.world (.callback
        (.handleRosterPresence item resource presence msg))) before.world =
          .error (.undefined .derefEnd) := by
      rw [hphase.execute_callback henabled]
      exact hcall
    rw [Process.step, if_pos henabled, hperform]

/-- `handleRosterPresence` follows what it found, and `handleMessageSession` the
client, without a check.  In a process whose calls and callbacks each run as a
whole, a list of actions comes to the dereference of `end()` exactly when gloox,
at some point of it, reports a presence for a username that is not one of the
last roster; and no list comes to a call of the null client. -/
theorem process_follows_end_iff (lib : Library) (actions : List Action) :
    ((processMachine lib).run actions =
        .error (.fault (.undefined .derefEnd)) ↔
      ∃ pre action, pre ++ [action] <+: actions ∧
        UnknownPresence lib pre action) ∧
    (processMachine lib).run actions ≠
      .error (.fault (.undefined .nullClient)) := by
  refine ⟨?_, ?_⟩
  · rw [run_eq_error_iff]
    constructor
    · rintro ⟨pre, action, p, hinit, hreach, hstep⟩
      exact ⟨pre, action, hinit, ((Reaches.undefined_iff hreach).mp hstep).2⟩
    · rintro ⟨pre, action, hinit, hunknown⟩
      obtain ⟨_, _, _, _, p, _, hreach, _⟩ := id hunknown
      exact ⟨pre, action, p, hinit, hreach,
        (Reaches.undefined_iff hreach).mpr ⟨rfl, hunknown⟩⟩
  · intro hnull
    obtain ⟨pre, action, p, _, hreach, hstep⟩ := run_eq_error_iff.mp hnull
    cases ((Reaches.undefined_iff hreach).mp hstep).1

namespace ProcessRefinementWitness

def alice : RosterItem := .ofJID ⟨"alice", "example.org", ""⟩

/-- A login on the listener thread, the roster, and a message that is sent. -/
def session : List Action :=
  [.connect "carol" "example.org", .threadStarts, .callback .onConnect,
    .connectReturns true, .callback (.handleRoster ⟨[alice], by decide⟩),
    .recvReturns .connNoError, .sendMessage "alice" "hello" "",
    .callback (.handleRosterPresence alice "phone" .chat "")]

/-- The roster push of a contact reaches the process as nothing, and the
presence after it ends the run. -/
def pushed : List Action :=
  [.connect "carol" "example.org", .threadStarts, .callback .onConnect,
    .callback (.handleItemAdded alice.jidJID),
    .callback (.handleRosterPresence alice "phone" .chat "")]

theorem process_refines_client_session :
    ∃ p, (processMachine .documented).Reaches session p ∧
      (clientMachine .documented).Reaches (session.flatMap Action.events)
        p.world.unthreaded := by
  have hrefines := process_refines_client .documented session
  have hrun : (processMachine .documented).run session ≠
      .error .impossible := by
    intro hfault
    cases hfault
  have hreach : ∃ p, (processMachine .documented).Reaches session p :=
    ⟨_, rfl⟩
  obtain ⟨p, hp⟩ := (hrefines.2 hrun).mpr ((hrefines.2 hrun).mp hreach)
  exact ⟨p, hp, hrefines.1 p hp⟩

theorem process_follows_end_iff_pushed :
    (processMachine .documented).run pushed =
        .error (.fault (.undefined .derefEnd)) ∧
      ∃ pre action, pre ++ [action] <+: pushed ∧
        UnknownPresence .documented pre action := by
  have hrun : (processMachine .documented).run pushed =
      .error (.fault (.undefined .derefEnd)) := rfl
  exact ⟨hrun, (process_follows_end_iff _ _).1.mp hrun⟩

end ProcessRefinementWitness

end CinderXmpp
