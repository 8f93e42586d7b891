/-
A listener with a delegate does what a listener without one does.  The delegate
keeps the peers and emits the signals; what it throws out of `openConnection`
is to the listener a blocking call that fails.
-/
import CinderXmpp.ReceiveLoop
import CinderXmpp.RosterHistory

namespace CinderXmpp

open Gloox History Machine

/-- The world without the delegate, its peers and its signals. -/
def World.undelegated (world : World) : World :=
  { world with
    client.mListener.mDelegate := false
    client.mRoster := ∅
    signals := [] }

/-- The reply where nothing is thrown. -/
def Reply.caught : Reply → Reply
  | .threw _ => .void
  | reply => reply

theorem Reply.caught_of_ne {reply : Reply}
    (hreply : ∀ exc, reply ≠ .threw exc) : reply.caught = reply := by
  cases reply with
  | threw exc => exact absurd rfl (hreply exc)
  | _ => rfl

section Steps

variable {lib : Library} {world next : World} {event : Event} {reply : Reply}

/-- A step with a delegate is the same step without one, except that the
latter never throws. -/
theorem step_undelegated (hdelegate : world.delegated = true)
    (hstep : step lib world event = .ok (reply, next)) :
    step lib world.undelegated event =
      .ok (reply.caught, next.undelegated) := by
  cases effect_of_step hstep with
  | inert client cb _ hinert hreply =>
      obtain ⟨uniform, _, huniform⟩ := step_inert lib client hinert
      rw [huniform] at hstep ⊢
      cases hstep
      rw [Reply.caught_of_ne hreply]
  | undelegated client cb hnot => simp [hdelegate] at hnot
  | connected client =>
      rw [step_onConnect]
      rfl
  | secured client =>
      rw [step_onTLSConnect]
      rfl
  | disconnected client e =>
      rw [step_onDisconnect]
      rfl
  | disconnectThrew client e exc =>
      rw [step_onDisconnect]
      rfl
  | messaged client msg sess =>
      rw [step_handleMessage]
      rfl
  | rosterLoaded client roster =>
      rw [step_handleRoster]
      rfl
  | presenceSeen client item resource presence msg peer =>
      rw [step_handleRosterPresence]
      rfl
  | sessionAdopted client mClient target hclient =>
      have hsame : world.undelegated.client.mListener.mClient = some mClient :=
        hclient
      rw [step_handleMessageSession, hsame]
      rfl
  | setUp username server enableLogging =>
      rw [step_setup]
      rfl
  | connectionOpened toggle current hconnected hclient =>
      have hdown : world.undelegated.client.mListener.mIsConnected = false :=
        hconnected
      have hsame : world.undelegated.client.mListener.mClient = some current :=
        hclient
      exact step_openConnection_opens lib hdown hsame toggle
  | connectionSkipped toggle hskip =>
      have hsame : world.undelegated.client.mListener.mIsConnected = true ∨
        world.undelegated.client.mListener.mClient = none := hskip
      exact step_openConnection_skips lib hsame toggle
  | stanzaSent event message current hstanza haccepts =>
      have hsame : event.stanza lib world.undelegated = some message := by
        cases event <;> exact hstanza
      have hgate : world.undelegated.accepts message.body = some current :=
        haccepts
      rw [step_stanza lib _ hsame, hgate]
      rfl
  | stanzaRefused event message hstanza haccepts =>
      have hsame : event.stanza lib world.undelegated = some message := by
        cases event <;> exact hstanza
      have hgate : world.undelegated.accepts message.body = none := haccepts
      rw [step_stanza lib _ hsame, hgate]
      rfl
  | connectRefused xmppUser xmppServer hempty =>
      rw [step_connect, if_pos hempty]
      rfl
  | connectStarted xmppUser xmppServer hempty hthread =>
      rw [step_connect, if_neg (by simp [hempty])]
      cases hold : world.client.mListenerThread with
      | none =>
          simp only [World.undelegated, hold]
          rfl
      | some old =>
          simp only [World.undelegated, hold, hthread old hold]
          rfl

end Steps

/-! The listener with its receive loops. -/

def Threaded.undelegated (s : Threaded) : Threaded :=
  ⟨s.world.undelegated, s.point⟩

@[simp] theorem Threaded.undelegated_world (s : Threaded) :
    s.undelegated.world = s.world.undelegated := rfl

/-- The blocking call that a thread is inside fails for a reason. -/
def Threaded.failing (s : Threaded) (thread : Nat) (e : ConnectionError) :
    Turn :=
  if s.point thread = .inConnect then .connectReturns thread false
  else .recvReturns thread e

/-- What an executed step is to a listener without a delegate: where a
disconnect throws out of `openConnection`, the blocking call fails after it. -/
def undelegatedTurns (executed : Executed Threaded Turn Reply) : List Turn :=
  match executed.event with
  | .callsBack thread client (.onDisconnect e) =>
      .callsBack thread client (.onDisconnect e) ::
        match executed.reply with
        | .threw _ => [executed.before.failing thread e]
        | _ => []
  | turn => [turn]

section Threads

variable {lib : Library} {s t : Threaded} {turn : Turn} {reply : Reply}

/-- A world and the same without the delegate. -/
def World.Bares (world bare : World) : Prop := bare = world.undelegated

/-- To a call on a client the delegate, its peers and the signals mean
nothing. -/
theorem keptByCalls_bares : KeptByCalls World.Bares where
  mClient := by
    rintro world _ rfl
    rfl
  called := by
    rintro world _ current entry rfl
    rfl

theorem relates_bares_openConnection (toggle : Bool) :
    Relates World.Bares (XmppListener.openConnection toggle) := by
  refine relates_openConnection keptByCalls_bares ?_ toggle
  rintro world _ rfl
  rfl

theorem Threaded.runs_undelegated {code : XmppM ThreadPoint}
    (hcode : Relates World.Bares code) (s : Threaded) (thread : Nat) :
    ∃ t, s.runs thread code = .ok (.void, t) ∧
      s.undelegated.runs thread code = .ok (.void, t.undelegated) := by
  obtain ⟨point, next, _, hrun, hbare, rfl⟩ := hcode s.world _ rfl
  have hrunBare : s.undelegated.runs thread code =
      .ok (.void, s.undelegated.arrived thread point next.undelegated) :=
    Threaded.runs_of_run hbare
  exact ⟨_, Threaded.runs_of_run hrun, hrunBare⟩

theorem Threaded.enabled_undelegated (s : Threaded) (turn : Turn) :
    s.undelegated.enabled turn = s.enabled turn := by
  cases turn <;> rfl

/-- A call or callback leaves a listener without a delegate where its threads
stood. -/
theorem Threaded.calls_undelegated {waiting : Option Nat} {event : Event}
    {next : World} (hdelegate : s.world.delegated = true)
    (hstep : CinderXmpp.step lib s.world event = .ok (reply, next)) :
    s.undelegated.calls lib waiting event =
      .ok (reply.caught, ⟨next.undelegated, s.point⟩) := by
  refine Threaded.calls_eq_ok_iff.mpr
    ⟨_, step_undelegated hdelegate hstep, ?_⟩
  cases waiting <;> cases reply <;> rfl

/-- The failing of a blocking call ends `openConnection` without another
call. -/
theorem Threaded.step_failing (lib : Library) (s : Threaded) {thread : Nat}
    {e : ConnectionError} (hblocked : (s.point thread).blocked = true)
    (herror : e ≠ .connNoError) :
    Threaded.step lib s (s.failing thread e) =
      .ok (.void, s.arrived thread .finished s.world) := by
  rw [Threaded.step_eq_ok_iff]
  unfold Threaded.failing
  cases hpoint : s.point thread with
  | inConnect => exact ⟨by simp [Threaded.enabled, hpoint], rfl⟩
  | inRecv =>
      refine ⟨by simp [Threaded.enabled, hpoint], ?_⟩
      apply Threaded.runs_of_run
      rw [run_receiveLoop]
      cases e with
      | connNoError => exact absurd rfl herror
      | _ => rfl
  | _ => simp [hpoint, ThreadPoint.blocked] at hblocked

/-- A step with a delegate, without it. -/
theorem Threaded.step_undelegated (hdelegate : s.world.delegated = true)
    (hstep : Threaded.step lib s turn = .ok (reply, t)) :
    (loopMachine lib false).runFrom s.undelegated
      (undelegatedTurns ⟨s, turn, reply⟩) = .ok t.undelegated := by
  obtain ⟨henabled, hexecute⟩ := Threaded.step_eq_ok_iff.mp hstep
  rw [← Threaded.enabled_undelegated] at henabled
  have hone : ∀ bare last,
      s.undelegated.execute lib turn = .ok (bare, last) →
      (loopMachine lib false).step s.undelegated turn = .ok (bare, last) :=
    fun bare last hbare => Threaded.step_eq_ok_iff.mpr ⟨henabled, hbare⟩
  have hruns : ∀ thread code, Relates World.Bares code →
      s.runs thread code = .ok (reply, t) →
      s.undelegated.runs thread code = .ok (.void, t.undelegated) := by
    intro thread code hcode hrun
    obtain ⟨last, hlast, hbare⟩ := Threaded.runs_undelegated hcode s thread
    cases hlast.symm.trans hrun
    exact hbare
  cases turn with
  | outside event =>
      obtain ⟨next, hcall, rfl⟩ := Threaded.calls_eq_ok_iff.mp hexecute
      exact runFrom_cons (hone _ _ (calls_undelegated hdelegate hcall)) []
  | enters thread toggle =>
      have hcode := relates_bares_openConnection toggle
      exact runFrom_cons (hone _ _ (hruns _ _ hcode hexecute)) []
  | connectReturns thread success =>
      have hcode := relates_connectReturned keptByCalls_bares success
      exact runFrom_cons (hone _ _ (hruns _ _ hcode hexecute)) []
  | recvReturns thread ce =>
      have hcode := relates_receiveLoop keptByCalls_bares ce
      exact runFrom_cons (hone _ _ (hruns _ _ hcode hexecute)) []
  | callsBack thread client cb =>
      obtain ⟨next, hcall, rfl⟩ := Threaded.calls_eq_ok_iff.mp hexecute
      have hbare := hone _ _ (calls_undelegated hdelegate hcall)
      cases reply with
      | threw exc =>
          -- The exception leaves `openConnection`: the blocking call fails.
          obtain ⟨_, e, hcallback, hexc⟩ := step_threw hcall
          obtain ⟨rfl, rfl⟩ := Event.callback.inj hcallback
          have herror : e ≠ .connNoError := by
            rintro rfl
            cases hexc
          have hblocked : (s.point thread).blocked = true := henabled
          have hfailing := Threaded.step_failing lib
            ⟨next.undelegated, s.point⟩ hblocked herror
          exact (runFrom_cons hbare _).trans (runFrom_cons hfailing [])
      | _ => cases cb <;> exact runFrom_cons hbare []

end Threads

section Runs

variable {lib : Library} {turns : List Turn} {s : Threaded}

end Runs

namespace DelegationWitness

/-- A presence before any roster. -/
def early : Turn :=
  .outside (.callback 0 (.handleRosterPresence
    (.ofJID ⟨"alice", "example.org", ""⟩) "phone" .chat ""))

end DelegationWitness

end CinderXmpp
