/-
The schedules of the two threads of a process.  What the application sends and
what comes in on the listener thread may be ordered either way.
-/
import CinderXmpp.Footprints
import CinderXmpp.XmppProcess

namespace CinderXmpp

open Gloox History Machine

def Action.isSend : Action → Bool
  | .sendMessage _ _ _ => true
  | _ => false

def Action.bringsData : Action → Bool
  | .callback cb => cb.bringsData
  | _ => false

/-- A `sendMessage` of the application, and a callback on the listener thread
that brings data. -/
def Action.Exchangeable (a b : Action) : Prop :=
  (a.isSend = true ∧ b.bringsData = true) ∨
    (a.bringsData = true ∧ b.isSend = true)

instance (a b : Action) : Decidable (a.Exchangeable b) :=
  inferInstanceAs (Decidable (_ ∨ _))

/-- The event of a send or of a callback that brings data. -/
def Action.exchanged? : Action → Option Event
  | .sendMessage recipient message subject =>
      some (.sendMessage recipient message subject)
  | .callback cb => if cb.bringsData then some (.callback 0 cb) else none
  | _ => none

section Processes

variable {lib : Library} {p q : Process} {action : Action} {event : Event}
  {reply : Reply}

/-- Which client brings data makes no difference. -/
theorem deliver_of_bringsData {cb : Callback} (hdata : cb.bringsData = true)
    (client : Nat) : cb.deliver client = cb.deliver 0 := by
  cases cb <;> first
    | exact absurd hdata Bool.false_ne_true
    | rfl

theorem Action.execute_exchanged (hevent : action.exchanged? = some event)
    (world : World) : action.execute lib world = event.execute lib := by
  cases action with
  | sendMessage recipient message subject =>
      obtain rfl := Option.some.inj hevent
      rfl
  | callback cb =>
      simp only [Action.exchanged?, Option.ite_none_right_eq_some,
        Option.some.injEq] at hevent
      obtain ⟨hdata, rfl⟩ := hevent
      exact deliver_of_bringsData hdata _
  | _ => cases hevent

/-- These events neither throw nor move the thread. -/
theorem step_exchanged (hevent : action.exchanged? = some event)
    {world next : World} (hstep : step lib world event = .ok (reply, next)) :
    (∀ exc, reply ≠ .threw exc) ∧
      next.client.mListenerThread = world.client.mListenerThread := by
  have hthread : .thread ∉ event.footprint.writes := by
    cases action with
    | sendMessage recipient message subject =>
        obtain rfl := Option.some.inj hevent
        simp [Event.footprint]
    | callback cb =>
        simp only [Action.exchanged?, Option.ite_none_right_eq_some,
          Option.some.injEq] at hevent
        obtain ⟨hdata, rfl⟩ := hevent
        intro hwritten
        simpa using (Callback.touches_of_bringsData hdata).1 hwritten
    | _ => cases hevent
  refine ⟨?_, step_frame hstep .thread hthread⟩
  rintro exc rfl
  obtain ⟨client, e, rfl, _⟩ := step_threw hstep
  cases action with
  | callback cb =>
      simp only [Action.exchanged?, Option.ite_none_right_eq_some,
        Option.some.injEq, Event.callback.injEq] at hevent
      obtain ⟨hdata, _, rfl⟩ := hevent
      cases hdata
  | _ => cases hevent

/-- A step of such an action is a step of its event. -/
theorem Process.step_exchanged_iff (hevent : action.exchanged? = some event) :
    Process.step lib p action = .ok (reply, q) ↔
      p.enabled action = true ∧
        CinderXmpp.step lib p.world event = .ok (reply, q.world) ∧
        q.life = p.life := by
  have hlife : ∀ next life, action.lifeAfter next life = life := by
    intro next life
    cases action <;> first
      | rfl
      | cases hevent
  have hexecute : action.execute lib p.world = event.execute lib :=
    Action.execute_exchanged hevent p.world
  constructor
  · intro hstep
    obtain ⟨henabled, hperform, hafter, _⟩ := Process.step_eq_ok hstep
    rw [hexecute] at hperform
    exact ⟨henabled, hperform, hafter.trans (hlife _ _)⟩
  · rintro ⟨henabled, hstep, hsame⟩
    have hreply := (step_exchanged hevent hstep).1
    have hperform : perform (action.execute lib p.world) p.world =
        .ok (reply, q.world) := by
      rw [hexecute]
      exact hstep
    have hmade :
        (⟨q.world, action.lifeAfter q.world p.life⟩ : Process) = q := by
      rw [hlife, ← hsame]
    unfold Process.step
    rw [if_pos henabled, hperform]
    cases reply with
    | threw exc => exact absurd rfl (hreply exc)
    | _ =>
      dsimp only
      rw [hmade]

/-- What is possible depends on the life and the thread, which these events
leave alone. -/
theorem Process.enabled_of_exchanged (hevent : action.exchanged? = some event)
    {next : Process} (hlife : next.life = p.life)
    (hthread : next.world.client.mListenerThread =
      p.world.client.mListenerThread) :
    next.enabled action = p.enabled action := by
  have hpoint : next.point? = p.point? :=
    congrArg (Option.map ListenerThread.point) hthread
  cases action with
  | sendMessage => simp [Process.enabled, hlife]
  | callback cb => simp [Process.enabled, Process.inLibrary, hlife, hpoint]
  | _ => cases hevent

theorem Action.Exchangeable.symm {a b : Action} (h : a.Exchangeable b) :
    b.Exchangeable a :=
  h.elim (fun h => .inr ⟨h.2, h.1⟩) fun h => .inl ⟨h.2, h.1⟩

theorem Action.exchanged?_of_isSend (hsend : action.isSend = true) :
    ∃ event, action.exchanged? = some event ∧ event.isCall = true := by
  cases action with
  | sendMessage => exact ⟨_, rfl, rfl⟩
  | _ => cases hsend

theorem Action.exchanged?_of_bringsData (hdata : action.bringsData = true) :
    ∃ cb, action.exchanged? = some (.callback 0 cb) ∧ cb.bringsData = true := by
  cases action with
  | callback cb => exact ⟨cb, if_pos hdata, hdata⟩
  | _ => cases hdata

/-- The events of a send and of a callback with data are independent. -/
theorem Action.Exchangeable.events {a b : Action} (h : a.Exchangeable b) :
    ∃ first second, a.exchanged? = some first ∧ b.exchanged? = some second ∧
      first.Independent second := by
  rcases h with ⟨hsend, hdata⟩ | ⟨hdata, hsend⟩
  · obtain ⟨call, hcall, hisCall⟩ := Action.exchanged?_of_isSend hsend
    obtain ⟨cb, hcb, hbrings⟩ := Action.exchanged?_of_bringsData hdata
    exact ⟨call, _, hcall, hcb,
      (independent_of_bringsData hisCall hbrings).symm⟩
  · obtain ⟨call, hcall, hisCall⟩ := Action.exchanged?_of_isSend hsend
    obtain ⟨cb, hcb, hbrings⟩ := Action.exchanged?_of_bringsData hdata
    exact ⟨_, call, hcb, hcall, independent_of_bringsData hisCall hbrings⟩

/-- The process does not tell the order of a send and a callback with data. -/
theorem process_exchanges (lib : Library) :
    (processMachine lib).Exchanges Action.Exchangeable := by
  intro a b p q r reply reply' hexchangeable ha hb
  obtain ⟨first, second, hfirst, hsecond, hindependent⟩ :=
    hexchangeable.events
  obtain ⟨haEnabled, haStep, haLife⟩ :=
    (Process.step_exchanged_iff hfirst).mp ha
  obtain ⟨hbEnabled, hbStep, hbLife⟩ :=
    (Process.step_exchanged_iff hsecond).mp hb
  obtain ⟨next, hbStep', haStep'⟩ := hindependent.swap
    (footprint_bounds lib first) (footprint_bounds lib second) haStep hbStep
  have haThread := (step_exchanged hfirst haStep).2
  have hbThread := (step_exchanged hsecond hbStep').2
  refine ⟨⟨next, p.life⟩, ?_, ?_⟩
  · refine (Process.step_exchanged_iff hsecond).mpr ⟨?_, hbStep', rfl⟩
    rw [← hbEnabled]
    exact (Process.enabled_of_exchanged hsecond haLife haThread).symm
  · refine (Process.step_exchanged_iff hfirst).mpr
      ⟨?_, haStep', hbLife.trans haLife⟩
    rw [← haEnabled]
    exact Process.enabled_of_exchanged hfirst rfl hbThread

end Processes

/-- The schedule of the two threads, as far as it is free.  Any number of
`sendMessage`s of the application may be moved past callbacks on the listener
thread that bring data: one order is a run of the process exactly if the other
is, both leave the same process, and every action gets the same reply. -/
theorem sends_commute_with_data (lib : Library) {actions others : List Action}
    (hrearranges : Rearranges Action.Exchangeable actions others)
    (p : Process) :
    ((processMachine lib).Reaches actions p ↔
      (processMachine lib).Reaches others p) ∧
    ((processMachine lib).Reaches actions p →
      Rearranges (fun a b => a.1.Exchangeable b.1)
        ((processMachine lib).transcript actions)
        ((processMachine lib).transcript others)) := by
  have hexchanges : (processMachine lib).Exchanges Action.Exchangeable :=
    process_exchanges lib
  refine ⟨⟨?_, ?_⟩, ?_⟩
  · intro hreach
    exact (hreach.rearrange hexchanges hrearranges).1
  · intro hreach
    exact (hreach.rearrange hexchanges
      (hrearranges.symm Action.Exchangeable.symm)).1
  · intro hreach
    exact (hreach.rearrange hexchanges hrearranges).2

namespace SchedulesWitness

def listed : RosterItem := RosterItem.ofJID ⟨"alice", "example.org", "phone"⟩

/-- A client that logs in. -/
def login : List Action :=
  [.connect "carol" "example.org", .threadStarts, .callback .onConnect]

def hello : Action := .sendMessage "alice" "hello" ""

/-- A roster and a presence come in. -/
def news : List Action :=
  [.callback (.handleRoster ⟨[listed], by decide⟩),
    .callback (.handleRosterPresence listed "phone" .away "lunch")]

/-- A message that is sent before the news goes out just as well after it. -/
theorem sends_commute_with_data_news :
    ∃ p, (processMachine .documented).Reaches (login ++ hello :: news) p ∧
      (processMachine .documented).Reaches (login ++ (news ++ [hello])) p := by
  have hnews : ∀ other ∈ news, hello.Exchangeable other := by decide
  have hpast : Rearranges Action.Exchangeable (hello :: news)
      (news ++ [hello]) := by
    simpa using rearranges_past hnews []
  have hrearranges : Rearranges Action.Exchangeable (login ++ hello :: news)
      (login ++ (news ++ [hello])) := ((hpast.cons _).cons _).cons _
  have hfirst : (processMachine .documented).Reaches
      (login ++ hello :: news) _ := rfl
  exact ⟨_, hfirst,
    (sends_commute_with_data .documented hrearranges _).1.mp hfirst⟩

end SchedulesWitness

end CinderXmpp
