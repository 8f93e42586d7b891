/-
Which runs of the process end in `std::terminate`.  The listener thread is
never joined or detached, and nothing between `XmppClient::onDisconnect` and
the thread function catches what it throws.
-/
import CinderXmpp.XmppProcess

namespace CinderXmpp

open Gloox History

/-- The number of `connect` calls that got past their check. -/
def connects (actions : List Action) : Nat :=
  actions.countP Action.startsThread

/-- The list of actions is a run: each action can come when it does, and none
runs into undefined behaviour. -/
def IsRun (lib : Library) (actions : List Action) : Prop :=
  (processMachine lib).run actions ≠ .error .impossible ∧
    ∀ cause, (processMachine lib).run actions ≠
      .error (.fault (.undefined cause))

/-- The run does not end in `std::terminate`. -/
def NoTerminate (lib : Library) (actions : List Action) : Prop :=
  ∀ cause, (processMachine lib).run actions ≠
    .error (.fault (.terminate cause))

/-- At most one `connect` gets past its check, none before a destruction, and
every disconnect is without an error. -/
structure Harmless (actions : List Action) : Prop where
  once : connects actions ≤ 1
  kept : Action.destroy ∈ actions → connects actions = 0
  clean : ∀ e, Action.callback (.onDisconnect e) ∈ actions → e = .connNoError

theorem connects_append_singleton (actions : List Action) (action : Action) :
    connects (actions ++ [action]) =
      connects actions + if action.startsThread then 1 else 0 := by
  unfold connects
  rw [List.countP_append, List.countP_singleton]

section Runs

variable {lib : Library} {actions : List Action} {p : Process}

/-- What a history says about the process it leads to. -/
structure Tracked (actions : List Action) (p : Process) : Prop where
  delegated : p.world.delegated = true
  joinable : p.world.joinable? =
    if connects actions = 0 then none else some true
  client : p.world.client.mListener.mClient.isSome = true ↔
    connects actions ≠ 0
  disconnecting : p.life = .disconnecting →
    p.world.client.mListener.mClient.isSome = true
  notAlive : Action.destroy ∈ actions → p.life ≠ .alive

theorem Reaches.tracked (hreach : (processMachine lib).Reaches actions p) :
    Tracked actions p := by
  apply Machine.Reaches.invariant (I := Tracked)
    ⟨rfl, rfl, ?_, ?_, by simp⟩ ?_ hreach
  · exact ⟨nofun, fun hconnects => absurd rfl hconnects⟩
  · intro hdisconnecting
    cases hdisconnecting
  intro actions p action reply q _ htracked hstep
  obtain ⟨_, _, hlife, _⟩ := Process.step_eq_ok hstep
  have hcontinues := Process.step_continues hstep
  refine ⟨hcontinues.delegated.trans htracked.delegated, ?_, ?_, ?_, ?_⟩
  · rw [hcontinues.joinable, htracked.joinable, connects_append_singleton]
    cases action.startsThread <;> simp
  · rw [hcontinues.mClient, connects_append_singleton, Bool.or_eq_true,
      htracked.client]
    cases action.startsThread <;> simp
  · rw [hlife]
    intro hdisconnecting
    rcases Action.lifeAfter_eq_disconnecting hdisconnecting with
      hbefore | hsome
    · rw [hcontinues.mClient, htracked.disconnecting hbefore, Bool.or_true]
    · exact hsome
  · intro hmem
    rw [hlife]
    apply Action.lifeAfter_ne_alive
    rcases List.mem_append.mp hmem with hearlier | hlast
    · exact .inl (htracked.notAlive hearlier)
    · exact .inr (List.mem_singleton.mp hlast).symm

/-- A fatal action is one more `connect`, a destruction after one, or a
disconnect with an error. -/
theorem Reaches.fatal_iff (hreach : (processMachine lib).Reaches actions p)
    (action : Action) :
    Fatal p action ↔
      ((action.startsThread = true ∨ action = .destroy) ∧
        connects actions ≠ 0) ∨
      ∃ e, action = .callback (.onDisconnect e) ∧ e ≠ .connNoError := by
  have hjoinable : p.world.joinable? = some true ↔ connects actions ≠ 0 := by
    rw [(Reaches.tracked hreach).joinable]
    split <;> simp_all
  unfold Fatal
  rw [hjoinable]

theorem Process.startsThread_alive {action : Action}
    (henabled : p.enabled action = true)
    (hstarts : action.startsThread = true) : p.life = .alive := by
  cases action with
  | connect xmppUser xmppServer => simpa [Process.enabled] using henabled
  | _ => cases hstarts

/-- A run that goes through to its end was harmless. -/
theorem Reaches.harmless (hreach : (processMachine lib).Reaches actions p) :
    Harmless actions := by
  apply Machine.Reaches.invariant (I := fun actions _ => Harmless actions)
    ⟨by simp [connects], by simp, by simp⟩ ?_ hreach
  intro actions p action reply q hbefore hharmless hstep
  obtain ⟨henabled, _⟩ := Process.step_eq_ok hstep
  have htracked := Reaches.tracked hbefore
  have hnot := Process.not_fatal_of_step htracked.delegated hstep
  rw [Reaches.fatal_iff hbefore] at hnot
  have hfirst : action.startsThread = true → connects actions = 0 := by
    intro hstarts
    by_contra hconnects
    exact hnot (.inl ⟨.inl hstarts, hconnects⟩)
  refine ⟨?_, ?_, ?_⟩
  · rw [connects_append_singleton]
    cases hstarts : action.startsThread with
    | true => simp [hfirst hstarts]
    | false => simpa using hharmless.once
  · intro hmem
    rw [connects_append_singleton]
    rcases List.mem_append.mp hmem with hearlier | hlast
    · have hnever : action.startsThread = false := by
        by_contra hstarts
        exact htracked.notAlive hearlier
          (Process.startsThread_alive henabled (by simpa using hstarts))
      simp [hharmless.kept hearlier, hnever]
    · obtain rfl := List.mem_singleton.mp hlast
      by_contra hconnects
      exact hnot (.inl
        ⟨.inr rfl, by simpa [Action.startsThread] using hconnects⟩)
  · intro e hmem
    rcases List.mem_append.mp hmem with hearlier | hlast
    · exact hharmless.clean e hearlier
    · by_contra herror
      exact hnot (.inr ⟨e, (List.mem_singleton.mp hlast).symm, herror⟩)

/-- A harmless list of actions never terminates the process. -/
theorem noTerminate_of_harmless (lib : Library)
    (hharmless : Harmless actions) : NoTerminate lib actions := by
  intro cause hrun
  obtain ⟨pre, action, p, hinit, hreach, hstep⟩ :=
    Machine.run_eq_error_iff.mp hrun
  have hmono : connects (pre ++ [action]) ≤ connects actions :=
    hinit.sublist.countP_le
  have hmem : action ∈ actions := mem_of_prefix_snoc hinit
  rw [connects_append_singleton] at hmono
  have hfatal := Process.fatal_of_step_terminate hstep
  rw [Reaches.fatal_iff hreach] at hfatal
  rcases hfatal with ⟨hstarts | rfl, hconnects⟩ | ⟨e, rfl, herror⟩
  · rw [hstarts] at hmono
    have honce := hharmless.once
    simp only [↓reduceIte] at hmono
    omega
  · have hnone := hharmless.kept hmem
    omega
  · exact herror (hharmless.clean e hmem)

/-- A callback can only come once a `connect` got past its check. -/
theorem Reaches.connects_ne_zero
    (hreach : (processMachine lib).Reaches actions p)
    (hlibrary : p.inLibrary = true) : connects actions ≠ 0 := by
  have htracked := Reaches.tracked hreach
  have hthread : ∀ point, p.point? = some point → connects actions ≠ 0 := by
    intro point hpoint hzero
    have hnone := htracked.joinable
    rw [if_pos hzero] at hnone
    simp only [World.joinable?, Option.map_eq_none_iff] at hnone
    simp [Process.point?, hnone] at hpoint
  simp only [Process.inLibrary, Bool.or_eq_true, decide_eq_true_eq] at hlibrary
  rcases hlibrary with (hconnect | hrecv) | hdisconnecting
  · exact hthread _ hconnect
  · exact hthread _ hrecv
  · exact htracked.client.mp (htracked.disconnecting hdisconnecting)

theorem noTerminate_of_connects_eq_zero (lib : Library)
    (hzero : connects actions = 0) : NoTerminate lib actions := by
  intro cause hrun
  obtain ⟨pre, action, p, hinit, hreach, hstep⟩ :=
    Machine.run_eq_error_iff.mp hrun
  have hmono : connects (pre ++ [action]) ≤ connects actions :=
    hinit.sublist.countP_le
  rw [connects_append_singleton] at hmono
  have hpre : connects pre = 0 := by omega
  have hfatal := Process.fatal_of_step_terminate hstep
  rw [Reaches.fatal_iff hreach] at hfatal
  rcases hfatal with ⟨_, hconnects⟩ | ⟨e, rfl, _⟩
  · exact hconnects hpre
  · exact Reaches.connects_ne_zero hreach
      (Process.enabled_of_step_eq_fault hstep) hpre

theorem connects_eq_zero_iff :
    connects actions = 0 ↔ ∀ xmppUser xmppServer,
      Action.connect xmppUser xmppServer ∈ actions →
        xmppUser = "" ∨ xmppServer = "" := by
  unfold connects
  rw [List.countP_eq_zero]
  constructor
  · intro hnone xmppUser xmppServer hmem
    simpa [Action.startsThread, Event.startsThread, or_iff_not_imp_left] using
      hnone _ hmem
  · intro hempty action hmem
    cases action with
    | connect xmppUser xmppServer =>
        simpa [Action.startsThread, Event.startsThread, or_iff_not_imp_left]
          using hempty xmppUser xmppServer hmem
    | _ => exact Bool.false_ne_true

end Runs

/-- The process survives a run exactly when the run is harmless: at most one
`connect` gets past its check, none if the client is destroyed, and gloox
reports no disconnect with an error.  A run that ends with the destruction
survives exactly when no `connect` got past its check at all. -/
theorem noTerminate_iff_harmless (lib : Library) (actions : List Action)
    (hrun : IsRun lib actions) :
    (NoTerminate lib actions ↔ Harmless actions) ∧
    (Action.destroy ∈ actions →
      (NoTerminate lib actions ↔ ∀ xmppUser xmppServer,
        Action.connect xmppUser xmppServer ∈ actions →
          xmppUser = "" ∨ xmppServer = "")) := by
  have hiff : NoTerminate lib actions ↔ Harmless actions := by
    constructor
    · intro hsurvives
      cases hresult : (processMachine lib).run actions with
      | ok p => exact Reaches.harmless hresult
      | error halt =>
          exfalso
          cases halt with
          | impossible => exact hrun.1 hresult
          | fault fault =>
              cases fault with
              | undefined cause => exact hrun.2 cause hresult
              | terminate cause => exact hsurvives cause hresult
    · exact noTerminate_of_harmless lib
  refine ⟨hiff, ?_⟩
  intro hdestroy
  rw [← connects_eq_zero_iff]
  constructor
  · intro hsurvives
    exact (hiff.mp hsurvives).kept hdestroy
  · exact noTerminate_of_connects_eq_zero lib

namespace TerminationWitness

/-- The user connects a second time. -/
def reconnect : List Action :=
  [.connect "alice" "example.org", .connect "alice" "example.org"]

/-- The client is destroyed after its thread function has returned. -/
def teardown : List Action :=
  [.connect "alice" "example.org", .threadStarts, .connectReturns false,
    .destroy]

/-- The server refuses the connection. -/
def refused : List Action :=
  [.connect "alice" "example.org", .threadStarts,
    .callback (.onDisconnect .connConnectionRefused)]

/-- The first two runs drop a joinable thread, by the assignment and by the
destructor, and in the third an exception leaves the thread function. -/
theorem terminates_reconnect_teardown_refused :
    (processMachine .documented).run reconnect =
      .error (.fault (.terminate .joinableThread)) ∧
    (processMachine .documented).run teardown =
      .error (.fault (.terminate .joinableThread)) ∧
    (processMachine .documented).run refused =
      .error (.fault (.terminate (.uncaught .xmppConnectionExc))) ∧
    ¬ NoTerminate .documented reconnect ∧
    ¬ NoTerminate .documented teardown ∧
    ¬ NoTerminate .documented refused :=
  ⟨rfl, rfl, rfl, fun h => h _ rfl, fun h => h _ rfl, fun h => h _ rfl⟩

/-- A session that is still open at the end. -/
def session : List Action :=
  [.connect "alice" "example.org", .threadStarts, .callback .onTLSConnect,
    .callback .onConnect, .connectReturns true,
    .sendMessage "bob" "hi" "", .recvReturns .connNoError,
    .callback (.onDisconnect .connNoError), .recvReturns .connStreamClosed]

theorem noTerminate_iff_harmless_session :
    (∃ p, (processMachine .documented).Reaches session p) ∧
      NoTerminate .documented session := by
  have hreach : ∃ p, (processMachine .documented).Reaches session p :=
    ⟨_, rfl⟩
  refine ⟨hreach, (noTerminate_iff_harmless .documented session ?_).1.mpr ?_⟩
  · obtain ⟨p, hp⟩ := hreach
    constructor
    · intro hrun
      cases hp.symm.trans hrun
    · intro cause hrun
      cases hp.symm.trans hrun
  · refine ⟨by decide, by simp [session], ?_⟩
    intro e hmem
    simpa [session] using hmem

end TerminationWitness

end CinderXmpp
