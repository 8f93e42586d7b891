/-
The complete account of a gloox client: who it logs in as, and every call the
listener has ever made on it, those of its receive loops included, in order, as
a function of the history alone.
-/
import CinderXmpp.CurrentClient
import CinderXmpp.ProcessThreads
import CinderXmpp.RosterHistory
import CinderXmpp.ServerAddress

namespace CinderXmpp

open Gloox History

/-- What the library holds of a client besides its sessions. -/
structure Account where
  jid : JID
  password : String
  calls : List ClientCall
  deleted : Bool
deriving DecidableEq, Repr

def Client.account (client : Client) : Account where
  jid := client.jid
  password := client.password
  calls := client.calls
  deleted := client.deleted

def Account.log (calls : List ClientCall) (account : Account) : Account :=
  { account with calls := account.calls ++ calls }

@[simp] theorem Account.log_nil : Account.log [] = id := by
  funext account
  simp [Account.log]

/-- The client that an event creates, for a listener with a server. -/
def Event.newClient? (lib : Library) (mServer : String) :
    Event → Option Client
  | .setup username server enableLogging =>
      some (configuredClient lib mServer username server enableLogging)
  | .connect xmppUser xmppServer =>
      if xmppUser.isEmpty || xmppServer.isEmpty then none
      else some (configuredClient lib mServer xmppUser xmppServer false)
  | _ => none

/-- The calls of an event on the current client, by the fields of the listener
that they depend on. -/
def Event.calls (lib : Library) (mServer : String) (mIsConnected : Bool)
    (mSession : Option Nat) : Event → List ClientCall
  | .openConnection toggle =>
      if mIsConnected then [] else [.connect toggle]
  | .send recipient message subject =>
      if mIsConnected && !message.isEmpty then
        [.send ⟨.chat, recipient, message, subject⟩]
      else []
  | .sendMessage recipient message subject =>
      if mIsConnected && !message.isEmpty then
        [.send ⟨.chat, lib.parseJID (recipient ++ "@" ++ mServer), message,
          subject⟩]
      else []
  | .callback _ (.handleMessageSession _) =>
      [.disposeMessageSession mSession]
  | _ => []

theorem Event.createsClient_eq (lib : Library) (mServer : String)
    (event : Event) :
    event.createsClient = (event.newClient? lib mServer).isSome := by
  cases event with
  | connect xmppUser xmppServer =>
      cases hempty : xmppUser.isEmpty || xmppServer.isEmpty <;>
        simp [Event.createsClient, Event.newClient?, hempty]
  | _ => rfl

theorem Event.calls_of_inert (lib : Library) (mServer : String) (up : Bool)
    (mSession : Option Nat) (client : Nat) {cb : Callback}
    (hinert : cb.inert = true) :
    (Event.callback client cb).calls lib mServer up mSession = [] := by
  cases cb <;> first
    | rfl
    | cases hinert

/-- The calls of an event on the current client of a world. -/
def World.callsOf (world : World) (lib : Library) (event : Event) :
    List ClientCall :=
  event.calls lib world.client.mListener.mServer
    world.client.mListener.mIsConnected world.client.mListener.mSession

/-- The accounts of the clients of a world, by their numbers. -/
def World.account? (world : World) (number : Nat) : Option Account :=
  world.heap.clients[number]?.map Client.account

section Worlds

variable (world : World) (number : Nat)

theorem World.account?_called (current : Nat) (entry : ClientCall) :
    (world.called current entry).account? number =
      (world.account? number).map
        (Account.log (if current = number then [entry] else [])) := by
  unfold World.account? World.called Heap.modifyClient
  simp only [List.getElem?_modify, Option.map_eq_map, Option.map_map]
  by_cases hcurrent : current = number
  · simp only [hcurrent, ↓reduceIte]
    rfl
  · simp only [hcurrent, ↓reduceIte, Account.log_nil]
    rfl

theorem World.account?_installed (client : Client) :
    (world.installed client).account? number =
      if world.heap.clients.length = number then some (Client.account client)
      else world.account? number := by
  unfold World.account? World.installed
  rw [List.getElem?_append]
  by_cases hlt : number < world.heap.clients.length
  · simp [hlt, hlt.ne']
  · rw [if_neg hlt, List.getElem?_singleton]
    by_cases heq : world.heap.clients.length = number
    · simp [heq]
    · have hpos : number - world.heap.clients.length ≠ 0 := by omega
      simp only [hpos, heq, ↓reduceIte, Option.map_none]
      rw [List.getElem?_eq_none (by omega)]
      rfl

theorem World.account?_receiving :
    world.receiving.account? number = (world.account? number).map (Account.log
      (if world.client.mListener.mClient = some number then [.recv]
      else [])) := by
  unfold World.receiving
  cases hclient : world.client.mListener.mClient with
  | none => simp
  | some current =>
      dsimp only
      rw [World.account?_called]
      simp

theorem Client.account_adoptedClient (mClient : Nat) (mSession : Option Nat)
    (owner : Nat) (target : JID) (session : Nat) (client : Client) :
    Client.account (adoptedClient mClient mSession owner target session number
        client) =
      (Client.account client).log
        (if mClient = number then [.disposeMessageSession mSession]
        else []) := by
  unfold adoptedClient
  split_ifs <;> simp [Client.account, Account.log, Client.openSession,
    Client.disposeMessageSession, Client.modifySession, Client.call]

end Worlds

/-- One step, in the account of one client: it is created by an event that
creates the next client, and otherwise logs the calls on the current client. -/
theorem step_account? {lib : Library} {world next : World} {event : Event}
    {reply : Reply} (hstep : step lib world event = .ok (reply, next))
    (number : Nat) :
    next.account? number =
      match event.newClient? lib world.client.mListener.mServer with
      | some client =>
          if world.heap.clients.length = number then
            some (Client.account client)
          else world.account? number
      | none => (world.account? number).map (Account.log
          (if world.client.mListener.mClient = some number then
            world.callsOf lib event
          else [])) := by
  cases effect_of_step hstep with
  | inert client cb reply hinert =>
      simp [Event.newClient?, World.callsOf,
        Event.calls_of_inert lib _ _ _ client hinert]
  | undelegated client cb hdelegate hroster =>
      rcases hroster with ⟨_, rfl⟩ | ⟨_, _, _, _, rfl⟩ <;>
        simp [Event.newClient?, World.callsOf, Event.calls]
  | sessionAdopted client mClient target hclient =>
      simp only [Event.newClient?, World.callsOf, Event.calls, hclient,
        Option.some.injEq, World.account?, World.adopting,
        getElem?_adoptedHeap, Option.map_map]
      congr 1
      funext held
      exact Client.account_adoptedClient number mClient _ client target _ held
  | setUp username server enableLogging =>
      simp only [Event.newClient?, World.account?_installed]
  | connectionOpened toggle current hconnected hclient =>
      simp [Event.newClient?, World.callsOf, Event.calls, hclient, hconnected,
        World.account?_called]
  | connectionSkipped toggle hskip =>
      rcases hskip with hconnected | hclient
      · simp [Event.newClient?, World.callsOf, Event.calls, hconnected]
      · simp [Event.newClient?, hclient]
  | stanzaSent event message current hstanza haccepts =>
      obtain ⟨hconnected, hbody, hclient⟩ :=
        World.accepts_eq_some_iff.mp haccepts
      rw [World.account?_called]
      cases event with
      | send recipient body subject =>
          obtain rfl := Option.some.inj hstanza
          simp [Event.newClient?, World.callsOf, Event.calls, hclient,
            hconnected, hbody]
      | sendMessage recipient body subject =>
          obtain rfl := Option.some.inj hstanza
          simp [Event.newClient?, World.callsOf, Event.calls, hclient,
            hconnected, hbody]
      | _ => cases hstanza
  | stanzaRefused event message hstanza haccepts =>
      unfold World.accepts at haccepts
      cases event with
      | send recipient body subject =>
          obtain rfl := Option.some.inj hstanza
          simp only [Event.newClient?, World.callsOf, Event.calls]
          split at haccepts
          · simp [haccepts]
          · next hgate => simp [hgate]
      | sendMessage recipient body subject =>
          obtain rfl := Option.some.inj hstanza
          simp only [Event.newClient?, World.callsOf, Event.calls]
          split at haccepts
          · simp [haccepts]
          · next hgate => simp [hgate]
      | _ => cases hstanza
  | connectRefused xmppUser xmppServer hempty =>
      simp [Event.newClient?, World.callsOf, Event.calls, hempty]
  | connectStarted xmppUser xmppServer hempty hthread =>
      simp only [Event.newClient?, hempty, Bool.false_eq_true, ↓reduceIte]
      exact World.account?_installed world number _
  | _ =>
      simp [Event.newClient?, World.callsOf, Event.calls, World.account?,
        World.emitted]

/-! The fields of the listener, as functions of the history. -/

/-- The connected flag after a history. -/
def flagUp (events : List Event) : Bool :=
  (lastSome Event.lifecycle events).getD false

/-- The session held after a history: the last one announced.  Each session
takes three addresses, for itself and its two filters. -/
def lastSession (events : List Event) : Option Nat :=
  match events.countP Event.announcesSession with
  | 0 => none
  | earlier + 1 => some (3 * earlier)

/-- What a call or callback logs for the client with a number, after those
before it: the calls that set it up, or those on it while it is the current
one. -/
def callsOn (lib : Library) (number : Nat) (pre : List Event)
    (event : Event) : List ClientCall :=
  match event.newClient? lib "" with
  | some client => if created pre = number then client.calls else []
  | none =>
      if currentClient (created pre) = some number then
        event.calls lib "" (flagUp pre) (lastSession pre)
      else []

/-- What a step logs for the client with a number, after the steps before it:
where a blocking call has returned and the loop goes on, one `Client::recv` on
the client that is current by then. -/
def loggedOn (lib : Library) (number : Nat) (pre : List Turn) (turn : Turn) :
    List ClientCall :=
  match turn.event? with
  | some event => callsOn lib number (eventsIn pre) event
  | none =>
      if turn.receives ∧ currentClient (created (eventsIn pre)) = some number
      then [.recv]
      else []

/-- The client with a number as the history has it: made by the step that
created it, with the calls of the history, and never deleted. -/
def historyAccount (lib : Library) (turns : List Turn) (number : Nat) :
    Option Account :=
  (((eventsIn turns).filterMap (Event.newClient? lib ""))[number]?).map
    fun client =>
      { jid := client.jid
        password := client.password
        calls := contributions (loggedOn lib number) turns
        deleted := false }

section Runs

variable {lib : Library} {delegate : Bool} {events : List Event}
  {world next : World} {event : Event} {reply : Reply}

theorem step_session (hstep : step lib world event = .ok (reply, next)) :
    next.heap.nextAddress = world.heap.nextAddress +
        (if event.announcesSession then 3 else 0) ∧
      next.client.mListener.mSession =
        if event.announcesSession then some world.heap.nextAddress
        else world.client.mListener.mSession := by
  cases effect_of_step hstep with
  | inert client cb reply hinert =>
      cases cb <;> first
        | exact ⟨rfl, rfl⟩
        | cases hinert
  | undelegated client cb hdelegate hroster =>
      rcases hroster with ⟨_, rfl⟩ | ⟨_, _, _, _, rfl⟩ <;> exact ⟨rfl, rfl⟩
  | stanzaSent event message current hstanza =>
      cases event <;> first
        | exact ⟨rfl, rfl⟩
        | cases hstanza
  | stanzaRefused event message hstanza =>
      cases event <;> first
        | exact ⟨rfl, rfl⟩
        | cases hstanza
  | _ => exact ⟨rfl, rfl⟩

theorem Reaches.session_eq
    (hreach : (listenerMachine lib delegate).Reaches events world) :
    world.heap.nextAddress = 3 * events.countP Event.announcesSession ∧
      world.client.mListener.mSession = lastSession events := by
  apply Machine.Reaches.invariant
    (I := fun events world =>
      world.heap.nextAddress = 3 * events.countP Event.announcesSession ∧
        world.client.mListener.mSession = lastSession events)
    ⟨rfl, rfl⟩ ?_ hreach
  intro events world event reply next _ hbefore hstep
  obtain ⟨haddress, hsession⟩ := step_session hstep
  rw [haddress, hsession, hbefore.1, hbefore.2]
  unfold lastSession
  rw [List.countP_append, List.countP_singleton]
  cases event.announcesSession with
  | false => exact ⟨rfl, rfl⟩
  | true => exact ⟨by simp [Nat.mul_add], rfl⟩

theorem length_filterMap_newClient (lib : Library) (mServer : String)
    (events : List Event) :
    (events.filterMap (Event.newClient? lib mServer)).length =
      created events := by
  rw [List.length_filterMap_eq_countP]
  unfold created
  congr 1
  funext event
  exact (event.createsClient_eq lib mServer).symm

theorem Event.newClient?_deleted {mServer : String} {client : Client}
    (hnew : event.newClient? lib mServer = some client) :
    client.deleted = false := by
  cases event with
  | setup username server enableLogging =>
      obtain rfl := Option.some.inj hnew
      rfl
  | connect xmppUser xmppServer =>
      simp only [Event.newClient?, Option.ite_none_left_eq_some,
        Option.some.injEq] at hnew
      obtain ⟨_, rfl⟩ := hnew
      rfl
  | _ => cases hnew

theorem currentClient_eq_some_iff {count number : Nat} :
    currentClient count = some number ↔ count = number + 1 := by
  cases count <;> simp [currentClient]

/-- Nothing is logged for a client before it is created. -/
theorem callsOn_of_created_le {number : Nat} {pre : List Event}
    (hnumber : created (pre ++ [event]) ≤ number) :
    callsOn lib number pre event = [] := by
  rw [created_append_singleton, event.createsClient_eq lib ""] at hnumber
  unfold callsOn
  cases hnew : event.newClient? lib "" with
  | some client =>
      rw [hnew, Option.isSome_some, if_pos rfl] at hnumber
      exact if_neg (by omega)
  | none =>
      rw [hnew, Option.isSome_none, if_neg Bool.false_ne_true] at hnumber
      refine if_neg ?_
      rw [currentClient_eq_some_iff]
      omega

theorem loggedOn_of_created_le {number : Nat} {pre : List Turn} {turn : Turn}
    (hnumber : created (eventsIn (pre ++ [turn])) ≤ number) :
    loggedOn lib number pre turn = [] := by
  rw [eventsIn_append_singleton] at hnumber
  unfold loggedOn
  cases hevent : turn.event? with
  | some event =>
      rw [hevent] at hnumber
      exact callsOn_of_created_le hnumber
  | none =>
      rw [hevent, Option.toList_none, List.append_nil] at hnumber
      refine if_neg ?_
      rw [currentClient_eq_some_iff]
      omega

theorem created_eventsIn_le (pre : List Turn) (turn : Turn) :
    created (eventsIn pre) ≤ created (eventsIn (pre ++ [turn])) := by
  rw [eventsIn_append_singleton]
  exact (List.sublist_append_left _ _).countP_le

theorem contributions_loggedOn_of_created_le {number : Nat} {turns : List Turn}
    (hnumber : created (eventsIn turns) ≤ number) :
    contributions (loggedOn lib number) turns = [] := by
  induction turns using List.reverseRecOn with
  | nil => rfl
  | append_singleton pre turn ih =>
      have hbefore := (created_eventsIn_le pre turn).trans hnumber
      rw [contributions_append_singleton, ih hbefore,
        loggedOn_of_created_le hnumber]
      rfl

end Runs

/-! The accounts, step by step. -/

/-- The client that a step creates. -/
def Turn.newClient? (lib : Library) (turn : Turn) : Option Client :=
  turn.event?.bind (Event.newClient? lib "")

section Turns

variable {lib : Library} {delegate : Bool} {turns : List Turn}
  {s t : Threaded} {turn : Turn} {reply : Reply}

/-- A step in the accounts that a history gives. -/
theorem historyAccount_append_singleton (number : Nat) :
    historyAccount lib (turns ++ [turn]) number =
      match turn.newClient? lib with
      | some client =>
          if created (eventsIn turns) = number then
            some (Client.account client)
          else historyAccount lib turns number
      | none => (historyAccount lib turns number).map
          (Account.log (loggedOn lib number turns turn)) := by
  unfold historyAccount
  have hcreated :
      (eventsIn (turns ++ [turn])).filterMap (Event.newClient? lib "") =
        (eventsIn turns).filterMap (Event.newClient? lib "") ++
          (turn.newClient? lib).toList := by
    rw [eventsIn_append_singleton, List.filterMap_append]
    unfold Turn.newClient?
    cases turn.event? with
    | none => simp
    | some event =>
        cases hnew : event.newClient? lib "" <;> simp [hnew]
  rw [hcreated]
  simp only [contributions_append_singleton]
  cases hnew : turn.newClient? lib with
  | none =>
      rw [Option.toList_none, List.append_nil, Option.map_map]
      rfl
  | some client =>
      obtain ⟨event, hevent, hmade⟩ := Option.bind_eq_some_iff.mp hnew
      rw [Option.toList_some, List.getElem?_append, length_filterMap_newClient]
      simp only [loggedOn, hevent, callsOn, hmade]
      rcases lt_trichotomy number (created (eventsIn turns)) with
        hlt | rfl | hgt
      · simp [hlt, hlt.ne']
      · have hbefore : contributions
            (loggedOn lib (created (eventsIn turns))) turns = [] :=
          contributions_loggedOn_of_created_le (le_refl _)
        simp only [lt_irrefl, ↓reduceIte, Nat.sub_self, List.getElem?_cons_zero,
          Option.map_some, hbefore, List.nil_append]
        simp [Client.account, Event.newClient?_deleted hmade]
      · have hnone : ((eventsIn turns).filterMap
            (Event.newClient? lib ""))[number]? = none := by
          rw [List.getElem?_eq_none_iff, length_filterMap_newClient]
          exact hgt.le
        have hpos : number - created (eventsIn turns) ≠ 0 := by omega
        rw [if_neg hgt.not_gt, List.getElem?_singleton, if_neg hpos, hnone]
        simp [hgt.ne]

/-- The fields that the calls depend on, as functions of the history. -/
structure Tracks (turns : List Turn) (world : World) : Prop where
  server : world.client.mListener.mServer = ""
  flag : world.client.mListener.mIsConnected = flagUp (eventsIn turns)
  session : world.client.mListener.mSession = lastSession (eventsIn turns)
  length : world.heap.clients.length = created (eventsIn turns)
  current : world.client.mListener.mClient =
    currentClient (created (eventsIn turns))

theorem Reaches.tracks (hreach : (loopMachine lib delegate).Reaches turns s) :
    Tracks turns s.world := by
  have hseen := Reaches.loop_seen hreach
  have hlength : s.world.unthreaded.heap.clients.length =
      created (eventsIn turns) := Reaches.clients_length hseen
  rw [World.unthreaded, Heap.withoutRecv, List.length_map] at hlength
  have hserver := (Reaches.server_username hseen).1
  have hflag := Reaches.mIsConnected_eq_lastSome hseen
  have hsession := (Reaches.session_eq hseen).2
  have hcurrent := Reaches.mClient_eq hseen
  exact ⟨hserver, hflag, hsession, hlength, hcurrent⟩

/-- A step in the accounts of the clients. -/
theorem Tracks.step_account? (htracks : Tracks turns s.world)
    (hstep : Threaded.step lib s turn = .ok (reply, t)) (number : Nat) :
    t.world.account? number =
      match turn.newClient? lib with
      | some client =>
          if created (eventsIn turns) = number then
            some (Client.account client)
          else s.world.account? number
      | none => (s.world.account? number).map
          (Account.log (loggedOn lib number turns turn)) := by
  unfold Turn.newClient? loggedOn
  cases Threaded.moves_of_step hstep with
  | called event reply hevent hcall =>
      rw [CinderXmpp.step_account? hcall number, hevent, htracks.server,
        htracks.length, htracks.current]
      unfold World.callsOf callsOn
      rw [htracks.server, htracks.flag, htracks.session]
      dsimp only [Option.bind_some]
      cases event.newClient? lib "" <;> rfl
  | received hevent hreceives hworld =>
      rw [hworld, World.account?_receiving, htracks.current, hevent]
      simp [hreceives]
  | returned hevent hreceives hworld =>
      rw [hworld, hevent]
      simp [hreceives]

theorem Reaches.account?_eq
    (hreach : (loopMachine lib delegate).Reaches turns s) (number : Nat) :
    s.world.account? number = historyAccount lib turns number := by
  apply Machine.Reaches.invariant
    (I := fun turns s =>
      s.world.account? number = historyAccount lib turns number) rfl ?_ hreach
  intro turns s turn reply t hbefore haccount hstep
  rw [(Reaches.tracks hbefore).step_account? hstep number,
    historyAccount_append_singleton, haccount]

end Turns

/-- In a process too, with the receive calls of its thread. -/
theorem process_accounts (lib : Library) {actions : List Action} {p : Process}
    (hreach : (processMachine lib).Reaches actions p) (number : Nat) :
    (p.world.heap.clients[number]?).map Client.account =
      historyAccount lib (actions.flatMap Action.turns) number :=
  Reaches.account?_eq (Reaches.threaded hreach) number

namespace CallLogWitness

def alice : JID := ⟨"alice", "example.org", "phone"⟩

/-- A listener is set up again while its thread receives.  A session that the
first client announces after that is taken over with a call on the second, and
so is the next receive call; an error thrown there ends the loop. -/
def moved : List Turn :=
  [.outside (.setup "carol" "example.org" false), .enters 0 true,
    .callsBack 0 0 .onConnect, .connectReturns 0 true,
    .callsBack 0 0 (.handleMessageSession alice),
    .outside (.send alice "one" ""),
    .outside (.setup "carol" "example.net" false),
    .callsBack 0 0 (.handleMessageSession alice),
    .outside (.send alice "two" ""), .recvReturns 0 .connNoError,
    .callsBack 0 1 (.onDisconnect .connIoError)]

end CallLogWitness

end CinderXmpp
