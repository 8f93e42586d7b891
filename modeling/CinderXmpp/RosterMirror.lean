/-
The peers against the roster that gloox keeps.  gloox's roster also follows the
pushes `handleItemAdded` and `handleItemRemoved`; the listener's overrides of
these are empty, so the peers follow full rosters only.
-/
import CinderXmpp.RosterHistory

namespace CinderXmpp

open Gloox History

/-- The bare JIDs on gloox's roster after a callback. -/
def glooxRosterStep (roster : Finset JID) : Event → Finset JID
  | .callback _ (.handleRoster full) =>
      (full.items.map RosterItem.jidJID).toFinset
  | .callback _ (.handleItemAdded jid) => insert jid.bareJID roster
  | .callback _ (.handleItemRemoved jid) => roster.erase jid.bareJID
  | _ => roster

/-- The bare JIDs on gloox's roster after a history. -/
def glooxRoster (events : List Event) : Finset JID :=
  events.foldl glooxRosterStep ∅

@[simp] theorem glooxRoster_nil : glooxRoster [] = ∅ := rfl

@[simp] theorem glooxRoster_append_singleton (events : List Event)
    (event : Event) :
    glooxRoster (events ++ [event]) =
      glooxRosterStep (glooxRoster events) event := by
  simp [glooxRoster]

/-- The usernames on gloox's roster. -/
def glooxUsernames (events : List Event) : Finset String :=
  (glooxRoster events).image JID.username

/-- The keys of `mRoster` are the usernames on gloox's roster. -/
def MirrorsRoster (events : List Event) (world : World) : Prop :=
  Finmap.keys world.client.mRoster = glooxUsernames events

/-- The JID a push adds to the roster. -/
def Event.added? : Event → Option JID
  | .callback _ (.handleItemAdded jid) => some jid.bareJID
  | _ => none

/-- Pushes that change which contacts are on the roster. -/
def Event.isPush : Event → Bool
  | .callback _ (.handleItemAdded _) => true
  | .callback _ (.handleItemRemoved _) => true
  | _ => false

/-- The bare JIDs that pushes have added since the last full roster. -/
def addedSince (events : List Event) : List JID :=
  (sinceRoster events).filterMap Event.added?

theorem sinceRoster_append_singleton (events : List Event) (event : Event) :
    sinceRoster (events ++ [event]) =
      if event.roster?.isSome then [] else sinceRoster events ++ [event] :=
  since_append_singleton _ events event

theorem addedSince_append_singleton (events : List Event) (event : Event) :
    addedSince (events ++ [event]) =
      if event.roster?.isSome then []
      else addedSince events ++ event.added?.toList := by
  unfold addedSince
  rw [sinceRoster_append_singleton]
  cases event.roster?.isSome with
  | true => rfl
  | false =>
      cases hadded : event.added? <;> simp [List.filterMap_append, hadded]

theorem usernames_eq_image (roster : Roster) :
    ((roster.items.map RosterItem.jidJID).toFinset).image JID.username =
      roster.usernames.toFinset := by
  ext name
  simp [Roster.usernames]

/-- Without a push since the last full roster, gloox's roster is that one. -/
theorem glooxUsernames_eq_of_no_push (events : List Event)
    (hpush : ∀ event ∈ sinceRoster events, event.isPush = false) :
    glooxUsernames events = (lastUsernames events).toFinset := by
  induction events using List.reverseRecOn with
  | nil => rfl
  | append_singleton pre event ih =>
      rw [sinceRoster_append_singleton] at hpush
      rw [lastUsernames_append_singleton]
      unfold glooxUsernames at ih ⊢
      rw [glooxRoster_append_singleton]
      cases hroster : event.roster? with
      | some roster =>
          cases event with
          | callback client cb =>
              cases cb with
              | handleRoster full =>
                  obtain rfl := Option.some.inj hroster
                  exact usernames_eq_image full
              | _ => cases hroster
          | _ => cases hroster
      | none =>
          simp only [hroster, Option.isSome_none, Bool.false_eq_true,
            ↓reduceIte, List.mem_append, List.mem_singleton] at hpush
          have hsame : glooxRosterStep (glooxRoster pre) event =
              glooxRoster pre := by
            have hevent := hpush event (.inr rfl)
            cases event with
            | callback client cb =>
                cases cb <;> first
                  | rfl
                  | (cases hevent; done)
                  | cases hroster
            | _ => rfl
          rw [hsame]
          exact ih fun earlier hearlier => hpush earlier (.inl hearlier)

/-- A contact on gloox's roster came with the last full roster or with a push
since. -/
theorem mem_glooxRoster_cases {events : List Event} {jid : JID}
    (hjid : jid ∈ glooxRoster events) :
    jid.username ∈ lastUsernames events ∨ jid ∈ addedSince events := by
  induction events using List.reverseRecOn with
  | nil => simp at hjid
  | append_singleton pre event ih =>
      rw [lastUsernames_append_singleton, addedSince_append_singleton]
      rw [glooxRoster_append_singleton] at hjid
      have hkept : ∀ {late : List JID}, jid ∈ glooxRoster pre →
          jid.username ∈ lastUsernames pre ∨ jid ∈ addedSince pre ++ late := by
        intro late hold
        rcases ih hold with hlast | hadded
        · exact .inl hlast
        · exact .inr (List.mem_append_left late hadded)
      cases event with
      | callback client cb =>
          cases cb with
          | handleRoster full =>
              simp only [glooxRosterStep, List.mem_toFinset,
                List.mem_map] at hjid
              obtain ⟨item, hitem, rfl⟩ := hjid
              exact .inl (List.mem_map_of_mem hitem)
          | handleItemAdded added =>
              simp only [glooxRosterStep, Finset.mem_insert] at hjid
              rcases hjid with rfl | hold
              · exact .inr (List.mem_append_right _ List.mem_cons_self)
              · exact hkept hold
          | handleItemRemoved removed =>
              simp only [glooxRosterStep, Finset.mem_erase] at hjid
              exact hkept hjid.2
          | _ => exact hkept hjid
      | _ => exact hkept hjid

/-- The peers follow full rosters: after any run the keys of `mRoster` are the
usernames of the last `handleRoster` argument.  They are those of gloox's
roster exactly when the pushes since have left its usernames as they were, in
particular when there was no push. -/
theorem mRoster_follows_full_rosters (lib : Library) (events : List Event)
    (world : World) (hreach : (clientMachine lib).Reaches events world) :
    Finmap.keys world.client.mRoster = (lastUsernames events).toFinset ∧
      (MirrorsRoster events world ↔
        glooxUsernames events = (lastUsernames events).toFinset) ∧
      ((∀ event ∈ sinceRoster events, event.isPush = false) →
        MirrorsRoster events world) := by
  have hkeys := Reaches.keys_mRoster hreach
  refine ⟨hkeys, ?_, ?_⟩
  · unfold MirrorsRoster
    rw [hkeys]
    exact eq_comm
  · intro hpush
    unfold MirrorsRoster
    rw [hkeys]
    exact (glooxUsernames_eq_of_no_push events hpush).symm

/-! The lookup of a presence event. -/

/-- gloox reports presence only for contacts that are on its roster. -/
def GlooxPresence (pre : List Event) (event : Event) : Prop :=
  ∀ item ∈ event.presenceItem?, item.jidJID ∈ glooxRoster pre

instance (pre : List Event) (event : Event) :
    Decidable (GlooxPresence pre event) :=
  inferInstanceAs (Decidable (∀ item ∈ event.presenceItem?, _))

/-- A contact that a push has added since the last full roster shares its
username with a contact of that roster. -/
def AddedKnown (pre : List Event) (event : Event) : Prop :=
  ∀ item ∈ event.presenceItem?, item.jidJID ∈ addedSince pre →
    item.jidJID.username ∈ lastUsernames pre

instance (pre : List Event) (event : Event) :
    Decidable (AddedKnown pre event) :=
  inferInstanceAs (Decidable (∀ item ∈ event.presenceItem?, _ → _))

theorem knownPresence_iff_addedKnown {pre : List Event} {event : Event}
    (hgloox : GlooxPresence pre event) :
    KnownPresence pre event ↔ AddedKnown pre event := by
  constructor
  · intro hknown item hitem _
    exact hknown item hitem
  · intro hadded item hitem
    rcases mem_glooxRoster_cases (hgloox item hitem) with hlast | hpushed
    · exact hlast
    · exact hadded item hitem hpushed

/-- An orderly run dereferences `end()` exactly when one of its presence events
is for a username that is not in the last roster. -/
theorem run_ne_derefEnd_iff (lib : Library) {events : List Event}
    (horderly : Guarded Orderly events) :
    (clientMachine lib).run events ≠ .error (.undefined .derefEnd) ↔
      Guarded KnownPresence events := by
  constructor
  · intro hrun
    induction events using List.reverseRecOn with
    | nil => exact guarded_nil _
    | append_singleton pre event ih =>
        obtain ⟨hpre, _⟩ := guarded_append_singleton.mp horderly
        have hinit : pre <+: pre ++ [event] := List.prefix_append _ _
        have hearlier : Guarded KnownPresence pre := by
          apply ih hpre
          intro hfault
          apply hrun
          obtain ⟨first, faulty, world, hfirst, hreach, hstep⟩ :=
            Machine.run_eq_error_iff.mp hfault
          exact Machine.run_eq_error_iff.mpr
            ⟨first, faulty, world, hfirst.trans hinit, hreach, hstep⟩
        refine guarded_append_singleton.mpr ⟨hearlier, ?_⟩
        obtain ⟨world, hreach⟩ := exists_reaches_of_orderly lib hpre hearlier
        intro item hitem
        by_contra hunknown
        apply hrun
        apply Machine.run_eq_error_iff.mpr
        refine ⟨pre, event, world, List.prefix_refl _, hreach, ?_⟩
        cases event with
        | callback client cb =>
            cases cb with
            | handleRosterPresence about resource presence msg =>
                obtain rfl := Option.some.inj hitem
                exact (Reaches.step_presence_error_iff hreach client _ resource
                  presence msg).mpr hunknown
            | _ => cases hitem
        | _ => cases hitem
  · intro hknown hfault
    obtain ⟨world, hreach⟩ := exists_reaches_of_orderly lib horderly hknown
    rw [Machine.Reaches] at hreach
    rw [hreach] at hfault
    cases hfault

/-- Among the runs that keep gloox's promise, a presence lookup never fails
exactly in those where every contact that a push has added since the last full
roster, and that reports presence, shares its username with a contact of that
roster. -/
theorem presence_lookup_succeeds_iff (lib : Library) (events : List Event)
    (horderly : Guarded Orderly events)
    (hgloox : Guarded GlooxPresence events) :
    (clientMachine lib).run events ≠ .error (.undefined .derefEnd) ↔
      Guarded AddedKnown events := by
  rw [run_ne_derefEnd_iff lib horderly]
  constructor
  · intro hknown pre event hinit
    exact (knownPresence_iff_addedKnown (hgloox pre event hinit)).mp
      (hknown pre event hinit)
  · intro hadded pre event hinit
    exact (knownPresence_iff_addedKnown (hgloox pre event hinit)).mpr
      (hadded pre event hinit)

namespace RosterMirrorWitness

def alice : RosterItem := .ofJID ⟨"alice", "example.org", ""⟩

def bob : RosterItem := .ofJID ⟨"bob", "example.org", ""⟩

/-- A contact is added to a roster that has one contact, and that one is
removed. -/
def pushes : List Event :=
  [.callback 0 (.handleRoster ⟨[alice], by decide⟩),
    .callback 0 (.handleItemAdded bob.jidJID),
    .callback 0 (.handleItemRemoved alice.jidJID)]

theorem mRoster_follows_full_rosters_pushes :
    ∃ world, (clientMachine .documented).Reaches pushes world ∧
      Finmap.keys world.client.mRoster = {"alice"} := by
  refine ⟨_, rfl, ?_⟩
  exact (mRoster_follows_full_rosters .documented pushes _ rfl).1.trans
    (by decide)

/-- The added contact is missing and the removed one is still there. -/
theorem mirrorsRoster_fails_pushes :
    ∃ world, (clientMachine .documented).Reaches pushes world ∧
      glooxUsernames pushes = {"bob"} ∧
      "bob" ∉ world.client.mRoster ∧ "alice" ∈ world.client.mRoster ∧
      ¬ MirrorsRoster pushes world := by
  refine ⟨_, rfl, by decide, by decide, by decide, ?_⟩
  unfold MirrorsRoster
  decide

/-- A contact is added by a push and then comes online. -/
def addedOnline : List Event :=
  [.connect "carol" "example.org",
    .callback 0 (.handleRoster ⟨[alice], by decide⟩),
    .callback 0 (.handleItemAdded bob.jidJID),
    .callback 0 (.handleRosterPresence bob "phone" .available "")]

theorem presence_lookup_fails_addedOnline :
    Guarded Orderly addedOnline ∧ Guarded GlooxPresence addedOnline ∧
      (clientMachine .documented).run addedOnline =
        .error (.undefined .derefEnd) :=
  ⟨by decide, by decide, rfl⟩

/-- The same push, but the contact that comes online was on the full roster. -/
def knownOnline : List Event :=
  [.connect "carol" "example.org",
    .callback 0 (.handleRoster ⟨[alice], by decide⟩),
    .callback 0 (.handleItemAdded bob.jidJID),
    .callback 0 (.handleRosterPresence alice "phone" .available "")]

theorem presence_lookup_succeeds_iff_knownOnline :
    (clientMachine .documented).run knownOnline ≠
      .error (.undefined .derefEnd) :=
  (presence_lookup_succeeds_iff .documented knownOnline (by decide)
    (by decide)).mpr (by decide)

end RosterMirrorWitness

end CinderXmpp
