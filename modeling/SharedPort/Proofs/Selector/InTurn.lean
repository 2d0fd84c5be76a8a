import SharedPort.Proofs.Selector.Ledger

/-! A selector whose callers come one after another, while connections arrive, consumers accept and close their
listeners, and serve calls run. What it has registered, and its answer to the next call, is in the ledger of the calls
before. -/
namespace SharedPort.Selector

inductive Act
  | call (c : Call)
  | beside (e : State.Event)

namespace State

/- What can happen between two calls. The one close that comes from no caller is that of a serve call whose source has
failed; after any other close it finds the flag set. -/
def isBeside (s : State) : Event → Bool
  | .register _ | .registerDefault | .unregister _ | .unregisterDefault | .beginClose | .closeStep _ => false
  | .serveStep i =>
      match s.serves[i]? with
      | some (.closing .swapping _) => s.closed
      | some (.closing stage _) => stage = .returned
      | _ => true
  | .beginListenerClose _ | .listenerCloseStep _ | .beginServe | .accepted .. | .acceptFailed .. | .cancelServe _
  | .workerRead .. | .workerTimeout _ | .workerStep _ | .beginAccept _ | .acceptStep _ | .cancelAccept _
  | .advance _ => true

def act (s : State) : Act → State
  | .call c => s.perform c
  | .beside e => s.apply e

def acts (s : State) (as : List Act) : State := as.foldl act s

def admits : State → List Act → Bool
  | _, [] => true
  | s, a :: rest =>
      (match a with
        | .call _ => true
        | .beside e => s.isBeside e) && admits (s.act a) rest

def bookings (s : State) : Act → List Booking
  | .call c => (s.booking c).toList
  | .beside _ => []

def ledger : State → List Act → List Booking
  | _, [] => []
  | s, a :: rest => s.bookings a ++ ledger (s.act a) rest

theorem besideServe {s : State} {i : Nat} (beside : s.isBeside (.serveStep i) = true) :
    (s.serveStep i).registry = s.registry ∧ (s.serveStep i).closed = s.closed := by
  simp only [isBeside] at beside
  unfold serveStep
  cases found : s.serves[i]? with
  | none => exact ⟨rfl, rfl⟩
  | some stage =>
    rw [found] at beside
    cases stage with
    | closing stage result =>
      cases stage with
      | swapping =>
        have isClosed : s.closed = true := beside
        simp only [closeAdvance, if_pos isClosed]
        exact ⟨rfl, rfl⟩
      | returned => exact ⟨rfl, rfl⟩
      | signalling | taking | closingSource | draining | closing | ringing => simp at beside
    | taking | checking | looping | aborting =>
      dsimp only
      split <;> exact ⟨rfl, rfl⟩
    | withoutSource | subscribing | closingSource | returned | cancelled => exact ⟨rfl, rfl⟩

theorem besideKeeps {s : State} {e : Event} (beside : s.isBeside e = true) :
    (s.apply e).registry = s.registry ∧ (s.apply e).closed = s.closed := by
  cases closing : e.isClosing with
  | true =>
    cases e with
    | serveStep i => exact besideServe beside
    | closeStep => cases beside
    | _ => cases closing
  | false =>
    have kept := untouched (s := s) closing
    refine ⟨kept.registry ?_, kept.closed⟩
    cases e <;> first | rfl | cases beside

theorem bookedAct {log : List Booking} {s : State} {a : Act} {rest : List Act} (booked : Booked log s)
    (admitted : s.admits (a :: rest) = true) :
    Booked (log ++ s.bookings a) (s.act a) ∧ (s.act a).admits rest = true := by
  obtain ⟨fits, onward⟩ := Bool.and_eq_true_iff.mp admitted
  refine ⟨?_, onward⟩
  cases a with
  | call c => exact bookedPerforms booked (performs booked.empty c)
  | beside e =>
    obtain ⟨registry, closed⟩ := besideKeeps fits
    rw [bookings, List.append_nil]
    exact ⟨registry ▸ booked.books, closed ▸ booked.closed, fun shut => registry ▸ booked.empty (closed ▸ shut)⟩

theorem bookedActs {log : List Booking} {s : State} (booked : Booked log s) {as : List Act}
    (admitted : s.admits as = true) : Booked (log ++ s.ledger as) (s.acts as) := by
  induction as generalizing s log with
  | nil => exact (List.append_nil log).symm ▸ booked
  | cons a rest ih =>
    obtain ⟨next, onward⟩ := bookedAct booked admitted
    have later := ih next onward
    rw [List.append_assoc] at later
    exact later

theorem bookedCreated {setup : Setup} {s : State} (made : create setup = .ok s) : Booked [] s := by
  obtain ⟨rfl, _⟩ := created made
  exact ⟨⟨rfl, List.nodup_nil, by simp [standing]⟩, by simp, fun _ => rfl⟩

theorem actsRun (s : State) (as : List Act) : ∃ events, s.acts as = s.run events := by
  induction as generalizing s with
  | nil => exact ⟨[], rfl⟩
  | cons a rest ih =>
    obtain ⟨events, later⟩ := ih (s.act a)
    cases a with
    | call c => exact ⟨s.eventsOf c ++ events, later.trans (runAppend ..).symm⟩
    | beside e => exact ⟨e :: events, later⟩

structure Answers (setup : Setup) (log : List Booking) (t : State) : Prop where
  register : ∀ key, (t.register key).1 =
    match setup.validateKey key with
    | .error e => .error e
    | .ok () =>
        if .closed ∈ log then .error .selectorClosed
        else if key ∈ liveKeys log then .error (.duplicateKey (Utf8.decodeLossy key))
        else .ok t.listeners.length
  registerDefault : t.registerDefault.1 =
    if .closed ∈ log then .error .selectorClosed
    else if .registeredDefault ∈ standing log then .error .duplicateDefault
    else .ok t.listeners.length
  unregister : ∀ key, (t.unregister key).1 =
    if key ∈ liveKeys log then .ok () else .error (.unknownKey (Utf8.decodeLossy key))
  unregisterDefault : t.unregisterDefault.1 = decide (.registeredDefault ∈ standing log)

theorem answers {setup : Setup} {log : List Booking} {t : State} (booked : Booked log t) (same : t.setup = setup) :
    Answers setup log t := by
  refine ⟨fun key => ?_, ?_, fun key => ?_, ?_⟩
  · rw [registerAnswers, same]
    simp only [booked.closed, booked.books.keys]
    cases setup.validateKey key with
    | error e => rfl
    | ok =>
      dsimp only
      split
      · rfl
      · split <;> rfl
  · rw [registerDefaultAnswers]
    simp only [booked.closed, booked.books.unmatched]
    split
    · rfl
    · split <;> rfl
  · unfold unregister
    rw [← booked.books.keys]
    by_cases present : key ∈ t.registry.keys
    · obtain ⟨l, rest, removed⟩ := Registry.removePresent present
      rw [removed, if_pos present]
    · rw [Registry.removeUnknown.mpr present, if_neg present]
  · have stands := booked.books.unmatched
    unfold unregisterDefault Registry.takeDefault
    cases found : t.registry.unmatched with
    | none => simpa [found] using stands
    | some l => simpa [found] using stands

/- What a call as a whole makes of `s`: nothing at all if it is refused, and what it takes out of the registry is shut by it,
and nothing else. When it has returned, nothing of it goes on. -/
structure Whole (s t : State) (c : Call) : Prop where
  refused : s.booking c = none → t = s
  shut : ∀ l, t.isShut l = true ↔ s.isShut l = true ∨ l ∈ s.removedBy c
  closes : ∃ more, t.closes = s.closes ++ more ∧ ∀ stage ∈ more, stage = .returned
  each : ∃ more, t.listenerCloses = s.listenerCloses ++ more ∧ ∀ call ∈ more, ∃ wasOpen, call.stage = .returned wasOpen

theorem removedPresent {s : State} (order : InOrder s) {c : Call} {l : Nat} (removed : l ∈ s.removedBy c) :
    l < s.listeners.length := by
  refine inOrderPresent order ?_
  cases c with
  | register | registerDefault => cases removed
  | unregister key =>
    obtain ⟨entry, found, rfl⟩ := Option.map_eq_some_iff.mp (Option.mem_toList.mp removed)
    exact List.mem_append_left _ (List.mem_map.mpr ⟨entry, List.mem_of_find?_eq_some found, rfl⟩)
  | unregisterDefault => exact List.mem_append_right _ removed
  | close => exact removed

theorem wholeLeaves {s t : State} {c : Call} {registry : Registry} {closed : Bool} {ls : List Nat} (order : InOrder s)
    (booked : s.booking c = none → t = s) (removed : s.removedBy c = ls) (leaves : Leaves s t registry closed ls) :
    Whole s t c := by
  refine ⟨booked, fun l => ?_, leaves.closes, leaves.each⟩
  rw [leaves.shut, removed]
  exact or_congr_right (and_iff_left_of_imp fun member => removedPresent order (removed ▸ member))

theorem wholePerforms {s t : State} {c : Call} {booking : Option Booking} (order : InOrder s)
    (performs : Performs s t c booking) (booked : s.booking c = booking) : Whole s t c := by
  cases performs with
  | refused same removes =>
    subst same
    exact ⟨fun _ => rfl, fun l => by simp [removes], ⟨[], by simp⟩, [], by simp⟩
  | registered isOpen fresh leaves | registeredDefault isOpen free leaves =>
    exact wholeLeaves order (by simp [booked]) rfl leaves
  | unregistered found leaves | unregisteredDefault found leaves =>
    exact wholeLeaves order (by simp [booked]) found leaves
  | closed leaves => exact wholeLeaves order (by simp [booked]) rfl leaves

structure InTurn (setup : Setup) (log : List Booking) (t : State) : Prop where
  keys : t.registry.keys = liveKeys log
  once : t.registry.keys.Nodup
  unmatched : t.registry.unmatched.isSome = true ↔ .registeredDefault ∈ standing log
  closed : t.closed = true ↔ .closed ∈ log
  empty : .closed ∈ log → t.registry = {}
  order : InOrder t
  answers : Answers setup log t
  whole : ∀ c, Whole t (t.perform c) c

theorem callsInTurn {setup : Setup} {s₀ : State} (made : create setup = .ok s₀) {acts : List Act}
    (admitted : s₀.admits acts = true) : InTurn setup (s₀.ledger acts) (s₀.acts acts) := by
  have booked : Booked (s₀.ledger acts) (s₀.acts acts) := bookedActs (bookedCreated made) admitted
  obtain ⟨events, run⟩ := actsRun s₀ acts
  have order : InOrder (s₀.acts acts) := run ▸ inOrderRun (inOrderCreated made) events
  have setup : (s₀.acts acts).setup = setup := by
    obtain ⟨rfl, _⟩ := created made
    rw [run, setupRun]
  exact ⟨booked.books.keys, booked.books.once, booked.books.unmatched, booked.closed,
    fun ended => booked.empty (booked.closed.mpr ended), order, answers booked setup,
    fun c => wholePerforms order (performs booked.empty c) rfl⟩

/- A consumer closes its listener, which stays registered. Its key is taken out and registered again, now behind the other
one; a call with a key that is taken, one with an unknown key and one with a key that is too long are refused. -/
def pairActs : List Act :=
  [.call (.register [65]), .call (.register [66]), .beside (.beginListenerClose 0), .beside (.listenerCloseStep 0),
    .beside (.listenerCloseStep 0), .call (.register [65]), .call (.unregister [65]), .call (.unregister [65]),
    .call .registerDefault, .call (.register [65]), .call (.register [65, 66, 67])]

theorem pairInTurn :
    create pairSetup = .ok { setup := pairSetup } ∧ admits { setup := pairSetup } pairActs = true ∧
      ledger { setup := pairSetup } pairActs =
        [.registered [65], .registered [66], .unregistered [65], .registeredDefault, .registered [65]] ∧
      liveKeys (ledger { setup := pairSetup } pairActs) = [[66], [65]] ∧
      InTurn pairSetup (ledger { setup := pairSetup } pairActs) (acts { setup := pairSetup } pairActs) ∧
      InTurn pairSetup (ledger { setup := pairSetup } (pairActs ++ [.call .close]))
        (acts { setup := pairSetup } (pairActs ++ [.call .close])) := by
  have made : create pairSetup = .ok { setup := pairSetup } := rfl
  have admitted : admits { setup := pairSetup } pairActs = true := by decide
  exact ⟨made, admitted, by decide, by decide, callsInTurn made admitted, callsInTurn made (by decide)⟩

end State
end SharedPort.Selector
