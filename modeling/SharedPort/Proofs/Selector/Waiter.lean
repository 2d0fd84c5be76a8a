import SharedPort.Proofs.Selector.Unclosed

/-! A listener at which no more than one accept call waits. How far that call has come says which ticket it holds, and a
call that sleeps through its own ticket leaves nothing in the queue that nobody rings for. -/
namespace SharedPort.Selector
open SharedPort.Listener (Bell Ticket)

/- How far an accept call has come, with its ticket while it holds one. -/
inductive Waiter
  | begun
  | entering
  | looking (ticket : Ticket)
  | sleeping (ticket : Ticket)
  | leaving (routed : Routed) (ticket : Ticket)
  | returned (routed : Routed)

namespace Waiter

def stage : Waiter → AcceptStage
  | .begun => .begun
  | .entering => .entering
  | .looking _ => .looking
  | .sleeping _ => .sleeping
  | .leaving routed _ => .leaving (.ok routed)
  | .returned routed => .returned (.ok routed)

def ticket : Waiter → Option Ticket
  | .looking ticket | .sleeping ticket | .leaving _ ticket => some ticket
  | .begun | .entering | .returned _ => none

def rung : Ticket → Ticket
  | .waiting => .woken
  | other => other

def ring : Waiter → Waiter
  | .looking ticket => .looking (rung ticket)
  | .sleeping ticket => .sleeping (rung ticket)
  | .leaving routed ticket => .leaving routed (rung ticket)
  | other => other

def result : Waiter → Option Routed
  | .leaving routed _ | .returned routed => some routed
  | _ => none

theorem stageRing (x : Waiter) : x.ring.stage = x.stage := by cases x <;> rfl

end Waiter

namespace State

def tickets (s : State) (l : Nat) : List (Nat × Ticket) := ((s.listeners[l]?).map (·.bell.tickets)).getD []

theorem ticketsOfListener {s : State} {l : Nat} {L : Listener Routed} (found : s.listeners[l]? = some L) :
    s.tickets l = L.bell.tickets := by simp only [tickets, found, Option.map_some, Option.getD_some]

theorem ticketsSetBell {s : State} {i : Nat} {L : Listener Routed} (found : s.listeners[i]? = some L)
    (change : Bell → Bell) (l : Nat) :
    (s.setListener i fun L => { L with bell := change L.bell }).tickets l =
      if l = i then (change L.bell).tickets else s.tickets l := by
  simp only [tickets, setListener, List.getElem?_modify]
  by_cases same : l = i
  · subst l
    simp [found]
  · have other : i ≠ l := fun h => same h.symm
    simp only [if_neg other, if_neg same]
    cases s.listeners[l]? <;> rfl

theorem ticketsSetQueue (s : State) (i : Nat) (queue : Listener.Queue Routed) (l : Nat) :
    (s.setListener i ({ · with queue })).tickets l = s.tickets l := by
  simp only [tickets, setListener, List.getElem?_modify]
  by_cases same : i = l
  · simp only [same, if_true]
    cases s.listeners[l]? <;> rfl
  · simp only [same, if_false]
    cases s.listeners[l]? <;> rfl

theorem ticketsRing (b : Bell) : b.ringOne.tickets = (Bell.wakeFirst b.tickets).getD b.tickets := by
  unfold Bell.ringOne
  cases Bell.wakeFirst b.tickets <;> rfl

def hold (call : Nat) (x : Waiter) : List (Nat × Ticket) := (x.ticket.map fun t => (call, t)).toList

theorem wakeHold (call : Nat) (x : Waiter) :
    (Bell.wakeFirst (hold call x)).getD (hold call x) = hold call x.ring := by
  cases x with
  | looking t | sleeping t | leaving _ t => cases t <;> rfl
  | begun | entering | returned => rfl

inductive WaiterAt (s : State) (l : Nat) : Option Nat → Option Waiter → Prop where
  | idle (tickets : s.tickets l = []) : WaiterAt s l none none
  | waits {call x} (found : s.accepts[call]? = some ⟨l, x.stage⟩) (tickets : s.tickets l = hold call x) :
      WaiterAt s l (some call) (some x)

theorem holdUnique {call : Nat} {x y : Waiter} (stage : x.stage = y.stage) (held : hold call x = hold call y) :
    x = y := by
  cases x <;> cases y <;> cases stage <;> first | rfl | (cases held; rfl)

theorem WaiterAt.unique {s : State} {l : Nat} {waiting : Option Nat} {x y : Option Waiter}
    (first : s.WaiterAt l waiting x) (second : s.WaiterAt l waiting y) : x = y := by
  cases first with
  | idle => cases second; rfl
  | waits found held =>
    cases second with
    | waits again also =>
      have stage := congrArg Accept.stage (Option.some.inj (found.symm.trans again))
      rw [holdUnique stage (held.symm.trans also)]

theorem WaiterAt.congr {s t : State} {l : Nat} {waiting : Option Nat} {x : Option Waiter}
    (waiter : s.WaiterAt l waiting x)
    (accepts : ∀ call, waiting = some call → t.accepts[call]? = s.accepts[call]?) (tickets : t.tickets l = s.tickets l) :
    t.WaiterAt l waiting x := by
  cases waiter with
  | idle none => exact .idle (tickets.trans none)
  | waits found held => exact .waits ((accepts _ rfl).trans found) (tickets.trans held)

theorem WaiterAt.ring {s t : State} {l : Nat} {waiting : Option Nat} {x : Option Waiter} (waiter : s.WaiterAt l waiting x)
    (accepts : t.accepts = s.accepts) (tickets : t.tickets l = (Bell.wakeFirst (s.tickets l)).getD (s.tickets l)) :
    t.WaiterAt l waiting (x.map Waiter.ring) := by
  cases waiter with
  | idle none =>
    rw [none] at tickets
    exact .idle tickets
  | @waits call x found held =>
    rw [held, wakeHold] at tickets
    exact .waits (by rw [accepts, found, Waiter.stageRing]) tickets

inductive WaiterMove (s t : State) (l : Nat) : Waiter → Waiter → Prop where
  | entered {x ticket} (before : x = .begun ∨ x = .entering) (same : t.waiting l = s.waiting l) :
      WaiterMove s t l x (.looking ticket)
  | popped {routed ticket} (waits : s.waiting l = routed :: t.waiting l) :
      WaiterMove s t l (.looking ticket) (.leaving routed ticket)
  | slept {ticket} (drained : s.waiting l = []) (same : t.waiting l = s.waiting l) :
      WaiterMove s t l (.looking ticket) (.sleeping ticket)
  | woken {ticket} (awake : ticket ≠ .waiting) (same : t.waiting l = s.waiting l) :
      WaiterMove s t l (.sleeping ticket) .entering
  | sleeps (same : t.waiting l = s.waiting l) : WaiterMove s t l (.sleeping .waiting) (.sleeping .waiting)
  | left {routed ticket} (same : t.waiting l = s.waiting l) :
      WaiterMove s t l (.leaving routed ticket) (.returned routed)
  | stays {routed} (same : t.waiting l = s.waiting l) : WaiterMove s t l (.returned routed) (.returned routed)

structure Elsewhere (s t : State) (call l : Nat) : Prop where
  accepts : ∀ other, other ≠ call → t.accepts[other]? = s.accepts[other]?
  tickets : ∀ k, k ≠ l → t.tickets k = s.tickets k
  waiting : ∀ k, k ≠ l → t.waiting k = s.waiting k

theorem elsewhereBell {s : State} {call l : Nat} {a : Accept} {L : Listener Routed} (present : s.accepts[call]? = some a)
    (found : s.listeners[l]? = some L) (change : Bell → Bell) (stage : AcceptStage) :
    Elsewhere s ((s.setListener l fun L => { L with bell := change L.bell }).setAccept call stage) call l := by
  refine ⟨fun other different => ?_, fun k different => ?_, fun k _ => ?_⟩
  · exact (acceptsSetAccept present stage other).trans (if_neg different)
  · exact (ticketsSetBell found change k).trans (if_neg different)
  · exact (quietSetBell s l change).waiting k

theorem elsewhereStage {s : State} {call : Nat} {a : Accept} (present : s.accepts[call]? = some a) (l : Nat)
    (stage : AcceptStage) : Elsewhere s (s.setAccept call stage) call l :=
  ⟨fun other different => (acceptsSetAccept present stage other).trans (if_neg different), fun _ _ => rfl,
    fun _ _ => rfl⟩

theorem discardHold (call : Nat) (x : Waiter) : (hold call x).filter (fun entry => entry.1 ≠ call) = [] := by
  cases x <;> simp [hold, Waiter.ticket]

theorem leaveTickets (b : Bell) {call : Nat} {x : Waiter} (held : b.tickets = hold call x) :
    (b.leave call).tickets = [] := by
  have discarded : (b.discard call).tickets = [] := by
    simp only [Bell.discard, held, discardHold]
  unfold Bell.leave
  split
  · rw [ticketsRing, discarded]
    rfl
  · exact discarded

theorem takeTickets (b : Bell) (call : Nat) (empty : b.tickets = []) :
    ∃ ticket, (b.take call).tickets = [(call, ticket)] := by
  simp only [Bell.take, empty, List.nil_append]
  exact ⟨_, rfl⟩

theorem isAwakeHold (b : Bell) {call : Nat} {t : Ticket} (held : b.tickets = [(call, t)]) :
    b.isAwake call = decide (t ≠ .waiting) := by
  simp [Bell.isAwake, Bell.ticket?, held]

/- The call's own step moves it on, changes its tickets alone and touches no other queue. -/
theorem waiterStep {s : State} {l call : Nat} {x : Waiter} (unclosed : s.Unclosed)
    (waiter : s.WaiterAt l (some call) (some x)) (present : l < s.listeners.length) :
    ∃ y, (s.acceptStep call).WaiterAt l (some call) (some y) ∧ WaiterMove s (s.acceptStep call) l x y ∧
      Elsewhere s (s.acceptStep call) call l := by
  obtain ⟨L, found⟩ : ∃ L, s.listeners[l]? = some L := ⟨_, List.getElem?_eq_getElem present⟩
  have isOpen := unclosed.queues L (List.mem_of_getElem? found)
  cases waiter with
  | waits here held =>
    rw [ticketsOfListener found] at held
    have belled : ∀ (change : Bell → Bell) (y : Waiter), (change L.bell).tickets = hold call y →
        ((s.setListener l fun L => { L with bell := change L.bell }).setAccept call y.stage).WaiterAt l (some call)
          (some y) := by
      intro change y tickets
      exact .waits ((acceptsSetAccept here _ call).trans (if_pos rfl))
        (((ticketsSetBell found change l).trans (if_pos rfl)).trans tickets)
    have bellOnly : ∀ (change : Bell → Bell) (stage : AcceptStage),
        ((s.setListener l fun L => { L with bell := change L.bell }).setAccept call stage).waiting l = s.waiting l :=
      fun change _ => (quietSetBell s l change).waiting l
    have entered : x.stage = .begun ∨ x.stage = .entering → hold call x = [] → x = .begun ∨ x = .entering →
        s.acceptStep call = (s.takeTicket call l).setAccept call .looking →
        ∃ y, (s.acceptStep call).WaiterAt l (some call) (some y) ∧ WaiterMove s (s.acceptStep call) l x y ∧
          Elsewhere s (s.acceptStep call) call l := by
      intro _ empty before step
      obtain ⟨ticket, took⟩ := takeTickets L.bell call (held.trans empty)
      rw [step]
      exact ⟨.looking ticket, belled (Bell.take call) (.looking ticket) took, .entered before (bellOnly _ _),
        elsewhereBell here found _ _⟩
    cases x with
    | begun => exact entered (.inl rfl) rfl (.inl rfl) (by simp only [acceptStep, here, Waiter.stage])
    | entering => exact entered (.inr rfl) rfl (.inr rfl) (by simp only [acceptStep, here, Waiter.stage])
    | looking ticket =>
      simp only [acceptStep, here, Waiter.stage, found, Listener.Queue.pop]
      cases items : L.queue.items with
      | nil =>
        simp only [isOpen, Bool.false_eq_true, if_false]
        refine ⟨.sleeping ticket, .waits ((acceptsSetAccept here _ call).trans (if_pos rfl)) ?_, .slept ?_ rfl, ?_⟩
        · exact (ticketsOfListener found).trans held
        · exact (waitingOfListener found).trans items
        · exact elsewhereStage here l _
      | cons routed rest =>
        refine ⟨.leaving routed ticket, .waits ((acceptsSetAccept here _ call).trans (if_pos rfl)) ?_, .popped ?_, ?_⟩
        · exact ((ticketsSetQueue s l _ l).trans (ticketsOfListener found)).trans held
        · have shrunk := (waitingSetQueue found { L.queue with items := rest } l).trans (if_pos rfl)
          rw [waitingOfListener found, items]
          exact congrArg _ shrunk.symm
        · refine ⟨fun other different => ?_, fun k _ => ticketsSetQueue s l _ k, fun k different => ?_⟩
          · exact (acceptsSetAccept here _ other).trans (if_neg different)
          · exact (waitingSetQueue found _ k).trans (if_neg different)
    | sleeping ticket =>
      have awake := isAwakeHold L.bell held
      simp only [acceptStep, here, Waiter.stage, found, Option.any_some, awake, decide_eq_true_eq]
      by_cases waits : ticket = .waiting
      · subst ticket
        rw [if_neg fun h => h rfl]
        exact ⟨.sleeping .waiting, .waits here ((ticketsOfListener found).trans held), .sleeps rfl,
          ⟨fun _ _ => rfl, fun _ _ => rfl, fun _ _ => rfl⟩⟩
      · rw [if_pos waits]
        refine ⟨.entering, belled (Bell.pass call) .entering ?_, .woken waits (bellOnly _ _),
          elsewhereBell here found _ _⟩
        simp only [Bell.pass, Bell.discard, held]
        exact discardHold call (.sleeping ticket)
    | leaving routed ticket =>
      simp only [acceptStep, here, Waiter.stage]
      exact ⟨.returned routed, belled (Bell.leave call) (.returned routed) (leaveTickets L.bell held),
        .left (bellOnly _ _), elsewhereBell here found _ _⟩
    | returned routed =>
      simp only [acceptStep, here, Waiter.stage]
      exact ⟨.returned routed, .waits here ((ticketsOfListener found).trans held), .stays rfl,
        ⟨fun _ _ => rfl, fun _ _ => rfl, fun _ _ => rfl⟩⟩

theorem waiterCancel {s : State} {l call : Nat} {x : Waiter} (waiter : s.WaiterAt l (some call) (some x))
    (present : l < s.listeners.length) (rests : s.canCancelAccept call = true) :
    (s.cancelAccept call).WaiterAt l none none ∧ (x = .begun ∨ ∃ ticket, x = .sleeping ticket) ∧
      (∀ k, (s.cancelAccept call).waiting k = s.waiting k) ∧ Elsewhere s (s.cancelAccept call) call l := by
  obtain ⟨L, found⟩ : ∃ L, s.listeners[l]? = some L := ⟨_, List.getElem?_eq_getElem present⟩
  have same := fun k => waitingCancelAccept s call k
  cases waiter with
  | waits here held =>
    cases x with
    | begun =>
      simp only [cancelAccept, here, Waiter.stage] at same ⊢
      exact ⟨.idle held, .inl trivial, same, elsewhereStage here l _⟩
    | sleeping ticket =>
      rw [ticketsOfListener found] at held
      simp only [cancelAccept, here, Waiter.stage] at same ⊢
      refine ⟨.idle ?_, .inr ⟨ticket, rfl⟩, same, elsewhereBell here found _ _⟩
      exact ((ticketsSetBell found _ l).trans (if_pos rfl)).trans (leaveTickets L.bell held)
    | entering | looking | leaving | returned =>
      simp only [canCancelAccept, here, Waiter.stage] at rests
      cases rests

theorem ticketsRung {s : State} {i l : Nat} {w : Worker} (worker : s.workers[i]? = some w)
    (stage : w.stage = .ringing l) : (s.workerStep i).tickets l = (Bell.wakeFirst (s.tickets l)).getD (s.tickets l) := by
  obtain ⟨arrival, owner, deadline, _⟩ := w
  cases stage
  simp only [workerStep, worker]
  cases found : s.listeners[l]? with
  | none =>
    have absent : s.tickets l = [] := by simp only [tickets, found, Option.map_none, Option.getD_none]
    rw [absent]
    simp [tickets, settle, setWorker, ringOne, setListener, found, Bell.wakeFirst]
  | some L =>
    rw [ticketsOfListener found, ← ticketsRing]
    exact (ticketsSetBell found Bell.ringOne l).trans (if_pos rfl)

theorem ticketsWorkerStep (s : State) (i k : Nat) :
    (s.workerStep i).tickets k = s.tickets k ∨ ∃ w, s.workers[i]? = some w ∧ w.stage = .ringing k := by
  cases worker : s.workers[i]? with
  | none =>
    rw [noWorkerStep worker]
    exact .inl rfl
  | some w =>
    obtain ⟨arrival, owner, deadline, stage⟩ := w
    cases stage with
    | peeking | settled =>
      have step : s.workerStep i = s := by simp only [workerStep, worker]
      rw [step]
      exact .inl rfl
    | peeked header =>
      simp only [workerStep, worker]
      split <;> exact .inl rfl
    | found header l =>
      simp only [workerStep, worker, deliver]
      split
      · exact .inl rfl
      · split
        · exact .inl (ticketsSetQueue s l _ k)
        · exact .inl rfl
    | ringing l =>
      by_cases same : k = l
      · subst k
        exact .inr ⟨_, rfl, rfl⟩
      · left
        have different : ¬ l = k := fun h => same h.symm
        simp only [workerStep, worker, tickets, settle, setWorker, ringOne, setListener, List.getElem?_modify,
          if_neg different]
        cases s.listeners[k]? <;> rfl

end State
end SharedPort.Selector
