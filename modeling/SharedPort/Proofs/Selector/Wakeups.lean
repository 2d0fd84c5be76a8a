import Mathlib.Data.List.Induction
import SharedPort.Proofs.Selector.Callers
import SharedPort.Proofs.Selector.Routing
import SharedPort.Proofs.Selector.TicketHolders

/-! No wake-up is lost. While somebody is parked at a listener, there are at least as many notifications under way as
connections wait in its queue: workers that still have to ring, calls that were rung for, and calls that were woken and
look again. -/
namespace SharedPort.Selector
open SharedPort.Listener (Bell Ticket)

inductive Notification
  | ring (worker : Nat)
  | rung (call : Nat)
  | back (call : Nat)
  deriving DecidableEq

namespace State

/- `resumed` tells which calls were woken before. -/
def UnderWay (s : State) (l : Nat) (resumed : Nat → Prop) : Notification → Prop
  | .ring i => s.Rings l i
  | .rung call => (call, .woken) ∈ (s.bell l).tickets
  | .back call => resumed call ∧ (s.stageAt l call = some .entering ∨ s.stageAt l call = some .looking)

def Covered (s : State) (l : Nat) (resumed : Nat → Prop) : Prop :=
  ∃ notifications : List Notification, notifications.Nodup ∧ (∀ e ∈ notifications, s.UnderWay l resumed e) ∧
    (s.waiting l).length ≤ notifications.length

section Covering
variable {s t : State} {l : Nat} {before after : Nat → Prop}

theorem coveredEmpty (drained : t.waiting l = []) : Covered t l after := ⟨[], by simp [drained]⟩

theorem Covered.keep (covered : Covered s l before) (keeps : ∀ e, s.UnderWay l before e → t.UnderWay l after e)
    (same : t.waiting l = s.waiting l) : Covered t l after := by
  obtain ⟨notifications, distinct, underWay, enough⟩ := covered
  exact ⟨notifications, distinct, fun e member => keeps e (underWay e member), same ▸ enough⟩

theorem Covered.gain (covered : Covered s l before) (new : Notification)
    (keeps : ∀ e, s.UnderWay l before e → t.UnderWay l after e) (fresh : ¬ s.UnderWay l before new)
    (added : t.UnderWay l after new)
    (grown : (t.waiting l).length = (s.waiting l).length + 1) : Covered t l after := by
  obtain ⟨notifications, distinct, underWay, enough⟩ := covered
  refine ⟨new :: notifications, distinct.cons fun member => fresh (underWay new member), ?_, by simp; omega⟩
  simp only [List.mem_cons, forall_eq_or_imp]
  exact ⟨added, fun e member => keeps e (underWay e member)⟩

theorem Covered.lose (covered : Covered s l before) (old : Notification)
    (keeps : ∀ e, s.UnderWay l before e → e ≠ old → t.UnderWay l after e)
    (shrunk : (s.waiting l).length = (t.waiting l).length + 1) : Covered t l after := by
  obtain ⟨notifications, distinct, underWay, enough⟩ := covered
  refine ⟨notifications.erase old, distinct.erase old, fun e member => ?_, ?_⟩
  · obtain ⟨other, member⟩ := distinct.mem_erase_iff.mp member
    exact keeps e (underWay e member) other
  · have := List.le_length_erase (a := old) (l := notifications)
    omega

theorem Covered.swap (covered : Covered s l before) (old new : Notification)
    (keeps : ∀ e, s.UnderWay l before e → e ≠ old → t.UnderWay l after e) (fresh : ¬ s.UnderWay l before new)
    (added : t.UnderWay l after new) (same : t.waiting l = s.waiting l) : Covered t l after := by
  obtain ⟨notifications, distinct, underWay, enough⟩ := covered
  refine ⟨new :: notifications.erase old, (distinct.erase old).cons fun member => ?_, ?_, ?_⟩
  · exact fresh (underWay new (List.mem_of_mem_erase member))
  · simp only [List.mem_cons, forall_eq_or_imp]
    refine ⟨added, fun e member => ?_⟩
    obtain ⟨other, member⟩ := distinct.mem_erase_iff.mp member
    exact keeps e (underWay e member) other
  · have := List.le_length_erase (a := old) (l := notifications)
    simp only [same, List.length_cons]
    omega

theorem underWayStep {e : Notification} (underWay : s.UnderWay l before e) (grows : ∀ call, before call → after call)
    (rings : ∀ i, e = .ring i → s.Rings l i → t.Rings l i)
    (rung : ∀ call, e = .rung call → (call, .woken) ∈ (s.bell l).tickets → (call, .woken) ∈ (t.bell l).tickets)
    (calls : ∀ call stage, e = .back call → s.stageAt l call = some stage → stage = .entering ∨ stage = .looking →
      t.stageAt l call = some .entering ∨ t.stageAt l call = some .looking) : t.UnderWay l after e := by
  cases e with
  | ring i => exact rings i rfl underWay
  | rung call => exact rung call rfl underWay
  | back call =>
    obtain ⟨woken, enters | looks⟩ := underWay
    · exact ⟨grows call woken, calls call _ rfl enters (.inl rfl)⟩
    · exact ⟨grows call woken, calls call _ rfl looks (.inr rfl)⟩

end Covering

section Moves
variable {s t : State} {l : Nat} {before after : Nat → Prop}

theorem coveredRing {b : Bell} (old : Notification) (ticketed : Ticketed s l) (next : Ticketed t l)
    (bell : t.bell l = b.ringOne)
    (subset : ∀ {call u}, (call, u) ∈ b.tickets → (call, u) ∈ (s.bell l).tickets)
    (rest : ∀ e, s.UnderWay l before e → e ≠ old →
      (∀ call, e = .rung call → (call, .woken) ∈ b.tickets → (call, .woken) ∈ (t.bell l).tickets) → t.UnderWay l after e)
    (same : t.waiting l = s.waiting l) (parked : ∃ call, t.Parked l call) (covered : Covered s l before) :
    Covered t l after := by
  obtain ⟨call, parked⟩ := parked
  have waits := (next.parked.mp parked).2
  cases Bell.ringMove b with
  | kept nobody tickets =>
    rw [bell, tickets] at waits
    exact (nobody _ waits rfl).elim
  | @woke holder waited woken others =>
    have fresh : ¬ s.UnderWay l before (.rung holder) := fun already =>
      Ticket.noConfusion (Bell.oneTicket ticketed.distinct (subset waited) already)
    have rung : t.UnderWay l after (.rung holder) := by simpa only [UnderWay, bell] using woken
    refine covered.swap old (.rung holder) (fun e underWay other => rest e underWay other fun c _ member => ?_)
      fresh rung same
    rw [bell]
    by_cases here : c = holder
    · exact here ▸ woken
    · exact (others here).mpr member

theorem coveredCall {call : Nat} {x y : AcceptStage} (ticketed : Ticketed s l) (ticketedNext : Ticketed t l)
    (found : s.stageAt l call = some x) (next : t.stageAt l call = some y)
    (others : ∀ other, other ≠ call → t.stageAt l other = s.stageAt l other) (ringers : ∀ i, t.Rings l i ↔ s.Rings l i)
    (move : CallMove s t l call x y) (grows : ∀ call, before call → after call)
    (back : t.stageAt l call = some .entering → after call) (parked : ∃ other, t.Parked l other)
    (covered : Covered s l before) : Covered t l after := by
  have keeps {e : Notification} (underWay : s.UnderWay l before e)
      (rung : ∀ other, e = .rung other → (other, .woken) ∈ (s.bell l).tickets → (other, .woken) ∈ (t.bell l).tickets)
      (own : e = .back call → x = .entering ∨ x = .looking → y = .entering ∨ y = .looking) : t.UnderWay l after e := by
    refine underWayStep underWay grows (fun i _ => (ringers i).mpr) rung fun other stage same here outside => ?_
    by_cases mine : other = call
    · subst other
      cases Option.some.inj (found.symm.trans here)
      simpa [next] using own same outside
    · rw [others other mine, here]
      simpa using outside
  have left (bell : t.bell l = (s.bell l).leave call) (same : t.waiting l = s.waiting l)
      (resting : ¬ (x = .entering ∨ x = .looking)) : Covered t l after := by
    unfold Bell.leave at bell
    split at bell
    · refine coveredRing (.rung call) ticketed ticketedNext bell (fun member => (Bell.memDiscard.mp member).1)
        (fun e underWay other woken => keeps underWay (fun c ringing member => ?_) fun _ h => (resting h).elim)
        same parked covered
      exact woken c ringing (Bell.memDiscard.mpr ⟨member, fun own => other (own ▸ ringing)⟩)
    · rename_i unrung
      refine covered.keep (fun e underWay => keeps underWay (fun c _ member => ?_) fun _ h => (resting h).elim) same
      rw [bell, Bell.memDiscard]
      refine ⟨member, fun own => unrung ?_⟩
      exact own ▸ Bell.ticketOfMem ticketed.distinct member
  cases move with
  | entered _ bell same =>
    refine covered.keep (fun e underWay => keeps underWay (fun c _ member => ?_) (by simp)) same
    simp [bell, Bell.take, member]
  | popped bell waits =>
    refine covered.lose (.back call) (fun e underWay other => ?_) (by simp [waits])
    exact keeps underWay (fun c _ member => bell ▸ member) fun own => (other own).elim
  | ended _ drained same => exact coveredEmpty (same.trans drained)
  | slept _ drained same => exact coveredEmpty (same.trans drained)
  | woken _ bell same =>
    refine covered.swap (.rung call) (.back call) (fun e underWay other => ?_) ?_ ⟨back next, .inl next⟩ same
    · refine keeps underWay (fun c ringing member => ?_) (by simp)
      rw [bell, Bell.memDiscard]
      exact ⟨member, fun own => other (own ▸ ringing)⟩
    · simp [UnderWay, found]
  | returned bell same => exact left bell same (by simp)
  | cancelled bell same => exact left bell same (by simp)
  | dropped bell same =>
    exact covered.keep (fun e underWay => keeps underWay (fun c _ member => bell ▸ member) (by simp)) same

theorem coveredMove (ticketed : Ticketed s l) (move : ListenerMove s t l) (grows : ∀ call, before call → after call)
    (back : ∀ call, t.stageAt l call = some .entering → after call)
    (covered : (∃ call, s.Parked l call) → Covered s l before) (parked : ∃ call, t.Parked l call) :
      Covered t l after := by
  have ticketedNext := ticketedMove ticketed move
  obtain ⟨sleeper, sleeps⟩ := parked
  rcases parkedMove ticketed move sleeps with before | ⟨drained, _⟩
  swap
  · exact coveredEmpty drained
  have covered := covered ⟨sleeper, before⟩
  have staying (calls : ∀ call, t.stageAt l call = s.stageAt l call) {e : Notification} (underWay : s.UnderWay l _ e)
      (rings : ∀ i, e = .ring i → s.Rings l i → t.Rings l i)
      (rung : ∀ call, e = .rung call → (call, .woken) ∈ (s.bell l).tickets → (call, .woken) ∈ (t.bell l).tickets) :
      t.UnderWay l after e :=
    underWayStep underWay grows rings rung fun call stage _ here outside => by
      rw [calls, here]
      simpa using outside
  cases move with
  | still aside bell =>
    exact covered.keep (fun e underWay => staying aside.calls underWay (fun i _ => (aside.ringers i).mpr)
      fun c _ member => bell ▸ member) aside.waiting
  | rungAll _ bell =>
    have waits := (ticketedNext.parked.mp sleeps).2
    exact (Bell.ringAllWakes (bell ▸ waits) rfl).elim
  | @began new bell waiting begun others fresh ringers =>
    refine covered.keep (fun e underWay => underWayStep underWay grows (fun i _ => (ringers i).mpr)
      (fun c _ member => bell ▸ member) fun call stage _ here outside => ?_) waiting
    have other : call ≠ new := by
      rintro rfl
      simp [fresh] at here
    rw [others call other, here]
    simpa using outside
  | @pushed i bell grown calls rings fresh others =>
    refine covered.gain (.ring i) (fun e underWay => staying calls underWay (fun j _ ringing => ?_)
      fun c _ member => bell ▸ member) fresh rings grown
    by_cases own : j = i
    · exact own ▸ rings
    · exact (others j own).mpr ringing
  | @rung i bell waiting calls others =>
    refine coveredRing (.ring i) ticketed ticketedNext bell id (fun e underWay other woken => ?_) waiting
      ⟨sleeper, sleeps⟩ covered
    refine staying calls underWay (fun j same ringing => ?_) woken
    exact (others j fun own => other (own ▸ same)).mpr ringing
  | called found next others ringers move =>
    exact coveredCall ticketed ticketedNext found next others ringers move grows (back _) ⟨sleeper, sleeps⟩ covered

end Moves

structure Wakeful (s : State) (l : Nat) (resumed : Nat → Prop) : Prop where
  ticketed : Ticketed s l
  covered : (∃ call, s.Parked l call) → Covered s l resumed
  shut : s.isShut l = true → s.RingsAll l ∨ ∀ call, ¬ s.Parked l call

theorem wakefulMove {s t : State} {l : Nat} {before after : Nat → Prop} (wakeful : Wakeful s l before)
    (move : ListenerMove s t l) (closer : CloserMove s t) (grows : ∀ call, before call → after call)
    (back : ∀ call, t.stageAt l call = some .entering → after call) : Wakeful t l after := by
  have ticketed := ticketedMove wakeful.ticketed move
  refine ⟨ticketed, coveredMove wakeful.ticketed move grows back wakeful.covered, fun shut => ?_⟩
  rcases shutMove closer shut with already | owed
  · rcases wakeful.shut already with owed | nobody
    · refine (ringsAllMove closer owed).imp_right fun rung call parked => ?_
      have waits := (ticketed.parked.mp parked).2
      exact Bell.ringAllWakes (rung ▸ waits) rfl
    · right
      intro call parked
      rcases parkedMove wakeful.ticketed move parked with before | ⟨_, isOpen⟩
      · exact nobody call before
      · simp [already] at isOpen
  · exact .inl owed

theorem wakefulIdle {s : State} {l : Nat} {resumed : Nat → Prop} (silent : s.bell l = {}) (isOpen : s.isShut l = false)
    (nobody : ∀ call, s.stageAt l call = none) : Wakeful s l resumed := by
  refine ⟨⟨by simp [silent, Bell.holders], ?_, by simp [silent, Bell.Fair]⟩, ?_, by simp [isOpen]⟩
  · simp [silent, Bell.holders, nobody]
  · simp [Parked, nobody]

def Resumed (s : State) (events : List Event) (l call : Nat) : Prop :=
  ∃ before, before <+: events ∧ (s.run before).stageAt l call = some .entering

theorem resumedMore {s : State} {events : List Event} {l call : Nat} (e : Event) (resumed : Resumed s events l call) :
    Resumed s (events ++ [e]) l call := by
  obtain ⟨before, early, enters⟩ := resumed
  exact ⟨before, early.trans (List.prefix_append events [e]), enters⟩

theorem freshListener {s : State} {l : Nat} (absent : s.listeners.length ≤ l) (e : Event) :
    (s.apply e).bell l = {} ∧ (s.apply e).isShut l = false := by
  rcases listenersNew absent e with still | ⟨key, added⟩
  · simp [bell, isShut, still]
  · simp [bell, isShut, added, newListener]

theorem silentAt {s : State} {l : Nat} (elsewhere : l ∉ s.accepts.map Accept.listener) (call : Nat) :
    s.stageAt l call = none := by
  cases here : s.stageAt l call with
  | none => rfl
  | some stage =>
    have member := List.mem_of_getElem? (stageAtSome.mp here)
    exact (elsewhere (List.mem_map.mpr ⟨_, member, rfl⟩)).elim

theorem wakefulRun {setup : Setup} {s₀ : State} (made : create setup = .ok s₀) {events : List Event}
    (handled : Handled s₀ events) (l : Nat) : Wakeful (s₀.run events) l (Resumed s₀ events l) := by
  obtain ⟨rfl, _⟩ := created made
  induction events using List.reverseRecOn with
  | nil => exact wakefulIdle rfl rfl (silentAt (List.not_mem_nil))
  | append_singleton events e ih =>
    have earlier := (handledAppend.mp handled).1
    rw [runSnoc]
    by_cases present : l < (run { setup } events).listeners.length
    · refine wakefulMove (ih earlier) (listenerMove present e) (closerMove _ e) (fun _ => resumedMore e)
        fun call enters => ?_
      exact ⟨events ++ [e], List.prefix_refl _, by rwa [runSnoc]⟩
    · have absent := Nat.le_of_not_lt present
      obtain ⟨silent, isOpen⟩ := freshListener absent e
      refine wakefulIdle silent isOpen (silentAt fun member => ?_)
      rw [callsMade, List.mem_append] at member
      rcases member with old | new
      · exact present (callsPresent (s := { setup }) (by simp) earlier l old)
      · cases e with
        | beginAccept k =>
          obtain rfl := List.mem_singleton.mp new
          exact present (handledLast handled)
        | _ => exact (List.not_mem_nil new).elim

def Woken (s : State) (events : List Event) (l call : Nat) : Prop :=
  Resumed s events l call ∨ (call, .woken) ∈ ((s.run events).bell l).tickets ∨
    (call, .wokenWithAll) ∈ ((s.run events).bell l).tickets

/- No push or close of `l` is midway, and every call that was woken has returned, was cancelled, or is parked again. -/
structure Calm (s : State) (events : List Event) (l : Nat) : Prop where
  pushed : ∀ i, ¬ (s.run events).Rings l i
  closed : ¬ (s.run events).RingsAll l
  woken : ∀ call, Woken s events l call → (s.run events).Parked l call ∨
    (∃ result, (s.run events).stageAt l call = some (.returned result)) ∨ (s.run events).stageAt l call = some .cancelled

theorem noLostWakeup {setup : Setup} {s₀ : State} (made : create setup = .ok s₀) {events : List Event}
    (handled : Handled s₀ events) {l : Nat} (calm : Calm s₀ events l)
    (ready : (s₀.run events).waiting l ≠ [] ∨ (s₀.run events).isShut l = true) (call : Nat) :
    ¬ (s₀.run events).Parked l call := by
  intro parked
  have wakeful := wakefulRun made handled l
  rcases ready with waits | shut
  · obtain ⟨notifications, _, underWay, enough⟩ := wakeful.covered ⟨call, parked⟩
    cases notifications with
    | nil => exact waits (List.length_eq_zero_iff.mp (Nat.le_zero.mp enough))
    | cons notification rest =>
      cases notification with
      | ring i => exact calm.pushed i (underWay _ List.mem_cons_self)
      | rung other =>
        have woken : (other, .woken) ∈ ((s₀.run events).bell l).tickets := underWay _ List.mem_cons_self
        have held := (wakeful.ticketed.holders other).mp (Bell.memHolders.mpr ⟨_, woken⟩)
        rcases calm.woken other (.inr (.inl woken)) with asleep | ⟨result, returned⟩ | cancelled
        · have waits := (wakeful.ticketed.parked.mp asleep).2
          exact Ticket.noConfusion (Bell.oneTicket wakeful.ticketed.distinct waits woken)
        · simp [returned, AcceptStage.holdsTicket] at held
        · simp [cancelled, AcceptStage.holdsTicket] at held
      | back other =>
        obtain ⟨resumed, stage⟩ := underWay _ List.mem_cons_self
        rcases calm.woken other (.inl resumed) with ⟨asleep, _⟩ | ⟨result, returned⟩ | cancelled
        · simp [asleep] at stage
        · simp [returned] at stage
        · simp [cancelled] at stage
  · rcases wakeful.shut shut with owed | nobody
    · exact calm.closed owed
    · exact nobody call parked

/- Two calls are parked when a connection arrives. The call that is woken is cancelled, so that the other one takes the
connection; the next connection waits for whoever calls next. -/
def handedOn : List Event :=
  [.register [65], .beginAccept 0, .acceptStep 0, .acceptStep 0, .beginAccept 0, .acceptStep 1, .acceptStep 1] ++
    pairRun.drop 2 ++
    [.workerStep 0, .workerStep 0, .cancelAccept 0, .acceptStep 1, .acceptStep 1, .acceptStep 1, .acceptStep 1,
      .accepted 0 ⟨8, ⟨.v4 10 0 0 2, 5000⟩⟩, .workerRead 1 (.done [65, 66]), .workerStep 1, .workerStep 1, .workerStep 1]

theorem handedOnHandled : Handled { setup := pairSetup } handedOn := by
  have one : (run { setup := pairSetup } (handedOn.take 1)).listeners.length = 1 := by decide +kernel
  rw [← List.take_append_drop 1 handedOn]
  refine handledAppend.mpr ⟨handledPresent (by simp [handedOn]), handledPresent fun l member => ?_⟩
  rw [one]
  simpa [handedOn, pairRun] using member

theorem handedOnCalm : Calm { setup := pairSetup } handedOn 0 := by
  have workers : (run { setup := pairSetup } handedOn).workers.map Worker.stage =
      [.settled (.queued 0), .settled (.queued 0)] := by decide +kernel
  have closers : (run { setup := pairSetup } handedOn).closes = [] ∧
      (run { setup := pairSetup } handedOn).listenerCloses = [] := by decide +kernel
  have tickets : ((run { setup := pairSetup } handedOn).bell 0).tickets = [] := by decide +kernel
  have serves : (run { setup := pairSetup } handedOn).serves = [.looping 0] := rfl
  have calls : (run { setup := pairSetup } handedOn).accepts.length = 2 := by decide +kernel
  constructor
  · rintro i ⟨w, found, ringing⟩
    have member := List.mem_map.mpr ⟨w, List.mem_of_getElem? found, ringing⟩
    simp [workers] at member
  · simp [RingsAll, Closes, closers, serves]
  · intro call woken
    have made : call < 2 := by
      simp only [Woken, tickets, List.not_mem_nil, or_false] at woken
      obtain ⟨before, ⟨rest, early⟩, enters⟩ := woken
      obtain ⟨later, here⟩ := stageRun enters rest
      rw [← runAppend, early] at here
      exact calls ▸ (List.getElem?_eq_some_iff.mp (stageAtSome.mp here)).1
    rcases call with _ | _ | call
    · exact .inr (.inr rfl)
    · exact .inr (.inl ⟨.ok ⟨⟨7, [65, 66], [65, 66]⟩, ⟨.v4 10 0 0 1, 5000⟩⟩, rfl⟩)
    · omega

theorem handedOnAwake :
    create pairSetup = .ok { setup := pairSetup } ∧ ((run { setup := pairSetup } handedOn).waiting 0).length = 1 ∧
      ∀ call, ¬ (run { setup := pairSetup } handedOn).Parked 0 call := by
  have made : create pairSetup = .ok { setup := pairSetup } := rfl
  have waits : ((run { setup := pairSetup } handedOn).waiting 0).length = 1 := by decide +kernel
  exact ⟨made, waits, noLostWakeup made handedOnHandled handedOnCalm (.inl fun none => by simp [none] at waits)⟩

end State
end SharedPort.Selector
