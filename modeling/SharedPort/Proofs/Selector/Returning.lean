import SharedPort.Proofs.Selector.Afterwards
import SharedPort.Proofs.Selector.Callers

/-! What a call of close or serve promises when it returns. Only the close that set the flag shuts the listeners; the
others return at once, and what they leave open that one still has on its list. -/
namespace SharedPort.Selector

def CloseStage.isMidway : CloseStage → Bool
  | .swapping | .returned => false
  | .signalling | .taking | .closingSource | .draining | .closing _ | .ringing .. => true

theorem CloseStage.drainingMidway {stage : CloseStage} (draining : stage.isDraining = true) : stage.isMidway = true := by
  cases stage with
  | signalling | taking | closingSource | draining => rfl
  | swapping | closing | ringing | returned => cases draining

theorem CloseStage.leftMidway {stage : CloseStage} {l : Nat} (member : l ∈ stage.left) : stage.isMidway = true := by
  cases stage with
  | closing | ringing => rfl
  | swapping | signalling | taking | closingSource | draining | returned => cases member

namespace State

def Midway (s : State) (k : Closer) : Prop := ∃ stage, s.closeAt k = some stage ∧ stage.isMidway = true

theorem closesIff {s : State} {stage : CloseStage} : s.Closes stage ↔ ∃ k, s.closeAt k = some stage := by
  constructor
  · rintro (member | ⟨result, member⟩)
    · obtain ⟨i, found⟩ := List.getElem?_of_mem member
      exact ⟨.close i, found⟩
    · obtain ⟨i, found⟩ := List.getElem?_of_mem member
      exact ⟨.serve i, by simp [closeAt, found, ServeStage.close?]⟩
  · rintro ⟨k, found⟩
    cases k with
    | close i => exact .inl (List.mem_of_getElem? found)
    | serve i =>
      obtain ⟨stage, present, closing⟩ := Option.bind_eq_some_iff.mp found
      cases stage with
      | closing x result =>
        cases closing
        exact .inr ⟨result, List.mem_of_getElem? present⟩
      | _ => cases closing

theorem advanceMidway {s : State} {stage : CloseStage} (midway : (s.closeAdvance stage).1.isMidway = true) :
    stage.isMidway = true ∨ stage = .swapping ∧ s.closed = false := by
  cases stage with
  | swapping =>
    cases closed : s.closed with
    | true => simp [closeAdvance, closed, CloseStage.isMidway] at midway
    | false => exact .inr ⟨rfl, rfl⟩
  | returned => cases midway
  | signalling | taking | closingSource | draining | closing | ringing => exact .inl rfl

structure Sole (s : State) : Prop where
  one : ∀ j k, s.Midway j → s.Midway k → j = k
  aborting : ∀ result, .aborting result ∈ s.serves → s.closed = true

theorem midwayClosed {s : State} {k : Closer} (closable : Closable s) (midway : s.Midway k) : s.closed = true := by
  obtain ⟨stage, here, isMidway⟩ := midway
  refine closable.begun stage (closesIff.mpr ⟨k, here⟩) ?_
  rintro rfl
  cases isMidway

theorem midwayBefore {s t : State} {j : Closer}
    (moves : CallerMove s t ∨ t.closes = s.closes ∧ t.serves = s.serves) (midway : t.Midway j) :
    s.Midway j ∨ s.closed = false ∧ ∀ k, t.Midway k → s.Midway k ∨ k = j := by
  obtain ⟨k, move, others⟩ := stageMoves moves
  have elsewhere {i : Closer} (other : i ≠ k) (midway : t.Midway i) : s.Midway i := by
    rwa [Midway, others i other] at midway
  by_cases own : j = k
  · subst j
    obtain ⟨stage, here, isMidway⟩ := midway
    rw [here] at move
    generalize before : s.closeAt k = x at move
    cases move with
    | still => exact .inl ⟨stage, before, isMidway⟩
    | began => cases isMidway
    | @went old =>
      rcases advanceMidway isMidway with going | ⟨_, isOpen⟩
      · exact .inl ⟨old, before, going⟩
      · refine .inr ⟨isOpen, fun i midway => ?_⟩
        by_cases same : i = k
        · exact .inr same
        · exact .inl (elsewhere same midway)
  · exact .inl (elsewhere own midway)

theorem soleApply {s : State} (closable : Closable s) (sole : Sole s) (e : Event) : Sole (s.apply e) := by
  have moves := callerMoves s e
  refine ⟨fun j k first second => ?_, fun result member => ?_⟩
  · rcases midwayBefore moves first with before | ⟨isOpen, alone⟩
    · rcases midwayBefore moves second with also | ⟨isOpen, _⟩
      · exact sole.one j k before also
      · cases isOpen.symm.trans (midwayClosed closable before)
    · rcases alone k second with before | same
      · cases isOpen.symm.trans (midwayClosed closable before)
      · exact same.symm
  · refine closedStays (closerMove s e) ?_
    obtain ⟨i, found⟩ := List.getElem?_of_mem member
    rcases serveMoves moves found with taking | ⟨stage, before, rfl | ⟨u, move⟩⟩
    · cases taking
    · exact sole.aborting result (List.mem_of_getElem? before)
    · cases move with
      | aside _ early => cases early
      | ended => exact closable.begun .returned (.inr ⟨result, List.mem_of_getElem? before⟩) (by simp)

theorem soleRun {s : State} (closable : Closable s) (sole : Sole s) (events : List Event) : Sole (s.run events) := by
  induction events generalizing s with
  | nil => exact sole
  | cons e rest ih => exact ih (closableMove closable (closerMove s e)) (soleApply closable sole e)

theorem soleCreated {setup : Setup} {s : State} (made : create setup = .ok s) : Sole s := by
  obtain ⟨rfl, _⟩ := created made
  refine ⟨?_, by simp⟩
  rintro (i | i) k ⟨stage, here, _⟩ <;> simp [closeAt] at here

theorem noneMidway {s : State} (closed : s.closed = true) (none : ∀ k, ¬ s.Midway k) (more : List Event) :
    ∀ k, ¬ (s.run more).Midway k := by
  induction more generalizing s with
  | nil => exact none
  | cons e rest ih =>
    refine ih (closedStays (closerMove s e) closed) fun k midway => ?_
    rcases midwayBefore (callerMoves s e) midway with before | ⟨isOpen, _⟩
    · exact none k before
    · cases isOpen.symm.trans closed

/- The one close that is midway will shut `l`, or a call that unregistered it will. -/
inductive Pending (s : State) (l : Nat) : Prop where
  | registered {k stage} (here : s.closeAt k = some stage) (draining : stage.isDraining = true)
      (member : l ∈ s.registry.listeners)
  | listed {k stage} (here : s.closeAt k = some stage) (member : l ∈ stage.left)
  | unregistered (call : ⟨l, .closing⟩ ∈ s.listenerCloses)

structure ShutForGood (s : State) (l : Nat) : Prop where
  shut : ∀ more, (s.run more).isShut l = true
  unqueued : ∀ more e i p, ¬ Enters (s.run more) e i p l
  unparked : ∀ more e call, ((s.run more).apply e).Parked l call → (s.run more).Parked l call

theorem ticketedRun {s : State} {l : Nat} (present : l < s.listeners.length) (ticketed : Ticketed s l)
    (events : List Event) : Ticketed (s.run events) l := by
  induction events generalizing s with
  | nil => exact ticketed
  | cons e rest ih =>
    exact ih (Nat.lt_of_lt_of_le present (lengthApply s e)) (ticketedMove ticketed (listenerMove present e))

theorem shutForGood {s : State} {l : Nat} (ticketed : Ticketed s l) (shut : s.isShut l = true) : ShutForGood s l := by
  have present : l < s.listeners.length := by
    by_contra beyond
    simp [isShut, List.getElem?_eq_none (Nat.le_of_not_lt beyond)] at shut
  have still (more : List Event) : (s.run more).isShut l = true := (keptRun s more).shut shut
  refine ⟨still, fun more e i p enters => ?_, fun more e call parked => ?_⟩
  · obtain ⟨L, target, isOpen, _⟩ := (entersEntry enters).room
    have shut := still more
    simp [isShut, target, isOpen] at shut
  · have move := listenerMove (Nat.lt_of_lt_of_le present (lengthRun s more)) e
    rcases parkedMove (ticketedRun present ticketed more) move parked with before | ⟨_, isOpen⟩
    · exact before
    · cases isOpen.symm.trans (still more)

theorem shutOrPending {s : State} {l : Nat} (closable : Closable s) (closed : s.closed = true)
    (present : l < s.listeners.length) : s.isShut l = true ∨ Pending s l := by
  rcases closable.owed l present with shut | registered | pending | ⟨stage, closes, member⟩
  · exact .inl shut
  · rcases closable.drained closed with empty | ⟨stage, closes, draining⟩
    · simp [empty, Registry.listeners] at registered
    · obtain ⟨k, here⟩ := closesIff.mp closes
      exact .inr (.registered here draining registered)
  · exact .inr (.unregistered pending)
  · obtain ⟨k, here⟩ := closesIff.mp closes
    exact .inr (.listed here member)

theorem pendingMidway {s : State} {l : Nat} (none : ∀ k, ¬ s.Midway k) (pending : Pending s l) :
    ⟨l, .closing⟩ ∈ s.listenerCloses := by
  cases pending with
  | registered here draining => exact (none _ ⟨_, here, CloseStage.drainingMidway draining⟩).elim
  | listed here member => exact (none _ ⟨_, here, CloseStage.leftMidway member⟩).elim
  | unregistered call => exact call

def served : List Event :=
  [.register [65], .beginServe, .serveStep 0, .serveStep 0, .serveStep 0, .beginClose, .closeStep 0, .closeStep 0,
    .serveStep 0, .serveStep 0, .serveStep 0, .serveStep 0]

end State
end SharedPort.Selector
