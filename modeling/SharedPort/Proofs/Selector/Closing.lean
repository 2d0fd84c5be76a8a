import SharedPort.Proofs.Selector.Closers
import SharedPort.Proofs.Selector.Order

/-! No registration slips past a close. Every listener is shut, or still registered, or on the list of somebody who will
shut it; and once the selector is closed, the registry is empty or somebody is about to empty it. -/
namespace SharedPort.Selector

def CloseStage.left : CloseStage → List Nat
  | .closing left | .ringing _ left => left
  | .swapping | .signalling | .taking | .closingSource | .draining | .returned => []

/- A close that has set the flag and did not take the registry yet. -/
def CloseStage.isDraining : CloseStage → Bool
  | .signalling | .taking | .closingSource | .draining => true
  | .swapping | .closing _ | .ringing .. | .returned => false

namespace State

def Owed (s : State) (l : Nat) : Prop :=
  l ∈ s.registry.listeners ∨ ⟨l, .closing⟩ ∈ s.listenerCloses ∨ ∃ stage, s.Closes stage ∧ l ∈ stage.left

structure Closable (s : State) : Prop where
  owed : ∀ l, l < s.listeners.length → s.isShut l = true ∨ s.Owed l
  drained : s.closed = true → s.registry = {} ∨ ∃ stage, s.Closes stage ∧ stage.isDraining = true
  begun : ∀ stage, s.Closes stage → stage ≠ .swapping → s.closed = true

theorem closeQueueLength (s : State) (k : Nat) : (s.closeQueue k).2.listeners.length = s.listeners.length := by
  unfold closeQueue
  split <;> simp [setListener]

theorem closeQueueRegistry (s : State) (k : Nat) :
    (s.closeQueue k).2.registry = s.registry ∧ (s.closeQueue k).2.closed = s.closed := by
  unfold closeQueue
  split <;> simp [setListener]

theorem owedKeep {s t : State} {l : Nat} (owed : s.Owed l)
    (registry : l ∈ s.registry.listeners → t.isShut l = true ∨ t.Owed l)
    (each : ⟨l, .closing⟩ ∈ s.listenerCloses → t.isShut l = true ∨ t.Owed l)
    (stages : ∀ stage, s.Closes stage → l ∈ stage.left → t.isShut l = true ∨ t.Owed l) :
    t.isShut l = true ∨ t.Owed l := by
  rcases owed with registered | closing | ⟨stage, closes, member⟩
  · exact registry registered
  · exact each closing
  · exact stages stage closes member

theorem closableSame {s t : State} (closable : Closable s) (closed : t.closed = s.closed)
    (registry : t.registry = s.registry) (length : t.listeners.length = s.listeners.length)
    (shut : ∀ l, s.isShut l = true → t.isShut l = true)
    (each : ∀ l, ⟨l, .closing⟩ ∈ s.listenerCloses → l < s.listeners.length →
      t.isShut l = true ∨ ⟨l, .closing⟩ ∈ t.listenerCloses)
    (stays : ∀ stage, s.Closes stage → t.Closes stage ∨ stage.left = [] ∧ stage.isDraining = false)
    (came : ∀ stage, t.Closes stage → stage = .swapping ∨ s.Closes stage) : Closable t := by
  refine ⟨fun l present => ?_, fun isClosed => ?_, fun stage closes other => ?_⟩
  · rw [length] at present
    rcases closable.owed l present with before | owed
    · exact .inl (shut l before)
    · refine owedKeep owed (fun member => ?_) (fun member => ?_) fun stage closes member => ?_
      · exact .inr (.inl (registry ▸ member))
      · exact (each l member present).imp_right fun kept => .inr (.inl kept)
      · rcases stays stage closes with kept | ⟨none, _⟩
        · exact .inr (.inr (.inr ⟨stage, kept, member⟩))
        · simp [none] at member
  · rcases closable.drained (closed ▸ isClosed) with empty | ⟨stage, closes, draining⟩
    · exact .inl (registry.trans empty)
    · rcases stays stage closes with kept | ⟨_, done⟩
      · exact .inr ⟨stage, kept, draining⟩
      · simp [done] at draining
  · rcases came stage closes with same | before
    · exact (other same).elim
    · exact closed ▸ closable.begun stage before other

theorem closableAdvance {s t : State} {stage next : CloseStage} (closable : Closable s) (moves : Advanced s t stage next)
    (each : t.listenerCloses = s.listenerCloses) (length : t.listeners.length = s.listeners.length)
    (shut : ∀ l, s.isShut l = true → t.isShut l = true)
    (registry : ∀ l ∈ s.registry.listeners, l ∈ t.registry.listeners ∨ l ∈ next.left)
    (left : ∀ l ∈ stage.left, l < s.listeners.length → t.isShut l = true ∨ l ∈ next.left)
    (drained : t.registry = {} ∨ next.isDraining = true ∨
      t.closed = s.closed ∧ t.registry = s.registry ∧ stage.isDraining = false)
    (fresh : t.closed = true) : Closable t := by
  refine ⟨fun l present => ?_, fun isClosed => ?_, fun other _ _ => fresh⟩
  · rw [length] at present
    rcases closable.owed l present with before | owed
    · exact .inl (shut l before)
    · refine owedKeep owed (fun member => ?_) (fun member => ?_) fun other closes member => ?_
      · rcases registry l member with kept | taken
        · exact .inr (.inl kept)
        · exact .inr (.inr (.inr ⟨next, moves.has, taken⟩))
      · exact .inr (.inr (.inl (each ▸ member)))
      · rcases moves.stays other closes with rfl | kept
        · exact (left l member present).imp_right fun still => .inr (.inr ⟨next, moves.has, still⟩)
        · exact .inr (.inr (.inr ⟨other, kept, member⟩))
  · rcases drained with empty | draining | ⟨same, kept, done⟩
    · exact .inl empty
    · exact .inr ⟨next, moves.has, draining⟩
    · rcases closable.drained (same ▸ isClosed) with empty | ⟨other, closes, draining⟩
      · exact .inl (kept.trans empty)
      · rcases moves.stays other closes with rfl | remains
        · simp [done] at draining
        · exact .inr ⟨other, remains, draining⟩

theorem closableStage {s t : State} {stage next : CloseStage} (closable : Closable s) (moves : Advanced s t stage next)
    (each : t.listenerCloses = s.listenerCloses) (listeners : t.listeners = s.listeners)
    (registry : t.registry = s.registry)
    (idle : stage.left = []) (drained : next.isDraining = true ∨ t.closed = s.closed ∧ stage.isDraining = false)
    (fresh : t.closed = true) : Closable t := by
  refine closableAdvance closable moves each (congrArg List.length listeners) (fun l => (shutSame listeners l).trans)
    (fun l member => .inl (registry ▸ member)) (by simp [idle]) (.inr ?_) fresh
  exact drained.imp_right fun ⟨closed, isOver⟩ => ⟨closed, registry, isOver⟩

theorem closableAdvanced {s t : State} {stage : CloseStage} (closable : Closable s)
    (moves : Advanced s t stage (s.closeAdvance stage).1) (each : t.listenerCloses = s.listenerCloses)
    (beside : Beside (s.closeAdvance stage).2 t) : Closable t := by
  obtain ⟨closed, registry, listeners⟩ := beside
  have begun := closable.begun stage moves.had
  cases stage with
  | swapping =>
    unfold closeAdvance at moves closed registry listeners
    by_cases already : s.closed = true
    · simp only [if_pos already] at moves closed registry listeners
      exact closableStage closable moves each listeners registry rfl (.inr ⟨closed, rfl⟩) (closed.trans already)
    · simp only [if_neg already] at moves closed registry listeners
      exact closableStage closable moves each listeners registry rfl (.inl rfl) closed
  | taking =>
    have isClosed := begun (by simp)
    unfold closeAdvance at moves closed registry listeners
    by_cases parked : s.parked = true
    · simp only [if_pos parked] at moves closed registry listeners
      exact closableStage closable moves each listeners registry rfl (.inl rfl) (closed.trans isClosed)
    · simp only [if_neg parked] at moves closed registry listeners
      exact closableStage closable moves each listeners registry rfl (.inl rfl) (closed.trans isClosed)
  | signalling | closingSource =>
    exact closableStage closable moves each listeners registry rfl (.inl rfl) (closed.trans (begun (by simp)))
  | returned =>
    exact closableStage closable moves each listeners registry rfl (.inr ⟨closed, rfl⟩) (closed.trans (begun (by simp)))
  | draining =>
    exact closableAdvance closable moves each (congrArg List.length listeners) (fun l => (shutSame listeners l).trans)
      (fun l => .inr) (by simp [CloseStage.left]) (.inl registry) (closed.trans (begun (by simp)))
  | ringing k left =>
    have shut (l : Nat) : t.isShut l = s.isShut l := (shutSame listeners l).trans (shutRingAll s k l)
    exact closableAdvance closable moves each ((congrArg List.length listeners).trans (List.length_modify _ _ _))
      (fun l => (shut l).trans) (fun l member => .inl (registry ▸ member)) (fun l member _ => .inr member)
      (.inr (.inr ⟨closed, registry, rfl⟩)) (closed.trans (begun (by simp)))
  | closing left =>
    cases left with
    | nil =>
      exact closableStage closable moves each listeners registry rfl (.inr ⟨closed, rfl⟩) (closed.trans (begun (by simp)))
    | cons k left =>
      obtain ⟨sameRegistry, sameClosed⟩ := closeQueueRegistry s k
      have kept := registry.trans sameRegistry
      have still := closed.trans sameClosed
      have shut (l : Nat) : t.isShut l = true ↔ s.isShut l = true ∨ l = k ∧ l < s.listeners.length := by
        rw [shutSame listeners]
        exact shutCloseQueue s k l
      have next : (s.closeAdvance (.closing (k :: left))).1.left = left := by
        unfold closeAdvance
        dsimp only
        split <;> rfl
      refine closableAdvance closable moves each ((congrArg List.length listeners).trans (closeQueueLength s k))
        (fun l before => (shut l).mpr (.inl before)) (fun l member => .inl (kept ▸ member)) (fun l member present => ?_)
        (.inr (.inr ⟨still, kept, rfl⟩)) (still.trans (begun (by simp)))
      rw [next, shut]
      rcases List.mem_cons.mp member with here | later
      · exact .inl (.inr ⟨here, present⟩)
      · exact .inr later

theorem closableMove {s t : State} (closable : Closable s) (move : CloserMove s t) : Closable t := by
  cases move with
  | aside stages each closed registry length shut =>
    exact closableSame closable closed registry length (fun l => (shut l).trans) (fun l member _ => .inr (each ▸ member))
      (fun stage closes => .inl ((stages stage).mpr closes)) fun stage closes => .inr ((stages stage).mp closes)
  | began stages each beside =>
    exact closableSame closable beside.closed beside.registry (congrArg List.length beside.listeners)
      (fun l => (shutSame beside.listeners l).trans) (fun l member _ => .inr (each ▸ member))
      (fun stage closes => .inl ((stages stage).mpr (.inr closes))) fun stage closes => (stages stage).mp closes
  | ended had came stays each beside =>
    refine closableSame closable beside.closed beside.registry (congrArg List.length beside.listeners)
      (fun l => (shutSame beside.listeners l).trans) (fun l member _ => .inr (each ▸ member)) (fun stage closes => ?_)
      fun stage closes => .inr (came stage closes)
    rcases stays stage closes with rfl | kept
    · exact .inr ⟨rfl, rfl⟩
    · exact .inl kept
  | @shutOne k stages rings each beside =>
    obtain ⟨registry, closed⟩ := closeQueueRegistry s k
    have shut (l : Nat) : t.isShut l = true ↔ s.isShut l = true ∨ l = k ∧ l < s.listeners.length := by
      rw [shutSame beside.listeners]
      exact shutCloseQueue s k l
    refine closableSame closable (beside.closed.trans closed) (beside.registry.trans registry)
      ((congrArg List.length beside.listeners).trans (closeQueueLength s k)) (fun l before => (shut l).mpr (.inl before))
      (fun l member present => ?_) (fun stage closes => .inl ((stages stage).mpr closes))
      fun stage closes => .inr ((stages stage).mp closes)
    rcases each _ member with same | kept
    · exact .inl ((shut l).mpr (.inr ⟨by simpa using same, present⟩))
    · exact .inr kept
  | @rangOne k stages each beside =>
    refine closableSame closable beside.closed beside.registry
      ((congrArg List.length beside.listeners).trans (List.length_modify _ _ _))
      (fun l before => (shutSame beside.listeners l).trans ((shutRingAll s k l).trans before))
      (fun l member _ => .inr (by simpa using each _ member)) (fun stage closes => .inl ((stages stage).mpr closes))
      fun stage closes => .inr ((stages stage).mp closes)
  | @advanced stage moves each beside => exact closableAdvanced closable moves each beside
  | @registered key isOpen stages each closed registry added listeners =>
    have shut (l : Nat) : t.isShut l = s.isShut l := by
      rw [← shutAppend s {} key l]
      exact shutSame listeners l
    refine ⟨fun l present => ?_, fun isClosed => ?_, fun stage closes other => ?_⟩
    · rw [shut]
      by_cases new : l = s.listeners.length
      · exact .inr (.inl (new ▸ added))
      · have old : l < s.listeners.length := by
          simp only [listeners, List.length_append, List.length_singleton] at present
          omega
        refine (closable.owed l old).imp_right fun owed => ?_
        exact owed.imp (registry l)
          (Or.imp (each ▸ ·) fun ⟨stage, closes, member⟩ => ⟨stage, (stages stage).mpr closes, member⟩)
    · simp [closed, isOpen] at isClosed
    · exact closed.trans (closable.begun stage ((stages stage).mp closes) other)
  | @unregistered k stages each closed registry empty listeners =>
    have shut := shutSame listeners
    refine ⟨fun l present => ?_, fun isClosed => ?_, fun stage closes other => ?_⟩
    · rw [shut]
      refine (closable.owed l (listeners ▸ present)).imp_right ?_
      rintro (registered | closing | ⟨stage, closes, member⟩)
      · rcases registry l registered with rfl | kept
        · exact .inr (.inl (by simp [each]))
        · exact .inl kept
      · exact .inr (.inl (by simp [each, closing]))
      · exact .inr (.inr ⟨stage, (stages stage).mpr closes, member⟩)
    · refine (closable.drained (closed ▸ isClosed)).imp empty fun ⟨stage, closes, draining⟩ => ?_
      exact ⟨stage, (stages stage).mpr closes, draining⟩
    · exact closed.trans (closable.begun stage ((stages stage).mp closes) other)

theorem closableRun {s : State} (closable : Closable s) (events : List Event) : Closable (s.run events) := by
  induction events generalizing s with
  | nil => exact closable
  | cons e rest ih => exact ih (closableMove closable (closerMove s e))

theorem closableCreated {setup : Setup} {s : State} (made : create setup = .ok s) : Closable s := by
  obtain ⟨rfl, _⟩ := created made
  exact ⟨by simp, by simp, by simp [Closes]⟩

/- Every call that closes or unregisters something has finished. -/
structure Settled (s : State) : Prop where
  closes : ∀ stage, s.Closes stage → stage = .returned
  each : ∀ c ∈ s.listenerCloses, ∃ wasOpen, c.stage = .returned wasOpen

/- The selector is closed, and nothing of it is left open. -/
structure Over (s : State) : Prop where
  closed : s.closed = true
  registry : s.registry = {}
  shut : ∀ l, l < s.listeners.length → s.isShut l = true

theorem overSettled {s : State} (closable : Closable s) (settled : Settled s) (closes : s.Closes .returned) : Over s := by
  have closed := closable.begun _ closes (by simp)
  have registry : s.registry = {} := by
    rcases closable.drained closed with empty | ⟨stage, midway, draining⟩
    · exact empty
    · simp [settled.closes stage midway, CloseStage.isDraining] at draining
  refine ⟨closed, registry, fun l present => ?_⟩
  rcases closable.owed l present with shut | registered | closing | ⟨stage, midway, member⟩
  · exact shut
  · simp [registry, Registry.listeners] at registered
  · obtain ⟨wasOpen, done⟩ := settled.each _ closing
    simp at done
  · simp [settled.closes stage midway, CloseStage.left] at member

theorem closedStays {s t : State} (move : CloserMove s t) (closed : s.closed = true) : t.closed = true := by
  cases move with
  | aside _ _ same | registered _ _ _ _ same => exact same.trans closed
  | unregistered _ _ same => exact same.trans closed
  | began _ _ beside | rangOne _ _ beside => exact beside.closed.trans closed
  | ended _ _ _ _ beside => exact beside.closed.trans closed
  | shutOne _ _ _ beside => exact (beside.closed.trans (closeQueueRegistry s _).2).trans closed
  | @advanced stage _ _ beside =>
    rw [beside.closed]
    cases stage with
    | swapping | taking => unfold closeAdvance; dsimp only; split <;> simp [closed]
    | closing left =>
      cases left with
      | nil => exact closed
      | cons k left => exact (closeQueueRegistry s k).2.trans closed
    | signalling | closingSource | draining | ringing | returned => exact closed

theorem Kept.shut {s t : State} (kept : Kept s t) {l : Nat} (shut : s.isShut l = true) : t.isShut l = true := by
  unfold isShut at shut ⊢
  obtain ⟨L, found, closed⟩ := Option.any_eq_true _ _ |>.mp shut
  obtain ⟨M, next, continues⟩ := kept l L found
  simp [next, continues.closed closed]

theorem overMove {s : State} (isOver : Over s) (e : Event) :
    (s.apply e).registry = {} ∧ (s.apply e).listeners.length = s.listeners.length := by
  cases (change s e).registry with
  | same registry length => exact ⟨registry.trans isOver.registry, length⟩
  | drained registry length => exact ⟨registry, length⟩
  | removed _ registry listeners => exact ⟨by simp [registry, isOver.registry], congrArg _ listeners⟩
  | removedDefault _ registry listeners => exact ⟨by simp [registry, isOver.registry], congrArg _ listeners⟩
  | added _ isOpen => simp [isOver.closed] at isOpen
  | addedDefault _ isOpen => simp [isOver.closed] at isOpen

theorem overApply {s : State} (isOver : Over s) (e : Event) : Over (s.apply e) := by
  obtain ⟨registry, length⟩ := overMove isOver e
  refine ⟨closedStays (closerMove s e) isOver.closed, registry, fun l present => ?_⟩
  exact (change s e).kept.shut (isOver.shut l (length ▸ present))

theorem overRun {s : State} (isOver : Over s) (events : List Event) :
    Over (s.run events) := by
  induction events generalizing s with
  | nil => exact isOver
  | cons e rest ih => exact ih (overApply isOver e)

theorem overLength {s : State} (isOver : Over s) (events : List Event) :
    (s.run events).listeners.length = s.listeners.length := by
  induction events generalizing s with
  | nil => rfl
  | cons e rest ih => exact (ih (overApply isOver e)).trans (overMove isOver e).2

end State
end SharedPort.Selector
