import SharedPort.Proofs.Selector.Closing
import SharedPort.Proofs.Selector.Wakeups

/-! What is left to do once a selector is closed. Nothing is registered and nothing delivered any more. The calls at a
listener take what waits in its queue, in its order, and then learn that the listener is closed; none is left parked. -/
namespace SharedPort.Selector

def AcceptStage.result? : AcceptStage → Option (Except Error Routed)
  | .leaving result | .returned result => some result
  | .begun | .entering | .looking | .sleeping | .cancelled => none

def AcceptStage.rank : AcceptStage → Nat
  | .sleeping => 4
  | .begun | .entering => 3
  | .looking => 2
  | .leaving _ => 1
  | .returned _ | .cancelled => 0

namespace State

def resultAt (s : State) (l call : Nat) : Option (Except Error Routed) := (s.stageAt l call).bind AcceptStage.result?

def taken (s : State) (l : Nat) : Event → List (Nat × Routed)
  | .acceptStep call =>
      match s.stageAt l call, s.waiting l with
      | some .looking, routed :: _ => [(call, routed)]
      | _, _ => []
  | _ => []

def handed (l : Nat) : State → List Event → List (Nat × Routed)
  | _, [] => []
  | s, e :: rest => s.taken l e ++ handed l (s.apply e) rest

theorem lookTakes {s : State} {l call : Nat} {routed : Routed} {rest : List Routed}
    (looks : s.stageAt l call = some .looking)
    (waits : s.waiting l = routed :: rest) :
    (s.acceptStep call).waiting l = rest ∧ (s.acceptStep call).stageAt l call = some (.leaving (.ok routed)) := by
  have found := stageAtSome.mp looks
  cases target : s.listeners[l]? with
  | none => simp [waiting, target] at waits
  | some L =>
    rw [waitingOfListener target] at waits
    simp only [acceptStep, found, target, Listener.Queue.pop, waits]
    constructor
    · exact (waitingSetQueue target { L.queue with items := rest } l).trans (if_pos rfl)
    · simp [stageAt, setAccept, setListener, found]

theorem takenCases (s : State) (l : Nat) (e : Event) :
    s.taken l e = [] ∨ ∃ call routed rest, e = .acceptStep call ∧ s.stageAt l call = some .looking ∧
      s.waiting l = routed :: rest ∧ s.taken l e = [(call, routed)] := by
  cases e with
  | acceptStep call =>
    simp only [taken]
    split
    · rename_i routed rest looks waits
      exact .inr ⟨call, routed, rest, rfl, looks, waits, rfl⟩
    · exact .inl rfl
  | _ => exact .inl rfl

theorem takenQueue {s : State} {l : Nat} (shut : s.isShut l = true) (e : Event) :
    (s.taken l e).map Prod.snd ++ (s.apply e).waiting l = s.waiting l := by
  rcases takenCases s l e with none | ⟨call, routed, rest, rfl, looks, waits, taken⟩
  · rw [none, List.map_nil, List.nil_append]
    cases queueMoves s e with
    | still same => exact same l
    | @pushed i k w header L _ _ _ target isOpen _ grown =>
      have other : l ≠ k := by
        rintro rfl
        simp [isShut, target, isOpen] at shut
      rw [grown, if_neg other]
    | @popped call k routed rest event looks waits shrunk =>
      have other : l ≠ k := by
        rintro rfl
        simp [event, taken, stageAtSome.mpr looks, waits] at none
      rw [shrunk, if_neg other]
  · rw [taken, waits]
    exact congrArg (routed :: ·) (lookTakes looks waits).1

theorem handedQueue {s : State} {l : Nat} (shut : s.isShut l = true) (events : List Event) :
    (handed l s events).map Prod.snd ++ (s.run events).waiting l = s.waiting l := by
  induction events generalizing s with
  | nil => rfl
  | cons e rest ih =>
    have later := ih ((change s e).kept.shut shut)
    rw [← takenQueue shut e, ← later]
    simp [handed, run]

theorem resultStays {s : State} {l call : Nat} {result : Except Error Routed} (e : Event)
    (has : s.resultAt l call = some result) : (s.apply e).resultAt l call = some result := by
  obtain ⟨stage, here, has⟩ := Option.bind_eq_some_iff.mp has
  obtain ⟨next, found, move⟩ := acceptMoves e (stageAtSome.mp here)
  rw [resultAt, stageAtSome.mpr found, Option.bind_some]
  dsimp only at move
  cases move with
  | rest => exact has
  | returned => exact has
  | entered _ before | cancelled _ before => rcases before with rfl | rfl <;> simp [AcceptStage.result?] at has
  | popped | ended | slept | woken => simp [AcceptStage.result?] at has

theorem resultMove {s : State} {l call : Nat} {result : Except Error Routed} {e : Event}
    (has : (s.apply e).resultAt l call = some result) :
    s.resultAt l call = some result ∨ (∃ c, result = .ok c ∧ (call, c) ∈ s.taken l e) ∨
      result = .error .listenerClosed ∧ s.waiting l = [] := by
  obtain ⟨next, here, has⟩ := Option.bind_eq_some_iff.mp has
  have after := stageAtSome.mp here
  cases before : s.accepts[call]? with
  | none =>
    cases acceptsNew e before after
    simp [AcceptStage.result?] at has
  | some a =>
    obtain ⟨stage, found, move⟩ := acceptMoves e before
    obtain ⟨listener, old⟩ := a
    cases Option.some.inj (found.symm.trans after)
    have stood := stageAtSome.mpr before
    cases move with
    | rest => exact .inl (by simp [resultAt, stood, has])
    | returned => exact .inl (by simpa [resultAt, stood, AcceptStage.result?] using has)
    | entered | slept | woken | cancelled => simp [AcceptStage.result?] at has
    | @popped routed rest event waits =>
      cases Option.some.inj has
      exact .inr (.inl ⟨routed, rfl, by simp [event, taken, stood, waits]⟩)
    | ended _ target drained =>
      cases Option.some.inj has
      exact .inr (.inr ⟨rfl, (waitingOfListener target).trans drained⟩)

theorem resultRun {s : State} {l call : Nat} {result : Except Error Routed} (shut : s.isShut l = true)
    {events : List Event}
    (has : (s.run events).resultAt l call = some result) :
    s.resultAt l call = some result ∨ (∃ c, result = .ok c ∧ (call, c) ∈ handed l s events) ∨
      result = .error .listenerClosed ∧ (s.run events).waiting l = [] := by
  induction events generalizing s with
  | nil => exact .inl has
  | cons e rest ih =>
    have shutNext := (change s e).kept.shut shut
    rcases ih shutNext has with early | ⟨c, ok, given⟩ | closed
    · rcases resultMove early with before | ⟨c, ok, took⟩ | ⟨closed, drained⟩
      · exact .inl before
      · exact .inr (.inl ⟨c, ok, List.mem_append_left _ took⟩)
      · have nothing := handedQueue shut (e :: rest)
        rw [drained, List.append_eq_nil_iff] at nothing
        exact .inr (.inr ⟨closed, nothing.2⟩)
    · exact .inr (.inl ⟨c, ok, List.mem_append_right _ given⟩)
    · exact .inr (.inr closed)

theorem handedResult {s : State} {l call : Nat} {c : Routed} {events : List Event}
    (given : (call, c) ∈ handed l s events) :
    (s.run events).resultAt l call = some (.ok c) := by
  have stays {t : State} (has : t.resultAt l call = some (.ok c)) (more : List Event) :
      (t.run more).resultAt l call = some (.ok c) := by
    induction more generalizing t with
    | nil => exact has
    | cons e rest ih => exact ih (resultStays e has)
  induction events generalizing s with
  | nil => exact (List.not_mem_nil given).elim
  | cons e rest ih =>
    rcases List.mem_append.mp given with now | later
    · refine stays ?_ rest
      rcases takenCases s l e with none | ⟨caller, routed, left, rfl, looks, waits, taken⟩
      · simp [none] at now
      · simp only [taken, List.mem_singleton, Prod.mk.injEq] at now
        obtain ⟨rfl, rfl⟩ := now
        have next := (lookTakes looks waits).2
        exact Option.bind_eq_some_iff.mpr ⟨_, next, rfl⟩
    · exact ih later

theorem rankOwn {s : State} {l call : Nat} {stage : AcceptStage} (shut : s.isShut l = true) (awake : ¬ s.Parked l call)
    (here : s.stageAt l call = some stage) :
    ∃ next, (s.acceptStep call).stageAt l call = some next ∧ next.rank ≤ stage.rank - 1 := by
  have found := stageAtSome.mp here
  have moved {t : State} (next : AcceptStage) (accepts : t.accepts = (s.setAccept call next).accepts)
      (lower : next.rank ≤ stage.rank - 1) : ∃ next, t.stageAt l call = some next ∧ next.rank ≤ stage.rank - 1 :=
    ⟨next, by simp [stageAtSet found accepts], lower⟩
  cases stage with
  | begun | entering =>
    simp only [acceptStep, found]
    exact moved .looking rfl (by simp [AcceptStage.rank])
  | leaving result =>
    simp only [acceptStep, found]
    exact moved (.returned result) rfl (by simp [AcceptStage.rank])
  | returned | cancelled =>
    simp only [acceptStep, found]
    exact ⟨_, here, by simp [AcceptStage.rank]⟩
  | sleeping =>
    have rung : (s.listeners[l]?).any (·.bell.isAwake call) = true := by
      cases target : s.listeners[l]? with
      | none => simp [isShut, target] at shut
      | some L => simpa [Parked, here, bellOfListener target] using awake
    simp only [acceptStep, found, if_pos rung]
    exact moved .entering rfl (by simp [AcceptStage.rank])
  | looking =>
    cases target : s.listeners[l]? with
    | none => simp [isShut, target] at shut
    | some L =>
      have closed : L.queue.closed = true := by simpa [isShut, target] using shut
      simp only [acceptStep, found, target, Listener.Queue.pop]
      cases L.queue.items with
      | nil =>
        simp only [if_pos closed]
        exact moved (.leaving (.error .listenerClosed)) rfl (by simp [AcceptStage.rank])
      | cons routed rest => exact moved (.leaving (.ok routed)) rfl (by simp [AcceptStage.rank])

def isStepOf (call : Nat) : Event → Bool
  | .acceptStep other => other = call
  | _ => false

theorem rankOther {s : State} {l call : Nat} {stage : AcceptStage} {e : Event} (foreign : isStepOf call e = false)
    (here : s.stageAt l call = some stage) :
    ∃ next, (s.apply e).stageAt l call = some next ∧ next.rank ≤ stage.rank := by
  obtain ⟨next, found, move⟩ := acceptMoves e (stageAtSome.mp here)
  refine ⟨next, stageAtSome.mpr found, ?_⟩
  have never (event : e = .acceptStep call) : False := by simp [event, isStepOf] at foreign
  dsimp only at move
  cases move with
  | rest => exact Nat.le_refl _
  | cancelled => exact Nat.zero_le _
  | entered event | popped event | ended event | slept event | returned event | woken event => exact (never event).elim

/- A listener that is shut and has nobody parked. -/
structure Answering (s : State) (l : Nat) : Prop where
  ticketed : Ticketed s l
  shut : s.isShut l = true
  awake : ∀ call, ¬ s.Parked l call

theorem Answering.present {s : State} {l : Nat} (answering : Answering s l) : l < s.listeners.length := by
  have shut := answering.shut
  by_contra beyond
  simp [isShut, List.getElem?_eq_none (Nat.le_of_not_lt beyond)] at shut

theorem answeringApply {s : State} {l : Nat} (answering : Answering s l) (e : Event) : Answering (s.apply e) l := by
  have move := listenerMove answering.present e
  refine ⟨ticketedMove answering.ticketed move, (change s e).kept.shut answering.shut, fun call parked => ?_⟩
  rcases parkedMove answering.ticketed move parked with before | ⟨_, isOpen⟩
  · exact answering.awake call before
  · simp [answering.shut] at isOpen

theorem rankRun {s : State} {l call : Nat} {stage : AcceptStage} (answering : Answering s l)
    (here : s.stageAt l call = some stage) (events : List Event) :
    ∃ last, (s.run events).stageAt l call = some last ∧ last.rank ≤ stage.rank - events.countP (isStepOf call) := by
  induction events generalizing s stage with
  | nil => exact ⟨stage, here, Nat.le_refl _⟩
  | cons e rest ih =>
    have next : ∃ next, (s.apply e).stageAt l call = some next ∧ next.rank ≤ stage.rank - [e].countP (isStepOf call) := by
      cases own : isStepOf call e with
      | false => simpa [own] using rankOther own here
      | true =>
        cases e with
        | acceptStep other =>
          obtain rfl : other = call := by simpa [isStepOf] using own
          rw [List.countP_singleton, if_pos own]
          exact rankOwn answering.shut (answering.awake other) here
        | _ => simp [isStepOf] at own
    obtain ⟨next, found, lower⟩ := next
    obtain ⟨last, reached, least⟩ := ih (answeringApply answering e) found
    refine ⟨last, reached, ?_⟩
    have steps : (e :: rest).countP (isStepOf call) = [e].countP (isStepOf call) + rest.countP (isStepOf call) := by
      rw [← List.countP_append, List.singleton_append]
    omega

theorem rankZero {stage : AcceptStage} (none : stage.rank = 0) :
    (∃ result, stage = .returned result) ∨ stage = .cancelled := by
  cases stage with
  | returned result => exact .inl ⟨result, rfl⟩
  | cancelled => exact .inr rfl
  | begun | entering | looking | sleeping | leaving => simp [AcceptStage.rank] at none

inductive Registered (s : State) (events : List Event) (l : Nat) : Prop where
  | keyed (before key) (early : before ++ [.register key] <+: events) (returned : ((s.run before).register key).1 = .ok l)
  | unkeyed (before) (early : before ++ [.registerDefault] <+: events)
      (returned : (s.run before).registerDefault.1 = .ok l)

theorem registerGrows {s : State} {key : Bytes} {l : Nat} (returned : (s.register key).1 = .ok l) :
    l < (s.register key).2.listeners.length := by
  unfold register at returned ⊢
  dsimp only at returned ⊢
  split at returned
  · simp at returned
  · simp only [List.length_append, List.length_singleton]
    cases returned
    omega

theorem registerDefaultGrows {s : State} {l : Nat} (returned : s.registerDefault.1 = .ok l) :
    l < s.registerDefault.2.listeners.length := by
  unfold registerDefault at returned ⊢
  dsimp only at returned ⊢
  split at returned
  · simp at returned
  · simp only [List.length_append, List.length_singleton]
    cases returned
    omega

theorem registeredPresent {s : State} {events : List Event} {l : Nat} (registered : Registered s events l) :
    l < (s.run events).listeners.length := by
  cases registered with
  | keyed before key early returned =>
    obtain ⟨rest, rfl⟩ := early
    rw [runAppend, runSnoc]
    exact Nat.lt_of_lt_of_le (registerGrows returned) (lengthRun _ rest)
  | unkeyed before early returned =>
    obtain ⟨rest, rfl⟩ := early
    rw [runAppend, runSnoc]
    exact Nat.lt_of_lt_of_le (registerDefaultGrows returned) (lengthRun _ rest)

structure Ended (t : State) : Prop where
  closed : t.closed = true
  registry : t.registry = {}
  register : ∀ key, t.setup.validateKey key = .ok () → t.register key = (.error .selectorClosed, t)
  registerDefault : t.registerDefault = (.error .selectorClosed, t)

structure EndedAt (t : State) (l : Nat) : Prop where
  shut : ∃ L, t.listeners[l]? = some L ∧ L.queue.closed = true ∧
    ∀ item, L.queue.push L.capacity item = (.refused .closed item, L.queue)
  refuses : ∀ i w header, t.workers[i]? = some w → w.stage = .found header l →
    (t.workerStep i).workers[i]? = some { w with stage := .settled (.rejected l .closed) }
  answers : ∀ call stage, t.stageAt l call = some stage → ∀ rest : List Event, 4 ≤ rest.countP (isStepOf call) →
    (∃ result, (t.run rest).stageAt l call = some (.returned result)) ∨ (t.run rest).stageAt l call = some .cancelled

/- Between `s` and a later run: the queue of `l` goes to the calls, from its front, and whoever else gets a result
learns that the listener is closed, and that nothing waits there any more. -/
structure HandsOut (s : State) (more : List Event) (l : Nat) : Prop where
  queue : (handed l s more).map Prod.snd ++ (s.run more).waiting l = s.waiting l
  given : ∀ call c, (call, c) ∈ handed l s more → (s.run more).resultAt l call = some (.ok c)
  results : ∀ call result, (s.run more).resultAt l call = some result →
    s.resultAt l call = some result ∨ (∃ c, result = .ok c ∧ (call, c) ∈ handed l s more) ∨
      result = .error .listenerClosed ∧ (s.run more).waiting l = []
  afterwards : s.waiting l = [] → ∀ call result, (s.run more).resultAt l call = some result →
    s.resultAt l call = some result ∨ result = .error .listenerClosed

theorem endedOver {s : State} (isOver : Over s) : Ended s := by
  refine ⟨isOver.closed, isOver.registry, fun key valid => ?_, ?_⟩
  · simp [register, valid, isOver.closed, bind, Except.bind]
  · simp [registerDefault, isOver.closed]

theorem endedAtAnswering {s : State} {l : Nat} (answering : Answering s l) : EndedAt s l := by
  obtain ⟨L, found, closed⟩ := (Option.any_eq_true _ _).mp answering.shut
  refine ⟨⟨L, found, closed, fun item => ?_⟩, fun i w header worker stage => ?_, fun call stage here rest enough => ?_⟩
  · simp [Listener.Queue.push, closed]
  · obtain ⟨arrival, owner, deadline, _⟩ := w
    cases stage
    simp only [workerStep, worker, deliver, found, Listener.Queue.push, if_pos closed]
    exact (workersSetWorker worker _ i).trans (if_pos rfl)
  · obtain ⟨last, reached, lower⟩ := rankRun answering here rest
    have most : stage.rank ≤ 4 := by cases stage <;> simp [AcceptStage.rank]
    have zero : last.rank = 0 := by omega
    rcases rankZero zero with ⟨result, rfl⟩ | rfl
    · exact .inl ⟨result, reached⟩
    · exact .inr reached

theorem answeringSettled {setup : Setup} {s₀ : State} (made : create setup = .ok s₀) {events : List Event}
    (handled : Handled s₀ events) (settled : Settled (s₀.run events)) (isOver : Over (s₀.run events)) {l : Nat}
    (present : l < (s₀.run events).listeners.length) : Answering (s₀.run events) l := by
  have wakeful := wakefulRun made handled l
  have shut := isOver.shut l present
  refine ⟨wakeful.ticketed, shut, (wakeful.shut shut).resolve_left ?_⟩
  rintro (⟨left, midway⟩ | midway)
  · simpa using settled.closes _ midway
  · obtain ⟨wasOpen, done⟩ := settled.each _ midway
    simp at done

theorem answeringRun {s : State} {l : Nat} (answering : Answering s l) (events : List Event) :
    Answering (s.run events) l := by
  induction events generalizing s with
  | nil => exact answering
  | cons e rest ih => exact ih (answeringApply answering e)

theorem handsOut {s : State} {l : Nat} (shut : s.isShut l = true) (more : List Event) : HandsOut s more l := by
  refine ⟨handedQueue shut more, fun call c given => handedResult given, fun call result has => resultRun shut has,
    fun drained call result has => ?_⟩
  have nothing := handedQueue shut more
  simp only [drained, List.append_eq_nil_iff, List.map_eq_nil_iff] at nothing
  rcases resultRun shut has with before | ⟨c, _, given⟩ | ⟨closed, _⟩
  · exact .inl before
  · simp [nothing.1] at given
  · exact .inr closed

theorem closedForGood {setup : Setup} {s₀ : State} (made : create setup = .ok s₀) {events : List Event}
    (handled : Handled s₀ events) (settled : Settled (s₀.run events)) (closes : (s₀.run events).Closes .returned)
    (more : List Event) : Ended ((s₀.run events).run more) ∧ ∀ l, Registered s₀ (events ++ more) l →
      EndedAt ((s₀.run events).run more) l ∧ ∀ later, HandsOut ((s₀.run events).run more) later l := by
  have isOver := overSettled (closableRun (closableCreated made) events) settled closes
  refine ⟨endedOver (overRun isOver more), fun l registered => ?_⟩
  have present := registeredPresent registered
  rw [runAppend, overLength isOver] at present
  have answering := answeringRun (answeringSettled made handled settled isOver present) more
  exact ⟨endedAtAnswering answering, handsOut answering.shut⟩

theorem runNil (s : State) : s.run [] = s := rfl

/- A connection waits for the key when the selector is closed. Between the swap of the flag and the emptying of the
registry the key is taken out, and another close finds the flag set. -/
def pairClosed : List Event :=
  pairRun ++ [.workerStep 0, .workerStep 0, .beginClose, .closeStep 0, .beginClose, .closeStep 1, .unregister [65],
    .closeStep 0, .closeStep 0, .closeStep 0, .closeStep 0, .closeStep 0, .closeStep 0, .listenerCloseStep 0,
    .listenerCloseStep 0]

def pairLate : List Event :=
  [.beginAccept 0, .beginAccept 0, .acceptStep 1, .acceptStep 1, .acceptStep 0, .acceptStep 0, .acceptStep 0,
    .acceptStep 1]

theorem pairClosedSettled : Settled (run { setup := pairSetup } pairClosed) := by
  have closes : (run { setup := pairSetup } pairClosed).closes = [.returned, .returned] := by decide +kernel
  have serves : (run { setup := pairSetup } pairClosed).serves = [.looping 0] := rfl
  have each : (run { setup := pairSetup } pairClosed).listenerCloses = [⟨0, .returned true⟩] := by decide +kernel
  constructor
  · simp [Closes, closes, serves]
  · simp [each]

theorem pairClosedForGood :
    create pairSetup = .ok { setup := pairSetup } ∧ Registered { setup := pairSetup } pairClosed 0 ∧
      Ended (run { setup := pairSetup } pairClosed) ∧ EndedAt (run { setup := pairSetup } pairClosed) 0 ∧
      HandsOut (run { setup := pairSetup } pairClosed) pairLate 0 ∧
      (handed 0 (run { setup := pairSetup } pairClosed) pairLate).length = 1 := by
  have made : create pairSetup = .ok { setup := pairSetup } := rfl
  have handled : Handled { setup := pairSetup } pairClosed := handledPresent (by simp [pairClosed, pairRun])
  have closes : (run { setup := pairSetup } pairClosed).Closes .returned := by
    have closes : (run { setup := pairSetup } pairClosed).closes = [.returned, .returned] := by decide +kernel
    simp [Closes, closes]
  have registered : Registered { setup := pairSetup } pairClosed 0 :=
    .keyed [] [65] (List.prefix_append _ _) rfl
  obtain ⟨ended, each⟩ := closedForGood made handled pairClosedSettled closes []
  rw [List.append_nil, runNil] at each
  rw [runNil] at ended
  obtain ⟨endedAt, hands⟩ := each 0 registered
  exact ⟨made, registered, ended, endedAt, hands pairLate, by decide +kernel⟩

end State
end SharedPort.Selector
