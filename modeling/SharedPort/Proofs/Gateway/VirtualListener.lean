import SharedPort.Proofs.Gateway.AnyListener
import SharedPort.Proofs.Gateway.Loops
import SharedPort.Proofs.Selector.Afterwards
import SharedPort.Proofs.Selector.Ownership

/-! The loop of one route at its virtual listener, and all that happens to the selector in between. The loop is one at
any listener whose calls come out as those of the selector do, so what it drops is a call that holds nothing. -/
namespace SharedPort.Selector

theorem State.spentStays {s : State} {l call : Nat} {stage : AcceptStage} (e : State.Event)
    (here : s.stageAt l call = some stage) (spent : stage.rank = 0) : (s.apply e).stageAt l call = some stage := by
  obtain ⟨next, found, move⟩ := State.acceptMoves e (State.stageAtSome.mp here)
  rw [State.stageAtSome]
  dsimp only at move
  cases move with
  | rest => exact found
  | entered _ before => rcases before with rfl | rfl <;> cases spent
  | cancelled _ before => rcases before with rfl | rfl <;> cases spent
  | popped | ended | slept | returned | woken => cases spent

theorem State.awakeStays {s : State} {l call : Nat} {stage : AcceptStage} {e : State.Event}
    (here : s.stageAt l call = some stage) (awake : stage ≠ .cancelled) (others : e ≠ .cancelAccept call) :
    ∃ next, (s.apply e).stageAt l call = some next ∧ next ≠ .cancelled := by
  obtain ⟨next, found, move⟩ := State.acceptMoves e (State.stageAtSome.mp here)
  refine ⟨next, State.stageAtSome.mpr found, ?_⟩
  dsimp only at move
  cases move with
  | rest => exact awake
  | cancelled event => exact (others event).elim
  | entered | popped | ended | slept | returned | woken => exact nofun

theorem State.dropped {s : State} {l call : Nat} {stage : AcceptStage} (here : s.stageAt l call = some stage)
    (rests : s.canCancelAccept call = true) :
    (s.cancelAccept call).stageAt l call = some .cancelled ∧ stage.result? = none := by
  have found := State.stageAtSome.mp here
  simp only [State.canCancelAccept, found] at rests
  rw [State.stageAtSome]
  cases stage with
  | begun => simp [State.cancelAccept, found, State.setAccept, AcceptStage.result?]
  | sleeping => simp [State.cancelAccept, found, State.setAccept, State.leaveBell, State.setListener, AcceptStage.result?]
  | entering | looking | leaving | returned | cancelled => cases rests

theorem State.placesCancelAccept (s : State) (call : Nat) : (s.cancelAccept call).places = s.places := by
  have workers := (State.cancelAcceptFrame s call).2
  have waiting := State.waitingCancelAccept s call
  have listeners : (s.cancelAccept call).listeners.length = s.listeners.length := by
    unfold cancelAccept
    split
    · rfl
    · exact List.length_modify ..
    · rfl
  have calls : (s.cancelAccept call).accepts.length = s.accepts.length ∧
      ∀ n, (s.cancelAccept call).atCall n = s.atCall n := by
    cases found : s.accepts[call]? with
    | none =>
      have same : s.cancelAccept call = s := by simp only [cancelAccept, found]
      exact ⟨by rw [same], fun _ => by rw [same]⟩
    | some a =>
      obtain ⟨stage, next, move⟩ := State.cancelAcceptMove found
      refine ⟨by rw [next]; exact List.length_modify .., fun n => ?_⟩
      rw [atCall, atCall, next, acceptsSetAccept found]
      by_cases here : n = call
      · subst n
        rw [if_pos rfl, found]
        obtain ⟨listener, old⟩ := a
        cases move with
        | rest => rfl
        | cancelled _ before => rcases before with rfl | rfl <;> rfl
        | entered event | popped event | ended event | slept event | returned event | woken event => cases event
      · rw [if_neg here]
  have size : (s.cancelAccept call).size = s.size := by rw [State.size, State.size, workers, listeners, calls.1]
  simp only [places, size, calls.2, atWorker, workers, atListener, waiting]

theorem State.beginsLooking {s : State} {l call : Nat} (here : s.stageAt l call = some .begun) :
    (s.acceptStep call).stageAt l call = some .looking ∧ (s.acceptStep call).waiting l = s.waiting l := by
  have found := State.stageAtSome.mp here
  have step : s.acceptStep call = (s.takeTicket call l).setAccept call .looking := by simp only [acceptStep, found]
  rw [step]
  refine ⟨?_, (State.quietSetBell s l (Listener.Bell.take call)).waiting l⟩
  simp [stageAt, setAccept, takeTicket, setListener, found]

theorem State.leaves {s : State} {l call : Nat} {result : Except Error Routed}
    (here : s.stageAt l call = some (.leaving result)) :
    (s.acceptStep call).stageAt l call = some (.returned result) ∧ (s.acceptStep call).waiting l = s.waiting l := by
  have found := State.stageAtSome.mp here
  have step : s.acceptStep call = (s.leaveBell call l).setAccept call (.returned result) := by
    simp only [acceptStep, found]
  rw [step]
  refine ⟨?_, (State.quietSetBell s l (Listener.Bell.leave call)).waiting l⟩
  simp [stageAt, setAccept, leaveBell, setListener, found]

end SharedPort.Selector

namespace SharedPort.Gateway
open SharedPort.Selector (State Routed AcceptStage)

structure SelectorLoop where
  selector : State
  serving : Serving
  calls : List Nat := []

/- Whatever happens to the selector, and what the loop does. -/
inductive LoopEvent
  | outside (e : State.Event)
  | listen
  | take
  | ended (forward : Nat)
  | join (forward : Nat)
  | stop (forward : Nat)
  | finish

namespace SelectorLoop

def start (s : State) (listener : Nat) (target : String) : SelectorLoop := ⟨s, { listener, loop := { target } }, []⟩

def isOwnDrop (p : SelectorLoop) : State.Event → Bool
  | .cancelAccept call => p.serving.waiting = some call
  | _ => false

def withLoop (p : SelectorLoop) (change : RouteLoop Routed → RouteLoop Routed) : SelectorLoop :=
  { p with serving := { p.serving with loop := change p.serving.loop } }

def apply (p : SelectorLoop) : LoopEvent → SelectorLoop
  | .outside e => if p.isOwnDrop e then p else { p with selector := p.selector.apply e }
  | .listen =>
      let (serving, selector) := p.serving.listen p.selector
      ⟨selector, serving, p.calls ++ if p.serving.waiting = none then serving.waiting.toList else []⟩
  | .take => { p with serving := p.serving.take p.selector }
  | .ended i => p.withLoop (·.forwardEnded i)
  | .join i =>
      let (serving, selector) := p.serving.join i p.selector
      { p with selector, serving }
  | .stop i => p.withLoop (·.stopForward i)
  | .finish => p.withLoop (·.finish)

def run (p : SelectorLoop) (turns : List LoopEvent) : SelectorLoop := turns.foldl apply p

theorem runSnoc (p : SelectorLoop) (turns : List LoopEvent) (d : LoopEvent) :
    p.run (turns ++ [d]) = (p.run turns).apply d := by
  rw [run, List.foldl_append]
  rfl

def inHand (p : SelectorLoop) : Option (Except Error Routed) :=
  p.serving.waiting.bind (p.selector.resultAt p.serving.listener)

/- The calls that the loop is done with have their result or were dropped, and it has heard of the results. -/
structure Fits (l : Nat) (target : String) (p : SelectorLoop) (done : List Nat) : Prop where
  listener : p.serving.listener = l
  calls : p.calls = done ++ p.serving.waiting.toList
  distinct : p.calls.Nodup
  anyListener : ∃ events, (CallingLoop.fresh target).run events =
    ⟨p.serving.loop, p.serving.waiting.isSome, done.filterMap (p.selector.resultAt l)⟩
  spent : ∀ call ∈ done, ∃ stage, p.selector.stageAt l call = some stage ∧ stage.rank = 0
  awake : ∀ call, p.serving.waiting = some call →
    ∃ stage, p.selector.stageAt l call = some stage ∧ stage ≠ .cancelled

variable {l : Nat} {target : String} {p : SelectorLoop} {done : List Nat}

theorem Fits.resultsStay (fits : p.Fits l target done) (e : State.Event) :
    done.filterMap ((p.selector.apply e).resultAt l) = done.filterMap (p.selector.resultAt l) := by
  refine List.filterMap_congr fun call member => ?_
  obtain ⟨stage, here, spent⟩ := fits.spent call member
  rw [State.resultAt, State.resultAt, State.spentStays e here spent, here]

theorem Fits.spentStay (fits : p.Fits l target done) (e : State.Event) (call : Nat) (member : call ∈ done) :
    ∃ stage, (p.selector.apply e).stageAt l call = some stage ∧ stage.rank = 0 := by
  obtain ⟨stage, here, spent⟩ := fits.spent call member
  exact ⟨stage, State.spentStays e here spent, spent⟩

theorem Fits.outside (fits : p.Fits l target done) (e : State.Event)
    (others : ∀ call, p.serving.waiting = some call → e ≠ .cancelAccept call) :
    Fits l target { p with selector := p.selector.apply e } done where
  listener := fits.listener
  calls := fits.calls
  distinct := fits.distinct
  anyListener := by
    rw [fits.resultsStay e]
    exact fits.anyListener
  spent := fits.spentStay e
  awake call waiting := by
    obtain ⟨stage, here, awake⟩ := fits.awake call waiting
    exact State.awakeStays here awake (others call waiting)

theorem Fits.withLoop (fits : p.Fits l target done) (change : RouteLoop Routed → RouteLoop Routed) (e : Occurrence Routed)
    (same : ∀ q : CallingLoop Routed, q.apply e = { q with loop := change q.loop }) :
    Fits l target (p.withLoop change) done := by
  obtain ⟨events, run⟩ := fits.anyListener
  refine ⟨fits.listener, fits.calls, fits.distinct, ⟨events ++ [e], ?_⟩, fits.spent, fits.awake⟩
  rw [CallingLoop.runSnoc, run, same]
  rfl

theorem Fits.fresh (fits : p.Fits l target done) : p.selector.accepts.length ∉ p.calls := by
  intro member
  rw [fits.calls] at member
  obtain ⟨stage, here⟩ : ∃ stage, p.selector.stageAt l p.selector.accepts.length = some stage := by
    rcases List.mem_append.mp member with old | waits
    · obtain ⟨stage, here, _⟩ := fits.spent _ old
      exact ⟨stage, here⟩
    · obtain ⟨stage, here, _⟩ := fits.awake _ (Option.mem_toList.mp waits)
      exact ⟨stage, here⟩
  exact Nat.lt_irrefl _ (List.getElem?_eq_some_iff.mp (State.stageAtSome.mp here)).1

theorem Fits.listen (fits : p.Fits l target done) : Fits l target (p.apply .listen) done := by
  obtain ⟨events, run⟩ := fits.anyListener
  by_cases due : p.serving.loop.stage = .serving ∧ p.serving.waiting = none
  · have next : p.apply .listen = ⟨p.selector.apply (.beginAccept l),
        { p.serving with waiting := some p.selector.accepts.length }, p.calls ++ [p.selector.accepts.length]⟩ := by
      simp only [apply, listenNow p.selector due.1 due.2, due.2, fits.listener]
      rfl
    have calls : p.calls = done := by rw [fits.calls, due.2, Option.toList_none, List.append_nil]
    rw [next]
    refine ⟨fits.listener, by rw [calls]; rfl, ?_, ⟨events ++ [.call], ?_⟩, fits.spentStay _, fun call waiting => ?_⟩
    · exact List.nodup_append.mpr ⟨fits.distinct, List.nodup_singleton _, fun a old b new same =>
        fits.fresh (List.mem_singleton.mp new ▸ same ▸ old)⟩
    · rw [CallingLoop.runSnoc, run, fits.resultsStay (.beginAccept l)]
      simp only [CallingLoop.apply, if_pos due.1]
      rfl
    · obtain rfl := Option.some.inj waiting
      exact ⟨.begun, State.stageAtSome.mpr List.getElem?_concat_length, AcceptStage.noConfusion⟩
  · have same : p.serving.listen p.selector = (p.serving, p.selector) := if_neg due
    have next : p.apply .listen = p := by
      simp only [apply, same]
      by_cases waiting : p.serving.waiting = none <;> simp [waiting]
    rw [next]
    exact fits

theorem takeResult {v : Serving} {s : State} {l call : Nat} {result : Except Error Routed}
    (waiting : v.waiting = some call) (found : s.accepts[call]? = some ⟨l, .returned result⟩) :
    v.take s = { v with waiting := none, loop := v.loop.hear result } := by
  cases result <;> simp only [Serving.take, waiting, Option.bind_some, found, RouteLoop.hear]

theorem takeUnready {v : Serving} {s : State} {l : Nat}
    (unready : ∀ call, v.waiting = some call → ∃ stage, s.stageAt l call = some stage ∧ ∀ r, stage ≠ .returned r) :
    v.take s = v := by
  cases waiting : v.waiting with
  | none => simp only [Serving.take, waiting, Option.bind_none]
  | some call =>
    obtain ⟨stage, here, midway⟩ := unready call waiting
    cases stage with
    | returned result => exact (midway result rfl).elim
    | begun | entering | looking | sleeping | leaving | cancelled =>
      simp only [Serving.take, waiting, Option.bind_some, State.stageAtSome.mp here]

theorem Fits.settled (fits : p.Fits l target done) {call : Nat} {stage : AcceptStage} {selector : State}
    {serving : Serving} (waiting : p.serving.waiting = some call) (idle : serving.waiting = none)
    (listener : serving.listener = p.serving.listener)
    (old : ∀ other ∈ done, selector.stageAt l other = p.selector.stageAt l other)
    (here : selector.stageAt l call = some stage) (spent : stage.rank = 0)
    (anyListener : ∃ events, (CallingLoop.fresh target).run events =
      ⟨serving.loop, false, done.filterMap (p.selector.resultAt l) ++ stage.result?.toList⟩) :
    Fits l target { p with selector, serving } (done ++ [call]) := by
  refine ⟨listener.trans fits.listener, ?_, fits.distinct, ?_, fun other member => ?_, fun _ now => ?_⟩
  · rw [idle, fits.calls, waiting]
    simp
  · have results : done.filterMap (selector.resultAt l) = done.filterMap (p.selector.resultAt l) :=
      List.filterMap_congr fun other member => by rw [State.resultAt, State.resultAt, old other member]
    have last : [call].filterMap (selector.resultAt l) = stage.result?.toList := by
      rw [List.filterMap_cons, State.resultAt, here, Option.bind_some]
      cases stage.result? <;> rfl
    rw [List.filterMap_append, results, last, idle]
    exact anyListener
  · rcases List.mem_append.mp member with before | new
    · obtain ⟨stage, there, spent⟩ := fits.spent other before
      exact ⟨stage, (old other before).trans there, spent⟩
    · exact ⟨stage, List.mem_singleton.mp new ▸ here, spent⟩
  · rw [idle] at now
    cases now

theorem Fits.take (fits : p.Fits l target done) : ∃ more, Fits l target (p.apply .take) more := by
  obtain ⟨events, run⟩ := fits.anyListener
  by_cases ready : ∃ call result, p.serving.waiting = some call ∧ p.selector.stageAt l call = some (.returned result)
  · obtain ⟨call, result, waiting, here⟩ := ready
    have next := takeResult waiting (State.stageAtSome.mp here)
    refine ⟨done ++ [call], ?_⟩
    simp only [apply, next]
    refine fits.settled waiting rfl rfl (fun _ _ => rfl) here rfl ⟨events ++ [.outcome result], ?_⟩
    rw [CallingLoop.runSnoc, run, waiting]
    rfl
  · have next : p.serving.take p.selector = p.serving := by
      refine takeUnready (l := l) fun call waiting => ?_
      obtain ⟨stage, here, _⟩ := fits.awake call waiting
      exact ⟨stage, here, fun result same => ready ⟨call, result, waiting, same ▸ here⟩⟩
    refine ⟨done, ?_⟩
    simp only [apply, next]
    exact fits

theorem Fits.join (fits : p.Fits l target done) (i : Nat) : ∃ more, Fits l target (p.apply (.join i)) more := by
  obtain ⟨events, run⟩ := fits.anyListener
  by_cases free : p.serving.loop.stage = .serving ∧ (p.serving.loop.forwards[i]?).any (·.stage = .ended) = true ∧
      p.serving.isFree p.selector = true
  · have noted (outcomes : List (Except Error Routed)) (calling : Bool) :
        CallingLoop.apply ⟨p.serving.loop, calling, outcomes⟩ (.join i) = ⟨p.serving.loop.join i, false, outcomes⟩ :=
      if_pos ⟨free.1, free.2.1⟩
    have next := joinNow free
    cases waiting : p.serving.waiting with
    | none =>
      rw [waiting] at next run
      refine ⟨done, ?_⟩
      simp only [apply, next, Option.map_none, Option.getD_none]
      refine ⟨fits.listener, ?_, fits.distinct, ⟨events ++ [.join i], ?_⟩, fits.spent, nofun⟩
      · rw [fits.calls, waiting]
      · rw [CallingLoop.runSnoc, run, noted]
        rfl
    | some call =>
      have rests : p.selector.canCancelAccept call = true := by
        simpa only [Serving.isFree, waiting, Option.all_some] using free.2.2
      rw [waiting] at next
      obtain ⟨stage, here, _⟩ := fits.awake call waiting
      refine ⟨done ++ [call], ?_⟩
      simp only [apply, next, Option.map_some, Option.getD_some]
      refine fits.settled waiting rfl rfl (fun other member => ?_) (State.dropped here rests).1 rfl
        ⟨events ++ [.join i], ?_⟩
      · obtain ⟨old, there, spent⟩ := fits.spent other member
        exact (State.spentStays (.cancelAccept call) there spent).trans there.symm
      · rw [CallingLoop.runSnoc, run, noted]
        exact congrArg _ (List.append_nil _).symm
  · have next := joinLater free
    refine ⟨done, ?_⟩
    simp only [apply, next]
    exact fits

theorem Fits.apply (fits : p.Fits l target done) (d : LoopEvent) : ∃ more, Fits l target (p.apply d) more := by
  cases d with
  | outside e =>
    simp only [SelectorLoop.apply]
    split
    · exact ⟨done, fits⟩
    · rename_i others
      refine ⟨done, fits.outside e fun call waiting event => others ?_⟩
      simp [event, isOwnDrop, waiting]
  | listen => exact ⟨done, fits.listen⟩
  | take => exact fits.take
  | ended i => exact ⟨done, fits.withLoop (·.forwardEnded i) (.ended i) fun _ => rfl⟩
  | join i => exact fits.join i
  | stop i => exact ⟨done, fits.withLoop (·.stopForward i) (.stop i) fun _ => rfl⟩
  | finish => exact ⟨done, fits.withLoop (·.finish) .finish fun _ => rfl⟩

theorem fitsRun (s : State) (l : Nat) (target : String) (turns : List LoopEvent) :
    ∃ done, Fits l target ((start s l target).run turns) done := by
  induction turns using List.reverseRecOn with
  | nil => exact ⟨[], rfl, rfl, List.nodup_nil, ⟨[], rfl⟩, nofun, nofun⟩
  | append_singleton turns d ih =>
    obtain ⟨done, fits⟩ := ih
    rw [runSnoc]
    exact fits.apply d

theorem applySelector (p : SelectorLoop) (d : LoopEvent) :
    (p.apply d).selector = p.selector ∨ ∃ e, (p.apply d).selector = p.selector.apply e := by
  cases d with
  | outside e =>
    simp only [apply]
    split
    · exact .inl rfl
    · exact .inr ⟨e, rfl⟩
  | listen =>
    simp only [apply, Serving.listen]
    split
    · exact .inr ⟨.beginAccept p.serving.listener, rfl⟩
    · exact .inl rfl
  | join i =>
    simp only [apply, Serving.join]
    split
    · cases p.serving.waiting with
      | none => exact .inl rfl
      | some call => exact .inr ⟨.cancelAccept call, rfl⟩
    · exact .inl rfl
  | take | ended | stop | finish => exact .inl rfl

theorem runSelector (p : SelectorLoop) (turns : List LoopEvent) :
    ∃ events, (p.run turns).selector = p.selector.run events := by
  induction turns using List.reverseRecOn with
  | nil => exact ⟨[], rfl⟩
  | append_singleton turns d ih =>
    obtain ⟨events, before⟩ := ih
    rw [runSnoc]
    rcases applySelector (p.run turns) d with same | ⟨e, next⟩
    · exact ⟨events, same.trans before⟩
    · exact ⟨events ++ [e], by rw [next, before, State.runSnoc]⟩

theorem joinSpares (p : SelectorLoop) (i : Nat) :
    (∀ k, (p.apply (.join i)).selector.waiting k = p.selector.waiting k) ∧
      (p.apply (.join i)).selector.places = p.selector.places := by
  simp only [apply, Serving.join]
  split
  · cases p.serving.waiting with
    | none => exact ⟨fun _ => rfl, rfl⟩
    | some call => exact ⟨State.waitingCancelAccept p.selector call, State.placesCancelAccept p.selector call⟩
  · exact ⟨fun _ => rfl, rfl⟩

theorem stepOutside (p : SelectorLoop) (call : Nat) :
    p.apply (.outside (.acceptStep call)) = { p with selector := p.selector.acceptStep call } := by
  simp [apply, isOwnDrop, State.apply]

theorem firstForwarded {routed : Routed} {rest : List Routed} (serving : p.serving.loop.stage = .serving)
    (idle : p.serving.waiting = none) (waits : p.selector.waiting p.serving.listener = routed :: rest) :
    let step := LoopEvent.outside (.acceptStep p.selector.accepts.length)
    (p.run [.listen, step, step, step, .take]).serving = { p.serving with loop := p.serving.loop.accepted routed } ∧
      (p.run [.listen, step, step, step, .take]).selector.waiting p.serving.listener = rest := by
  intro step
  generalize isCall : p.selector.accepts.length = call at step
  have begun : (p.selector.beginAccept p.serving.listener).stageAt p.serving.listener call = some .begun :=
    State.stageAtSome.mpr (isCall ▸ List.getElem?_concat_length)
  obtain ⟨looking, same⟩ := State.beginsLooking begun
  obtain ⟨shrunk, leaving⟩ := State.lookTakes looking (same.trans waits)
  obtain ⟨returned, last⟩ := State.leaves leaving
  have listened := listenNow p.selector serving idle
  simp only [run, List.foldl_cons, List.foldl_nil, step, stepOutside]
  simp only [apply, listened]
  rw [isCall, takeResult rfl (State.stageAtSome.mp returned), idle]
  exact ⟨rfl, last.trans shrunk⟩

def taken (p : SelectorLoop) : List Routed :=
  p.calls.filterMap fun call => (p.selector.resultAt p.serving.listener call).bind Except.toOption

theorem Fits.takenForwarded (fits : p.Fits l target done) :
    p.taken = p.serving.loop.connections ++ (p.inHand.bind Except.toOption).toList := by
  obtain ⟨events, run⟩ := fits.anyListener
  have given := (CallingLoop.soundRun target events).given
  rw [run, List.filterMap_filterMap] at given
  rw [taken, fits.calls, fits.listener, List.filterMap_append, given, inHand, fits.listener]
  cases p.serving.waiting with
  | none => rfl
  | some call => cases h : (p.selector.resultAt l call).bind Except.toOption <;> simp [h]

theorem memTaken {c : Selector.Arrival} {call : Nat} (own : call ∈ p.calls)
    (held : p.selector.Holds c (.call p.serving.listener call)) : ∃ routed ∈ p.taken, routed.arrival = c := by
  obtain ⟨stage, routed, found, taken, arrival⟩ := held
  refine ⟨routed, List.mem_filterMap.mpr ⟨call, own, ?_⟩, arrival⟩
  rw [State.resultAt, State.stageAtSome.mpr found, Option.bind_some]
  cases stage with
  | leaving result | returned result =>
    cases result with
    | ok => exact taken
    | error => cases taken
  | begun | entering | looking | sleeping | cancelled => cases taken

end SelectorLoop

/- What is known of a loop at its virtual listener. Its calls come out as those of a loop at any listener; what they take is
forwarded in order, each once; and what waits in the queue stays there until a call takes it, whatever the loop notes. -/
structure ServesListener (l : Nat) (target : String) (p : SelectorLoop) : Prop where
  anyListener : ∃ events outcomes,
    (CallingLoop.fresh target).run events = ⟨p.serving.loop, p.serving.waiting.isSome, outcomes⟩ ∧
    p.calls.filterMap (p.selector.resultAt l) = outcomes ++ p.inHand.toList
  distinct : p.calls.Nodup
  forwarded : p.taken = p.serving.loop.connections ++ (p.inHand.bind Except.toOption).toList
  spares : ∀ i, (∀ k, (p.apply (.join i)).selector.waiting k = p.selector.waiting k) ∧
    (p.apply (.join i)).selector.places = p.selector.places
  kept : ∀ c k, p.selector.Holds c (.slot l k) → ∀ more,
    (∃ j ≤ k, (p.run more).selector.Holds c (.slot l j)) ∨ (∃ routed ∈ (p.run more).taken, routed.arrival = c) ∨
      ∃ call, call ∉ (p.run more).calls ∧ (p.run more).selector.Holds c (.call l call)
  goesOn : ∀ routed rest, p.serving.loop.stage = .serving → p.serving.waiting = none →
    p.selector.waiting l = routed :: rest →
      let step := LoopEvent.outside (.acceptStep p.selector.accepts.length)
      (p.run [.listen, step, step, step, .take]).serving = { p.serving with loop := p.serving.loop.accepted routed } ∧
        (p.run [.listen, step, step, step, .take]).selector.waiting l = rest

theorem servesListener (s : State) (l : Nat) (target : String) (turns : List LoopEvent) :
    ServesListener l target ((SelectorLoop.start s l target).run turns) := by
  obtain ⟨done, fits⟩ := SelectorLoop.fitsRun s l target turns
  have later (more : List LoopEvent) : (((SelectorLoop.start s l target).run turns).run more).serving.listener = l := by
    obtain ⟨_, fits⟩ := SelectorLoop.fitsRun s l target (turns ++ more)
    rw [SelectorLoop.run, List.foldl_append] at fits
    exact fits.listener
  generalize (SelectorLoop.start s l target).run turns = p at fits later ⊢
  obtain ⟨events, run⟩ := fits.anyListener
  refine ⟨⟨events, _, run, ?_⟩, fits.distinct, fits.takenForwarded, p.joinSpares, fun c k held more => ?_,
    fun routed rest serving idle waits => ?_⟩
  · rw [fits.calls, List.filterMap_append, SelectorLoop.inHand, fits.listener]
    cases p.serving.waiting with
    | none => rfl
    | some call => cases h : p.selector.resultAt l call <;> simp [h]
  · obtain ⟨es, same⟩ := p.runSelector more
    rcases State.slotRun held es with waits | ⟨call, taken⟩
    · exact .inl (same ▸ waits)
    · rw [← same] at taken
      by_cases own : call ∈ (p.run more).calls
      · exact .inr (.inl (SelectorLoop.memTaken own ((later more).symm ▸ taken)))
      · exact .inr (.inr ⟨call, own, taken⟩)
  · rw [← fits.listener] at waits ⊢
    exact SelectorLoop.firstForwarded serving idle waits

theorem routeServed :
    (∀ (κ : Type) (target : String) (events : List (Occurrence κ)),
      ServesRoute target ((CallingLoop.fresh target).run events)) ∧
    ∀ (s : State) (l : Nat) (target : String) (turns : List LoopEvent),
      ServesListener l target ((SelectorLoop.start s l target).run turns) :=
  ⟨fun _ => servesRoute, servesListener⟩

end SharedPort.Gateway
