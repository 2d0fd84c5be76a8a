import SharedPort.Proofs.Selector.Registration
import SharedPort.Proofs.Selector.Signs

/-! A virtual listener is a bounded closable queue. Whatever workers, callers and closers do, in any order, it shows
what one such queue would show, and each of them is told the truth about it. -/
namespace SharedPort.Selector
open SharedPort.Listener (Queue Sign Shows Shown pushedIn handedIn answersIn)

namespace State

theorem resultsAppend (before after : List (Sign Routed)) :
    resultsIn (before ++ after) = resultsIn before ++ resultsIn after := List.flatMap_append

theorem handedResults (signs : List (Sign Routed)) :
    handedIn signs = (resultsIn signs).filterMap fun entry => entry.2.toOption := by
  induction signs with
  | nil => rfl
  | cons sign rest ih =>
    cases sign with
    | pushed | refused | closed => simpa [handedIn, resultsIn, result?, Listener.Sign.handed?] using ih
    | handed | told => simpa [handedIn, resultsIn, result?, Listener.Sign.handed?, Except.toOption] using ih

theorem resultsKinds {signs : List (Sign Routed)} {call : Nat} {result : Except Error Routed}
    (member : (call, result) ∈ resultsIn signs) : (∃ c, result = .ok c) ∨ result = .error .listenerClosed := by
  obtain ⟨sign, _, same⟩ := List.mem_flatMap.mp member
  cases sign with
  | pushed | refused | closed => simp [result?] at same
  | handed _ routed =>
    obtain ⟨_, rfl⟩ : call = _ ∧ result = .ok routed := by simpa [result?] using same
    exact .inl ⟨routed, rfl⟩
  | told =>
    obtain ⟨_, rfl⟩ : call = _ ∧ result = .error .listenerClosed := by simpa [result?] using same
    exact .inr rfl

theorem closeSignsResults (l : Nat) (L : Listener Routed) (stage : Option CloseStage) :
    resultsIn (closeSigns l L stage) = [] := by
  unfold closeSigns
  split
  · split <;> rfl
  · rfl

theorem pushSignsResults (l : Nat) (L : Listener Routed) (worker : Option Worker) :
    resultsIn (pushSigns l L worker) = [] := by
  unfold pushSigns
  split
  · dsimp only
    split
    · split <;> rfl
    · rfl
  · rfl

theorem ownCloseSignsResults (call l : Nat) (L : Listener Routed) (close : Option ListenerClose) :
    resultsIn (ownCloseSigns call l L close) = [] := by
  unfold ownCloseSigns
  split
  · split <;> rfl
  · rfl

theorem resultsCases (s : State) (l : Nat) (e : Event) : resultsIn (s.signs l e) = [] ∨ ∃ call result,
    e = .acceptStep call ∧ s.stageAt l call = some .looking ∧ resultsIn (s.signs l e) = [(call, result)] ∧
      (s.acceptStep call).resultAt l call = some result := by
  cases found : s.listeners[l]? with
  | none => exact .inl (by simp only [signs, found]; rfl)
  | some L =>
    rw [signsFound found]
    cases e with
    | workerStep i => exact .inl (pushSignsResults l L _)
    | listenerCloseStep call => exact .inl (ownCloseSignsResults call l L _)
    | closeStep call | serveStep call => exact .inl (closeSignsResults l L _)
    | acceptStep call =>
      simp only [signsOf, lookSigns]
      split
      · rename_i looks
        have present := stageAtSome.mp looks
        have leaves {t : State} {result : Except Error Routed}
            (accepts : t.accepts = (s.setAccept call (.leaving result)).accepts) : t.resultAt l call = some result := by
          simp [resultAt, stageAtSet present accepts, AcceptStage.result?]
        simp only [Listener.Queue.pop]
        cases items : L.queue.items with
        | cons routed rest =>
          refine .inr ⟨call, .ok routed, rfl, looks, rfl, ?_⟩
          simp only [acceptStep, present, found, Listener.Queue.pop, items]
          exact leaves rfl
        | nil =>
          cases closed : L.queue.closed with
          | false => exact .inl rfl
          | true =>
            refine .inr ⟨call, .error .listenerClosed, rfl, looks, rfl, ?_⟩
            simp only [acceptStep, present, found, Listener.Queue.pop, items, closed, if_true]
            exact leaves rfl
      · exact .inl rfl
    | _ => exact .inl rfl

theorem resultApply {s : State} {l call : Nat} {result : Except Error Routed} {e : Event} :
    (s.apply e).resultAt l call = some result ↔
      s.resultAt l call = some result ∨ (call, result) ∈ resultsIn (s.signs l e) := by
  constructor
  · intro has
    obtain ⟨next, here, has⟩ := Option.bind_eq_some_iff.mp has
    have after := stageAtSome.mp here
    cases before : s.accepts[call]? with
    | none =>
      cases acceptsNew e before after
      simp [AcceptStage.result?] at has
    | some a =>
      obtain ⟨stage, found, move⟩ := acceptMoves e before
      obtain ⟨listener, old⟩ := a
      obtain ⟨rfl, rfl⟩ : listener = l ∧ stage = next := by simpa using found.symm.trans after
      have stood := stageAtSome.mpr before
      cases move with
      | rest => exact .inl (by simp [resultAt, stood, has])
      | returned => exact .inl (by simpa [resultAt, stood, AcceptStage.result?] using has)
      | entered | slept | woken | cancelled => simp [AcceptStage.result?] at has
      | @popped routed rest event waits =>
        cases Option.some.inj has
        cases target : s.listeners[listener]? with
        | none => simp [waiting, target] at waits
        | some L =>
          have items := (waitingOfListener target).symm.trans waits
          right
          rw [signsFound target, event]
          simp [signsOf, lookSigns, stood, Listener.Queue.pop, items, resultsIn, result?]
      | @ended L event target drained closed =>
        cases Option.some.inj has
        right
        rw [signsFound target, event]
        simp [signsOf, lookSigns, stood, Listener.Queue.pop, drained, closed, resultsIn, result?]
  · rintro (before | now)
    · exact resultStays e before
    · rcases resultsCases s l e with none | ⟨other, given, rfl, _, results, has⟩
      · simp [none] at now
      · rw [results, List.mem_singleton, Prod.mk.injEq] at now
        obtain ⟨rfl, rfl⟩ := now
        exact has

theorem resultSigns {s : State} {l call : Nat} {result : Except Error Routed} {events : List Event} :
    (s.run events).resultAt l call = some result ↔
      s.resultAt l call = some result ∨ (call, result) ∈ resultsIn (signsIn l s events) := by
  induction events generalizing s with
  | nil => simp [run, signsIn, resultsIn]
  | cons e rest ih =>
    rw [signsIn, resultsAppend, List.mem_append, ← or_assoc, ← resultApply]
    exact ih

theorem resultsOnce (s : State) (l : Nat) (events : List Event) :
    ((resultsIn (signsIn l s events)).map Prod.fst).Nodup ∧
      ∀ call ∈ (resultsIn (signsIn l s events)).map Prod.fst, s.resultAt l call = none := by
  induction events generalizing s with
  | nil => exact ⟨List.nodup_nil, fun _ member => (List.not_mem_nil member).elim⟩
  | cons e rest ih =>
    obtain ⟨distinct, fresh⟩ := ih (s.apply e)
    have before {call : Nat} (later : (s.apply e).resultAt l call = none) : s.resultAt l call = none := by
      by_contra has
      obtain ⟨result, has⟩ := Option.ne_none_iff_exists'.mp has
      simp [resultStays e has] at later
    rw [signsIn, resultsAppend, List.map_append]
    rcases resultsCases s l e with nothing | ⟨call, result, rfl, looks, results, has⟩
    · rw [nothing]
      exact ⟨distinct, fun call member => before (fresh call member)⟩
    · rw [results]
      refine ⟨distinct.cons fun member => ?_, fun other member => ?_⟩
      · simpa [apply, has] using fresh call member
      · rcases List.mem_cons.mp member with rfl | later
        · simp [resultAt, looks, AcceptStage.result?]
        · exact before (fresh other later)

inductive OwnCloseMove (s : State) (e : Event) (t : State) : Prop where
  | rest (same : t.listenerCloses = s.listenerCloses)
      (idle : ∀ i l, e = .listenerCloseStep i → s.listenerCloses[i]? ≠ some ⟨l, .closing⟩)
  | began {l} (known : e = .beginListenerClose l ∨ l ∈ s.registry.listeners)
      (added : t.listenerCloses = s.listenerCloses ++ [⟨l, .closing⟩]) (other : ∀ i, e ≠ .listenerCloseStep i)
  | shut {i l} (event : e = .listenerCloseStep i) (found : s.listenerCloses[i]? = some ⟨l, .closing⟩)
      (next : t.listenerCloses =
        s.listenerCloses.set i ⟨l, if (s.closeQueue l).1 then .ringing else .returned false⟩)
  | rang {i l} (event : e = .listenerCloseStep i) (found : s.listenerCloses[i]? = some ⟨l, .ringing⟩)
      (next : t.listenerCloses = s.listenerCloses.set i ⟨l, .returned true⟩)

theorem CallerMove.each {s t : State} (move : CallerMove s t) : t.listenerCloses = s.listenerCloses := by
  cases move <;> assumption

theorem ownCloseMove (s : State) (e : Event) : OwnCloseMove s e (s.apply e) := by
  have still {t : State} {e : Event} (same : t.listenerCloses = s.listenerCloses) (other : ∀ i, e ≠ .listenerCloseStep i) :
      OwnCloseMove s e t := .rest same fun i _ event => (other i event).elim
  cases traffic : e.isTraffic with
  | true =>
    refine still (trafficUnmoved s traffic).each fun i => ?_
    rintro rfl
    cases traffic
  | false =>
    cases e with
    | register key =>
      simp only [apply, register]
      split <;> exact still rfl (by simp)
    | registerDefault =>
      simp only [apply, registerDefault]
      split <;> exact still rfl (by simp)
    | unregister key =>
      simp only [apply, unregister]
      split
      · exact still rfl (by simp)
      · rename_i l registry removed
        exact .began (.inr (Registry.removeListener removed)) rfl (by simp)
    | unregisterDefault =>
      simp only [apply, unregisterDefault]
      split
      · exact still rfl (by simp)
      · rename_i l registry taken
        exact .began (.inr (Registry.takeListener taken)) rfl (by simp)
    | beginListenerClose l => exact .began (.inl rfl) rfl (by simp)
    | listenerCloseStep i =>
      cases found : s.listenerCloses[i]? with
      | none =>
        simp only [apply, listenerCloseStep, found]
        exact .rest rfl fun j l event => by cases event; simp [found]
      | some c =>
        obtain ⟨l, stage⟩ := c
        cases stage with
        | closing =>
          refine .shut rfl found ?_
          simp only [apply, listenerCloseStep, found]
          rw [(closeQueueSame s l).2.2]
        | ringing =>
          refine .rang rfl found ?_
          simp only [apply, listenerCloseStep, found]
        | returned wasOpen =>
          simp only [apply, listenerCloseStep, found]
          exact .rest rfl fun j l event => by cases event; simp [found]
    | closeStep i => exact still (callerCloseStep s i).each (by simp)
    | serveStep i => exact still (callerServeStep s i).each (by simp)
    | acceptFailed i cause => exact still (callerAcceptFailed s i cause).each (by simp)
    | cancelServe i => exact still (callerCancelServe s i).each (by simp)
    | beginClose | beginServe => exact still rfl (by simp)
    | accepted | workerRead | workerTimeout | workerStep | beginAccept | acceptStep | cancelAccept | advance =>
      cases traffic

def Held (s : State) (events : List Event) : Prop :=
  ∀ before l after, events = before ++ .beginListenerClose l :: after → l < (s.run before).listeners.length

theorem heldEarly {s : State} {events more : List Event} (held : Held s (events ++ more)) : Held s events :=
  fun before l after split => held before l (after ++ more) (by simp [split])

theorem inOrderPresent {s : State} (order : InOrder s) {l : Nat} (registered : l ∈ s.registry.listeners) :
    l < s.listeners.length := by
  rcases List.mem_append.mp registered with route | default
  · obtain ⟨entry, member, rfl⟩ := List.mem_map.mp route
    obtain ⟨L, found, _⟩ := order.keyed entry member
    exact (List.getElem?_eq_some_iff.mp found).1
  · obtain ⟨L, found, _⟩ := order.unkeyed l (by simpa using default)
    exact (List.getElem?_eq_some_iff.mp found).1

theorem closesPresent {s : State} (order : InOrder s) (none : s.listenerCloses = []) {events : List Event}
    (held : Held s events) : ∀ c ∈ (s.run events).listenerCloses, c.listener < (s.run events).listeners.length := by
  induction events using List.reverseRecOn with
  | nil => simp [run, none]
  | append_singleton events e ih =>
    have before := ih (heldEarly held)
    have length := lengthApply (s.run events) e
    rw [runSnoc]
    have kept {c : ListenerClose} (member : c ∈ (s.run events).listenerCloses) :
        c.listener < ((s.run events).apply e).listeners.length := Nat.lt_of_lt_of_le (before c member) length
    intro c member
    cases ownCloseMove (s.run events) e with
    | rest same => exact kept (same ▸ member)
    | @began l known added =>
      rw [added] at member
      rcases List.mem_append.mp member with old | new
      · exact kept old
      · rw [List.mem_singleton.mp new]
        refine Nat.lt_of_lt_of_le ?_ length
        rcases known with rfl | registered
        · exact held events l [] rfl
        · exact inOrderPresent (inOrderRun order events) registered
    | shut _ found next | rang _ found next =>
      rw [next] at member
      rcases List.mem_or_eq_of_mem_set member with old | rfl
      · exact kept old
      · have present := before _ (List.mem_of_getElem? found)
        exact Nat.lt_of_lt_of_le present length

theorem closedSigns {s : State} {l call : Nat} {b : Bool} {e : Event} :
    .closed (some call) b ∈ s.signs l e ↔ ∃ L, s.listeners[l]? = some L ∧ e = .listenerCloseStep call ∧
      s.listenerCloses[call]? = some ⟨l, .closing⟩ ∧ b = L.queue.close.1 := by
  cases found : s.listeners[l]? with
  | none => simp [signs, found]
  | some L =>
    simp only [signsFound found, Option.some.injEq, exists_eq_left']
    cases e with
    | workerStep i =>
      simp only [signsOf, pushSigns]
      split
      · split
        · split <;> simp
        · simp
      · simp
    | acceptStep caller =>
      simp only [signsOf, lookSigns]
      split
      · split <;> simp
      · simp
    | closeStep i | serveStep i =>
      simp only [signsOf, closeSigns]
      split
      · split <;> simp
      · simp
    | listenerCloseStep i =>
      simp only [signsOf, ownCloseSigns, Event.listenerCloseStep.injEq]
      by_cases own : i = call
      · subst i
        split
        · rename_i k closing
          by_cases here : k = l <;> simp [closing, here]
        · rename_i other
          simp only [List.not_mem_nil, true_and, false_iff, not_and]
          exact fun closing => (other l closing).elim
      · simp only [own, false_and, iff_false]
        split
        · split
          · simp [Ne.symm own]
          · simp
        · simp
    | _ => simp [signsOf]

theorem answerApply {s : State} {l call : Nat} {b : Bool} {e : Event}
    (present : ∀ c ∈ s.listenerCloses, c.listener < s.listeners.length) :
    (s.apply e).answerAt l call = some b ↔ s.answerAt l call = some b ∨ .closed (some call) b ∈ s.signs l e := by
  rw [closedSigns]
  cases ownCloseMove s e with
  | rest same idle =>
    have none : ¬ ∃ L, s.listeners[l]? = some L ∧ e = .listenerCloseStep call ∧
        s.listenerCloses[call]? = some ⟨l, .closing⟩ ∧ b = L.queue.close.1 :=
      fun ⟨_, _, event, closing, _⟩ => idle call l event closing
    simp only [none, or_false, answerAt, same]
  | @began k _ added other =>
    simp only [other, false_and, and_false, exists_false, or_false, answerAt, added, List.getElem?_append]
    split
    · rfl
    · rename_i beyond
      rw [List.getElem?_eq_none (Nat.le_of_not_lt beyond), List.getElem?_singleton]
      split <;> simp [ListenerCloseStage.answer?]
  | @shut i k event found next =>
    subst event
    by_cases own : i = call
    · subst i
      obtain ⟨K, target⟩ : ∃ K, s.listeners[k]? = some K :=
        ⟨_, List.getElem?_eq_getElem (present _ (List.mem_of_getElem? found))⟩
      have told : (s.closeQueue k).1 = K.queue.close.1 := by simp only [closeQueue, target]
      simp only [answerAt, next, foundSet found, found, told]
      by_cases here : k = l
      · subst k
        cases answer : K.queue.close.1 <;> simp [target, answer, ListenerCloseStage.answer?, eq_comm]
      · simp [here]
    · simp [answerAt, next, List.getElem?_set_ne own, own]
  | @rang i k event found next =>
    subst event
    by_cases own : i = call
    · subst i
      simp only [answerAt, next, foundSet found, found]
      by_cases here : k = l <;> simp [here, ListenerCloseStage.answer?]
    · simp [answerAt, next, List.getElem?_set_ne own, own]

theorem answerSigns {s : State} (order : InOrder s) (none : s.listenerCloses = []) {l call : Nat} {b : Bool}
    {events : List Event} (held : Held s events) :
    (s.run events).answerAt l call = some b ↔ .closed (some call) b ∈ signsIn l s events := by
  induction events using List.reverseRecOn with
  | nil => simp [run, signsIn, answerAt, none]
  | append_singleton events e ih =>
    have early := heldEarly held
    rw [runSnoc, answerApply (closesPresent order none early), ih early, signsAppend, List.mem_append]
    simp [signsIn]

inductive Pushes (s t : State) (i : Nat) (w : Worker) (l : Nat) (item : Routed) : List (Sign Routed) → Prop where
  | appended (isOpen : s.isShut l = false)
      (room : ∀ n, s.setup.options.queueCapacity = some n → (s.waiting l).length < n)
      (worker : t.workers[i]? = some { w with stage := .ringing l }) (next : t.waiting l = s.waiting l ++ [item]) :
      Pushes s t i w l item [.pushed item]
  | refused {why} (reason : if s.isShut l then why = .closed else
        why = .full ∧ ∃ n, s.setup.options.queueCapacity = some n ∧ n ≤ (s.waiting l).length)
      (worker : t.workers[i]? = some { w with stage := .settled (.rejected l why) })
      (listeners : t.listeners = s.listeners) : Pushes s t i w l item [.refused why item item]

theorem pushes {s : State} (capped : s.Capped) {i l : Nat} {w : Worker} {header : Bytes} {L : Listener Routed}
    (worker : s.workers[i]? = some w) (stage : w.stage = .found header l) (found : s.listeners[l]? = some L) :
    Pushes s (s.apply (.workerStep i)) i w l ⟨.ofHeader w.arrival.connection header, w.arrival.peer⟩
      (s.signs l (.workerStep i)) := by
  obtain ⟨arrival, owner, deadline, _⟩ := w
  cases stage
  have capacity := capped L (List.mem_of_getElem? found)
  have shut : s.isShut l = L.queue.closed := by simp [isShut, found]
  have waits := waitingOfListener found
  simp only [signsFound found, signsOf, pushSigns, worker, if_true, apply, workerStep, deliver, found,
    Listener.Queue.push]
  by_cases closed : L.queue.closed = true
  · simp only [if_pos closed]
    exact .refused (by simp [shut, closed]) ((workersSetWorker worker _ i).trans (if_pos rfl)) rfl
  · simp only [if_neg closed]
    by_cases full : L.queue.isFull L.capacity = true
    · simp only [if_pos full]
      refine .refused ?_ ((workersSetWorker worker _ i).trans (if_pos rfl)) rfl
      obtain ⟨n, bound, crowd⟩ := (Option.any_eq_true _ _).mp full
      rw [shut, if_neg closed]
      exact ⟨rfl, n, capacity ▸ bound, by simpa [waits] using crowd⟩
    · simp only [if_neg full]
      refine .appended (by simpa [shut] using closed) (fun n bound => ?_)
        ((workersSetWorker worker _ i).trans (if_pos rfl)) ?_
      · simpa [Listener.Queue.isFull, capacity, bound, waits] using full
      · rw [waits]
        exact (waitingSetQueue found _ l).trans (if_pos rfl)

/- Between `t`, where `l` is shut, and a later run: nothing enters, what waits goes out from the front, and who finds the
queue empty learns that the listener is closed. -/
structure Drains (t : State) (more : List Event) (l : Nat) : Prop where
  entered : pushedIn (signsIn l t more) = []
  handed : handedIn (signsIn l t more) ++ (t.run more).waiting l = t.waiting l
  results : ∀ call result, (t.run more).resultAt l call = some result →
    t.resultAt l call = some result ∨ (call, result) ∈ resultsIn (signsIn l t more)
  drained : t.waiting l = [] → ∀ call result, (call, result) ∈ resultsIn (signsIn l t more) →
    result = .error .listenerClosed

/- Listener `l` after a run, told by its signs. Every call that it was asked for has its result or answer among them, and
an incoming stream makes an item or its end of each result. -/
structure BoundedFifo (s₀ : State) (events : List Event) (l : Nat) : Prop where
  shown : Shown s₀.setup.options.queueCapacity {} (signsIn l s₀ events) ((s₀.run events).queueAt l)
  order : ((resultsIn (signsIn l s₀ events)).filterMap fun entry => entry.2.toOption) ++ (s₀.run events).waiting l =
    pushedIn (signsIn l s₀ events)
  pending : ∀ L, (s₀.run events).listeners[l]? = some L →
    (handedIn (signsIn l s₀ events)).length + L.pending = (pushedIn (signsIn l s₀ events)).length ∧
      ∀ n, s₀.setup.options.queueCapacity = some n → L.pending ≤ n
  pushed : ∀ i w header, (s₀.run events).workers[i]? = some w → w.stage = .found header l →
    Pushes (s₀.run events) ((s₀.run events).apply (.workerStep i)) i w l
      ⟨.ofHeader w.arrival.connection header, w.arrival.peer⟩ ((s₀.run events).signs l (.workerStep i))
  results : ∀ call result, (s₀.run events).resultAt l call = some result ↔
    (call, result) ∈ resultsIn (signsIn l s₀ events)
  once : ((resultsIn (signsIn l s₀ events)).map Prod.fst).Nodup
  streams : ∀ call result, (s₀.run events).resultAt l call = some result →
    (∃ c, result = .ok c ∧ Incoming.item? result = some (.ok c)) ∨
      result = .error .listenerClosed ∧ Incoming.item? result = none
  closes : ∀ call b, (s₀.run events).answerAt l call = some b ↔ .closed (some call) b ∈ signsIn l s₀ events
  first : ∃ again, answersIn (signsIn l s₀ events) =
    (if (s₀.run events).isShut l then [true] else []) ++ List.replicate again false
  shut : (s₀.run events).isShut l = true → ∀ more, Drains (s₀.run events) more l
  answers : (s₀.run events).isShut l = true → ¬ (s₀.run events).RingsAll l → ∀ more call stage,
    ((s₀.run events).run more).stageAt l call = some stage → ∀ rest : List Event, 4 ≤ rest.countP (isStepOf call) →
      (∃ result, (((s₀.run events).run more).run rest).stageAt l call = some (.returned result)) ∨
        (((s₀.run events).run more).run rest).stageAt l call = some .cancelled

theorem drains {t : State} (capped : t.Capped) {l : Nat} (shut : t.isShut l = true) (more : List Event) :
    Drains t more l := by
  have shown := shownRun capped l more
  have closed : (t.queueAt l).closed = true := (queueClosed t l).trans shut
  have handed := shown.conserved
  rw [shown.enters closed, List.append_nil, queueItems, queueItems] at handed
  refine ⟨shown.enters closed, handed, fun call result has => resultSigns.mp has, fun empty call result member => ?_⟩
  rw [empty, List.append_eq_nil_iff, handedResults, List.filterMap_eq_nil_iff] at handed
  rcases resultsKinds member with ⟨c, rfl⟩ | closed
  · simpa [Except.toOption] using handed.1 _ member
  · exact closed

theorem boundedClosableFifo {setup : Setup} {s₀ : State} (made : create setup = .ok s₀) {events : List Event}
    (handled : Handled s₀ events) (held : Held s₀ events) (l : Nat) : BoundedFifo s₀ events l := by
  have order := inOrderCreated made
  have capped := cappedCreated made
  have signed (call : Nat) (result : Except Error Routed) : (s₀.run events).resultAt l call = some result ↔
      (call, result) ∈ resultsIn (signsIn l s₀ events) := by
    obtain ⟨rfl, _⟩ := created made
    exact resultSigns.trans (by simp [resultAt, stageAt])
  have shown := shownRun capped l events
  have empty : s₀.queueAt l = {} := by
    obtain ⟨rfl, _⟩ := created made
    rfl
  rw [empty] at shown
  have conserved := shown.conserved
  rw [List.nil_append, queueItems] at conserved
  refine ⟨shown, handedResults _ ▸ conserved, fun L found => ?_, fun i w header worker stage => ?_, signed,
    (resultsOnce s₀ l events).1, fun call result has => ?_, fun call b => ?_, ?_,
    fun shut => drains (cappedRun capped events) shut, fun shut rung more call stage here rest enough => ?_⟩
  · have waits := waitingOfListener found
    refine ⟨?_, fun n bound => ?_⟩
    · simpa [Listener.pending, ← waits] using congrArg List.length conserved
    · have bounded := shown.bounded bound (Nat.zero_le n)
      rwa [queueFound found] at bounded
  · have account := accountRun made events worker
    rw [stage] at account
    obtain ⟨L, found⟩ := account.2.2.listener order
    exact pushes (cappedRun capped events) worker stage found
  · rcases resultsKinds ((signed call result).mp has) with ⟨c, rfl⟩ | rfl
    · exact .inl ⟨c, rfl, rfl⟩
    · exact .inr ⟨rfl, rfl⟩
  · refine answerSigns order ?_ held
    obtain ⟨rfl, _⟩ := created made
    rfl
  · obtain ⟨again, answers⟩ := shown.answers
    refine ⟨again, answers.trans ?_⟩
    rw [queueClosed]
    cases (s₀.run events).isShut l <;> rfl
  · have wakeful := wakefulRun made handled l
    have answering : Answering (s₀.run events) l := ⟨wakeful.ticketed, shut, (wakeful.shut shut).resolve_left rung⟩
    exact (endedAtAnswering (answeringRun answering more)).answers call stage here rest enough

def narrowSetup : Setup := { pairSetup with options := { queueCapacity := some 1 } }

def narrowRun : List Event :=
  [.register [65], .beginServe, .serveStep 0, .serveStep 0, .serveStep 0,
    .accepted 0 ⟨7, ⟨.v4 10 0 0 1, 5000⟩⟩, .accepted 0 ⟨8, ⟨.v4 10 0 0 2, 5000⟩⟩, .workerRead 0 (.done [65, 66]),
    .workerRead 1 (.done [65, 67]), .workerStep 0, .workerStep 0, .workerStep 1, .workerStep 1, .beginListenerClose 0,
    .listenerCloseStep 0, .listenerCloseStep 0, .beginListenerClose 0, .listenerCloseStep 1, .beginAccept 0,
    .acceptStep 0, .acceptStep 0, .beginAccept 0, .acceptStep 1, .acceptStep 1]

theorem narrowBoundedFifo :
    create narrowSetup = .ok { setup := narrowSetup } ∧ BoundedFifo { setup := narrowSetup } narrowRun 0 ∧
      signsIn 0 { setup := narrowSetup } narrowRun =
        [.pushed ⟨.ofHeader 7 [65, 66], ⟨.v4 10 0 0 1, 5000⟩⟩,
          .refused .full ⟨.ofHeader 8 [65, 67], ⟨.v4 10 0 0 2, 5000⟩⟩ ⟨.ofHeader 8 [65, 67], ⟨.v4 10 0 0 2, 5000⟩⟩,
          .closed (some 0) true, .closed (some 1) false, .handed 0 ⟨.ofHeader 7 [65, 66], ⟨.v4 10 0 0 1, 5000⟩⟩,
          .told 1] := by
  have made : create narrowSetup = .ok { setup := narrowSetup } := rfl
  have later {before after : List Event} {e : Event} (split : narrowRun = before ++ e :: after)
      (other : e ≠ .register [65]) : 0 < (run { setup := narrowSetup } before).listeners.length := by
    cases before with
    | nil => exact (other (List.cons.inj split).1.symm).elim
    | cons first rest =>
      obtain rfl : .register [65] = first := (List.cons.inj split).1
      exact Nat.lt_of_lt_of_le (by decide) (lengthRun _ rest)
  have handled : Handled { setup := narrowSetup } narrowRun := by
    intro before l after split
    have member : .beginAccept l ∈ narrowRun := by simp [split]
    obtain rfl : l = 0 := by simpa [narrowRun] using member
    exact later split (by simp)
  have held : Held { setup := narrowSetup } narrowRun := by
    intro before l after split
    have member : .beginListenerClose l ∈ narrowRun := by simp [split]
    obtain rfl : l = 0 := by simpa [narrowRun] using member
    exact later split (by simp)
  exact ⟨made, boundedClosableFifo made handled held 0, rfl⟩

end State
end SharedPort.Selector
