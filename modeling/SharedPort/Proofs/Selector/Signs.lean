import SharedPort.Proofs.Listener
import SharedPort.Proofs.Selector.Afterwards
import SharedPort.Selector.Simulation

/-! What a run shows of one listener. Pushes come from the workers, results go to the accept calls, and closes come from
whoever holds the listener and from the selector; the signs of all of them together are those of one queue. -/
namespace SharedPort.Selector
open SharedPort.Listener (Queue Sign Shows Shown pushedIn handedIn answersIn)

def ListenerCloseStage.answer? : ListenerCloseStage → Option Bool
  | .closing => none
  | .ringing => some true
  | .returned wasOpen => some wasOpen

namespace State

def queueAt (s : State) (l : Nat) : Queue Routed := ((s.listeners[l]?).map (·.queue)).getD {}

def answerAt (s : State) (l call : Nat) : Option Bool :=
  (s.listenerCloses[call]?).bind fun c => if c.listener = l then c.stage.answer? else none

def result? : Sign Routed → Option (Nat × Except Error Routed)
  | .handed call routed => some (call, .ok routed)
  | .told call => some (call, .error .listenerClosed)
  | .pushed _ | .refused .. | .closed .. => none

def resultsIn (signs : List (Sign Routed)) : List (Nat × Except Error Routed) :=
  signs.flatMap fun sign => (result? sign).toList

def pushSigns (l : Nat) (L : Listener Routed) : Option Worker → List (Sign Routed)
  | some ⟨arrival, _, _, .found header k⟩ =>
      let item : Routed := ⟨.ofHeader arrival.connection header, arrival.peer⟩
      if k = l then
        [match (L.queue.push L.capacity item).1 with
          | .accepted => .pushed item
          | .refused why back => .refused why item back]
      else []
  | _ => []

def lookSigns (call : Nat) (L : Listener Routed) : Option AcceptStage → List (Sign Routed)
  | some .looking =>
      match L.queue.pop.1 with
      | .item routed => [.handed call routed]
      | .closed => [.told call]
      | .empty => []
  | _ => []

def closeSigns (l : Nat) (L : Listener Routed) : Option CloseStage → List (Sign Routed)
  | some (.closing (k :: _)) => if k = l then [.closed none L.queue.close.1] else []
  | _ => []

def ownCloseSigns (call l : Nat) (L : Listener Routed) : Option ListenerClose → List (Sign Routed)
  | some ⟨k, .closing⟩ => if k = l then [.closed (some call) L.queue.close.1] else []
  | _ => []

def signsOf (s : State) (l : Nat) (L : Listener Routed) : Event → List (Sign Routed)
  | .workerStep i => pushSigns l L s.workers[i]?
  | .acceptStep call => lookSigns call L (s.stageAt l call)
  | .listenerCloseStep call => ownCloseSigns call l L s.listenerCloses[call]?
  | .closeStep call => closeSigns l L (s.closeAt (.close call))
  | .serveStep call => closeSigns l L (s.closeAt (.serve call))
  | _ => []

def signs (s : State) (l : Nat) (e : Event) : List (Sign Routed) :=
  match s.listeners[l]? with
  | none => []
  | some L => s.signsOf l L e

def signsIn (l : Nat) : State → List Event → List (Sign Routed)
  | _, [] => []
  | s, e :: rest => s.signs l e ++ signsIn l (s.apply e) rest

theorem signsAppend (l : Nat) (s : State) (before after : List Event) :
    signsIn l s (before ++ after) = signsIn l s before ++ signsIn l (s.run before) after := by
  induction before generalizing s with
  | nil => rfl
  | cons e rest ih =>
    simp only [List.cons_append, signsIn, ih, List.append_assoc]
    rfl

theorem signsFound {s : State} {l : Nat} {L : Listener Routed} (found : s.listeners[l]? = some L) (e : Event) :
    s.signs l e = s.signsOf l L e := by simp only [signs, found]

theorem queueFound {s : State} {l : Nat} {L : Listener Routed} (found : s.listeners[l]? = some L) :
    s.queueAt l = L.queue := by simp [queueAt, found]

theorem queueItems (s : State) (l : Nat) : (s.queueAt l).items = s.waiting l := by
  unfold queueAt waiting
  cases s.listeners[l]? <;> rfl

theorem queueClosed (s : State) (l : Nat) : (s.queueAt l).closed = s.isShut l := by
  unfold queueAt isShut
  cases s.listeners[l]? <;> rfl

theorem queueSame {s t : State} (listeners : t.listeners = s.listeners) (l : Nat) : t.queueAt l = s.queueAt l := by
  simp only [queueAt, listeners]

theorem queueKeep {s : State} {i : Nat} {change : Listener Routed → Listener Routed}
    (keeps : ∀ L, (change L).queue = L.queue) (l : Nat) : (s.setListener i change).queueAt l = s.queueAt l := by
  simp only [queueAt, setListener, List.getElem?_modify]
  cases s.listeners[l]? with
  | none => simp
  | some L => by_cases same : i = l <;> simp [same, keeps]

theorem queueSet {s : State} {i : Nat} {L : Listener Routed} (found : s.listeners[i]? = some L) (queue : Queue Routed)
    (l : Nat) : (s.setListener i ({ · with queue })).queueAt l = if l = i then queue else s.queueAt l := by
  simp only [queueAt, setListener, List.getElem?_modify]
  by_cases same : l = i
  · subst l; simp [found]
  · have other : i ≠ l := fun h => same h.symm
    simp [same, other]

theorem queueAppend (s : State) (registry : Registry) (key : Option Bytes) (l : Nat) :
    { s with registry, listeners := s.listeners ++ [s.newListener key] : State }.queueAt l = s.queueAt l := by
  simp only [queueAt, List.getElem?_append]
  split
  · rfl
  · rename_i beyond
    rw [List.getElem?_eq_none (Nat.le_of_not_lt beyond), List.getElem?_singleton]
    split <;> simp [newListener]

theorem queueShut {s : State} {l : Nat} {L : Listener Routed} (found : s.listeners[l]? = some L) (k : Nat) :
    (s.closeQueue k).2.queueAt l = if k = l then L.queue.close.2 else L.queue := by
  unfold closeQueue
  by_cases same : k = l
  · subst k
    simp only [found, if_true]
    exact (queueSet found _ l).trans (if_pos rfl)
  · rw [if_neg same, ← queueFound found]
    cases target : s.listeners[k]? with
    | none => rfl
    | some K => exact (queueSet target _ l).trans (if_neg (Ne.symm same))

section Steps
variable {s : State} {l : Nat} {L : Listener Routed} {capacity : Option Nat}

theorem shownQueue {t : State} {signs : List (Sign Routed)} {queue : Queue Routed}
    (shown : Shown capacity L.queue signs queue) (same : t.queueAt l = queue) : Shown capacity L.queue signs (t.queueAt l) :=
  same ▸ shown

theorem shownSame {t : State} (found : s.listeners[l]? = some L) (same : t.queueAt l = s.queueAt l) :
    Shown capacity L.queue [] (t.queueAt l) := shownQueue .nil (same.trans (queueFound found))

theorem shownBell (found : s.listeners[l]? = some L) (i : Nat) (change : Listener.Bell → Listener.Bell) :
    Shown capacity L.queue [] ((s.setListener i fun L => { L with bell := change L.bell }).queueAt l) := by
  apply shownSame found
  apply queueKeep
  intro _
  rfl

theorem shownAdvance (found : s.listeners[l]? = some L) (stage : CloseStage) :
    Shown capacity L.queue (closeSigns l L (some stage)) ((s.closeAdvance stage).2.queueAt l) := by
  have still {t : State} (listeners : t.listeners = s.listeners) : Shown capacity L.queue [] (t.queueAt l) :=
    shownSame found (queueSame listeners l)
  cases stage with
  | swapping | taking =>
    unfold closeAdvance closeSigns
    dsimp only
    split <;> exact still rfl
  | signalling | closingSource | draining | returned => exact still rfl
  | ringing k left => exact shownBell found k Listener.Bell.ringAll
  | closing left =>
    cases left with
    | nil => exact still rfl
    | cons k left =>
      refine shownQueue ?_ (queueShut found k)
      by_cases here : k = l
      · simp only [closeSigns, if_pos here]
        exact .one (Listener.showsClose L.queue none)
      · simp only [closeSigns, if_neg here]
        exact .nil

theorem shownCloseStep (found : s.listeners[l]? = some L) (call : Nat) :
    Shown capacity L.queue (closeSigns l L (s.closeAt (.close call))) ((s.closeStep call).queueAt l) := by
  cases before : s.closes[call]? with
  | none =>
    simp only [closeStep, closeAt, before]
    exact shownSame found rfl
  | some stage =>
    simp only [closeStep, closeAt, before]
    exact shownAdvance found stage

theorem shownServeStep (found : s.listeners[l]? = some L) (call : Nat) :
    Shown capacity L.queue (closeSigns l L (s.closeAt (.serve call))) ((s.serveStep call).queueAt l) := by
  have still {t : State} (listeners : t.listeners = s.listeners) : Shown capacity L.queue [] (t.queueAt l) :=
    shownSame found (queueSame listeners l)
  cases before : s.serves[call]? with
  | none =>
    simp only [serveStep, closeAt, before]
    exact still rfl
  | some stage =>
    simp only [serveStep, closeAt, before, Option.bind_some]
    cases stage with
    | taking | checking | looping | aborting =>
      simp only [ServeStage.close?, closeSigns]
      split <;> exact still rfl
    | closing stage result =>
      cases stage with
      | returned => exact still rfl
      | swapping | signalling | taking | closingSource | draining | closing | ringing => exact shownAdvance found _
    | withoutSource | subscribing | closingSource | returned | cancelled => exact still rfl

theorem shownListenerCloseStep (found : s.listeners[l]? = some L) (call : Nat) :
    Shown capacity L.queue (ownCloseSigns call l L s.listenerCloses[call]?) ((s.listenerCloseStep call).queueAt l) := by
  cases before : s.listenerCloses[call]? with
  | none =>
    simp only [listenerCloseStep, before]
    exact shownSame found rfl
  | some c =>
    obtain ⟨k, stage⟩ := c
    simp only [listenerCloseStep, before]
    cases stage with
    | closing =>
      refine shownQueue ?_ ((queueSame rfl l).trans (queueShut found k))
      by_cases here : k = l
      · simp only [ownCloseSigns, if_pos here]
        exact .one (Listener.showsClose L.queue (some call))
      · simp only [ownCloseSigns, if_neg here]
        exact .nil
    | ringing => exact shownBell found k Listener.Bell.ringAll
    | returned => exact shownSame found rfl

theorem shownDeliver (found : s.listeners[l]? = some L) (room : L.capacity = capacity) (i k : Nat) (arrival : Arrival)
    (owner : Nat) (deadline : Option Nat) (header : Bytes) :
    Shown capacity L.queue (pushSigns l L (some ⟨arrival, owner, deadline, .found header k⟩))
      ((s.deliver i arrival header k).queueAt l) := by
  subst room
  simp only [pushSigns]
  by_cases here : k = l
  · subst k
    have shows := @Listener.showsPush _ L.capacity L.queue ⟨.ofHeader arrival.connection header, arrival.peer⟩
    rw [if_pos rfl]
    simp only [deliver, found]
    cases pushed : L.queue.push L.capacity ⟨.ofHeader arrival.connection header, arrival.peer⟩ with
    | mk answer queue =>
      rw [pushed] at shows
      cases answer with
      | accepted => exact shownQueue (.one shows) ((queueSet found queue l).trans (if_pos rfl))
      | refused why back =>
        have kept := (Listener.Queue.pushRefused (congrArg Prod.fst pushed)).2
        rw [pushed] at kept
        exact shownQueue (.one shows) ((queueFound found).trans kept.symm)
  · rw [if_neg here]
    unfold deliver
    cases target : s.listeners[k]? with
    | none => exact shownSame found rfl
    | some K =>
      dsimp only
      split
      · exact shownSame found ((queueSet target _ l).trans (if_neg (Ne.symm here)))
      · exact shownSame found rfl

theorem shownWorkerStep (found : s.listeners[l]? = some L) (room : L.capacity = capacity) (i : Nat) :
    Shown capacity L.queue (pushSigns l L s.workers[i]?) ((s.workerStep i).queueAt l) := by
  have still {t : State} (listeners : t.listeners = s.listeners) : Shown capacity L.queue [] (t.queueAt l) :=
    shownSame found (queueSame listeners l)
  cases worker : s.workers[i]? with
  | none =>
    rw [noWorkerStep worker]
    exact still rfl
  | some w =>
    obtain ⟨arrival, owner, deadline, stage⟩ := w
    simp only [workerStep, worker]
    cases stage with
    | peeking | settled => exact still rfl
    | peeked header =>
      simp only [pushSigns]
      split <;> exact still rfl
    | ringing k => exact shownBell found k Listener.Bell.ringOne
    | found header k => exact shownDeliver found room i k arrival owner deadline header

theorem shownLook (found : s.listeners[l]? = some L) {call k : Nat} (present : s.accepts[call]? = some ⟨k, .looking⟩) :
    Shown capacity L.queue (lookSigns call L (s.stageAt l call)) ((s.acceptStep call).queueAt l) := by
  have still {t : State} (listeners : t.listeners = s.listeners) : Shown capacity L.queue [] (t.queueAt l) :=
    shownSame found (queueSame listeners l)
  simp only [acceptStep, stageOf present l, present]
  by_cases here : k = l
  · subst k
    simp only [found, if_true, lookSigns, Queue.pop]
    cases items : L.queue.items with
    | nil =>
      cases closed : L.queue.closed with
      | true =>
        have empty : L.queue = ⟨[], true⟩ := by rw [← items, ← closed]
        simp only [if_true]
        refine shownQueue ?_ (queueFound found)
        rw [empty]
        exact .one .told
      | false => exact still rfl
    | cons routed rest =>
      have whole : L.queue = ⟨routed :: rest, L.queue.closed⟩ := by rw [← items]
      refine shownQueue (.one ?_) ((queueSet found _ l).trans (if_pos rfl))
      generalize L.queue = queue at whole ⊢
      rw [whole]
      exact .handed
  · rw [if_neg here]
    cases target : s.listeners[k]? with
    | none => exact still rfl
    | some K =>
      dsimp only
      split
      · exact shownSame found ((queueSet target _ l).trans (if_neg (Ne.symm here)))
      · exact still rfl
      · exact still rfl

theorem shownAcceptStep (found : s.listeners[l]? = some L) (call : Nat) :
    Shown capacity L.queue (lookSigns call L (s.stageAt l call)) ((s.acceptStep call).queueAt l) := by
  have quiet {stage : AcceptStage} (other : stage ≠ .looking) {k : Nat} {t : State}
      (present : s.accepts[call]? = some ⟨k, stage⟩) (shown : Shown capacity L.queue [] (t.queueAt l)) :
      Shown capacity L.queue (lookSigns call L (s.stageAt l call)) (t.queueAt l) := by
    rw [stageOf present]
    by_cases here : k = l
    · cases stage with
      | looking => exact (other rfl).elim
      | _ => simpa [here, lookSigns] using shown
    · simpa [here, lookSigns] using shown
  cases present : s.accepts[call]? with
  | none =>
    simp only [acceptStep, stageAt, present, Option.bind_none]
    exact shownSame found rfl
  | some a =>
    obtain ⟨k, stage⟩ := a
    cases stage with
    | looking => exact shownLook found present
    | begun | entering =>
      simp only [acceptStep, present]
      exact quiet (by simp) present (shownBell found k (Listener.Bell.take call))
    | leaving =>
      simp only [acceptStep, present]
      exact quiet (by simp) present (shownBell found k (Listener.Bell.leave call))
    | returned | cancelled =>
      simp only [acceptStep, present]
      exact quiet (by simp) present (shownSame found rfl)
    | sleeping =>
      simp only [acceptStep, present]
      split
      · exact quiet (by simp) present (shownBell found k (Listener.Bell.pass call))
      · exact quiet (by simp) present (shownSame found rfl)

theorem shownSignsOf (found : s.listeners[l]? = some L) (room : L.capacity = capacity) (e : Event) :
    Shown capacity L.queue (s.signsOf l L e) ((s.apply e).queueAt l) := by
  have still {t : State} (listeners : t.listeners = s.listeners) : Shown capacity L.queue [] (t.queueAt l) :=
    shownSame found (queueSame listeners l)
  cases e with
  | workerStep i => exact shownWorkerStep found room i
  | acceptStep call => exact shownAcceptStep found call
  | listenerCloseStep call => exact shownListenerCloseStep found call
  | closeStep call => exact shownCloseStep found call
  | serveStep call => exact shownServeStep found call
  | register key =>
    simp only [signsOf, apply, register]
    split
    · exact still rfl
    · exact shownSame found (queueAppend s _ _ l)
  | registerDefault =>
    simp only [signsOf, apply, registerDefault]
    split
    · exact still rfl
    · exact shownSame found (queueAppend s _ _ l)
  | unregister key =>
    simp only [signsOf, apply, unregister]
    split <;> exact still rfl
  | unregisterDefault =>
    simp only [signsOf, apply, unregisterDefault]
    split <;> exact still rfl
  | accepted call arrival =>
    obtain ⟨workers, counts, frame⟩ := acceptedFrame s call arrival
    simp only [signsOf, apply, frame]
    exact still rfl
  | acceptFailed call cause =>
    simp only [signsOf, apply, acceptFailed]
    split
    · split <;> exact still rfl
    · exact still rfl
  | cancelServe call =>
    simp only [signsOf, apply, cancelServe]
    split <;> exact still rfl
  | workerRead i attempt =>
    obtain ⟨workers, counts, frame⟩ := workerReadFrame s i attempt
    simp only [signsOf, apply, frame]
    exact still rfl
  | workerTimeout i =>
    obtain ⟨workers, counts, frame⟩ := workerTimeoutFrame s i
    simp only [signsOf, apply, frame]
    exact still rfl
  | cancelAccept call =>
    simp only [signsOf, apply, cancelAccept]
    split
    · exact still rfl
    · exact shownBell found _ (Listener.Bell.leave call)
    · exact still rfl
  | beginListenerClose | beginClose | beginServe | beginAccept | advance => exact still rfl

end Steps

def Capped (s : State) : Prop := ∀ L ∈ s.listeners, L.capacity = s.setup.options.queueCapacity

theorem cappedApply {s : State} (capped : s.Capped) (e : Event) : (s.apply e).Capped := by
  obtain ⟨setup, kept, registry, _⟩ := change s e
  have old {l : Nat} {M : Listener Routed} (next : (s.apply e).listeners[l]? = some M) (present : l < s.listeners.length) :
      M.capacity = (s.apply e).setup.options.queueCapacity := by
    obtain ⟨N, again, continues⟩ := kept l _ (List.getElem?_eq_getElem present)
    cases Option.some.inj (next.symm.trans again)
    rw [continues.capacity, setup]
    exact capped _ (List.getElem_mem present)
  have added {key : Option Bytes} (listeners : (s.apply e).listeners = s.listeners ++ [s.newListener key]) :
      (s.apply e).Capped := by
    intro M member
    rw [listeners] at member
    rcases List.mem_append.mp member with before | new
    · rw [setup]
      exact capped M before
    · rw [List.mem_singleton.mp new, setup]
      rfl
  have same (length : (s.apply e).listeners.length = s.listeners.length) : (s.apply e).Capped := by
    intro M member
    obtain ⟨l, next⟩ := List.getElem?_of_mem member
    exact old next (length ▸ (List.getElem?_eq_some_iff.mp next).1)
  cases registry with
  | same _ length | drained _ length => exact same length
  | removed _ _ listeners | removedDefault _ _ listeners => exact same (congrArg List.length listeners)
  | added _ _ _ _ listeners => exact added listeners
  | addedDefault _ _ _ _ listeners => exact added listeners

theorem cappedRun {s : State} (capped : s.Capped) (events : List Event) : (s.run events).Capped := by
  induction events generalizing s with
  | nil => exact capped
  | cons e rest ih => exact ih (cappedApply capped e)

theorem queueFresh {s : State} {l : Nat} (absent : s.listeners[l]? = none) (e : Event) : (s.apply e).queueAt l = {} := by
  rcases listenersNew (List.getElem?_eq_none_iff.mp absent) e with still | ⟨key, added⟩
  · rw [queueAt, still]
    rfl
  · rw [queueAt, added]
    rfl

theorem shownApply {s : State} (capped : s.Capped) (l : Nat) (e : Event) :
    Shown s.setup.options.queueCapacity (s.queueAt l) (s.signs l e) ((s.apply e).queueAt l) := by
  cases found : s.listeners[l]? with
  | none =>
    have before : s.queueAt l = {} := by simp only [queueAt, found, Option.map_none, Option.getD_none]
    simp only [signs, found, before, queueFresh found e]
    exact .nil
  | some L =>
    rw [signsFound found, queueFound found]
    exact shownSignsOf found (capped L (List.mem_of_getElem? found)) e

theorem shownRun {s : State} (capped : s.Capped) (l : Nat) (events : List Event) :
    Shown s.setup.options.queueCapacity (s.queueAt l) (signsIn l s events) ((s.run events).queueAt l) := by
  induction events generalizing s with
  | nil => exact .nil
  | cons e rest ih =>
    have later := ih (cappedApply capped e)
    rw [(change s e).setup] at later
    exact (shownApply capped l e).append later

theorem cappedCreated {setup : Setup} {s : State} (made : create setup = .ok s) : s.Capped := by
  obtain ⟨rfl, _⟩ := created made
  exact fun _ member => (List.not_mem_nil member).elim

end State
end SharedPort.Selector
