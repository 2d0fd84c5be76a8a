import SharedPort.Proofs.Selector.Closing
import SharedPort.Proofs.Selector.Registration

/-! Calls that run one after another. A call that nothing comes between is a block of events, and returns at its end: it
has changed the registry in one place, and shut the listeners that it took out. -/
namespace SharedPort.Selector

inductive Call
  | register (key : Bytes)
  | registerDefault
  | unregister (key : Bytes)
  | unregisterDefault
  | close
  deriving DecidableEq, Repr

namespace State

def eventsOf (s : State) : Call → List Event
  | .register key => [.register key]
  | .registerDefault => [.registerDefault]
  | .unregister key => .unregister key :: List.replicate 2 (.listenerCloseStep s.listenerCloses.length)
  | .unregisterDefault => .unregisterDefault :: List.replicate 2 (.listenerCloseStep s.listenerCloses.length)
  | .close => .beginClose :: List.replicate (2 * s.registry.listeners.length + 6) (.closeStep s.closes.length)

def perform (s : State) (c : Call) : State := s.run (s.eventsOf c)

def removedBy (s : State) : Call → List Nat
  | .register _ | .registerDefault => []
  | .unregister key => ((s.registry.routes.find? (·.1 == key)).map Prod.snd).toList
  | .unregisterDefault => s.registry.unmatched.toList
  | .close => s.registry.listeners

structure Shuts (s t : State) (ls : List Nat) : Prop where
  length : t.listeners.length = s.listeners.length
  shut : ∀ l, t.isShut l = true ↔ s.isShut l = true ∨ l ∈ ls ∧ l < s.listeners.length

theorem shutsNone {s t : State} (length : t.listeners.length = s.listeners.length)
    (same : ∀ l, t.isShut l = s.isShut l) : Shuts s t [] := ⟨length, fun l => by simp [same]⟩

theorem shutsSame {s t : State} (listeners : t.listeners = s.listeners) : Shuts s t [] :=
  shutsNone (congrArg List.length listeners) (shutSame listeners)

theorem shutsOne {s t : State} {k : Nat} (listeners : t.listeners = (s.closeQueue k).2.listeners) : Shuts s t [k] := by
  refine ⟨(congrArg List.length listeners).trans (closeQueueLength s k), fun l => ?_⟩
  rw [shutSame listeners, shutCloseQueue, List.mem_singleton]

theorem Shuts.trans {s t u : State} {ks ls : List Nat} (first : Shuts s t ks) (second : Shuts t u ls) :
    Shuts s u (ks ++ ls) := by
  refine ⟨second.length.trans first.length, fun l => ?_⟩
  rw [second.shut, first.shut, first.length, List.mem_append, or_and_right, or_assoc]

theorem closeOnce {s : State} {i : Nat} {stage : CloseStage} (found : s.closes[i]? = some stage) (n : Nat) :
    s.run (List.replicate (n + 1) (.closeStep i)) =
      run { (s.closeAdvance stage).2 with closes := s.closes.set i (s.closeAdvance stage).1 }
        (List.replicate n (.closeStep i)) := by
  have step : s.apply (.closeStep i) =
      { (s.closeAdvance stage).2 with closes := s.closes.set i (s.closeAdvance stage).1 } := by
    simp only [apply, closeStep, found, (closeAdvanceSame s stage).1]
  rw [List.replicate_succ, ← step]
  rfl

theorem returnedRun {s : State} {i : Nat} (found : s.closes[i]? = some .returned) (n : Nat) :
    s.run (List.replicate n (.closeStep i)) = s := by
  induction n with
  | zero => rfl
  | succ n ih =>
    rw [closeOnce found]
    simpa only [closeAdvance, setFound found] using ih

/- The close `i` has returned, and shut `left` on its way. -/
structure WentThrough (s t : State) (i : Nat) (closed : Bool) (registry : Registry) (left : List Nat) : Prop where
  closes : t.closes = s.closes.set i .returned
  each : t.listenerCloses = s.listenerCloses
  closed : t.closed = closed
  registry : t.registry = registry
  shuts : Shuts s t left

theorem WentThrough.onward {s t u : State} {i : Nat} {next : CloseStage} {closed : Bool} {registry : Registry}
    {ks ls : List Nat} (went : WentThrough t u i closed registry ls) (closes : t.closes = s.closes.set i next)
    (each : t.listenerCloses = s.listenerCloses) (shuts : Shuts s t ks) :
    WentThrough s u i closed registry (ks ++ ls) := by
  refine ⟨?_, went.each.trans each, went.closed, went.registry, shuts.trans went.shuts⟩
  rw [went.closes, closes, List.set_set]

theorem goesNext {s : State} {i k : Nat} {left : List Nat} (found : s.closes[i]? = some (.closing (k :: left))) :
    ∃ t, (∃ c ≤ 2, ∀ n, s.run (List.replicate (n + c) (.closeStep i)) = t.run (List.replicate n (.closeStep i))) ∧
      t.closes = s.closes.set i (.closing left) ∧ t.listenerCloses = s.listenerCloses ∧ t.closed = s.closed ∧
      t.registry = s.registry ∧ Shuts s t [k] := by
  obtain ⟨registry, closed⟩ := closeQueueRegistry s k
  have each := (closeQueueSame s k).2.2
  by_cases wasOpen : (s.closeQueue k).1 = true
  · have first : s.closeAdvance (.closing (k :: left)) = (.ringing k left, (s.closeQueue k).2) := by
      simp only [closeAdvance, if_pos wasOpen]
    refine ⟨{ (s.closeQueue k).2.ringAll k with closes := s.closes.set i (.closing left) },
      ⟨2, Nat.le_refl 2, fun n => ?_⟩, rfl, each, closed, registry,
      (shutsOne (k := k) rfl).trans (shutsNone (List.length_modify ..) fun l => shutRingAll _ k l)⟩
    rw [closeOnce found, first, closeOnce (foundSet found _)]
    simp only [closeAdvance, List.set_set]
    rfl
  · have first : s.closeAdvance (.closing (k :: left)) = (.closing left, (s.closeQueue k).2) := by
      simp only [closeAdvance, if_neg wasOpen]
    refine ⟨{ (s.closeQueue k).2 with closes := s.closes.set i (.closing left) },
      ⟨1, Nat.le_succ 1, fun n => ?_⟩, rfl, each, closed, registry, shutsOne rfl⟩
    rw [closeOnce found, first]

theorem goesThrough {s : State} {i : Nat} {left : List Nat} (found : s.closes[i]? = some (.closing left)) {n : Nat}
    (enough : 2 * left.length + 1 ≤ n) :
    WentThrough s (s.run (List.replicate n (.closeStep i))) i s.closed s.registry left := by
  induction left generalizing s n with
  | nil =>
    obtain ⟨m, rfl⟩ : ∃ m, n = m + 1 := ⟨n - 1, by omega⟩
    rw [closeOnce found, returnedRun (foundSet found _)]
    exact ⟨rfl, rfl, rfl, rfl, shutsSame rfl⟩
  | cons k left ih =>
    rw [List.length_cons] at enough
    obtain ⟨t, ⟨c, few, steps⟩, closes, each, closed, registry, shuts⟩ := goesNext found
    obtain ⟨m, rfl⟩ : ∃ m, n = m + c := ⟨n - c, by omega⟩
    rw [steps, ← closed, ← registry]
    exact WentThrough.onward (ih (closes ▸ foundSet found _) (by omega)) closes each shuts

theorem goesOn {s : State} {i n : Nat} {stage : CloseStage} {closed : Bool} {registry : Registry} {left : List Nat}
    (found : s.closes[i]? = some stage) (listeners : (s.closeAdvance stage).2.listeners = s.listeners)
    (went : WentThrough { (s.closeAdvance stage).2 with closes := s.closes.set i (s.closeAdvance stage).1 }
      (run { (s.closeAdvance stage).2 with closes := s.closes.set i (s.closeAdvance stage).1 }
        (List.replicate n (.closeStep i))) i closed registry left) :
    WentThrough s (s.run (List.replicate (n + 1) (.closeStep i))) i closed registry left := by
  rw [closeOnce found]
  have onward := went.onward rfl (closeAdvanceSame s stage).2.2 (shutsSame listeners)
  exact onward

theorem goesDraining {s : State} {i n : Nat} (found : s.closes[i]? = some .draining)
    (enough : 2 * s.registry.listeners.length + 1 ≤ n) :
    WentThrough s (s.run (List.replicate (n + 1) (.closeStep i))) i s.closed {} s.registry.listeners :=
  goesOn found rfl (goesThrough (foundSet found _) enough)

theorem goesTaking {s : State} {i n : Nat} (found : s.closes[i]? = some .taking)
    (enough : 2 * s.registry.listeners.length + 1 ≤ n) :
    WentThrough s (s.run (List.replicate (n + 3) (.closeStep i))) i s.closed {} s.registry.listeners := by
  cases parked : s.parked with
  | true =>
    refine goesOn found ?_ ?_ <;> simp only [closeAdvance, parked, if_true]
    exact goesOn (foundSet found _) rfl (goesDraining (foundSet (foundSet found _) _) enough)
  | false =>
    refine goesOn found ?_ ?_ <;> simp only [closeAdvance, parked, Bool.false_eq_true, if_false]
    exact goesDraining (foundSet found _) (Nat.le_succ_of_le enough)

theorem goesSwapping {s : State} {i n : Nat} (isOpen : s.closed = false) (found : s.closes[i]? = some .swapping)
    (enough : 2 * s.registry.listeners.length + 1 ≤ n) :
    WentThrough s (s.run (List.replicate (n + 5) (.closeStep i))) i true {} s.registry.listeners := by
  refine goesOn found ?_ ?_ <;> simp only [closeAdvance, isOpen, Bool.false_eq_true, if_false]
  exact goesOn (foundSet found _) rfl (goesTaking (foundSet (foundSet found _) _) enough)

theorem registerAnswers (s : State) (key : Bytes) : s.register key =
    match s.setup.validateKey key with
    | .error e => (.error e, s)
    | .ok () =>
        if s.closed = true then (.error .selectorClosed, s)
        else if key ∈ s.registry.keys then (.error (.duplicateKey (Utf8.decodeLossy key)), s)
        else (.ok s.listeners.length,
          { s with
            registry := { s.registry with routes := s.registry.routes ++ [(key, s.listeners.length)] }
            listeners := s.listeners ++ [s.newListener (some key)] }) := by
  unfold register
  cases s.setup.validateKey key with
  | error e => rfl
  | ok =>
    cases isOpen : s.closed with
    | true => rfl
    | false =>
      by_cases present : key ∈ s.registry.keys
      · simp only [bind, Except.bind, Registry.insertPresent _ present, if_pos present, Bool.false_eq_true, if_false]
      · simp only [bind, Except.bind, Registry.insert, Registry.notContains.mpr present, if_neg present,
          Bool.false_eq_true, if_false]

theorem registerDefaultAnswers (s : State) : s.registerDefault =
    if s.closed = true then (.error .selectorClosed, s)
    else if s.registry.unmatched.isSome = true then (.error .duplicateDefault, s)
    else (.ok s.listeners.length,
      { s with
        registry := { s.registry with unmatched := some s.listeners.length }
        listeners := s.listeners ++ [s.newListener none] }) := by
  unfold registerDefault Registry.setDefault
  cases s.closed with
  | true => rfl
  | false => cases s.registry.unmatched <;> rfl

/- What a call has left behind: this registry, and the listeners `ls` shut. Whatever it began has returned. -/
structure Leaves (s t : State) (registry : Registry) (closed : Bool) (ls : List Nat) : Prop where
  registry : t.registry = registry
  closed : t.closed = closed
  shut : ∀ l, t.isShut l = true ↔ s.isShut l = true ∨ l ∈ ls ∧ l < s.listeners.length
  closes : ∃ more, t.closes = s.closes ++ more ∧ ∀ stage ∈ more, stage = .returned
  each : ∃ more, t.listenerCloses = s.listenerCloses ++ more ∧ ∀ c ∈ more, ∃ wasOpen, c.stage = .returned wasOpen

theorem leavesOpen {s t : State} (shut : ∀ l, t.isShut l = s.isShut l) (closed : t.closed = s.closed)
    (closes : t.closes = s.closes) (each : t.listenerCloses = s.listenerCloses) :
    Leaves s t t.registry s.closed [] := by
  refine ⟨rfl, closed, fun l => ?_, ⟨[], ?_, ?_⟩, [], ?_, ?_⟩ <;> simp [shut, closes, each]

theorem listenerCloseOnce {s : State} {c l : Nat} (found : s.listenerCloses[c]? = some ⟨l, .closing⟩) :
    s.listenerCloseStep c = { (s.closeQueue l).2 with
      listenerCloses := s.listenerCloses.set c ⟨l, if (s.closeQueue l).1 then .ringing else .returned false⟩ } := by
  simp only [listenerCloseStep, found, (closeQueueSame s l).2.2]

theorem leavesShut {s t : State} {l : Nat} (wasOpen : Bool) (registry : t.registry = s.registry)
    (closed : t.closed = s.closed) (shut : ∀ k, t.isShut k = (s.closeQueue l).2.isShut k) (closes : t.closes = s.closes)
    (each : t.listenerCloses = s.listenerCloses ++ [⟨l, .returned wasOpen⟩]) : Leaves s t s.registry s.closed [l] := by
  refine ⟨registry, closed, fun k => ?_, ⟨[], by simp [closes], by simp⟩, _, each, by simp⟩
  rw [shut, shutCloseQueue, List.mem_singleton]

theorem leavesListener (s : State) (l : Nat) :
    Leaves s ((s.beginListenerClose l).run (List.replicate 2 (.listenerCloseStep s.listenerCloses.length)))
      s.registry s.closed [l] := by
  have found : (s.beginListenerClose l).listenerCloses[s.listenerCloses.length]? = some ⟨l, .closing⟩ :=
    List.getElem?_concat_length
  have last (old stage : ListenerCloseStage) :
      (s.listenerCloses ++ [(⟨l, old⟩ : ListenerClose)]).set s.listenerCloses.length ⟨l, stage⟩ =
        s.listenerCloses ++ [⟨l, stage⟩] := by
    simp
  obtain ⟨registry, closed⟩ := closeQueueRegistry (s.beginListenerClose l) l
  obtain ⟨closes, _, _⟩ := closeQueueSame (s.beginListenerClose l) l
  have shut (k : Nat) : ((s.beginListenerClose l).closeQueue l).2.isShut k = (s.closeQueue l).2.isShut k :=
    Bool.eq_iff_iff.mpr ((shutCloseQueue (s.beginListenerClose l) l k).trans (shutCloseQueue s l k).symm)
  change Leaves s (((s.beginListenerClose l).listenerCloseStep _).listenerCloseStep _) _ _ _
  rw [listenerCloseOnce found]
  by_cases wasOpen : ((s.beginListenerClose l).closeQueue l).1 = true
  · simp only [if_pos wasOpen, listenerCloseStep, foundSet found]
    refine leavesShut true registry closed (fun k => (shutRingAll _ l k).trans (shut k)) closes ?_
    change ((s.listenerCloses ++ [_]).set _ _).set _ _ = _
    rw [last, last]
  · simp only [if_neg wasOpen, listenerCloseStep, foundSet found]
    exact leavesShut false registry closed shut closes (last _ _)

theorem leavesWent {s : State} {n : Nat} {closed : Bool} {registry : Registry} {left : List Nat}
    (went : WentThrough s.beginClose (s.beginClose.run (List.replicate n (.closeStep s.closes.length))) s.closes.length
      closed registry left) :
    Leaves s (s.run (.beginClose :: List.replicate n (.closeStep s.closes.length))) registry closed left := by
  refine ⟨went.registry, went.closed, went.shuts.shut, ⟨[.returned], ?_, by simp⟩, [], ?_, by simp⟩
  · refine went.closes.trans ?_
    simp [beginClose]
  · exact went.each.trans (List.append_nil _).symm

theorem leavesClose {s : State} (isOpen : s.closed = false) :
    Leaves s (s.perform .close) {} true s.registry.listeners := by
  have found : s.beginClose.closes[s.closes.length]? = some .swapping := List.getElem?_concat_length
  exact leavesWent (@goesSwapping s.beginClose _ _ isOpen found (Nat.le_refl _))

theorem leavesCloseAgain {s : State} (isClosed : s.closed = true) :
    Leaves s (s.perform .close) s.registry true [] := by
  have found : s.beginClose.closes[s.closes.length]? = some .swapping := List.getElem?_concat_length
  refine leavesWent ?_
  rw [closeOnce found]
  have stays : s.beginClose.closeAdvance .swapping = (.returned, s.beginClose) := by
    simp only [closeAdvance, beginClose, isClosed, if_true]
  rw [stays, returnedRun (foundSet found _)]
  exact ⟨rfl, rfl, isClosed, rfl, shutsSame rfl⟩

end State
end SharedPort.Selector
