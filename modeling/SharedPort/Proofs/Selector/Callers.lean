import SharedPort.Proofs.Selector.Changes
import SharedPort.Proofs.Selector.Unclosed

/-! The calls of a selector by their numbers. Accept calls are made at listeners that exist, and stay there. An event
moves one call of close or serve by one step, and a close goes the same way whether it is a call of its own or the end
of a serve call. -/
namespace SharedPort.Selector.State

/- Accept calls are made at listeners that were given out before. -/
def Handled (s : State) (events : List Event) : Prop :=
  ∀ before l after, events = before ++ .beginAccept l :: after → l < (s.run before).listeners.length

theorem handledAppend {s : State} {before after : List Event} :
    Handled s (before ++ after) ↔ Handled s before ∧ Handled (s.run before) after := by
  constructor
  · intro handled
    refine ⟨fun first l last split => handled first l (last ++ after) (by simp [split]), fun first l last split => ?_⟩
    simpa only [runAppend] using handled (before ++ first) l last (by simp [split])
  · rintro ⟨handled, later⟩ first l last split
    rcases List.append_eq_append_iff.mp split with ⟨middle, rfl, rest⟩ | ⟨middle, rfl, rest⟩
    · simpa only [runAppend] using later middle l last rest
    · cases middle with
      | nil => simpa [run] using later [] l last (by simpa using rest.symm)
      | cons e middle =>
        simp only [List.cons_append, List.cons.injEq] at rest
        exact handled first l middle (by rw [rest.1])

theorem handledLast {s : State} {events : List Event} {l : Nat} (handled : Handled s (events ++ [.beginAccept l])) :
    l < (s.run events).listeners.length := handled events l [] rfl

theorem lengthApply (s : State) (e : Event) : s.listeners.length ≤ (s.apply e).listeners.length := by
  cases (change s e).registry with
  | same _ length | drained _ length => omega
  | added _ _ _ _ listeners => simp [listeners]
  | addedDefault _ _ _ _ listeners => simp [listeners]
  | removed _ _ listeners | removedDefault _ _ listeners => simp [listeners]

theorem lengthRun (s : State) (events : List Event) : s.listeners.length ≤ (s.run events).listeners.length := by
  induction events generalizing s with
  | nil => exact Nat.le_refl _
  | cons e rest ih => exact Nat.le_trans (lengthApply s e) (ih (s.apply e))

theorem handledPresent {s : State} {events : List Event}
    (present : ∀ l, .beginAccept l ∈ events → l < s.listeners.length) :
    Handled s events := by
  intro before l after split
  exact Nat.lt_of_lt_of_le (present l (by simp [split])) (lengthRun s before)

theorem callsMade (s : State) (e : Event) :
    (s.apply e).accepts.map Accept.listener =
      s.accepts.map Accept.listener ++ match e with
        | .beginAccept l => [l]
        | _ => [] := by
  have same {t : State} (accepts : t.accepts = s.accepts) :
      t.accepts.map Accept.listener = s.accepts.map Accept.listener ++ [] := by
    rw [accepts, List.append_nil]
  have moved {t : State} (call : Nat) (stage : AcceptStage) (next : t.accepts = (s.setAccept call stage).accepts) :
      t.accepts.map Accept.listener = s.accepts.map Accept.listener ++ [] := by
    rw [next, List.append_nil]
    apply List.ext_getElem?
    intro j
    simp only [setAccept, List.getElem?_map, List.getElem?_modify]
    cases s.accepts[j]? with
    | none => simp
    | some a => by_cases own : call = j <;> simp [own]
  cases e with
  | register key => exact same (quietRegister s key).accepts
  | registerDefault => exact same (quietRegisterDefault s).accepts
  | unregister key => exact same (quietUnregister s key).accepts
  | unregisterDefault => exact same (quietUnregisterDefault s).accepts
  | listenerCloseStep i => exact same (quietListenerCloseStep s i).accepts
  | closeStep i => exact same (quietCloseStep s i).accepts
  | serveStep i => exact same (shedServeStep s i).accepts
  | accepted call arrival =>
    obtain ⟨workers, counts, frame⟩ := acceptedFrame s call arrival
    exact same (t := s.accepted call arrival) (by rw [frame])
  | acceptFailed i cause => exact same (quietAcceptFailed s i cause).accepts
  | cancelServe i => exact same (shedCancelServe s i).accepts
  | workerRead i attempt =>
    obtain ⟨workers, counts, frame⟩ := workerReadFrame s i attempt
    exact same (t := s.workerRead i attempt) (by rw [frame])
  | workerTimeout i =>
    obtain ⟨workers, counts, frame⟩ := workerTimeoutFrame s i
    exact same (t := s.workerTimeout i) (by rw [frame])
  | workerStep i => exact same (workerStepFrame s i).2
  | beginAccept l => simp [apply, beginAccept]
  | acceptStep call =>
    cases found : s.accepts[call]? with
    | none => exact same (by simp only [apply, acceptStep, found])
    | some a =>
      obtain ⟨stage, next, _⟩ := acceptStepMove found
      exact moved call stage next
  | cancelAccept call =>
    cases found : s.accepts[call]? with
    | none => exact same (by simp only [apply, cancelAccept, found])
    | some a =>
      obtain ⟨stage, next, _⟩ := cancelAcceptMove found
      exact moved call stage next
  | beginListenerClose | beginClose | beginServe | advance => exact same rfl

theorem callsPresent {s : State} (present : ∀ l ∈ s.accepts.map Accept.listener, l < s.listeners.length)
    {events : List Event} (handled : Handled s events) :
    ∀ l ∈ (s.run events).accepts.map Accept.listener, l < (s.run events).listeners.length := by
  induction events generalizing s with
  | nil => exact present
  | cons e rest ih =>
    obtain ⟨now, later⟩ := handledAppend.mp (List.singleton_append ▸ handled : Handled s ([e] ++ rest))
    refine ih (s := s.apply e) (fun l member => ?_) later
    rw [callsMade, List.mem_append] at member
    refine Nat.lt_of_lt_of_le ?_ (lengthApply s e)
    rcases member with old | new
    · exact present l old
    · cases e with
      | beginAccept k =>
        obtain rfl := List.mem_singleton.mp new
        exact now [] l [] rfl
      | _ => exact (List.not_mem_nil new).elim

end SharedPort.Selector.State

namespace SharedPort.Selector

def ServeStage.close? : ServeStage → Option CloseStage
  | .closing stage _ => some stage
  | _ => none

def ServeStage.isEarly : ServeStage → Bool
  | .taking | .withoutSource | .subscribing | .checking _ | .looping _ | .closingSource _ | .cancelled => true
  | .closing .. | .aborting _ | .returned _ => false

theorem ServeStage.earlyCloses {stage : ServeStage} (early : stage.isEarly = true) : stage.close? = none := by
  cases stage with
  | closing => cases early
  | _ => rfl

/- Who closes the selector: a call of close, or a serve call at its end. -/
inductive Closer
  | close (call : Nat)
  | serve (call : Nat)
  deriving DecidableEq

namespace State

structure Beside (s t : State) : Prop where
  closed : t.closed = s.closed
  registry : t.registry = s.registry
  listeners : t.listeners = s.listeners

theorem closeQueueSame (s : State) (l : Nat) :
    (s.closeQueue l).2.closes = s.closes ∧ (s.closeQueue l).2.serves = s.serves ∧
      (s.closeQueue l).2.listenerCloses = s.listenerCloses := by
  unfold closeQueue
  split <;> simp [setListener]

theorem closeAdvanceSame (s : State) (stage : CloseStage) :
    (s.closeAdvance stage).2.closes = s.closes ∧ (s.closeAdvance stage).2.serves = s.serves ∧
      (s.closeAdvance stage).2.listenerCloses = s.listenerCloses := by
  cases stage with
  | swapping | taking => unfold closeAdvance; dsimp only; split <;> simp
  | closing left =>
    cases left with
    | nil => simp [closeAdvance]
    | cons l left => exact closeQueueSame s l
  | ringing | signalling | closingSource | draining | returned =>
    simp [closeAdvance, ringAll, setListener, closeSource, dropSource]

/- A step of a serve call, and the state whose flag, registry and listeners it leaves. -/
inductive ServeMove (s : State) : ServeStage → ServeStage → State → Prop where
  | aside {stage next} (before : stage.close? = none) (early : next.isEarly = true) : ServeMove s stage next s
  | began {result} : ServeMove s (.closingSource result) (.closing .swapping result) s
  | went {stage result} :
      ServeMove s (.closing stage result) (.closing (s.closeAdvance stage).1 result) (s.closeAdvance stage).2
  | ended {result} : ServeMove s (.closing .returned result) (.aborting result) s
  | answered {stage result} (before : stage.close? = none)
      (reason : s.closed = true ∨ result = .error .alreadyServing ∨ stage = .aborting result) :
      ServeMove s stage (.returned result) s

inductive CallerMove (s t : State) : Prop where
  | rest (closes : t.closes = s.closes) (serves : t.serves = s.serves) (each : t.listenerCloses = s.listenerCloses)
      (beside : Beside s t)
  | closeBegan (closes : t.closes = s.closes ++ [.swapping]) (serves : t.serves = s.serves)
      (each : t.listenerCloses = s.listenerCloses) (beside : Beside s t)
  | closeWent {i stage} (found : s.closes[i]? = some stage)
      (closes : t.closes = s.closes.set i (s.closeAdvance stage).1) (serves : t.serves = s.serves)
      (each : t.listenerCloses = s.listenerCloses) (beside : Beside (s.closeAdvance stage).2 t)
  | serveBegan (closes : t.closes = s.closes) (serves : t.serves = s.serves ++ [.taking])
      (each : t.listenerCloses = s.listenerCloses) (beside : Beside s t)
  | serveWent {i stage next u} (found : s.serves[i]? = some stage) (closes : t.closes = s.closes)
      (serves : t.serves = s.serves.set i next) (each : t.listenerCloses = s.listenerCloses)
      (move : ServeMove s stage next u) (beside : Beside u t)

theorem callerServeAside {s t : State} {i : Nat} {stage next : ServeStage} (found : s.serves[i]? = some stage)
    (closes : t.closes = s.closes) (serves : t.serves = s.serves.set i next)
    (each : t.listenerCloses = s.listenerCloses) (beside : Beside s t) (before : stage.close? = none)
    (early : next.isEarly = true) : CallerMove s t := .serveWent found closes serves each (.aside before early) beside

theorem callerServeStep (s : State) (i : Nat) : CallerMove s (s.serveStep i) := by
  unfold serveStep
  cases found : s.serves[i]? with
  | none => exact .rest rfl rfl rfl ⟨rfl, rfl, rfl⟩
  | some old =>
    cases old with
    | taking => dsimp only; split <;> exact callerServeAside found rfl rfl rfl ⟨rfl, rfl, rfl⟩ rfl rfl
    | checking =>
      dsimp only
      split
      · rename_i closed
        exact .serveWent found rfl rfl rfl (.answered rfl (.inl closed)) ⟨rfl, rfl, rfl⟩
      · exact callerServeAside found rfl rfl rfl ⟨rfl, rfl, rfl⟩ rfl rfl
    | withoutSource =>
      refine .serveWent found rfl rfl rfl (.answered rfl ?_) ⟨rfl, rfl, rfl⟩
      by_cases closed : s.closed = true
      · exact .inl closed
      · exact .inr (.inl (if_neg closed))
    | subscribing => exact callerServeAside found rfl rfl rfl ⟨rfl, rfl, rfl⟩ rfl rfl
    | looping =>
      dsimp only
      split
      · exact callerServeAside found rfl rfl rfl ⟨rfl, rfl, rfl⟩ rfl rfl
      · exact .rest rfl rfl rfl ⟨rfl, rfl, rfl⟩
    | closingSource result => exact .serveWent found rfl rfl rfl .began ⟨rfl, rfl, rfl⟩
    | closing stage result =>
      obtain ⟨closes, serves, each⟩ := closeAdvanceSame s stage
      cases stage with
      | returned => exact .serveWent found rfl rfl rfl .ended ⟨rfl, rfl, rfl⟩
      | swapping | signalling | taking | closingSource | draining | closing | ringing =>
        exact .serveWent found closes (congrArg (List.set · i _) serves) each .went ⟨rfl, rfl, rfl⟩
    | aborting result =>
      dsimp only
      split
      · exact .serveWent found rfl rfl rfl (.answered rfl (.inr (.inr rfl))) ⟨rfl, rfl, rfl⟩
      · exact .rest rfl rfl rfl ⟨rfl, rfl, rfl⟩
    | returned | cancelled => exact .rest rfl rfl rfl ⟨rfl, rfl, rfl⟩

theorem callerAcceptFailed (s : State) (i : Nat) (e : Error) : CallerMove s (s.acceptFailed i e) := by
  unfold acceptFailed isAccepting
  cases found : s.serves[i]? with
  | none => exact .rest rfl rfl rfl ⟨rfl, rfl, rfl⟩
  | some stage =>
    cases stage with
    | looping =>
      dsimp only
      split
      · split
        · exact .rest rfl rfl rfl ⟨rfl, rfl, rfl⟩
        · exact callerServeAside found rfl rfl rfl ⟨rfl, rfl, rfl⟩ rfl rfl
      · exact .rest rfl rfl rfl ⟨rfl, rfl, rfl⟩
    | taking | withoutSource | subscribing | checking | closingSource | closing | aborting | returned | cancelled =>
      exact .rest rfl rfl rfl ⟨rfl, rfl, rfl⟩

theorem callerCancelServe (s : State) (i : Nat) : CallerMove s (s.cancelServe i) := by
  unfold cancelServe
  cases found : s.serves[i]? with
  | none => exact .rest rfl rfl rfl ⟨rfl, rfl, rfl⟩
  | some stage =>
    cases stage with
    | taking | looping | aborting => exact callerServeAside found rfl rfl rfl ⟨rfl, rfl, rfl⟩ rfl rfl
    | withoutSource | subscribing | checking | closingSource | closing | returned | cancelled =>
      exact .rest rfl rfl rfl ⟨rfl, rfl, rfl⟩

theorem callerCloseStep (s : State) (i : Nat) : CallerMove s (s.closeStep i) := by
  unfold closeStep
  cases found : s.closes[i]? with
  | none => exact .rest rfl rfl rfl ⟨rfl, rfl, rfl⟩
  | some stage =>
    obtain ⟨closes, serves, each⟩ := closeAdvanceSame s stage
    exact .closeWent found (congrArg (List.set · i _) closes) serves each ⟨rfl, rfl, rfl⟩

theorem callerMoves (s : State) (e : Event) :
    CallerMove s (s.apply e) ∨ (s.apply e).closes = s.closes ∧ (s.apply e).serves = s.serves := by
  cases calling : e.isCalling with
  | false =>
    have apart := uncalled s calling
    exact .inr ⟨apart.closes, apart.serves⟩
  | true =>
    cases e with
    | beginClose => exact .inl (.closeBegan rfl rfl rfl ⟨rfl, rfl, rfl⟩)
    | closeStep i => exact .inl (callerCloseStep s i)
    | beginServe => exact .inl (.serveBegan rfl rfl rfl ⟨rfl, rfl, rfl⟩)
    | serveStep i => exact .inl (callerServeStep s i)
    | acceptFailed i cause => exact .inl (callerAcceptFailed s i cause)
    | cancelServe i => exact .inl (callerCancelServe s i)
    | _ => cases calling

def closeAt (s : State) : Closer → Option CloseStage
  | .close i => s.closes[i]?
  | .serve i => (s.serves[i]?).bind ServeStage.close?

theorem foundSet {α : Type} {xs : List α} {i : Nat} {old : α} (found : xs[i]? = some old) (new : α) :
    (xs.set i new)[i]? = some new := List.getElem?_set_self (List.getElem?_eq_some_iff.mp found).1

theorem setFound {α : Type} {xs : List α} {i : Nat} {x : α} (found : xs[i]? = some x) : xs.set i x = xs := by
  obtain ⟨present, rfl⟩ := List.getElem?_eq_some_iff.mp found
  exact List.set_getElem_self present

theorem serveMoves {s t : State} (moves : CallerMove s t ∨ t.closes = s.closes ∧ t.serves = s.serves) {i : Nat}
    {next : ServeStage} (found : t.serves[i]? = some next) : next = .taking ∨
      ∃ stage, s.serves[i]? = some stage ∧ (next = stage ∨ ∃ u, ServeMove s stage next u) := by
  have still (serves : t.serves = s.serves) : next = .taking ∨
      ∃ stage, s.serves[i]? = some stage ∧ (next = stage ∨ ∃ u, ServeMove s stage next u) :=
    .inr ⟨next, serves ▸ found, .inl rfl⟩
  rcases moves with move | ⟨_, serves⟩
  · cases move with
    | rest _ serves | closeBegan _ serves => exact still serves
    | closeWent _ _ serves => exact still serves
    | serveBegan _ serves =>
      rw [serves, List.getElem?_append] at found
      split at found
      · exact .inr ⟨next, found, .inl rfl⟩
      · exact .inl (List.mem_singleton.mp (List.mem_of_getElem? found))
    | @serveWent k stage after u present _ serves _ move =>
      rw [serves] at found
      by_cases own : k = i
      · subst k
        cases Option.some.inj ((foundSet present _).symm.trans found)
        exact .inr ⟨stage, present, .inr ⟨u, move⟩⟩
      · rw [List.getElem?_set_ne own] at found
        exact .inr ⟨next, found, .inl rfl⟩
  · exact still serves

inductive StageMove (s : State) : Option CloseStage → Option CloseStage → Prop where
  | still {x} : StageMove s x x
  | began : StageMove s none (some .swapping)
  | went {stage} : StageMove s (some stage) (some (s.closeAdvance stage).1)
  | ended : StageMove s (some .returned) none

theorem stageMoves {s t : State} (moves : CallerMove s t ∨ t.closes = s.closes ∧ t.serves = s.serves) :
    ∃ k, StageMove s (s.closeAt k) (t.closeAt k) ∧ ∀ j, j ≠ k → t.closeAt j = s.closeAt j := by
  have still (same : ∀ k, t.closeAt k = s.closeAt k) :
      ∃ k, StageMove s (s.closeAt k) (t.closeAt k) ∧ ∀ j, j ≠ k → t.closeAt j = s.closeAt j :=
    ⟨.close 0, same _ ▸ .still, fun j _ => same j⟩
  rcases moves with move | ⟨closes, serves⟩
  · cases move with
    | rest closes serves => exact still fun k => by cases k <;> simp only [closeAt, closes, serves]
    | closeBegan closes serves =>
      refine ⟨.close s.closes.length, ?_, fun j other => ?_⟩
      · simp only [closeAt, closes, List.getElem?_concat_length, List.getElem?_eq_none (Nat.le_refl _)]
        exact .began
      · cases j with
        | close i =>
          have elsewhere : i ≠ s.closes.length := fun same => other (congrArg _ same)
          simp only [closeAt, closes, List.getElem?_append]
          split
          · rfl
          · rw [List.getElem?_eq_none (by simp; omega), List.getElem?_eq_none (by omega)]
        | serve i => simp only [closeAt, serves]
    | @closeWent i stage found closes serves =>
      refine ⟨.close i, ?_, fun j other => ?_⟩
      · simp only [closeAt, closes, found, foundSet found]
        exact .went
      · cases j with
        | close k =>
          have elsewhere : i ≠ k := fun same => other (congrArg _ same.symm)
          simp only [closeAt, closes, List.getElem?_set_ne elsewhere]
        | serve k => simp only [closeAt, serves]
    | serveBegan closes serves =>
      refine still fun k => ?_
      cases k with
      | close i => simp only [closeAt, closes]
      | serve i =>
        simp only [closeAt, serves, List.getElem?_append]
        split
        · rfl
        · rename_i beyond
          rw [List.getElem?_eq_none (Nat.le_of_not_lt beyond), List.getElem?_singleton]
          split <;> rfl
    | @serveWent i stage next u found closes serves _ move =>
      refine ⟨.serve i, ?_, fun j other => ?_⟩
      · simp only [closeAt, serves, found, foundSet found, Option.bind_some]
        cases move with
        | aside before early =>
          rw [before, ServeStage.earlyCloses early]
          exact .still
        | began => exact .began
        | went => exact .went
        | ended => exact .ended
        | answered before =>
          rw [before]
          exact .still
      · cases j with
        | close k => simp only [closeAt, closes]
        | serve k =>
          have elsewhere : i ≠ k := fun same => other (congrArg _ same.symm)
          simp only [closeAt, serves, List.getElem?_set_ne elsewhere]
  · exact still fun k => by cases k <;> simp only [closeAt, closes, serves]

end State
end SharedPort.Selector
