import SharedPort.Proofs.Selector.Serving

/-! The course of an accept loop. It goes on as long as nobody closes the selector and the source gives connections or
failures that pass; the first signal or the first other failure ends it, whichever comes first, and decides its result.
-/
namespace SharedPort.Selector

/- An outcome of the source that the loop does not stop for. -/
inductive Harmless : Except Error Arrival → Prop where
  | connection (arrival) : Harmless (.ok arrival)
  | failure {cause : IoError}
      (kind : cause.kind = .connectionAborted ∨ cause.kind = .connectionReset ∨ cause.kind = .interrupted) :
      Harmless (.error (.io cause))

def endsWith : Error → Error
  | .io cause => .accept cause
  | cause => cause

theorem endOfLoopHarmless {cause : Error} (passing : State.endOfLoop cause = none) : Harmless (.error cause) := by
  unfold State.endOfLoop at passing
  split at passing
  · split at passing
    · rename_i transient
      exact .failure (of_decide_eq_true transient)
    · cases passing
  · cases passing

theorem endOfLoopFatal {cause why : Error} (fatal : State.endOfLoop cause = some why) :
    ¬ Harmless (.error cause) ∧ why = endsWith cause := by
  unfold State.endOfLoop at fatal
  split at fatal
  · split at fatal
    · cases fatal
    · rename_i lasting
      exact ⟨fun | .failure kind => lasting (decide_eq_true kind), (Option.some.inj fatal).symm⟩
  · rename_i other
    refine ⟨fun | .failure _ => other _ rfl, ?_⟩
    obtain rfl := Option.some.inj fatal
    unfold endsWith
    split
    · exact (other _ rfl).elim
    · rfl

def ServeStage.ending : ServeStage → Option (Except Error Unit)
  | .closingSource result | .closing _ result | .aborting result | .returned result => some result
  | .taking | .withoutSource | .subscribing | .checking _ | .looping _ | .cancelled => none

namespace State

theorem signalsAdvance (s : State) (stage : CloseStage) :
    (s.closeAdvance stage).2.signals = if stage = .signalling then s.signals + 1 else s.signals := by
  have queue (l : Nat) : (s.closeQueue l).2.signals = s.signals := by
    unfold closeQueue
    split <;> rfl
  cases stage with
  | swapping | taking =>
    unfold closeAdvance
    dsimp only
    split <;> rfl
  | closing left =>
    cases left with
    | nil => rfl
    | cons l left => exact queue l
  | signalling | closingSource | draining | ringing | returned => rfl

inductive SignalsMove (s : State) (e : Event) (t : State) : Prop where
  | same (signals : t.signals = s.signals)
  | close {k : Nat} (event : e = .closeStep k) (found : s.closes[k]? = some .signalling)
      (signals : t.signals = s.signals + 1)
  | serve {i : Nat} {result} (event : e = .serveStep i) (found : s.serves[i]? = some (.closing .signalling result))
      (signals : t.signals = s.signals + 1)

theorem signalsCloseStep (s : State) (k : Nat) : SignalsMove s (.closeStep k) (s.closeStep k) := by
  unfold closeStep
  cases found : s.closes[k]? with
  | none => exact .same rfl
  | some stage =>
    have signals := signalsAdvance s stage
    by_cases signalling : stage = .signalling
    · rw [if_pos signalling] at signals
      exact .close rfl (signalling ▸ found) signals
    · rw [if_neg signalling] at signals
      exact .same signals

theorem signalsServeStep (s : State) (i : Nat) : SignalsMove s (.serveStep i) (s.serveStep i) := by
  unfold serveStep
  cases found : s.serves[i]? with
  | none => exact .same rfl
  | some stage =>
    cases stage with
    | closing stage result =>
      have signals := signalsAdvance s stage
      cases stage with
      | signalling => exact .serve rfl found signals
      | returned => exact .same rfl
      | swapping | taking | closingSource | draining | closing | ringing => exact .same signals
    | taking | checking | looping | aborting =>
      dsimp only
      split <;> exact .same rfl
    | withoutSource | subscribing | closingSource | returned | cancelled => exact .same rfl

theorem signalsMove (s : State) (e : Event) : SignalsMove s e (s.apply e) := by
  cases closing : e.isClosing with
  | true =>
    cases e with
    | closeStep k => exact signalsCloseStep s k
    | serveStep i => exact signalsServeStep s i
    | _ => cases closing
  | false => exact .same (untouched closing).signals

def outcome? (i : Nat) : Event → Option (Except Error Arrival)
  | .accepted j arrival => if j = i then some (.ok arrival) else none
  | .acceptFailed j cause => if j = i then some (.error cause) else none
  | _ => none

def outcomes (i : Nat) (events : List Event) : List (Except Error Arrival) := events.filterMap (outcome? i)

def connections (outcomes : List (Except Error Arrival)) : List Arrival := outcomes.filterMap Except.toOption

/- From `s` on the loop has gone on, and has started one worker for each connection. -/
structure Running (s : State) (i seen : Nat) (mid : List Event) : Prop where
  harmless : ∀ outcome ∈ outcomes i mid, Harmless outcome
  loops : (s.run mid).serves[i]? = some (.looping seen)
  quiet : (s.run mid).signals ≤ seen
  hired : (s.run mid).workers.map Worker.arrival = s.workers.map Worker.arrival ++ connections (outcomes i mid)

structure Signalled (t : State) (i seen : Nat) : Prop where
  loops : t.serves[i]? = some (.looping seen)
  unheard : seen < t.signals

def EndsAs (t : State) (i : Nat) (result : Except Error Unit) : Prop :=
  ∃ stage, t.serves[i]? = some stage ∧ stage.ending = some result

inductive Course (s : State) (i seen : Nat) (after : List Event) : Prop where
  | running (running : Running s i seen after)
  | failed {mid cause rest} (split : after = mid ++ .acceptFailed i cause :: rest) (running : Running s i seen mid)
      (fatal : ¬ Harmless (.error cause)) (ends : EndsAs (s.run after) i (.error (endsWith cause)))
      (hired : (s.run after).workers.map Worker.arrival = (s.run mid).workers.map Worker.arrival)
  | signalled {mid k rest} (split : after = mid ++ .closeStep k :: rest) (running : Running s i seen mid)
      (signals : (s.run mid).closes[k]? = some .signalling)
      (ends : Signalled (s.run after) i seen ∨ EndsAs (s.run after) i (.ok ()))
      (hired : (s.run after).workers.map Worker.arrival = (s.run mid).workers.map Worker.arrival)

section Steps
variable {t : State} {i : Nat} {e : Event}

theorem othersDeaf (alone : Alone t i) {j : Nat} (other : j ≠ i) : t.isAccepting j = false := by
  refine Bool.eq_false_iff.mpr fun accepting => ?_
  obtain ⟨seen, loops, -⟩ := acceptingLoops accepting
  cases alone.others j _ other loops

theorem nobodyJoins (deaf : ∀ j, t.isAccepting j = false) : t.joins e = [] := by
  refine List.eq_nil_iff_forall_not_mem.mpr fun w joined => ?_
  have accepting := joinsAccepting joined
  simp [deaf] at accepting

theorem joinsOutcome (alone : Alone t i) (accepting : t.isAccepting i = true) :
    (t.joins e).map Worker.arrival = connections (outcomes i [e]) := by
  cases e with
  | accepted j arrival =>
    by_cases same : j = i
    · subst same
      simp [joins, accepting, outcomes, outcome?, connections, newWorker, Except.toOption]
    · simp [joins, othersDeaf alone same, outcomes, outcome?, connections, same]
  | acceptFailed j cause =>
    by_cases same : j = i <;> simp [joins, outcomes, outcome?, connections, same, Except.toOption]
  | _ => rfl

end Steps

theorem outcomesSnoc (i : Nat) (events : List Event) (e : Event) :
    outcomes i (events ++ [e]) = outcomes i events ++ outcomes i [e] := List.filterMap_append

theorem Running.accepting {s : State} {i seen : Nat} {mid : List Event} (running : Running s i seen mid) :
    (s.run mid).isAccepting i = true := by
  simp [isAccepting, running.loops, running.quiet]

theorem harmlessRest {s : State} {i seen : Nat} {e : Event} (quiet : s.signals ≤ seen)
    (passes : ∀ cause seen', e = .acceptFailed i cause → ServeStage.looping seen = .looping seen' → s.signals ≤ seen' →
      endOfLoop cause = none) : ∀ outcome ∈ outcomes i [e], Harmless outcome := by
  intro outcome member
  have out : outcome? i e = some outcome := by simpa [outcomes] using member
  cases e with
  | accepted j arrival =>
    simp only [outcome?, Option.ite_none_right_eq_some, Option.some.injEq] at out
    exact out.2 ▸ .connection arrival
  | acceptFailed j cause =>
    simp only [outcome?, Option.ite_none_right_eq_some, Option.some.injEq] at out
    obtain ⟨rfl, rfl⟩ := out
    exact endOfLoopHarmless (passes cause seen rfl rfl quiet)
  | _ => cases out

theorem runningSnoc {s : State} {i seen : Nat} {mid : List Event} {e : Event} (running : Running s i seen mid)
    (alone : Alone (s.run mid) i) (kept : e ≠ .cancelServe i) : Course s i seen (mid ++ [e]) := by
  obtain ⟨next, turned, turn⟩ := serveTurn e running.loops
  have grown := arrivalsApply (s.run mid) e
  rw [← runSnoc] at turned grown
  cases turn with
  | cancelled event => exact (kept event).elim
  | heard _ signal => exact absurd signal (Nat.not_lt.mpr running.quiet)
  | failed event _ fatal =>
    subst event
    obtain ⟨lasting, rfl⟩ := endOfLoopFatal fatal
    exact .failed rfl running lasting ⟨_, turned, rfl⟩ (grown.trans (List.append_nil _))
  | rest _ passes =>
    have goesOn (quiet : (s.run (mid ++ [e])).signals ≤ seen) : Course s i seen (mid ++ [e]) := by
      refine .running ⟨fun outcome member => ?_, turned, quiet, ?_⟩
      · rw [outcomesSnoc] at member
        rcases List.mem_append.mp member with earlier | last
        · exact running.harmless outcome earlier
        · exact harmlessRest running.quiet passes outcome last
      · rw [grown, running.hired, joinsOutcome alone running.accepting, outcomesSnoc, List.append_assoc]
        exact congrArg _ List.filterMap_append.symm
    have signals := signalsMove (s.run mid) e
    rw [← runSnoc] at signals
    cases signals with
    | same signals => exact goesOn (signals ▸ running.quiet)
    | @close k event found signals =>
      by_cases quiet : (s.run (mid ++ [e])).signals ≤ seen
      · exact goesOn quiet
      · subst event
        exact .signalled rfl running found (.inl ⟨turned, Nat.lt_of_not_le quiet⟩) (grown.trans (List.append_nil _))
    | @serve j _ _ found =>
      by_cases same : j = i
      · subst same
        cases running.loops.symm.trans found
      · cases alone.others j _ same found

theorem sameArrivals {s : State} {i : Nat} {e : Event} (alone : Alone s i) (deaf : s.isAccepting i = false) :
    (s.apply e).workers.map Worker.arrival = s.workers.map Worker.arrival := by
  have none : s.joins e = [] := nobodyJoins fun j =>
    if same : j = i then same ▸ deaf else othersDeaf alone same
  rw [arrivalsApply, none]
  exact List.append_nil _

/- Whatever comes after the end of the loop changes neither its result nor who works for it. -/
theorem endsSnoc {s : State} {i : Nat} {result : Except Error Unit} {e : Event} (ends : EndsAs s i result)
    (alone : Alone s i) (kept : e ≠ .cancelServe i) :
    EndsAs (s.apply e) i result ∧ (s.apply e).workers.map Worker.arrival = s.workers.map Worker.arrival := by
  obtain ⟨stage, found, ending⟩ := ends
  obtain ⟨next, turned, turn⟩ := serveTurn e found
  refine ⟨⟨next, turned, ?_⟩, sameArrivals alone ?_⟩
  · cases turn with
    | rest | letGo | went | through | ended => exact ending
    | cancelled event => exact (kept event).elim
    | took | missed | answered | subscribed | foundShut | entered | heard | failed => cases ending
  · cases stage with
    | looping => cases ending
    | _ => simp [isAccepting, found]

theorem signalsGrow (s : State) (e : Event) : s.signals ≤ (s.apply e).signals := by
  cases signalsMove s e with
  | same signals => exact Nat.le_of_eq signals.symm
  | close _ _ signals | serve _ _ signals => exact signals ▸ Nat.le_succ _

theorem signalledSnoc {s : State} {i seen : Nat} {e : Event} (signalled : Signalled s i seen) (alone : Alone s i)
    (kept : e ≠ .cancelServe i) : (Signalled (s.apply e) i seen ∨ EndsAs (s.apply e) i (.ok ())) ∧
      (s.apply e).workers.map Worker.arrival = s.workers.map Worker.arrival := by
  have deaf : s.isAccepting i = false := by simp [isAccepting, signalled.loops, signalled.unheard]
  obtain ⟨next, turned, turn⟩ := serveTurn e signalled.loops
  refine ⟨?_, sameArrivals alone deaf⟩
  cases turn with
  | rest => exact .inl ⟨turned, Nat.lt_of_lt_of_le signalled.unheard (signalsGrow s e)⟩
  | heard => exact .inr ⟨_, turned, rfl⟩
  | failed _ quiet => exact absurd signalled.unheard (Nat.not_lt.mpr quiet)
  | cancelled event => exact (kept event).elim

theorem courseSnoc {s : State} {i seen : Nat} {after : List Event} {e : Event} (course : Course s i seen after)
    (alone : Alone (s.run after) i) (kept : e ≠ .cancelServe i) : Course s i seen (after ++ [e]) := by
  cases course with
  | running running => exact runningSnoc running alone kept
  | @failed mid cause rest split running fatal ends hired =>
    obtain ⟨onward, same⟩ := endsSnoc ends alone kept
    rw [← runSnoc] at onward same
    have longer : after ++ [e] = mid ++ .acceptFailed i cause :: (rest ++ [e]) := by simp [split]
    exact .failed longer running fatal onward (same.trans hired)
  | @signalled mid k rest split running signals ends hired =>
    have onward : (Signalled (s.run (after ++ [e])) i seen ∨ EndsAs (s.run (after ++ [e])) i (.ok ())) ∧
        (s.run (after ++ [e])).workers.map Worker.arrival = (s.run after).workers.map Worker.arrival := by
      rw [runSnoc]
      rcases ends with unheard | ended
      · exact signalledSnoc unheard alone kept
      · exact (endsSnoc ended alone kept).imp_left .inr
    have longer : after ++ [e] = mid ++ .closeStep k :: (rest ++ [e]) := by simp [split]
    exact .signalled longer running signals onward.1 (onward.2.trans hired)

theorem courseRun {setup : Setup} {s₀ : State} (made : create setup = .ok s₀) {before : List Event} {i seen : Nat}
    (loops : (s₀.run before).serves[i]? = some (.looping seen)) (quiet : (s₀.run before).signals ≤ seen)
    {after : List Event} (kept : .cancelServe i ∉ after) : Course (s₀.run before) i seen after := by
  induction after using List.reverseRecOn with
  | nil => exact .running ⟨nofun, loops, quiet, (List.append_nil _).symm⟩
  | append_singleton after e ih =>
    have early : .cancelServe i ∉ after := fun member => kept (List.mem_append_left _ member)
    obtain ⟨stage, served⟩ := servedRun made loops early
    rw [runAppend] at served
    exact courseSnoc (ih early) served.alone fun same =>
      kept (List.mem_append_right _ (List.mem_singleton.mpr same.symm))

end State
end SharedPort.Selector
