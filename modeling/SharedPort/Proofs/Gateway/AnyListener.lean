import Mathlib.Data.List.Induction
import SharedPort.Gateway.RouteLoop

/-! The loop of one route at a listener of any kind. Its accept calls come out in any way or are dropped for a forward
that ended; forwards end, are noted and stopped in any order. Every connection that was accepted has its own forward,
and nothing but a closed listener ends the loop. -/
namespace SharedPort.Gateway
variable {κ : Type}

theorem connectionsMove (r : RouteLoop κ) (j : Nat) (old new : ForwardStage) :
    (r.move j old new).forwards.map ForwardTask.connection = r.forwards.map ForwardTask.connection := by
  apply List.ext_getElem?
  intro k
  simp only [RouteLoop.move, List.getElem?_map, List.getElem?_modify]
  cases r.forwards[k]? with
  | none => rfl
  | some f =>
    by_cases here : j = k
    · by_cases due : f.stage = old
      · simp [here, due]
      · simp [here, due]
    · simp [here]

namespace RouteLoop

def connections (l : RouteLoop κ) : List κ := l.forwards.map ForwardTask.connection

def hear (l : RouteLoop κ) : Except Error κ → RouteLoop κ
  | .ok connection => l.accepted connection
  | .error cause => l.acceptFailed cause

theorem movedForward {l : RouteLoop κ} {j : Nat} {f : ForwardTask κ} (i : Nat) (old new : ForwardStage)
    (found : l.forwards[j]? = some f) : (l.move i old new).forwards[j]? =
      some (if i = j ∧ f.stage = old then { f with stage := new } else f) := by
  simp only [move, List.getElem?_modify, found]
  by_cases here : i = j <;> simp [here]

theorem moveNone {l : RouteLoop κ} (i : Nat) {old : ForwardStage} (new : ForwardStage)
    (absent : ∀ f ∈ l.forwards, f.stage ≠ old) : l.move i old new = l := by
  have same : l.forwards.modify i (fun f => if f.stage = old then { f with stage := new } else f) = l.forwards := by
    apply List.ext_getElem?
    intro j
    rw [List.getElem?_modify]
    cases found : l.forwards[j]? with
    | none => rfl
    | some f => simp [absent f (List.mem_of_getElem? found)]
  simp only [move, same]

theorem memMove {l : RouteLoop κ} {i : Nat} {old new : ForwardStage} {g : ForwardTask κ}
    (member : g ∈ (l.move i old new).forwards) : g ∈ l.forwards ∨ g.stage = new := by
  obtain ⟨j, found⟩ := List.getElem?_of_mem member
  have inside : j < l.forwards.length := by
    have inside := (List.getElem?_eq_some_iff.mp found).1
    rwa [move, List.length_modify] at inside
  have before := List.getElem?_eq_getElem inside
  rw [movedForward i old new before] at found
  by_cases here : i = j ∧ l.forwards[j].stage = old
  · rw [if_pos here] at found
    exact .inr (congrArg ForwardTask.stage (Option.some.inj found)).symm
  · rw [if_neg here] at found
    exact .inl (Option.some.inj found ▸ List.getElem_mem inside)

theorem connectionsStop (l : RouteLoop κ) (i : Nat) : (l.stopForward i).connections = l.connections := by
  unfold stopForward
  split
  · exact connectionsMove l i .running .stopped
  · rfl

theorem connectionsFinish (l : RouteLoop κ) : l.finish.connections = l.connections := by
  unfold finish
  split <;> rfl

end RouteLoop

structure CallingLoop (κ : Type) where
  loop : RouteLoop κ
  calling : Bool := false
  outcomes : List (Except Error κ) := []

inductive Occurrence (κ : Type)
  | call
  | outcome (result : Except Error κ)
  | ended (forward : Nat)
  | join (forward : Nat)
  | stop (forward : Nat)
  | finish

namespace CallingLoop

def fresh (target : String) : CallingLoop κ := { loop := { target } }

/- A loop that serves makes accept calls one at a time. When it notes that a forward ended, it drops the call. -/
def apply (p : CallingLoop κ) : Occurrence κ → CallingLoop κ
  | .call => if p.loop.stage = .serving then { p with calling := true } else p
  | .outcome result =>
      if p.calling then ⟨p.loop.hear result, false, p.outcomes ++ [result]⟩ else p
  | .ended i => { p with loop := p.loop.forwardEnded i }
  | .join i =>
      if p.loop.stage = .serving ∧ (p.loop.forwards[i]?).any (·.stage = .ended) then
        { p with loop := p.loop.join i, calling := false }
      else p
  | .stop i => { p with loop := p.loop.stopForward i }
  | .finish => { p with loop := p.loop.finish }

def run (p : CallingLoop κ) (events : List (Occurrence κ)) : CallingLoop κ := events.foldl apply p

theorem runSnoc (p : CallingLoop κ) (events : List (Occurrence κ)) (e : Occurrence κ) :
    p.run (events ++ [e]) = (p.run events).apply e := by
  rw [run, List.foldl_append]
  rfl

end CallingLoop

def closes : Except Error κ → Bool
  | .ok _ => false
  | .error cause => cause.isClosed

theorem harmlessSnoc {results : List (Except Error κ)} {result : Except Error κ} :
    (∀ r ∈ results ++ [result], closes r = false) ↔ (∀ r ∈ results, closes r = false) ∧ closes result = false := by
  simp [or_imp, forall_and]

inductive ForwardMove (p : CallingLoop κ) (e : Occurrence κ) (i : Nat) : ForwardStage → ForwardStage → Prop where
  | still {stage} : ForwardMove p e i stage stage
  | ended (event : e = .ended i) : ForwardMove p e i .running .ended
  | joined (event : e = .join i) : ForwardMove p e i .ended .joined
  | stopped (event : e = .stop i) (stopping : p.loop.stage = .stopping) : ForwardMove p e i .running .stopped

theorem forwardMove (p : CallingLoop κ) (e : Occurrence κ) {i : Nat} {f : ForwardTask κ}
    (found : p.loop.forwards[i]? = some f) :
    ∃ stage, (p.apply e).loop.forwards[i]? = some { f with stage } ∧ ForwardMove p e i f.stage stage := by
  have still {r : RouteLoop κ} (same : r.forwards = p.loop.forwards) :
      ∃ stage, r.forwards[i]? = some { f with stage } ∧ ForwardMove p e i f.stage stage :=
    ⟨f.stage, by rw [same, found], .still⟩
  have moved {j : Nat} {old new : ForwardStage} {r : RouteLoop κ} (same : r = p.loop.move j old new)
      (move : i = j → f.stage = old → ForwardMove p e i f.stage new) :
      ∃ stage, r.forwards[i]? = some { f with stage } ∧ ForwardMove p e i f.stage stage := by
    rw [same, RouteLoop.movedForward j old new found]
    by_cases here : j = i ∧ f.stage = old
    · exact ⟨new, by rw [if_pos here], move here.1.symm here.2⟩
    · exact ⟨f.stage, by rw [if_neg here], .still⟩
  cases e with
  | call =>
    simp only [CallingLoop.apply]
    split <;> exact still rfl
  | outcome result =>
    simp only [CallingLoop.apply]
    split
    · cases result with
      | ok connection =>
        simp only [RouteLoop.hear, RouteLoop.accepted]
        split
        · refine ⟨f.stage, ?_, .still⟩
          rw [List.getElem?_append_left (List.getElem?_eq_some_iff.mp found).1, found]
        · exact still rfl
      | error cause =>
        simp only [RouteLoop.hear, RouteLoop.acceptFailed]
        split <;> exact still rfl
    · exact still rfl
  | ended j => exact moved (j := j) rfl fun here stage => here ▸ stage ▸ .ended rfl
  | join j =>
    simp only [CallingLoop.apply]
    split
    · exact moved (j := j) rfl fun here stage => here ▸ stage ▸ .joined rfl
    · exact still rfl
  | stop j =>
    simp only [CallingLoop.apply, RouteLoop.stopForward]
    split
    · exact moved (j := j) rfl fun here stage => here ▸ stage ▸ .stopped rfl ‹_›
    · exact still rfl
  | finish =>
    simp only [CallingLoop.apply, RouteLoop.finish]
    split <;> exact still rfl

structure CallingLoop.Sound (target : String) (p : CallingLoop κ) : Prop where
  towards : p.loop.target = target
  given : p.loop.connections = p.outcomes.filterMap Except.toOption
  calls : p.calling = true → p.loop.stage = .serving
  serves : p.loop.stage = .serving ↔ ∀ r ∈ p.outcomes, closes r = false
  last : ∀ r ∈ p.outcomes.dropLast, closes r = false
  stopped : ∀ f ∈ p.loop.forwards, f.stage = .stopped → p.loop.stage ≠ .serving
  gone : p.loop.stage = .returned → ∀ f ∈ p.loop.forwards, f.stage ≠ .running

namespace CallingLoop
variable {target : String} {p : CallingLoop κ}

theorem Sound.moved (sound : p.Sound target) (i : Nat) {old new : ForwardStage} {calling : Bool}
    (fewer : calling = true → p.calling = true) (halts : new ≠ .running)
    (stops : new = .stopped → p.loop.stage ≠ .serving) :
    Sound target ⟨p.loop.move i old new, calling, p.outcomes⟩ where
  towards := sound.towards
  given := (connectionsMove p.loop i old new).trans sound.given
  calls waits := sound.calls (fewer waits)
  serves := sound.serves
  last := sound.last
  stopped f member stage := by
    rcases RouteLoop.memMove member with old | same
    · exact sound.stopped f old stage
    · exact stops (same.symm.trans stage)
  gone returned f member := by
    rcases RouteLoop.memMove member with old | same
    · exact sound.gone returned f old
    · exact same ▸ halts

theorem Sound.heard (sound : p.Sound target) (calling : p.calling = true) (result : Except Error κ) :
    Sound target ⟨p.loop.hear result, false, p.outcomes ++ [result]⟩ := by
  have serving := sound.calls calling
  have harmless := sound.serves.mp serving
  have last : ∀ r ∈ (p.outcomes ++ [result]).dropLast, closes r = false := by
    rw [List.dropLast_concat]
    exact harmless
  cases result with
  | ok connection =>
    have next : p.loop.hear (.ok connection) = { p.loop with forwards := p.loop.forwards ++ [⟨connection, .running⟩] } :=
      if_pos serving
    rw [next]
    refine ⟨sound.towards, ?_, nofun, ?_, last, fun f member stage => ?_, fun returned => ?_⟩
    · simp [RouteLoop.connections, Except.toOption, ← sound.given]
    · exact iff_of_true serving (harmlessSnoc.mpr ⟨harmless, rfl⟩)
    · rcases List.mem_append.mp member with old | new
      · exact sound.stopped f old stage
      · rw [List.mem_singleton.mp new] at stage
        cases stage
    · exact nomatch serving.symm.trans returned
  | error cause =>
    by_cases closed : cause.isClosed
    · have next : p.loop.hear (.error cause) = { p.loop with stage := .stopping } := if_pos ⟨serving, closed⟩
      rw [next]
      refine ⟨sound.towards, ?_, nofun, ?_, last, fun _ _ _ => nofun, nofun⟩
      · rw [List.filterMap_append, ← sound.given]
        exact (List.append_nil _).symm
      · exact iff_of_false nofun fun all => by simpa [closes, closed] using (harmlessSnoc.mp all).2
    · have next : p.loop.hear (.error cause) = p.loop := if_neg fun h => closed h.2
      rw [next]
      refine ⟨sound.towards, ?_, nofun, ?_, last, sound.stopped, sound.gone⟩
      · rw [List.filterMap_append, ← sound.given]
        exact (List.append_nil _).symm
      · exact iff_of_true serving (harmlessSnoc.mpr ⟨harmless, by simpa [closes] using closed⟩)

theorem Sound.finished (sound : p.Sound target) : Sound target { p with loop := p.loop.finish } := by
  by_cases due : p.loop.stage = .stopping ∧ p.loop.forwards.all (·.stage ≠ .running)
  · have next : p.loop.finish = { p.loop with stage := .returned } := if_pos due
    have notServing : p.loop.stage ≠ .serving := by simp [due.1]
    rw [next]
    refine ⟨sound.towards, sound.given, fun waits => (notServing (sound.calls waits)).elim, ?_, sound.last,
      fun _ _ _ => nofun, fun _ f member => ?_⟩
    · exact iff_of_false nofun fun harmless => notServing (sound.serves.mpr harmless)
    · simpa using List.all_eq_true.mp due.2 f member
  · have next : p.loop.finish = p.loop := if_neg due
    rw [next]
    exact sound

theorem soundApply (sound : p.Sound target) (e : Occurrence κ) : (p.apply e).Sound target := by
  cases e with
  | call =>
    simp only [apply]
    split
    · exact ⟨sound.towards, sound.given, fun _ => ‹_›, sound.serves, sound.last, sound.stopped, sound.gone⟩
    · exact sound
  | outcome result =>
    simp only [apply]
    split
    · exact sound.heard ‹_› result
    · exact sound
  | ended i => exact sound.moved i id nofun nofun
  | join i =>
    simp only [apply]
    split
    · exact sound.moved i nofun nofun nofun
    · exact sound
  | stop i =>
    simp only [apply, RouteLoop.stopForward]
    split
    · exact sound.moved i id nofun fun _ => by simp [*]
    · exact sound
  | finish => exact sound.finished

theorem soundFresh (target : String) : (fresh target : CallingLoop κ).Sound target where
  towards := rfl
  given := rfl
  calls waits := nomatch waits
  serves := iff_of_true rfl fun _ heard => (List.not_mem_nil heard).elim
  last _ heard := (List.not_mem_nil heard).elim
  stopped _ member := (List.not_mem_nil member).elim
  gone returned := nomatch returned

theorem soundRun (target : String) (events : List (Occurrence κ)) : ((fresh target).run events).Sound target := by
  induction events using List.reverseRecOn with
  | nil => exact soundFresh target
  | append_singleton events e ih =>
    rw [runSnoc]
    exact soundApply ih e

theorem Sound.inert (sound : p.Sound target) (returned : p.loop.stage = .returned) (e : Occurrence κ) :
    p.apply e = p := by
  have notServing : p.loop.stage ≠ .serving := by simp [returned]
  cases e with
  | call => exact if_neg notServing
  | outcome result => exact if_neg fun calling => notServing (sound.calls calling)
  | ended i =>
    simp only [apply, RouteLoop.forwardEnded, RouteLoop.moveNone i .ended (sound.gone returned)]
  | join i => exact if_neg fun due => notServing due.1
  | stop i => simp [apply, RouteLoop.stopForward, returned]
  | finish => simp [apply, RouteLoop.finish, returned]

end CallingLoop

namespace RouteLoop

theorem stopFirst {l : RouteLoop κ} (stopping : l.stage = .stopping) (n : Nat) :
    ((List.range n).foldl stopForward l).stage = .stopping ∧
      ((List.range n).foldl stopForward l).connections = l.connections ∧
      ∀ i < n, ∀ f, ((List.range n).foldl stopForward l).forwards[i]? = some f → f.stage ≠ .running := by
  induction n with
  | zero => exact ⟨stopping, rfl, nofun⟩
  | succ n ih =>
    rw [List.range_succ, List.foldl_append]
    generalize (List.range n).foldl stopForward l = m at ih ⊢
    obtain ⟨still, same, before⟩ := ih
    have next : m.stopForward n = m.move n .running .stopped := if_pos still
    refine ⟨?_, (connectionsStop m n).trans same, fun i inside f found => ?_⟩
    · exact (congrArg stage next).trans still
    · change (m.stopForward n).forwards[i]? = some f at found
      rw [next] at found
      cases old : m.forwards[i]? with
      | none => simp [move, List.getElem?_modify, old] at found
      | some g =>
        rw [movedForward n .running .stopped old] at found
        by_cases here : n = i ∧ g.stage = .running
        · rw [if_pos here] at found
          exact Option.some.inj found ▸ nofun
        · rw [if_neg here] at found
          obtain rfl := Option.some.inj found
          by_cases last : n = i
          · exact fun running => here ⟨last, running⟩
          · exact before i (by omega) g old

theorem shutdownReturns {l : RouteLoop κ} (stopping : l.stage = .stopping) :
    l.shutdown.stage = .returned ∧ l.shutdown.connections = l.connections := by
  obtain ⟨still, same, gone⟩ := stopFirst stopping l.forwards.length
  have length : ((List.range l.forwards.length).foldl stopForward l).forwards.length = l.forwards.length := by
    simpa [connections] using congrArg List.length same
  unfold shutdown
  generalize (List.range l.forwards.length).foldl stopForward l = m at still same gone length ⊢
  refine ⟨?_, (connectionsFinish m).trans same⟩
  have quiet : m.forwards.all (·.stage ≠ .running) = true := by
    refine List.all_eq_true.mpr fun f member => ?_
    obtain ⟨i, found⟩ := List.getElem?_of_mem member
    simpa using gone i (length ▸ (List.getElem?_eq_some_iff.mp found).1) f found
  simp only [finish, if_pos (And.intro still quiet)]

end RouteLoop

/- What is known of a loop whatever has happened to it. -/
structure ServesRoute (target : String) (p : CallingLoop κ) : Prop where
  towards : p.loop.target = target
  once : p.loop.connections = p.outcomes.filterMap Except.toOption
  serves : p.loop.stage = .serving ↔ ∀ r ∈ p.outcomes, closes r = false
  firstClose : ∀ r ∈ p.outcomes.dropLast, closes r = false
  harmless : ∀ cause, cause.isClosed = false → (p.apply (.outcome (.error cause))).loop = p.loop
  undisturbed : ∀ e i f, p.loop.forwards[i]? = some f →
    ∃ stage, (p.apply e).loop.forwards[i]? = some { f with stage } ∧ ForwardMove p e i f.stage stage
  unstopped : p.loop.stage = .serving → ∀ f ∈ p.loop.forwards, f.stage ≠ .stopped
  shutsDown : p.loop.stage = .stopping →
    p.loop.shutdown.stage = .returned ∧ p.loop.shutdown.connections = p.loop.connections
  gone : p.loop.stage = .returned → (∀ f ∈ p.loop.forwards, f.stage ≠ .running) ∧ ∀ e, p.apply e = p

theorem servesRoute (target : String) (events : List (Occurrence κ)) :
    ServesRoute target ((CallingLoop.fresh target).run events) := by
  have sound := CallingLoop.soundRun target events
  generalize (CallingLoop.fresh target).run events = p at sound ⊢
  refine ⟨sound.towards, sound.given, sound.serves, sound.last, fun cause harmless => ?_, fun e i f => forwardMove p e,
    fun serving f member stage => sound.stopped f member stage serving, RouteLoop.shutdownReturns,
    fun returned => ⟨sound.gone returned, sound.inert returned⟩⟩
  simp only [CallingLoop.apply]
  split
  · exact if_neg (by simp [harmless])
  · rfl

/- The call that waits when the first forward ends is dropped; a passing failure changes nothing, and the second forward is
stopped with the loop. -/
example : ((CallingLoop.fresh "backend").run [.call, .outcome (.ok 7), .call, .ended 0, .join 0, .call,
    .outcome (.ok 8), .call, .outcome (.error (.other "busy")), .call, .outcome (.error .listenerClosed), .stop 1,
    .finish]).loop.forwards.map (fun f => (f.connection, f.stage)) = [(7, .joined), (8, .stopped)] := by
  decide

end SharedPort.Gateway
