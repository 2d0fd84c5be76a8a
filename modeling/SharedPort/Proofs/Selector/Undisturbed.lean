import SharedPort.Proofs.Selector.Crowd
import SharedPort.Proofs.Stream.News

/-! Visitors do not disturb each other. What becomes of a visitor, and how long after its acceptance, is settled by its
own stream alone: it is what the reading of its prefix comes to when nobody else is there. -/
namespace SharedPort

def Registry.leadKey (g : Registry) (rule : MatchRule) (headerSize : Nat) (p : Bytes) : Option (Option Bytes) :=
  ((g.keys.find? fun key => rule.isMatch p key headerSize).map some).or (g.unmatched.map fun _ => none)

namespace Selector

theorem State.InOrder.leadKey {s : State} (order : s.InOrder) (p : Bytes) :
    match s.registry.route s.setup.rule s.setup.headerSize p with
    | some l => ∃ L, s.listeners[l]? = some L ∧ s.registry.leadKey s.setup.rule s.setup.headerSize p = some L.key
    | none => s.registry.leadKey s.setup.rule s.setup.headerSize p = none := by
  simp only [Registry.route, Registry.leadKey, Registry.keys, List.find?_map, Function.comp_def, Option.map_map]
  cases hit : s.registry.routes.find? (fun entry => s.setup.rule.isMatch p entry.1 s.setup.headerSize) with
  | some entry =>
    obtain ⟨L, present, key⟩ := order.keyed entry (List.mem_of_find?_eq_some hit)
    exact ⟨L, present, by simp [key]⟩
  | none =>
    cases unmatched : s.registry.unmatched with
    | some l =>
      obtain ⟨L, present, key⟩ := order.unkeyed l unmatched
      exact ⟨L, present, by simp [key]⟩
    | none => rfl

open SharedPort.Stream (Plan Reader Gather Attempt Settled Stop Script planned gather gatherTry gatherComplete gatherFailed
  gatherLater)

/- A visitor is queued in the listener of a key, or in that for everything else, with its prefix and the rest of its
stream; or it is dropped. -/
inductive Outcome (σ : Type)
  | queued (key : Option Bytes) (header : Bytes) (rest : σ)
  | dropped (fate : Fate)

namespace Crowd
open State (Event Enters)

variable {σ : Type} {r : Reader σ} {c d : Crowd σ} {s : State}

inductive Meets (c d : Crowd σ) (t : Turn σ) (i : Nat) : Nat → Outcome σ → Prop where
  | queued {v l L header} (visitor : c.visitors[i]? = some v) (turn : t = .route i)
      (enters : Enters c.selector (.workerStep i) i header l) (target : c.selector.listeners[l]? = some L) :
      Meets c d t i (c.selector.now - v.came) (.queued L.key header v.stream)
  | dropped {v w w' fate} (visitor : c.visitors[i]? = some v) (worker : c.selector.workers[i]? = some w)
      (alive : State.isPast w.stage = false) (after : d.selector.workers[i]? = some w') (ended : w'.stage = .settled fate)
      (lost : ∀ l, fate ≠ .queued l) : Meets c d t i (c.selector.now - v.came) (.dropped fate)

def Decides (r : Reader σ) (c : Crowd σ) (turns : List (Turn σ)) (i age : Nat) (o : Outcome σ) : Prop :=
  ∃ before t after, turns = before ++ t :: after ∧ Meets (c.run r before) ((c.run r before).turn r t) t i age o

def Reads (r : Reader σ) (setup : Setup) (start : σ) (rest : Nat → Settled σ) : Prop :=
  ∃ tries, ∀ fuel, gather r.read setup.limit (tries + fuel) 0 (.start setup.headerSize) start = rest fuel

theorem Reads.tried {setup : Setup} {start stream : σ} {time missing : Nat} {got : Bytes}
    (reads : Reads r setup start fun fuel => gather r.read setup.limit fuel time (.reading missing got) stream) :
    Reads r setup start fun fuel =>
      match planned setup.limit time (r.read time missing stream).1 with
      | .again later => gather r.read setup.limit fuel later (Gather.feed missing got (r.read time missing stream).1)
          (r.read time missing stream).2
      | .late later => ⟨.error .timedOut, later, (r.read time missing stream).2⟩
      | .idle => ⟨.error .stuck, time, (r.read time missing stream).2⟩ := by
  obtain ⟨tries, reads⟩ := reads
  refine ⟨tries + 1, fun fuel => ?_⟩
  rw [Nat.add_assoc, Nat.add_comm 1 fuel]
  exact (reads (fuel + 1)).trans (gatherTry fuel)

def verdict (s : State) (stream : σ) : Except Stop Bytes → Option (Outcome σ)
  | .ok header =>
      match s.registry.leadKey s.setup.rule s.setup.headerSize header with
      | some key => some (.queued key header stream)
      | none => some (.dropped .unroutable)
  | .error (.failed cause) => some (.dropped (.peekFailed (.io cause)))
  | .error .timedOut => some (.dropped (.peekFailed (.peekTimeout (s.setup.options.peekTimeout.getD ⟨0⟩))))
  | .error .stuck => none

def Comes (r : Reader σ) (s : State) (start : σ) (age : Nat) (o : Outcome σ) : Prop :=
  ∃ result stream, Reads r s.setup start (fun _ => ⟨result, age, stream⟩) ∧ verdict s stream result = some o

theorem comesOnce {start : σ} {age age' : Nat} {o o' : Outcome σ} (first : Comes r s start age o)
    (second : Comes r s start age' o') : age' = age ∧ o' = o := by
  obtain ⟨result, stream, ⟨tries, reads⟩, comes⟩ := first
  obtain ⟨result', stream', ⟨tries', reads'⟩, comes'⟩ := second
  have same := reads tries'
  rw [Nat.add_comm, reads' tries] at same
  cases same
  exact ⟨rfl, Option.some.inj (comes'.symm.trans comes)⟩

structure Alike (a b : State) : Prop where
  rule : a.setup.rule = b.setup.rule
  headerSize : a.setup.headerSize = b.setup.headerSize
  peekTimeout : a.setup.options.peekTimeout = b.setup.options.peekTimeout
  keys : a.registry.keys = b.registry.keys
  unmatched : a.registry.unmatched.isSome = b.registry.unmatched.isSome

theorem comesAlike {a b : State} (alike : Alike a b) {start : σ} {age : Nat} {o : Outcome σ}
    (comes : Comes r a start age o) : Comes r b start age o := by
  obtain ⟨result, stream, reads, comes⟩ := comes
  have limit : a.setup.limit = b.setup.limit := by rw [Setup.limit, Setup.limit, alike.peekTimeout]
  have keys (p : Bytes) : a.registry.leadKey a.setup.rule a.setup.headerSize p =
      b.registry.leadKey b.setup.rule b.setup.headerSize p := by
    have unmatched : (a.registry.unmatched.map fun _ => (none : Option Bytes)) =
        b.registry.unmatched.map fun _ => none := by
      have present := alike.unmatched
      cases first : a.registry.unmatched <;> cases second : b.registry.unmatched <;> simp [first, second] at present ⊢
    rw [Registry.leadKey, Registry.leadKey, alike.keys, alike.rule, alike.headerSize, unmatched]
  refine ⟨result, stream, ?_, ?_⟩
  · rwa [Reads, ← limit, ← alike.headerSize]
  · rw [← comes]
    cases result with
    | ok header => simp only [verdict, keys]
    | error stop => cases stop <;> simp only [verdict, alike.peekTimeout]

/- How far a visitor has come whose fate is not decided. -/
inductive Standing (r : Reader σ) (s : State) (now : Nat) (v : Visitor σ) : WorkerStage → Prop where
  | again {missing got time} (plan : v.plan = .again time) (early : now ≤ v.came + time)
      (reads : Reads r s.setup v.start fun fuel =>
        gather r.read s.setup.limit fuel time (.reading missing got) v.stream) : Standing r s now v (.peeking missing got)
  | late {missing got time bound} (plan : v.plan = .late time) (early : now ≤ v.came + time)
      (limit : s.setup.limit = some bound) (beyond : bound ≤ time)
      (reads : Reads r s.setup v.start fun _ => ⟨.error .timedOut, time, v.stream⟩) :
      Standing r s now v (.peeking missing got)
  | idle {missing got time} (plan : v.plan = .idle)
      (reads : Reads r s.setup v.start fun _ => ⟨.error .stuck, time, v.stream⟩) : Standing r s now v (.peeking missing got)
  | peeked {header} (reads : Reads r s.setup v.start fun _ => ⟨.ok header, now - v.came, v.stream⟩) :
      Standing r s now v (.peeked header)
  | found {header l} (reads : Reads r s.setup v.start fun _ => ⟨.ok header, now - v.came, v.stream⟩)
      (route : s.registry.route s.setup.rule s.setup.headerSize header = some l) : Standing r s now v (.found header l)

theorem standingEarly {now age : Nat} {v : Visitor σ} {stage : WorkerStage} {o : Outcome σ}
    (standing : Standing r s now v stage) (comes : Comes r s v.start age o) : now ≤ v.came + age := by
  obtain ⟨result, stream, ⟨tries, reads⟩, comes⟩ := comes
  have meet {rest : Nat → Settled σ} (other : Reads r s.setup v.start rest) :
      ∃ fuel, rest fuel = ⟨result, age, stream⟩ := by
    obtain ⟨tries', reads'⟩ := other
    refine ⟨tries, ?_⟩
    rw [← reads' tries, Nat.add_comm, reads tries']
  cases standing with
  | @again missing got time plan early others =>
    obtain ⟨fuel, same⟩ := meet others
    have later : time ≤ (gather r.read s.setup.limit fuel time (.reading missing got) v.stream).now := gatherLater fuel
    rw [same] at later
    exact Nat.le_trans early (Nat.add_le_add_left later _)
  | late plan early limit beyond others =>
    obtain ⟨fuel, same⟩ := meet others
    cases same
    exact early
  | idle plan others =>
    obtain ⟨fuel, same⟩ := meet others
    cases same
    cases comes
  | peeked others =>
    obtain ⟨fuel, same⟩ := meet others
    cases same
    omega
  | found others =>
    obtain ⟨fuel, same⟩ := meet others
    cases same
    omega

theorem ownStill (s : State) (i : Nat) (attempt : Attempt Bytes) : (s.apply (.workerRead i attempt)).now = s.now ∧
    (s.apply (.workerTimeout i)).now = s.now ∧ (s.apply (.workerStep i)).now = s.now := by
  refine ⟨?_, ?_, ?_⟩
  · obtain ⟨workers, counts, frame⟩ := State.workerReadFrame s i attempt
    simp only [State.apply, frame]
  · obtain ⟨workers, counts, frame⟩ := State.workerTimeoutFrame s i
    simp only [State.apply, frame]
  · obtain ⟨workers, counts, listeners, frame⟩ := State.workerStepTouches s i
    simp only [State.apply, frame]

def Goes (r : Reader σ) (s : State) (c d : Crowd σ) (t : Turn σ) (i : Nat) (start : σ) : Prop :=
  (∃ v w, d.visitors[i]? = some v ∧ d.selector.workers[i]? = some w ∧ v.start = start ∧
    Standing r s d.selector.now v w.stage) ∨
  ∃ age o, Meets c d t i age o ∧ Comes r s start age o

theorem goesOn {t : Turn σ} {i : Nat} {v : Visitor σ} {w : Worker} (visitor : d.visitors[i]? = some v)
    (worker : d.selector.workers[i]? = some w) (now : d.selector.now = c.selector.now)
    (standing : Standing r s c.selector.now v w.stage) : Goes r s c d t i v.start :=
  .inl ⟨v, w, visitor, worker, rfl, now ▸ standing⟩

theorem triedGoes {i missing time : Nat} {got : Bytes} {v : Visitor σ} {w : Worker} (sound : Sound s c)
    (visitor : c.visitors[i]? = some v) (worker : c.selector.workers[i]? = some w) (stage : w.stage = .peeking missing got)
    (plan : v.plan = .again time) (due : v.came + time ≤ c.selector.now)
    (standing : Standing r s c.selector.now v w.stage) :
    Goes r s c
      ⟨c.selector.apply (.workerRead i (r.read (c.selector.now - v.came) missing v.stream).1),
        c.visitors.set i { v with
          stream := (r.read (c.selector.now - v.came) missing v.stream).2
          plan := planned c.selector.setup.limit (c.selector.now - v.came)
            (r.read (c.selector.now - v.came) missing v.stream).1 }⟩ (.read i) i v.start := by
  rw [stage] at standing
  cases standing with
  | late other => cases other.symm.trans plan
  | idle other => cases other.symm.trans plan
  | again other early reads =>
    cases other.symm.trans plan
    have age : c.selector.now - v.came = time := by omega
    have fits := r.fits time missing v.stream
    have next := reads.tried
    rw [age, sound.setup]
    generalize r.read time missing v.stream = answer at fits next ⊢
    obtain ⟨attempt, rest⟩ := answer
    have own := (State.readStep worker stage fits).own
    have now := (ownStill c.selector i attempt).1
    have visits (u : Visitor σ) : (c.visitors.set i u)[i]? = some u :=
      List.getElem?_set_self (List.getElem?_eq_some_iff.mp visitor).1
    dsimp only at own next
    cases fed : Gather.feed missing got attempt with
    | reading more had =>
      rw [fed] at own next
      refine .inl ⟨_, _, visits _, own, rfl, ?_⟩
      dsimp only [State.readStage]
      rw [now]
      cases planned : planned s.setup.limit time attempt with
      | again later =>
        have order := Plan.later planned
        simp only [planned] at next
        exact .again rfl (by dsimp only; omega) next
      | late later =>
        obtain ⟨order, bound, limit, beyond⟩ := Plan.limited planned
        simp only [planned] at next
        exact .late rfl (by dsimp only; omega) limit beyond next
      | idle =>
        simp only [planned] at next
        exact .idle rfl next
    | complete header =>
      have ready := @Plan.ready s.setup.limit time missing got attempt (by simp [fed])
      rw [fed] at own
      simp only [ready, fed, gatherComplete] at next
      refine .inl ⟨_, _, visits _, own, rfl, ?_⟩
      dsimp only [State.readStage]
      rw [now]
      exact .peeked (age.symm ▸ next)
    | failed cause =>
      have ready := @Plan.ready s.setup.limit time missing got attempt (by simp [fed])
      rw [fed] at own
      simp only [ready, fed, gatherFailed] at next
      refine .inr ⟨_, _, .dropped visitor worker (by rw [stage]; rfl) own rfl (by simp), ?_⟩
      rw [age]
      exact ⟨_, _, next, rfl⟩

theorem gaveUpGoes {i time : Nat} {v : Visitor σ} {w : Worker} (sound : Sound s c) (visitor : c.visitors[i]? = some v)
    (worker : c.selector.workers[i]? = some w) (plan : v.plan = .late time) (due : v.came + time ≤ c.selector.now)
    (standing : Standing r s c.selector.now v w.stage) :
    Goes r s c (c.act (.workerTimeout i)) (.late i) i v.start := by
  have on (still : c.selector.isOverdue i = false) : Goes r s c (c.act (.workerTimeout i)) (.late i) i v.start := by
    have same : c.act (.workerTimeout i) = c := by simp [act, State.apply, State.workerTimeout, still]
    rw [same]
    exact goesOn visitor worker rfl standing
  have knows := sound.known i w v worker visitor
  cases stage : w.stage with
  | ringing | settled =>
    rw [stage] at standing
    cases standing
  | peeked | found =>
    refine on ?_
    obtain ⟨arrival, owner, deadline, _⟩ := w
    cases stage
    cases deadline <;> simp [State.isOverdue, worker]
  | peeking missing got =>
    rw [stage] at standing
    cases standing with
    | again other => cases other.symm.trans plan
    | idle other => cases other.symm.trans plan
    | @late _ _ _ bound other early limit beyond reads =>
      cases other.symm.trans plan
      have age : c.selector.now - v.came = time := by omega
      obtain ⟨arrival, owner, deadline, _⟩ := w
      cases stage
      have deadline := knows.deadline
      rw [sound.setup, limit] at deadline
      cases deadline
      have overdue : c.selector.isOverdue i = true := by
        simp only [State.isOverdue, worker, decide_eq_true_eq]
        omega
      have stepped : State.Stepped c.selector (c.selector.workerTimeout i) i _ _ := State.steppedSetWorker worker (by
        rw [State.workerTimeout, if_pos overdue]
        rfl)
      refine .inr ⟨_, _, .dropped visitor worker rfl stepped.own rfl (by simp), ?_⟩
      rw [age, sound.setup]
      exact ⟨_, _, reads, rfl⟩

theorem steppedGoes {i : Nat} {v : Visitor σ} {w : Worker} (ready : Ready s)
    (unbounded : s.setup.options.queueCapacity = none) (sound : Sound s c) (visitor : c.visitors[i]? = some v)
    (worker : c.selector.workers[i]? = some w) (standing : Standing r s c.selector.now v w.stage) :
    Goes r s c (c.act (.workerStep i)) (.route i) i v.start := by
  have route : c.selector.registry.route c.selector.setup.rule c.selector.setup.headerSize =
      s.registry.route s.setup.rule s.setup.headerSize := by rw [sound.registry, sound.setup]
  cases stage : w.stage with
  | ringing | settled =>
    rw [stage] at standing
    cases standing
  | peeking missing got =>
    have same : c.act (.workerStep i) = c := by
      obtain ⟨arrival, owner, deadline, _⟩ := w
      cases stage
      simp [act, State.apply, State.workerStep, worker]
    rw [same]
    exact goesOn visitor worker rfl standing
  | peeked header =>
    rw [stage] at standing
    cases standing with
    | peeked reads =>
      have leads := ready.order.leadKey header
      cases found : s.registry.route s.setup.rule s.setup.headerSize header with
      | some l =>
        have next := State.lookupLed worker stage (Registry.routeLeads.mp ((congrFun route header).trans found))
        have now : (c.act (.workerStep i)).selector.now = c.selector.now := (ownStill c.selector i (.done [])).2.2
        exact goesOn visitor next now (.found reads found)
      | none =>
        rw [found] at leads
        obtain ⟨arrival, owner, deadline, _⟩ := w
        cases stage
        have stepped : State.Stepped c.selector (c.selector.workerStep i) i _ _ := State.steppedSetWorker worker (by
          simp only [State.workerStep, worker, (congrFun route header).trans found]
          rfl)
        exact .inr ⟨_, _, .dropped visitor worker rfl stepped.own rfl (by simp), _, _, reads, by simp only [verdict, leads]⟩
  | found header l =>
    rw [stage] at standing
    cases standing with
    | found reads found =>
      have leads := ready.order.leadKey header
      rw [found] at leads
      obtain ⟨L, present, key⟩ := leads
      obtain ⟨M, target, continues⟩ := sound.kept l L present
      have capacity : M.capacity = none := by
        rw [continues.capacity, ready.capacity L (List.mem_of_getElem? present), unbounded]
      have room : M.queue.isFull M.capacity = false := by
        rw [capacity]
        rfl
      have enters := State.deliveryTaken worker stage target (sound.unclosed.queues M (List.mem_of_getElem? target)) room
      refine .inr ⟨_, _, .queued visitor rfl enters target, _, _, reads, ?_⟩
      simp only [verdict, key, continues.key]

theorem standingTurn {t : Turn σ} {i : Nat} {v : Visitor σ} {w : Worker} (ready : Ready s)
    (unbounded : s.setup.options.queueCapacity = none) (sound : Sound s c) (waits : c.waits i t = true)
    (visitor : c.visitors[i]? = some v) (worker : c.selector.workers[i]? = some w)
    (standing : Standing r s c.selector.now v w.stage) : Goes r s c (c.turn r t) t i v.start := by
  have move : Moves r c t (c.turn r t) := moves c t
  generalize c.turn r t = d at move ⊢
  have inside := (List.getElem?_eq_some_iff.mp visitor).1
  cases move with
  | still => exact goesOn visitor worker rfl standing
  | @arrived call peer stream =>
    have workers := State.workersAccepted c.selector call ⟨c.visitors.length, peer⟩
    refine goesOn ((List.getElem?_append_left inside).trans visitor) ?_ (acceptedStill _ _ _) standing
    exact (congrArg (·[i]?) workers).trans ((List.getElem?_append_left (sound.counted ▸ inside)).trans worker)
  | @tried j w' v' missing got time reading stage visits plan due =>
    by_cases own : i = j
    · subst j
      cases Option.some.inj (visitor.symm.trans visits)
      cases Option.some.inj (worker.symm.trans reading)
      exact triedGoes sound visitor worker stage plan due standing
    · exact goesOn ((List.getElem?_set_ne fun same => own same.symm).trans visitor)
        ((State.readOthers own _).trans worker) (ownStill _ _ _).1 standing
  | @gaveUp j v' time visits plan due =>
    by_cases own : i = j
    · subst j
      cases Option.some.inj (visitor.symm.trans visits)
      exact gaveUpGoes sound visitor worker plan due standing
    · exact goesOn visitor ((State.timeoutOthers own).trans worker) (ownStill _ _ (.done [])).2.1 standing
  | @stepped j =>
    by_cases own : i = j
    · subst j
      exact steppedGoes ready unbounded sound visitor worker standing
    · exact goesOn visitor ((State.stepOthers own).trans worker) (ownStill _ _ (.done [])).2.2 standing
  | beside isAside =>
    obtain ⟨now, workers⟩ := asideStill sound.unclosed isAside
    exact goesOn visitor ((congrArg (·[i]?) workers).trans worker) now standing
  | @passed length =>
    refine .inl ⟨v, w, visitor, worker, rfl, ?_⟩
    simp only [Crowd.waits, worker, visitor] at waits
    change Standing r s (c.selector.now + length) v w.stage
    cases stage : w.stage with
    | ringing | settled | peeked | found =>
      rw [stage] at standing waits
      cases standing <;> cases waits
    | peeking missing got =>
      rw [stage] at standing waits
      cases standing with
      | again plan early reads =>
        simp only [Visitor.rests, plan, decide_eq_true_eq] at waits
        exact .again plan waits reads
      | late plan early limit beyond reads =>
        simp only [Visitor.rests, plan, decide_eq_true_eq] at waits
        exact .late plan waits limit beyond reads
      | idle plan reads => exact .idle plan reads

theorem standingNotPast {now : Nat} {v : Visitor σ} {stage : WorkerStage} (standing : Standing r s now v stage) :
    State.isPast stage = false := by
  cases standing <;> rfl

theorem meetsPast {t : Turn σ} {i age : Nat} {o : Outcome σ} (meets : Meets c (c.turn r t) t i age o) :
    (∃ w, c.selector.workers[i]? = some w ∧ State.isPast w.stage = false) ∧
    ∃ w, (c.turn r t).selector.workers[i]? = some w ∧ State.isPast w.stage = true := by
  cases meets with
  | queued visitor turn enters target =>
    subst turn
    obtain ⟨⟨w, worker, before⟩, _, _, ⟨w', next, after⟩⟩ := State.entersEntry enters
    exact ⟨⟨w, worker, by rw [before]; rfl⟩, w', next, by rw [after]; rfl⟩
  | @dropped v w w' fate visitor worker alive after ended lost => exact ⟨⟨w, worker, alive⟩, w', after, by rw [ended]; rfl⟩

theorem meetsOnce {t : Turn σ} {i age age' : Nat} {o o' : Outcome σ} (first : Meets c (c.turn r t) t i age o)
    (second : Meets c (c.turn r t) t i age' o') : age' = age ∧ o' = o := by
  have both {l fate header} {w' : Worker} (turn : t = .route i) (enters : Enters c.selector (.workerStep i) i header l)
      (after : (c.turn r t).selector.workers[i]? = some w') (ended : w'.stage = .settled fate) : False := by
    subst turn
    obtain ⟨u, next, stage⟩ := (State.entersEntry enters).next
    cases Option.some.inj (next.symm.trans after)
    cases stage.symm.trans ended
  cases first with
  | queued visitor turn enters target =>
    cases second with
    | queued visitor' turn' enters' target' =>
      obtain ⟨w, worker, stage⟩ := (State.entersEntry enters).stage
      obtain ⟨w', worker', stage'⟩ := (State.entersEntry enters').stage
      cases Option.some.inj (worker.symm.trans worker')
      cases stage.symm.trans stage'
      cases Option.some.inj (visitor.symm.trans visitor')
      cases Option.some.inj (target.symm.trans target')
      exact ⟨rfl, rfl⟩
    | dropped visitor' worker' alive' after' ended' => exact (both turn enters after' ended').elim
  | dropped visitor worker alive after ended =>
    cases second with
    | queued visitor' turn' enters' target' => exact (both turn' enters' after ended).elim
    | dropped visitor' worker' alive' after' ended' =>
      cases Option.some.inj (visitor.symm.trans visitor')
      cases Option.some.inj (after.symm.trans after')
      cases ended.symm.trans ended'
      exact ⟨rfl, rfl⟩

theorem visitorTurn (t : Turn σ) {i : Nat} {v : Visitor σ} (visitor : c.visitors[i]? = some v) :
    ∃ u, (c.turn r t).visitors[i]? = some u ∧ u.came = v.came ∧ u.start = v.start := by
  have move : Moves r c t (c.turn r t) := moves c t
  generalize c.turn r t = d at move ⊢
  have inside := (List.getElem?_eq_some_iff.mp visitor).1
  cases move with
  | arrived => exact ⟨v, (List.getElem?_append_left inside).trans visitor, rfl, rfl⟩
  | @tried j w v' missing got time worker stage visits plan due =>
    by_cases own : j = i
    · subst j
      cases Option.some.inj (visitor.symm.trans visits)
      exact ⟨_, List.getElem?_set_self inside, rfl, rfl⟩
    · exact ⟨v, (List.getElem?_set_ne own).trans visitor, rfl, rfl⟩
  | still | gaveUp | stepped | beside | passed => exact ⟨v, visitor, rfl, rfl⟩

theorem pastTurn (t : Turn σ) {i : Nat} {w : Worker} (worker : c.selector.workers[i]? = some w)
    (past : State.isPast w.stage = true) :
    ∃ u, (c.turn r t).selector.workers[i]? = some u ∧ State.isPast u.stage = true := by
  have move : Moves r c t (c.turn r t) := moves c t
  generalize c.turn r t = d at move ⊢
  have applied (e : Event) : ∃ u, (c.selector.apply e).workers[i]? = some u ∧ State.isPast u.stage = true := by
    obtain ⟨stage, next, moved⟩ := State.workerMoves e worker
    exact ⟨_, next, State.pastMove past moved⟩
  cases move with
  | still => exact ⟨w, worker, past⟩
  | arrived | tried | gaveUp | stepped | beside | passed => exact applied _

inductive Known (r : Reader σ) (s : State) (turns : List (Turn σ)) (i : Nat) (v : Visitor σ) : Prop where
  | standing {w} (worker : ((⟨s, []⟩ : Crowd σ).run r turns).selector.workers[i]? = some w)
      (standing : Standing r s ((⟨s, []⟩ : Crowd σ).run r turns).selector.now v w.stage)
  | past {w age o} (worker : ((⟨s, []⟩ : Crowd σ).run r turns).selector.workers[i]? = some w)
      (past : State.isPast w.stage = true) (decides : Decides r ⟨s, []⟩ turns i age o) (comes : Comes r s v.start age o)

theorem decidesLater {turns : List (Turn σ)} {t : Turn σ} {i age : Nat} {o : Outcome σ}
    (decides : Decides r c turns i age o) : Decides r c (turns ++ [t]) i age o := by
  obtain ⟨before, meeting, after, rfl, meets⟩ := decides
  exact ⟨before, meeting, after ++ [t], by simp, meets⟩

theorem newcomer {t : Turn σ} {i : Nat} {v : Visitor σ} (ready : Ready s) (sound : Sound s c)
    (absent : c.visitors[i]? = none) (visitor : (c.turn r t).visitors[i]? = some v) :
    ∃ w, (c.turn r t).selector.workers[i]? = some w ∧ Standing r s (c.turn r t).selector.now v w.stage := by
  have move : Moves r c t (c.turn r t) := moves c t
  generalize c.turn r t = d at move visitor ⊢
  cases move with
  | @arrived call peer stream accepting =>
    have present := (List.getElem?_eq_some_iff.mp visitor).1
    have outside := List.getElem?_eq_none_iff.mp absent
    rw [List.length_append, List.length_singleton] at present
    obtain rfl : i = c.visitors.length := by omega
    rw [List.getElem?_concat_length] at visitor
    cases visitor
    have workers : (c.selector.apply (.accepted call ⟨c.visitors.length, peer⟩)).workers =
        c.selector.workers ++ [c.selector.newWorker call ⟨c.visitors.length, peer⟩] := by
      rw [State.apply, State.workersAccepted, State.joins, if_pos accepting]
    refine ⟨c.selector.newWorker call ⟨c.visitors.length, peer⟩, ?_, ?_⟩
    · rw [workers, ← sound.counted, List.getElem?_concat_length]
    · rw [acceptedStill, State.newWorker, sound.setup]
      refine .again rfl (Nat.le_refl _) ⟨0, fun fuel => ?_⟩
      rw [Nat.zero_add, Gather.start, Gather.needing, if_neg (Nat.ne_of_gt ready.size)]
  | tried =>
    have present := (List.getElem?_eq_some_iff.mp visitor).1
    rw [List.length_set] at present
    exact absurd present (Nat.not_lt_of_le (List.getElem?_eq_none_iff.mp absent))
  | still | gaveUp | stepped | beside | passed => cases absent.symm.trans visitor

theorem knownRun (ready : Ready s) (unbounded : s.setup.options.queueCapacity = none) {turns : List (Turn σ)} {i : Nat}
    {v : Visitor σ} (prompt : prompt r i ⟨s, []⟩ turns = true)
    (visitor : ((⟨s, []⟩ : Crowd σ).run r turns).visitors[i]? = some v) : Known r s turns i v := by
  induction turns using List.reverseRecOn generalizing v with
  | nil => cases visitor
  | append_singleton turns t ih =>
    rw [promptAppend, Bool.and_eq_true, Crowd.prompt, Crowd.prompt, Bool.and_true] at prompt
    have sound : Sound s ((⟨s, []⟩ : Crowd σ).run r turns) := soundRun (soundStart ready) turns
    rw [runSnoc] at visitor
    cases before : ((⟨s, []⟩ : Crowd σ).run r turns).visitors[i]? with
    | none =>
      obtain ⟨w, worker, standing⟩ := newcomer ready sound before visitor
      rw [← runSnoc] at worker standing
      exact .standing worker standing
    | some u =>
      obtain ⟨next, visited, _, start⟩ := @visitorTurn _ r _ t _ _ before
      cases Option.some.inj (visitor.symm.trans visited)
      cases ih prompt.1 before with
      | standing worker standing =>
        rcases standingTurn ready unbounded sound prompt.2 before worker standing with
          ⟨x, w, there, goes, same, still⟩ | ⟨age, o, meets, comes⟩
        · cases Option.some.inj (visitor.symm.trans there)
          rw [← runSnoc] at goes still
          exact .standing goes still
        · obtain ⟨w, after, past⟩ := (meetsPast meets).2
          rw [← runSnoc] at after
          exact .past after past ⟨turns, t, [], rfl, meets⟩ (start ▸ comes)
      | past worker past decides comes =>
        obtain ⟨w, after, still⟩ := pastTurn t worker past
        rw [← runSnoc] at after
        exact .past after still (decidesLater decides) (start ▸ comes)

theorem visitorRun (turns : List (Turn σ)) {i : Nat} {v : Visitor σ} (visitor : c.visitors[i]? = some v) :
    ∃ u, (c.run r turns).visitors[i]? = some u ∧ u.start = v.start := by
  induction turns generalizing c v with
  | nil => exact ⟨v, visitor, rfl⟩
  | cons t rest ih =>
    obtain ⟨u, next, _, start⟩ := visitorTurn t visitor
    obtain ⟨x, last, same⟩ := ih next
    exact ⟨x, last, same.trans start⟩

structure Watched (r : Reader σ) (s : State) (turns : List (Turn σ)) (i : Nat) (v : Visitor σ) : Prop where
  prepared : Prepared s
  unbounded : s.setup.options.queueCapacity = none
  prompt : prompt r i ⟨s, []⟩ turns = true
  visitor : ((⟨s, []⟩ : Crowd σ).run r turns).visitors[i]? = some v

theorem decidesComes {turns : List (Turn σ)} {i age : Nat} {v : Visitor σ} {o : Outcome σ}
    (watched : Watched r s turns i v) (decides : Decides r ⟨s, []⟩ turns i age o) : Comes r s v.start age o := by
  obtain ⟨prepared, unbounded, prompt, visitor⟩ := watched
  have ready := preparedReady prepared
  obtain ⟨before, t, after, rfl, meets⟩ := decides
  rw [promptAppend, Bool.and_eq_true, Crowd.prompt, Bool.and_eq_true] at prompt
  obtain ⟨u, visited⟩ : ∃ u, ((⟨s, []⟩ : Crowd σ).run r before).visitors[i]? = some u := by
    cases meets with
    | queued visited => exact ⟨_, visited⟩
    | dropped visited => exact ⟨_, visited⟩
  obtain ⟨x, last, start⟩ := visitorRun (t :: after) visited
  rw [← runAppend] at last
  cases Option.some.inj (visitor.symm.trans last)
  rw [start]
  obtain ⟨⟨w, worker, alive⟩, w', next, past⟩ := meetsPast meets
  cases knownRun ready unbounded prompt.1 visited with
  | past found beyond =>
    cases Option.some.inj (worker.symm.trans found)
    cases alive.symm.trans beyond
  | standing found standing =>
    rcases standingTurn ready unbounded (soundRun (soundStart ready) before) prompt.2.1 visited found standing with
      ⟨_, _, _, goes, _, still⟩ | ⟨_, _, again, comes⟩
    · cases Option.some.inj (next.symm.trans goes)
      cases past.symm.trans (standingNotPast still)
    · obtain ⟨rfl, rfl⟩ := meetsOnce meets again
      exact comes

/- Of what a visitor meets in one crowd it meets nothing else in another, and the same when the time has come. -/
theorem undisturbed {a b : State} {turns others : List (Turn σ)} {i j age : Nat} {v u : Visitor σ} {o : Outcome σ}
    (here : Watched r a turns i v) (there : Watched r b others j u) (alike : Alike a b) (same : u.start = v.start)
    (decides : Decides r ⟨a, []⟩ turns i age o) :
    (∀ age' o', Decides r ⟨b, []⟩ others j age' o' → age' = age ∧ o' = o) ∧
    (u.came + age < ((⟨b, []⟩ : Crowd σ).run r others).selector.now → Decides r ⟨b, []⟩ others j age o) := by
  have comes : Comes r b u.start age o := same ▸ comesAlike alike (decidesComes here decides)
  refine ⟨fun age' o' again => comesOnce comes (decidesComes there again), fun passed => ?_⟩
  cases knownRun (preparedReady there.prepared) there.unbounded there.prompt there.visitor with
  | standing worker standing => exact absurd passed (Nat.not_lt_of_le (standingEarly standing comes))
  | past worker past decided others =>
    obtain ⟨rfl, rfl⟩ := comesOnce comes others
    exact decided

def scripts : Reader Script := ⟨Script.read, Script.readFits⟩

def doorway : State :=
  State.run { setup := ⟨MatchMode.leading.rule, 2, { queueCapacity := none }, ⟨.v4 127 0 0 1, 4000⟩⟩ }
    [.register [65], .registerDefault]

def slow : Script := [.delay 3, .data [65], .delay 2, .data [66, 67]]

def alone : List (Turn Script) :=
  [.aside .beginServe, .aside (.serveStep 0), .aside (.serveStep 0), .aside (.serveStep 0),
    .arrive 0 ⟨.v4 10 0 0 1, 5000⟩ slow, .read 0, .advance 3, .read 0, .read 0, .advance 2, .read 0, .route 0, .route 0]

def crowded : List (Turn Script) :=
  [.aside .beginServe, .aside (.serveStep 0), .aside (.serveStep 0), .aside (.serveStep 0),
    .arrive 0 ⟨.v4 10 0 0 2, 5000⟩ [.hang], .advance 1, .arrive 0 ⟨.v4 10 0 0 1, 5000⟩ slow,
    .arrive 0 ⟨.v4 10 0 0 3, 5000⟩ [.data [66]], .read 0, .read 1, .read 2, .read 2, .advance 3, .read 1, .read 1,
    .advance 2, .read 1, .route 1, .route 1, .advance 4]

theorem slowUndisturbed :
    Decides scripts ⟨doorway, []⟩ alone 0 5 (.queued (some [65]) [65, 66] [.data [67]]) ∧
    Decides scripts ⟨doorway, []⟩ crowded 1 5 (.queued (some [65]) [65, 66] [.data [67]]) := by
  have prepared : Prepared doorway := ⟨doorway.setup, _, [.register [65], .registerDefault], rfl, by decide, rfl⟩
  have here : Watched scripts doorway alone 0 ⟨0, slow, [.data [67]], .again 5⟩ := ⟨prepared, rfl, rfl, rfl⟩
  have there : Watched scripts doorway crowded 1 ⟨1, slow, [.data [67]], .again 5⟩ := ⟨prepared, rfl, rfl, rfl⟩
  have decides : Decides scripts ⟨doorway, []⟩ alone 0 5 (.queued (some [65]) [65, 66] [.data [67]]) :=
    ⟨alone.take 12, .route 0, [], rfl, .queued (v := ⟨0, slow, [.data [67]], .again 5⟩) (l := 0)
      (L := doorway.newListener (some [65])) rfl rfl ⟨rfl, _, rfl, rfl⟩ rfl⟩
  exact ⟨decides, (undisturbed here there ⟨rfl, rfl, rfl, rfl, rfl⟩ rfl decides).2 (by decide)⟩

end Crowd
end Selector
end SharedPort
