import SharedPort.Proofs.Selector.Unclosed
import SharedPort.Proofs.Stream.Planned

/-! A selector among visitors, each with a stream that behaves by the time since it was accepted. Workers, serve calls,
accept calls and the clock take turns in any order; nobody closes anything or drops a serve call. A run is prompt for a
visitor if the clock waits for its worker whenever that one can go on. -/
namespace SharedPort.Selector
open SharedPort.Stream (Plan Reader Gather Attempt planned)

def Setup.limit (s : Setup) : Option Nat := s.options.peekTimeout.map Span.millis

structure Visitor (σ : Type) where
  came : Nat
  start : σ
  stream : σ
  plan : Plan := .again 0

structure Crowd (σ : Type) where
  selector : State
  visitors : List (Visitor σ) := []

/- `late` is a worker whose time is over, `aside` what serve calls, accept calls and the source do. -/
inductive Crowd.Turn (σ : Type)
  | arrive (call : Nat) (peer : SocketAddress) (stream : σ)
  | read (worker : Nat)
  | late (worker : Nat)
  | route (worker : Nat)
  | aside (event : State.Event)
  | advance (length : Nat)

namespace State.Event

def isAside : Event → Bool
  | .beginServe | .serveStep _ | .beginAccept _ | .acceptStep _ | .cancelAccept _ => true
  | .acceptFailed _ (.io cause) => cause.isTransient
  | _ => false

def registers : Event → Bool
  | .register _ | .registerDefault => true
  | _ => false

end State.Event

def Visitor.rests {σ : Type} (v : Visitor σ) (stage : WorkerStage) (now : Nat) : Bool :=
  match stage, v.plan with
  | .peeking .., .again time | .peeking .., .late time => now ≤ v.came + time
  | .peeking .., .idle => true
  | .peeked _, _ | .found .., _ => false
  | .ringing _, _ | .settled _, _ => true

namespace Crowd
open State (Event Unclosed Kept InOrder)

variable {σ : Type} {r : Reader σ} {c d : Crowd σ}

def act (c : Crowd σ) (e : Event) : Crowd σ := { c with selector := c.selector.apply e }

def read (r : Reader σ) (c : Crowd σ) (i : Nat) : Crowd σ :=
  match c.selector.workers[i]?, c.visitors[i]? with
  | some ⟨_, _, _, .peeking missing _⟩, some ⟨came, start, stream, .again time⟩ =>
      if came + time ≤ c.selector.now then
        let age := c.selector.now - came
        let (attempt, stream) := r.read age missing stream
        ⟨c.selector.apply (.workerRead i attempt),
          c.visitors.set i ⟨came, start, stream, planned c.selector.setup.limit age attempt⟩⟩
      else c
  | _, _ => c

def giveUp (c : Crowd σ) (i : Nat) : Crowd σ :=
  match c.visitors[i]? with
  | some ⟨came, _, _, .late time⟩ => if came + time ≤ c.selector.now then c.act (.workerTimeout i) else c
  | _ => c

def turn (r : Reader σ) (c : Crowd σ) : Turn σ → Crowd σ
  | .arrive call peer stream =>
      if c.selector.isAccepting call then
        ⟨c.selector.apply (.accepted call ⟨c.visitors.length, peer⟩), c.visitors ++ [⟨c.selector.now, stream, stream, .again 0⟩]⟩
      else c
  | .read i => c.read r i
  | .late i => c.giveUp i
  | .route i => c.act (.workerStep i)
  | .aside e => if e.isAside then c.act e else c
  | .advance length => c.act (.advance length)

def run (r : Reader σ) (c : Crowd σ) (turns : List (Turn σ)) : Crowd σ := turns.foldl (turn r) c

theorem runAppend (before after : List (Turn σ)) : c.run r (before ++ after) = (c.run r before).run r after :=
  List.foldl_append

theorem runSnoc (turns : List (Turn σ)) (t : Turn σ) : c.run r (turns ++ [t]) = (c.run r turns).turn r t :=
  runAppend turns [t]

/- Whether a turn keeps visitor `i` waiting for nothing. -/
def waits (c : Crowd σ) (i : Nat) : Turn σ → Bool
  | .advance length =>
      match c.selector.workers[i]?, c.visitors[i]? with
      | some w, some v => v.rests w.stage (c.selector.now + length)
      | _, _ => true
  | _ => true

def prompt (r : Reader σ) (i : Nat) : Crowd σ → List (Turn σ) → Bool
  | _, [] => true
  | c, t :: rest => c.waits i t && prompt r i (c.turn r t) rest

theorem promptAppend (i : Nat) (c : Crowd σ) (before after : List (Turn σ)) :
    prompt r i c (before ++ after) = (prompt r i c before && prompt r i (c.run r before) after) := by
  induction before generalizing c with
  | nil => rfl
  | cons first rest ih =>
    rw [List.cons_append, prompt, ih, prompt, Bool.and_assoc]
    rfl

inductive Moves (r : Reader σ) (c : Crowd σ) : Turn σ → Crowd σ → Prop where
  | still {t} : Moves r c t c
  | arrived {call peer stream} (accepting : c.selector.isAccepting call = true) : Moves r c (.arrive call peer stream)
      ⟨c.selector.apply (.accepted call ⟨c.visitors.length, peer⟩),
        c.visitors ++ [⟨c.selector.now, stream, stream, .again 0⟩]⟩
  | tried {i w v missing got time} (worker : c.selector.workers[i]? = some w) (stage : w.stage = .peeking missing got)
      (visitor : c.visitors[i]? = some v) (plan : v.plan = .again time) (due : v.came + time ≤ c.selector.now) :
      Moves r c (.read i)
        ⟨c.selector.apply (.workerRead i (r.read (c.selector.now - v.came) missing v.stream).1),
          c.visitors.set i { v with
            stream := (r.read (c.selector.now - v.came) missing v.stream).2
            plan := planned c.selector.setup.limit (c.selector.now - v.came)
              (r.read (c.selector.now - v.came) missing v.stream).1 }⟩
  | gaveUp {i v time} (visitor : c.visitors[i]? = some v) (plan : v.plan = .late time)
      (due : v.came + time ≤ c.selector.now) : Moves r c (.late i) (c.act (.workerTimeout i))
  | stepped {i} : Moves r c (.route i) (c.act (.workerStep i))
  | beside {e} (isAside : e.isAside = true) : Moves r c (.aside e) (c.act e)
  | passed {length} : Moves r c (.advance length) (c.act (.advance length))

theorem moves (c : Crowd σ) (t : Turn σ) : Moves r c t (c.turn r t) := by
  cases t with
  | arrive call peer stream =>
    simp only [turn]
    split
    · rename_i accepting
      exact .arrived accepting
    · exact .still
  | read i =>
    change Moves r c (.read i) (c.read r i)
    unfold read
    split
    · rename_i worker visitor
      split
      · rename_i due
        exact .tried worker rfl visitor rfl due
      · exact .still
    · exact .still
  | late i =>
    change Moves r c (.late i) (c.giveUp i)
    unfold giveUp
    split
    · rename_i visitor
      split
      · rename_i due
        exact .gaveUp visitor rfl due
      · exact .still
    · exact .still
  | route i => exact .stepped
  | aside e =>
    simp only [turn]
    split
    · rename_i isAside
      exact .beside isAside
    · exact .still
  | advance length => exact .passed

theorem asideSpares {e : Event} (isAside : e.isAside = true) : e.spares = true := by
  cases e with
  | beginServe | serveStep | beginAccept | acceptStep | cancelAccept => rfl
  | acceptFailed call cause =>
    cases cause with
    | io cause => exact isAside
    | _ => cases isAside
  | _ => cases isAside

theorem asideStill {s : State} {e : Event} (unclosed : s.Unclosed) (isAside : e.isAside = true) :
    (s.apply e).now = s.now ∧ (s.apply e).workers = s.workers := by
  refine ⟨?_, State.workersApply unclosed (asideSpares isAside) ?_ fun _ _ => ?_⟩
  · cases e with
    | beginServe | beginAccept => rfl
    | serveStep i =>
      obtain ⟨parked, serves, frame, _⟩ := State.serveStepTouches unclosed i
      simp only [State.apply, frame]
    | acceptStep call =>
      obtain ⟨accepts, listeners, frame⟩ := State.acceptStepTouches s call
      simp only [State.apply, frame]
    | cancelAccept call =>
      obtain ⟨accepts, listeners, frame⟩ := State.cancelAcceptTouches s call
      simp only [State.apply, frame]
    | acceptFailed call cause =>
      cases cause with
      | io cause => simp only [State.apply, State.acceptFailedStill s call isAside]
      | _ => cases isAside
    | _ => cases isAside
  · cases e with
    | accepted => cases isAside
    | _ => rfl
  · cases e with
    | workerRead | workerTimeout | workerStep => cases isAside
    | _ => simp

structure Knows (s : State) (i : Nat) (w : Worker) (v : Visitor σ) : Prop where
  connection : w.arrival.connection = i
  deadline : w.deadline = s.setup.limit.map (v.came + ·)
  came : v.came ≤ s.now

structure Sound (s : State) (c : Crowd σ) : Prop where
  unclosed : c.selector.Unclosed
  setup : c.selector.setup = s.setup
  registry : c.selector.registry = s.registry
  kept : Kept s c.selector
  counted : c.selector.workers.length = c.visitors.length
  known : ∀ i w v, c.selector.workers[i]? = some w → c.visitors[i]? = some v → Knows c.selector i w v

theorem workersKept {s : State} {e : Event} (idle : s.joins e = []) :
    (s.apply e).workers.length = s.workers.length ∧ ∀ (i : Nat) (w : Worker), (s.apply e).workers[i]? = some w →
      ∃ before : Worker, s.workers[i]? = some before ∧ w.arrival = before.arrival ∧ w.deadline = before.deadline := by
  refine ⟨?_, fun i w found => ?_⟩
  · have same := congrArg List.length (State.arrivalsApply s e)
    simpa [idle] using same
  · cases present : s.workers[i]? with
    | none =>
      rw [State.workersNew e present, idle] at found
      cases found
    | some before =>
      obtain ⟨stage, next, _⟩ := State.workerMoves e present
      cases Option.some.inj (found.symm.trans next)
      exact ⟨before, rfl, rfl, rfl⟩

theorem soundKnown {s : State} {e : Event} {visitors : List (Visitor σ)} (sound : Sound s c)
    (spared : State.Spared c.selector (c.selector.apply e)) (idle : c.selector.joins e = [])
    (length : visitors.length = c.visitors.length)
    (same : ∀ (i : Nat) (v : Visitor σ), visitors[i]? = some v →
      ∃ before : Visitor σ, c.visitors[i]? = some before ∧ v.came = before.came) :
    Sound s ⟨c.selector.apply e, visitors⟩ := by
  obtain ⟨count, worker⟩ := workersKept idle
  refine ⟨spared.unclosed, spared.setup.trans sound.setup, spared.registry.trans sound.registry,
    sound.kept.trans (State.change c.selector e).kept, (count.trans sound.counted).trans length.symm,
    fun i w v found visits => ?_⟩
  obtain ⟨before, present, arrival, deadline⟩ := worker i w found
  obtain ⟨u, visited, came⟩ := same i v visits
  obtain ⟨connection, due, early⟩ := sound.known i before u present visited
  refine ⟨(congrArg Arrival.connection arrival).trans connection, ?_, came ▸ Nat.le_trans early spared.clock⟩
  rw [deadline, due, came, spared.setup]

theorem acceptedStill (s : State) (call : Nat) (arrival : Arrival) : (s.apply (.accepted call arrival)).now = s.now := by
  obtain ⟨workers, counts, frame⟩ := State.acceptedFrame s call arrival
  simp only [State.apply, frame]

theorem soundArrived {s : State} {call : Nat} {peer : SocketAddress} {stream : σ} (sound : Sound s c)
    (accepting : c.selector.isAccepting call = true) : Sound s
      ⟨c.selector.apply (.accepted call ⟨c.visitors.length, peer⟩),
        c.visitors ++ [⟨c.selector.now, stream, stream, .again 0⟩]⟩ := by
  have spared : State.Spared c.selector (c.selector.apply (.accepted call ⟨c.visitors.length, peer⟩)) :=
    State.sparedApply sound.unclosed rfl
  have workers : (c.selector.apply (.accepted call ⟨c.visitors.length, peer⟩)).workers =
      c.selector.workers ++ [c.selector.newWorker call ⟨c.visitors.length, peer⟩] := by
    rw [State.apply, State.workersAccepted, State.joins, if_pos accepting]
  have now := acceptedStill c.selector call ⟨c.visitors.length, peer⟩
  refine ⟨spared.unclosed, spared.setup.trans sound.setup, spared.registry.trans sound.registry,
    sound.kept.trans (State.change c.selector _).kept, ?_, fun i w v found visits => ?_⟩
  · simp only [workers, List.length_append, List.length_singleton, sound.counted]
  · dsimp only at found visits ⊢
    rw [workers] at found
    by_cases old : i < c.selector.workers.length
    · rw [List.getElem?_append_left old] at found
      rw [List.getElem?_append_left (sound.counted ▸ old)] at visits
      obtain ⟨connection, due, early⟩ := sound.known i w v found visits
      exact ⟨connection, by rw [due, spared.setup], by rw [now]; exact early⟩
    · have present := (List.getElem?_eq_some_iff.mp found).1
      rw [List.length_append, List.length_singleton] at present
      obtain rfl : i = c.selector.workers.length := by omega
      rw [List.getElem?_concat_length] at found
      rw [sound.counted, List.getElem?_concat_length] at visits
      cases found
      cases visits
      refine ⟨sound.counted.symm, ?_, Nat.le_of_eq now.symm⟩
      simp only [spared.setup, State.newWorker, Setup.limit, Option.map_map]
      rfl

theorem soundMove {s : State} {t : Turn σ} (sound : Sound s c) (move : Moves r c t d) : Sound s d := by
  have itself (i : Nat) (v : Visitor σ) (found : c.visitors[i]? = some v) :
      ∃ before : Visitor σ, c.visitors[i]? = some before ∧ v.came = before.came := ⟨v, found, rfl⟩
  cases move with
  | still => exact sound
  | @arrived call peer stream accepting => exact soundArrived sound accepting
  | @tried i w v missing got time worker stage visitor plan due =>
    refine soundKnown sound (State.sparedApply sound.unclosed rfl) rfl List.length_set fun j u found => ?_
    by_cases same : i = j
    · subst j
      rw [List.getElem?_set_self (List.getElem?_eq_some_iff.mp visitor).1] at found
      cases found
      exact ⟨v, visitor, rfl⟩
    · rw [List.getElem?_set_ne same] at found
      exact ⟨u, found, rfl⟩
  | gaveUp => exact soundKnown sound (State.sparedApply sound.unclosed rfl) rfl rfl itself
  | stepped => exact soundKnown sound (State.sparedApply sound.unclosed rfl) rfl rfl itself
  | passed => exact soundKnown sound (State.sparedApply sound.unclosed rfl) rfl rfl itself
  | @beside e isAside =>
    refine soundKnown sound (State.sparedApply sound.unclosed (asideSpares isAside)) ?_ rfl itself
    cases e with
    | accepted => cases isAside
    | _ => rfl

theorem soundRun {s : State} (sound : Sound s c) (turns : List (Turn σ)) : Sound s (c.run r turns) := by
  induction turns generalizing c with
  | nil => exact sound
  | cons t rest ih => exact ih (soundMove sound (moves c t))

def Prepared (s : State) : Prop :=
  ∃ (setup : Setup) (made : State) (events : List Event), State.create setup = .ok made ∧
    (∀ e ∈ events, e.registers = true) ∧ s = made.run events

structure Ready (s : State) : Prop where
  unclosed : s.Unclosed
  size : 0 < s.setup.headerSize
  order : InOrder s
  capacity : ∀ L ∈ s.listeners, L.capacity = s.setup.options.queueCapacity
  unused : s.workers = []

theorem registersFrame (s : State) {e : Event} (registers : e.registers = true) : s.apply e = s ∨
    ∃ registry key, s.apply e = { s with registry, listeners := s.listeners ++ [s.newListener key] } := by
  cases e with
  | register key =>
    simp only [State.apply, State.register]
    split
    · exact .inl rfl
    · exact .inr ⟨_, _, rfl⟩
  | registerDefault =>
    simp only [State.apply, State.registerDefault]
    split
    · exact .inl rfl
    · exact .inr ⟨_, _, rfl⟩
  | _ => cases registers

theorem readyApply {s : State} {e : Event} (ready : Ready s) (registers : e.registers = true) : Ready (s.apply e) := by
  have order := State.inOrderApply ready.order e
  rcases registersFrame s registers with same | ⟨registry, key, grown⟩
  · rwa [same]
  · rw [grown] at order ⊢
    obtain ⟨⟨closed, signals, serves, queues⟩, size, _, capacity, unused⟩ := ready
    refine ⟨⟨closed, signals, serves, fun L member => ?_⟩, size, order, fun L member => ?_, unused⟩
    · rcases List.mem_append.mp member with old | new
      · exact queues L old
      · rw [List.mem_singleton.mp new]
        rfl
    · rcases List.mem_append.mp member with old | new
      · exact capacity L old
      · rw [List.mem_singleton.mp new]
        rfl

theorem readyRun {s : State} (ready : Ready s) {events : List Event} (registers : ∀ e ∈ events, e.registers = true) :
    Ready (s.run events) := by
  induction events generalizing s with
  | nil => exact ready
  | cons e rest ih =>
    obtain ⟨first, later⟩ := List.forall_mem_cons.mp registers
    exact ih (readyApply ready first) later

theorem preparedReady {s : State} (prepared : Prepared s) : Ready s := by
  obtain ⟨setup, made, events, create, registers, rfl⟩ := prepared
  have order := State.inOrderCreated create
  obtain ⟨rfl, size, _⟩ := State.created create
  have none {α : Type} {p : α → Prop} : ∀ x ∈ ([] : List α), p x := fun _ member => (List.not_mem_nil member).elim
  exact readyRun ⟨⟨rfl, rfl, none, none⟩, size, order, none, rfl⟩ registers

theorem soundStart {s : State} (ready : Ready s) : Sound s (⟨s, []⟩ : Crowd σ) :=
  ⟨ready.unclosed, rfl, rfl, Kept.refl s, by rw [ready.unused]; rfl, fun _ _ _ _ visits => by cases visits⟩

end Crowd
end SharedPort.Selector
