import Mathlib.Data.Prod.Lex
import SharedPort.Proofs.Forward.Copy
import SharedPort.Proofs.Stream.Flowing

/-! An exchange between flowing streams, whatever the order in which its directions are tried. Each attempt of a
direction takes it nearer to its end, or leaves less patience to spend before that, or comes before its time. -/
namespace SharedPort.Forward
open SharedPort.Stream (Attempt Duplex Face Flowing Wake Waits ReadFlow WriteFlow ShutFlow)

variable {σ τ : Type} [Duplex σ] [Duplex τ]

section Lanes
variable [Flowing σ] [Flowing τ]

structure Lane.Flows (whole : Bytes) (lane : Lane σ τ) : Prop where
  source : Flowing.ok lane.source
  target : Flowing.ok lane.target
  copying : Copying whole (Flowing.face lane.source) (Flowing.face lane.target) lane.direction

def Lane.left (lane : Lane σ τ) : Nat := 2 * (Flowing.face lane.source).rest.length + lane.direction.phase.weight

def Lane.patience (lane : Lane σ τ) : Nat := (Flowing.face lane.source).weight + (Flowing.face lane.target).weight

def Lane.readyAt (lane : Lane σ τ) : Nat :=
  match lane.direction.phase with
  | .reading => (Flowing.face lane.source).readDue
  | _ => (Flowing.face lane.target).writeDue

structure Lane.Spares (old new : Lane σ τ) : Prop where
  written : (Flowing.face new.source).written = (Flowing.face old.source).written
  calls : (Flowing.face new.source).calls = (Flowing.face old.source).calls
  rest : (Flowing.face new.target).rest = (Flowing.face old.target).rest

structure Lane.Alike (old new : Lane σ τ) : Prop where
  source : Flowing.face new.source = Flowing.face old.source
  target : Flowing.face new.target = Flowing.face old.target
  direction : new.direction = old.direction

inductive LaneFlow (now : Nat) (old new : Lane σ τ) : Option Wake → Prop where
  | moved {wake} (finite : wake ≠ some .never) (less : new.left < old.left) : LaneFlow now old new wake
  | paused {wake} (finite : wake ≠ some .never) (same : new.left = old.left) (less : new.patience < old.patience) :
      LaneFlow now old new wake
  | blocked (alike : old.Alike new) (early : now < old.readyAt) : LaneFlow now old new (some (.at old.readyAt))

theorem pausedSource {now : Nat} {old new : Lane σ τ} {wake : Wake} (target : new.target = old.target)
    (direction : new.direction = old.direction) (rest : (Flowing.face new.source).rest = (Flowing.face old.source).rest)
    (waits : Waits now old.readyAt (Flowing.face old.source) (Flowing.face new.source) wake) :
    LaneFlow now old new (some wake) := by
  cases waits with
  | lighter finite less =>
    refine .paused (fun h => finite (Option.some.inj h)) ?_ ?_
    · simp only [Lane.left, rest, direction]
    · simp only [Lane.patience, target]
      omega
  | blocked same early => exact .blocked ⟨same, by rw [target], direction⟩ early

theorem pausedTarget {now : Nat} {old new : Lane σ τ} {wake : Wake} (source : new.source = old.source)
    (direction : new.direction = old.direction)
    (waits : Waits now old.readyAt (Flowing.face old.target) (Flowing.face new.target) wake) :
    LaneFlow now old new (some wake) := by
  cases waits with
  | lighter finite less =>
    refine .paused (fun h => finite (Option.some.inj h)) ?_ ?_
    · simp only [Lane.left, source, direction]
    · simp only [Lane.patience, source]
      omega
  | blocked same early => exact .blocked ⟨by rw [source], same, direction⟩ early

theorem laneFlow {whole : Bytes} {lane : Lane σ τ} (now : Nat) {room : Nat} (flows : lane.Flows whole)
    (hasRoom : 0 < room)
    (unfinished : lane.direction.phase ≠ .finished) :
    (lane.step now room).2.Flows whole ∧ lane.Spares (lane.step now room).2 ∧
      LaneFlow now lane (lane.step now room).2 (lane.step now room).1 := by
  obtain ⟨source, target, direction⟩ := lane
  obtain ⟨sourceOk, targetOk, copying⟩ := flows
  dsimp only at sourceOk targetOk copying unfinished
  cases kind : copying with
  | finished => exact (unfinished rfl).elim
  | @reading total order count isOpen =>
    obtain ⟨still, flow⟩ := Flowing.read now sourceOk hasRoom
    simp only [Lane.step]
    generalize (Duplex.read now room source).1 = attempt at flow ⊢
    generalize (Duplex.read now room source).2 = next at still flow ⊢
    cases flow with
    | @gave bytes nonempty rest written calls =>
      refine ⟨⟨still, targetOk, copying.gave nonempty rest⟩, ⟨written, calls, rfl⟩, .moved (by simp [wakeOf]) ?_⟩
      obtain ⟨b, bytes, rfl⟩ := List.exists_cons_of_ne_nil nonempty
      simp only [Lane.left, Direction.onRead, Phase.weight, rest, List.length_append, List.length_cons]
      omega
    | ended rest left written calls =>
      refine ⟨⟨still, targetOk, copying.atEnd rest left⟩, ⟨written, calls, rfl⟩, .moved (by simp [wakeOf]) ?_⟩
      simp only [Lane.left, Direction.onRead, Phase.weight, rest, left]
      omega
    | waited rest written calls waits =>
      exact ⟨⟨still, targetOk, copying.congr rest rfl rfl⟩, ⟨written, calls, rfl⟩, pausedSource rfl rfl rest waits⟩
  | @writing total size rest order nonempty count isOpen =>
    obtain ⟨still, flow⟩ := Flowing.write now targetOk nonempty
    simp only [Lane.step]
    generalize (Duplex.write now rest target).1 = attempt at flow ⊢
    generalize (Duplex.write now rest target).2 = next at still flow ⊢
    cases flow with
    | @took n call positive fits left written calls other =>
      refine ⟨⟨sourceOk, still, copying.took positive fits written calls other⟩, ⟨rfl, rfl, left⟩,
        .moved (by simp [wakeOf]) ?_⟩
      have lighter := onWriteLighter ⟨.writing size rest, total⟩ size positive fits
      simp only [Lane.left, Phase.weight] at lighter ⊢
      omega
    | waited left written calls waits =>
      exact ⟨⟨sourceOk, still, copying.congr rfl written calls⟩, ⟨rfl, rfl, left⟩, pausedTarget rfl rfl waits⟩
  | @ending total order drained count isOpen =>
    obtain ⟨still, flow⟩ := Flowing.shutdown now targetOk
    simp only [Lane.step]
    generalize (Duplex.shutdown now target).1 = attempt at flow ⊢
    generalize (Duplex.shutdown now target).2 = next at still flow ⊢
    cases flow with
    | shut ready left written calls =>
      refine ⟨⟨sourceOk, still, copying.shut ready written calls⟩, ⟨rfl, rfl, left⟩, .moved ?_ ?_⟩
      · simp [(onShutdownReady ⟨.ending, total⟩ ready).1]
      · simp [Lane.left, (onShutdownReady ⟨.ending, total⟩ ready).2, Phase.weight]
    | waited left written calls waits =>
      exact ⟨⟨sourceOk, still, copying.congr rfl written calls⟩, ⟨rfl, rfl, left⟩, pausedTarget rfl rfl waits⟩

end Lanes

namespace Exchange

structure Turn where
  side : Bool
  now : Nat

def stepSide (side : Bool) (now room : Nat) (x : Exchange σ τ) : Option Wake × Exchange σ τ :=
  match side with
  | true =>
      let (wake, lane) := (Lane.mk x.client x.target x.up).step now room
      (wake, { x with client := lane.source, target := lane.target, up := lane.direction })
  | false =>
      let (wake, lane) := (Lane.mk x.target x.client x.down).step now room
      (wake, { x with target := lane.source, client := lane.target, down := lane.direction })

def played (room : Nat) (schedule : Nat → Turn) (x : Exchange σ τ) : Nat → Exchange σ τ
  | 0 => x
  | n + 1 => ((x.played room schedule n).stepSide (schedule n).side (schedule n).now room).2

variable [Flowing σ] [Flowing τ]

structure Flows (up down : Bytes) (x : Exchange σ τ) : Prop where
  client : Flowing.ok x.client
  target : Flowing.ok x.target
  sent : Copying up (Flowing.face x.client) (Flowing.face x.target) x.up
  answered : Copying down (Flowing.face x.target) (Flowing.face x.client) x.down

structure Alike (x y : Exchange σ τ) : Prop where
  client : Flowing.face y.client = Flowing.face x.client
  target : Flowing.face y.target = Flowing.face x.target
  up : y.up = x.up
  down : y.down = x.down

def readyAt (x : Exchange σ τ) : Bool → Nat
  | true => (Lane.mk x.client x.target x.up).readyAt
  | false => (Lane.mk x.target x.client x.down).readyAt

/- What is left to do in both directions, and how long the streams may go on without doing any of it. -/
def measure (x : Exchange σ τ) : Nat ×ₗ Nat :=
  toLex ((Lane.mk x.client x.target x.up).left + (Lane.mk x.target x.client x.down).left,
    (Lane.mk x.client x.target x.up).patience)

theorem Alike.refl (x : Exchange σ τ) : x.Alike x := ⟨rfl, rfl, rfl, rfl⟩

theorem Alike.trans {x y z : Exchange σ τ} (first : x.Alike y) (second : y.Alike z) : x.Alike z :=
  ⟨second.client.trans first.client, second.target.trans first.target, second.up.trans first.up,
    second.down.trans first.down⟩

theorem Alike.phase {x y : Exchange σ τ} (alike : x.Alike y) (side : Bool) : y.phase side = x.phase side := by
  cases side <;> simp [Exchange.phase, alike.up, alike.down]

theorem Alike.readyAt {x y : Exchange σ τ} (alike : x.Alike y) (side : Bool) : y.readyAt side = x.readyAt side := by
  cases side <;> simp only [Exchange.readyAt, Lane.readyAt, alike.client, alike.target, alike.up, alike.down]

theorem Alike.measure {x y : Exchange σ τ} (alike : x.Alike y) : y.measure = x.measure := by
  simp only [Exchange.measure, Lane.left, Lane.patience, alike.client, alike.target, alike.up, alike.down]

inductive SideFlow (side : Bool) (now : Nat) (x y : Exchange σ τ) : Option Wake → Prop where
  | lighter {wake} (finite : wake ≠ some .never) (less : y.measure < x.measure) : SideFlow side now x y wake
  | blocked (alike : x.Alike y) (early : now < x.readyAt side) : SideFlow side now x y (some (.at (x.readyAt side)))

theorem SideFlow.either {side : Bool} {now : Nat} {x y : Exchange σ τ} {wake : Option Wake}
    (flow : SideFlow side now x y wake) :
    y.measure < x.measure ∨ x.Alike y ∧ now < x.readyAt side := by
  cases flow with
  | lighter _ less => exact .inl less
  | blocked alike early => exact .inr ⟨alike, early⟩

theorem sideFlow {up down : Bytes} {x : Exchange σ τ} (side : Bool) (now : Nat) {room : Nat} (flows : x.Flows up down)
    (hasRoom : 0 < room) (unfinished : x.phase side ≠ .finished) :
    (x.stepSide side now room).2.Flows up down ∧ (x.stepSide side now room).2.phase (!side) = x.phase (!side) ∧
      SideFlow side now x (x.stepSide side now room).2 (x.stepSide side now room).1 := by
  obtain ⟨client, target, sent, answered⟩ := flows
  cases side with
  | true =>
    have lane : (Lane.mk x.client x.target x.up).Flows up := ⟨client, target, sent⟩
    obtain ⟨laneFlows, spares, flow⟩ := laneFlow now lane hasRoom unfinished
    simp only [stepSide]
    generalize (Lane.mk x.client x.target x.up).step now room = result at laneFlows spares flow ⊢
    obtain ⟨wake, client', target', up'⟩ := result
    refine ⟨⟨laneFlows.source, laneFlows.target, laneFlows.copying, ?_⟩, rfl, ?_⟩
    · exact answered.congr spares.rest spares.written spares.calls
    · dsimp only at flow spares ⊢
      cases flow with
      | moved finite less =>
        refine .lighter finite (Prod.Lex.toLex_lt_toLex.mpr (.inl ?_))
        simp only [Lane.left, spares.rest] at less ⊢
        omega
      | paused finite same less =>
        refine .lighter finite (Prod.Lex.toLex_lt_toLex.mpr (.inr ⟨?_, less⟩))
        simp only [Lane.left, spares.rest] at same ⊢
        omega
      | blocked alike early => exact .blocked ⟨alike.source, alike.target, alike.direction, rfl⟩ early
  | false =>
    have lane : (Lane.mk x.target x.client x.down).Flows down := ⟨target, client, answered⟩
    obtain ⟨laneFlows, spares, flow⟩ := laneFlow now lane hasRoom unfinished
    simp only [stepSide]
    generalize (Lane.mk x.target x.client x.down).step now room = result at laneFlows spares flow ⊢
    obtain ⟨wake, target', client', down'⟩ := result
    refine ⟨⟨laneFlows.target, laneFlows.source, ?_, laneFlows.copying⟩, rfl, ?_⟩
    · exact sent.congr spares.rest spares.written spares.calls
    · dsimp only at flow spares ⊢
      cases flow with
      | moved finite less =>
        refine .lighter finite (Prod.Lex.toLex_lt_toLex.mpr (.inl ?_))
        simp only [Lane.left, spares.rest] at less ⊢
        omega
      | paused finite same less =>
        refine .lighter finite (Prod.Lex.toLex_lt_toLex.mpr (.inr ⟨?_, ?_⟩))
        · simp only [Lane.left, spares.rest] at same ⊢
          omega
        · simp only [Lane.patience] at less ⊢
          omega
      | blocked alike early => exact .blocked ⟨alike.target, alike.source, rfl, alike.direction⟩ early

omit [Flowing σ] [Flowing τ] in
theorem stepFinished {x : Exchange σ τ} {side : Bool} (now room : Nat) (isDone : x.phase side = .finished) :
    x.stepSide side now room = (none, x) := by
  cases side with
  | true =>
    have isDone : x.up.phase = .finished := isDone
    simp [stepSide, Lane.step, isDone]
  | false =>
    have isDone : x.down.phase = .finished := isDone
    simp [stepSide, Lane.step, isDone]

theorem turnFlow {up down : Bytes} {x : Exchange σ τ} (t : Turn) {room : Nat} (flows : x.Flows up down)
    (hasRoom : 0 < room) :
    (x.stepSide t.side t.now room).2.Flows up down ∧
      ((x.stepSide t.side t.now room).2.measure < x.measure ∨ x.Alike (x.stepSide t.side t.now room).2) := by
  by_cases isDone : x.phase t.side = .finished
  · rw [stepFinished t.now room isDone]
    exact ⟨flows, .inr (.refl x)⟩
  · obtain ⟨still, _, flow⟩ := sideFlow t.side t.now flows hasRoom isDone
    exact ⟨still, flow.either.imp_right And.left⟩

theorem stepKeeps {up down : Bytes} {x : Exchange σ τ} {side : Bool} (t : Turn) {room : Nat} (flows : x.Flows up down)
    (hasRoom : 0 < room) (isDone : x.phase side = .finished) :
    (x.stepSide t.side t.now room).2.phase side = .finished := by
  by_cases same : t.side = side
  · rw [stepFinished t.now room (same ▸ isDone)]
    exact isDone
  · by_cases otherDone : x.phase t.side = .finished
    · rw [stepFinished t.now room otherDone]
      exact isDone
    · obtain ⟨_, kept, _⟩ := sideFlow t.side t.now flows hasRoom otherDone
      have other : (!t.side) = side := by
        cases side <;> cases h : t.side <;> simp_all
      rw [other] at kept
      exact kept.trans isDone

section Schedule
variable {up down : Bytes} {x : Exchange σ τ} {room : Nat} (schedule : Nat → Turn)

theorem playedFlows (flows : x.Flows up down) (hasRoom : 0 < room) (n : Nat) :
    (x.played room schedule n).Flows up down := by
  induction n with
  | zero => exact flows
  | succ n ih => exact (turnFlow (schedule n) ih hasRoom).1

theorem playedKeeps (flows : x.Flows up down) (hasRoom : 0 < room) {side : Bool} {n : Nat}
    (isDone : (x.played room schedule n).phase side = .finished) (m : Nat) :
    (x.played room schedule (n + m)).phase side = .finished := by
  induction m with
  | zero => exact isDone
  | succ m ih => exact stepKeeps (schedule (n + m)) (playedFlows schedule flows hasRoom _) hasRoom ih

theorem playedLighter (flows : x.Flows up down) (hasRoom : 0 < room) (n m : Nat) :
    (x.played room schedule (n + m)).measure < (x.played room schedule n).measure ∨
      (x.played room schedule n).Alike (x.played room schedule (n + m)) := by
  induction m with
  | zero => exact .inr (.refl _)
  | succ m ih =>
    have next := (turnFlow (schedule (n + m)) (playedFlows schedule flows hasRoom (n + m)) hasRoom).2
    rcases ih with less | alike
    · rcases next with lower | same
      · exact .inl (lower.trans less)
      · exact .inl (same.measure.trans_lt less)
    · rcases next with lower | same
      · exact .inl (lower.trans_eq alike.measure)
      · exact .inr (alike.trans same)

/- A direction is tried again and again, and late enough for every delay. -/
def Keeps (side : Bool) : Prop := ∀ n time, ∃ m, n ≤ m ∧ (schedule m).side = side ∧ time ≤ (schedule m).now

variable {schedule}

/- A direction that is tried again and again comes to its end, whatever becomes of the other one. -/
theorem playedFinishes (flows : x.Flows up down) (hasRoom : 0 < room) {side : Bool} (keeps : Keeps schedule side)
    (n : Nat) :
    ∃ m, (x.played room schedule m).phase side = .finished := by
  induction weight : (x.played room schedule n).measure using WellFoundedLT.induction generalizing n with
  | ind weight ih =>
    subst weight
    by_cases isDone : (x.played room schedule n).phase side = .finished
    · exact ⟨n, isDone⟩
    · obtain ⟨m, later, rfl, late⟩ := keeps n ((x.played room schedule n).readyAt side)
      obtain ⟨k, rfl⟩ := Nat.exists_eq_add_of_le later
      rcases playedLighter schedule flows hasRoom n k with less | alike
      · exact ih _ less (n + k) rfl
      · rw [← alike.phase] at isDone
        rw [← alike.readyAt] at late
        have flow := (sideFlow _ (schedule (n + k)).now (playedFlows schedule flows hasRoom (n + k)) hasRoom isDone).2.2
        rcases flow.either with less | ⟨_, early⟩
        · exact ih _ (less.trans_eq alike.measure) (n + k + 1) rfl
        · omega

end Schedule

end Exchange

end SharedPort.Forward
