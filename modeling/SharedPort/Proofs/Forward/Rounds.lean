import SharedPort.Proofs.Forward.Schedules

/-! An exchange between flowing streams in rounds under the clock. Every round ends the exchange, or lowers its measure,
or finds both directions before their time, and then the clock moves on to the first of their times. -/
namespace SharedPort.Forward
open SharedPort.Stream (Attempt Duplex Face Flowing Wake)

variable {σ τ : Type} [Duplex σ] [Duplex τ]

namespace Exchange

theorem runSideStep {x y : Exchange σ τ} {side : Bool} {now room fuel : Nat} {wake : Option Wake}
    (unfinished : x.phase side ≠ .finished) (well : ∀ cause, x.phase side ≠ .failed cause)
    (step : x.stepSide side now room = (wake, y)) :
    x.runSide side now room (fuel + 1) =
      (wake.map fun w => (y, Progress.waiting w)).getD (y.runSide side now room fuel) := by
  cases side with
  | true =>
    obtain ⟨late, lane, attempt⟩ : ∃ late lane, (Lane.mk x.client x.target x.up).step now room = (late, lane) :=
      ⟨_, _, rfl⟩
    simp only [stepSide, attempt, Prod.mk.injEq] at step
    obtain ⟨rfl, rfl⟩ := step
    simp only [runSide, if_true, runUp]
    rw [laneRunStep unfinished well attempt]
    cases late <;> rfl
  | false =>
    obtain ⟨late, lane, attempt⟩ : ∃ late lane, (Lane.mk x.target x.client x.down).step now room = (late, lane) :=
      ⟨_, _, rfl⟩
    simp only [stepSide, attempt, Prod.mk.injEq] at step
    obtain ⟨rfl, rfl⟩ := step
    simp only [runSide, Bool.false_eq_true, if_false, runDown]
    rw [laneRunStep unfinished well attempt]
    cases late <;> rfl

theorem runSideFinished {x : Exchange σ τ} {side : Bool} (now room fuel : Nat) (isDone : x.phase side = .finished) :
    x.runSide side now room (fuel + 1) = (x, .finished) := by
  cases side with
  | true =>
    have isDone : x.up.phase = .finished := isDone
    simp [runSide, runUp, Lane.run, isDone]
  | false =>
    have isDone : x.down.phase = .finished := isDone
    simp [runSide, runDown, Lane.run, isDone]

variable [Flowing σ] [Flowing τ]

theorem Flows.well {up down : Bytes} {x : Exchange σ τ} (flows : x.Flows up down) (side : Bool) (cause : IoError) :
    x.phase side ≠ .failed cause := by
  cases side with
  | true =>
    intro failed
    have sent := flows.sent
    obtain ⟨client, target, upward, downward⟩ := x
    dsimp only [Exchange.phase] at failed sent
    cases sent <;> cases failed
  | false =>
    intro failed
    have answered := flows.answered
    obtain ⟨client, target, upward, downward⟩ := x
    dsimp only [Exchange.phase] at failed answered
    cases answered <;> cases failed

inductive RunFlow (side : Bool) (now : Nat) (x y : Exchange σ τ) : Progress → Prop where
  | finished (isDone : y.phase side = .finished) (still : y.measure < x.measure ∨ x.Alike y) :
      RunFlow side now x y .finished
  | waiting {wake} (finite : wake ≠ .never) (less : y.measure < x.measure) : RunFlow side now x y (.waiting wake)
  | blocked (unfinished : x.phase side ≠ .finished) (alike : x.Alike y) (early : now < x.readyAt side) :
      RunFlow side now x y (.waiting (.at (x.readyAt side)))

theorem RunFlow.still {side : Bool} {now : Nat} {x y : Exchange σ τ} {p : Progress} (flow : RunFlow side now x y p) :
    y.measure < x.measure ∨ x.Alike y := by
  cases flow with
  | finished _ still => exact still
  | waiting _ less => exact .inl less
  | blocked _ alike => exact .inr alike

theorem RunFlow.after {side : Bool} {now : Nat} {x y z : Exchange σ τ} {p : Progress} (flow : RunFlow side now y z p)
    (less : y.measure < x.measure) : RunFlow side now x z p := by
  cases flow with
  | finished isDone still =>
    refine .finished isDone (.inl ?_)
    rcases still with lower | alike
    · exact lower.trans less
    · exact alike.measure.trans_lt less
  | waiting finite lower => exact .waiting finite (lower.trans less)
  | blocked _ alike => exact .waiting (by simp) (alike.measure.trans_lt less)

theorem runFlow {up down : Bytes} {x : Exchange σ τ} (side : Bool) (now : Nat) {room : Nat} (flows : x.Flows up down)
    (hasRoom : 0 < room) :
    ∃ enough y p, (∀ fuel, enough ≤ fuel → x.runSide side now room fuel = (y, p)) ∧ y.Flows up down ∧
      y.phase (!side) = x.phase (!side) ∧ RunFlow side now x y p := by
  induction weight : x.measure using WellFoundedLT.induction generalizing x with
  | ind weight ih =>
    subst weight
    by_cases isDone : x.phase side = .finished
    · refine ⟨1, x, .finished, fun fuel enough => ?_, flows, rfl, .finished isDone (.inr (.refl x))⟩
      obtain ⟨fuel, rfl⟩ := Nat.exists_eq_add_of_le' enough
      exact runSideFinished now room fuel isDone
    · obtain ⟨still, kept, flow⟩ := sideFlow side now flows hasRoom isDone
      obtain ⟨wake, y, attempt⟩ : ∃ wake y, x.stepSide side now room = (wake, y) := ⟨_, _, rfl⟩
      rw [attempt] at still kept flow
      have step (fuel : Nat) : x.runSide side now room (fuel + 1) = _ := runSideStep isDone (flows.well side) attempt
      have paused {w : Wake} (isWake : wake = some w) {fuel : Nat} (enough : 1 ≤ fuel) :
          x.runSide side now room fuel = (y, .waiting w) := by
        obtain ⟨fuel, rfl⟩ := Nat.exists_eq_add_of_le' enough
        rw [step, isWake]
        rfl
      cases flow with
      | blocked alike early => exact ⟨1, y, _, fun _ => paused rfl, still, kept, .blocked isDone alike early⟩
      | lighter finite less =>
        cases wake with
        | some w => exact ⟨1, y, _, fun _ => paused rfl, still, kept, .waiting (fun h => finite (congrArg some h)) less⟩
        | none =>
          obtain ⟨enough, z, p, run, flowing, same, rest⟩ := ih _ less still rfl
          refine ⟨enough + 1, z, p, fun fuel more => ?_, flowing, same.trans kept, rest.after less⟩
          obtain ⟨fuel, rfl⟩ := Nat.exists_eq_add_of_le' (Nat.le_of_add_left_le more)
          rw [step]
          exact run fuel (by omega)

/- A round that neither ends nor lightens the exchange comes before the time of a direction. -/
inductive RoundFlow (now : Nat) (x y : Exchange σ τ) : Except IoError (Option Wake) → Prop where
  | finished (up : y.up.phase = .finished) (down : y.down.phase = .finished) : RoundFlow now x y (.ok none)
  | lighter {wake} (finite : wake ≠ .never) (less : y.measure < x.measure) : RoundFlow now x y (.ok (some wake))
  | blocked {side} (unfinished : x.phase side ≠ .finished) (alike : x.Alike y) (early : now < x.readyAt side) :
      RoundFlow now x y (.ok (some (.at (x.readyAt side))))

theorem verdictFlow {side : Bool} {now : Nat} {x y z : Exchange σ τ} {p q : Progress} (first : RunFlow side now x y p)
    (second : RunFlow (!side) now y z q) (kept : z.phase side = y.phase side) : RoundFlow now x z (verdict p q) := by
  have lower (less : z.measure < y.measure) : z.measure < x.measure := by
    rcases first.still with before | alike
    · exact less.trans before
    · exact less.trans_eq alike.measure
  have later (less : y.measure < x.measure) : z.measure < x.measure := by
    rcases second.still with after | alike
    · exact after.trans less
    · exact alike.measure.trans_lt less
  cases first with
  | finished isDone still =>
    cases second with
    | finished also =>
      have done := bothSides (P := fun b => z.phase b = .finished) side (kept.trans isDone) also
      exact .finished (done true) (done false)
    | waiting finite less => exact .lighter finite (lower less)
    | blocked unfinished alike early =>
      rcases still with less | same
      · exact .lighter (by simp) (later less)
      · rw [same.phase] at unfinished
        rw [same.readyAt] at early ⊢
        exact .blocked unfinished (same.trans alike) early
  | waiting finite less =>
    cases second with
    | finished => exact .lighter finite (later less)
    | waiting also => exact .lighter (earlierFinite finite also) (later less)
    | blocked => exact .lighter (earlierFinite finite (by simp)) (later less)
  | blocked unfinished same early =>
    cases second with
    | finished _ still =>
      rcases still with less | alike
      · exact .lighter (by simp) (lower less)
      · exact .blocked unfinished (same.trans alike) early
    | waiting finite less => exact .lighter (earlierFinite (by simp) finite) (lower less)
    | blocked isOpen alike soon =>
      rw [same.phase] at isOpen
      rw [same.readyAt] at soon ⊢
      change RoundFlow now x z (.ok (some (.at (min (x.readyAt side) (x.readyAt !side)))))
      rcases Nat.le_total (x.readyAt side) (x.readyAt !side) with le | le
      · rw [Nat.min_eq_left le]
        exact .blocked unfinished (same.trans alike) early
      · rw [Nat.min_eq_right le]
        exact .blocked isOpen (same.trans alike) soon

theorem roundFlow {up down : Bytes} {x : Exchange σ τ} (upFirst : Bool) (now : Nat) {room : Nat} (flows : x.Flows up down)
    (hasRoom : 0 < room) :
    ∃ enough y p q, (∀ fuel, enough ≤ fuel → x.round upFirst now room fuel = (y, p, q)) ∧ y.Flows up down ∧
      RoundFlow now x y (verdict p q) := by
  obtain ⟨enough, y, p, run, midway, _, first⟩ := runFlow upFirst now flows hasRoom
  obtain ⟨more, z, q, again, after, kept, second⟩ := runFlow (!upFirst) now midway hasRoom
  rw [Bool.not_not] at kept
  have well : ∀ cause, p ≠ .failed cause := by
    rintro cause rfl
    cases first
  refine ⟨max enough more, z, p, q, fun fuel le => ?_, after, verdictFlow first second kept⟩
  exact roundRun well (run fuel (by omega)) (again fuel (by omega))

def pending (now : Nat) (x : Exchange σ τ) : Nat :=
  [true, false].countP fun side => x.phase side ≠ .finished ∧ now < x.readyAt side

theorem pendingLater {side : Bool} {now later : Nat} {x y : Exchange σ τ} (unfinished : x.phase side ≠ .finished)
    (alike : x.Alike y) (early : now < x.readyAt side) (passed : now ≤ later) (due : x.readyAt side ≤ later) :
    y.pending later < x.pending now := by
  have fewer (b : Bool) (soon : later < x.readyAt b) : now < x.readyAt b := Nat.lt_of_le_of_lt passed soon
  have past : ¬ later < x.readyAt side := by omega
  simp only [pending, alike.phase, alike.readyAt, List.countP_cons, List.countP_nil]
  cases side with
  | true =>
    have other := fewer false
    simp only [past, early]
    grind
  | false =>
    have other := fewer true
    simp only [past, early]
    grind

def Settles (up down : Bytes) (room : Nat) (upFirst : Bool) (now : Nat) (x : Exchange σ τ) : Prop :=
  ∃ enough deadline, ∀ limit steps fuel, deadline < limit → enough ≤ steps → enough ≤ fuel → ∃ y,
    rounds limit room steps fuel upFirst now x = (y, .finished up.length down.length) ∧ y.Flows up down ∧
      y.up.phase = .finished ∧ y.down.phase = .finished

theorem settles {up down : Bytes} {room : Nat} (hasRoom : 0 < room) (upFirst : Bool) (now : Nat) {x : Exchange σ τ}
    (flows : x.Flows up down) : Settles up down room upFirst now x := by
  induction rank : toLex (x.measure, x.pending now) using WellFoundedLT.induction generalizing x now upFirst with
  | ind rank ih =>
    subst rank
    obtain ⟨enough, y, p, q, round, after, flow⟩ := roundFlow upFirst now flows hasRoom
    have next {wake : Wake} (result : verdict p q = .ok (some wake)) (finite : wake ≠ .never)
        (lower : ∀ time, (∀ t, wake = .at t → time = t) →
          toLex (y.measure, y.pending (max now time)) < toLex (x.measure, x.pending now)) :
        Settles up down room upFirst now x := by
      obtain ⟨time, isTime, tries⟩ := nextTryFinite finite now
      obtain ⟨more, deadline, rest⟩ := ih _ (lower time isTime) (!upFirst) (max now time) after rfl
      refine ⟨max enough (more + 1), max deadline (max now time), fun limit steps fuel late least most => ?_⟩
      obtain ⟨fuel, rfl⟩ : ∃ m, fuel = m + 1 := ⟨fuel - 1, by omega⟩
      obtain ⟨z, run, done⟩ := rest limit steps fuel (by omega) (by omega) (by omega)
      refine ⟨z, ?_, done⟩
      rw [← run]
      simp only [rounds, round steps (by omega), result, tries limit (by omega)]
    generalize result : verdict p q = v at flow
    cases flow with
    | finished upDone downDone =>
      refine ⟨max enough 1, 0, fun limit steps fuel _ least most => ⟨y, ?_, after, upDone, downDone⟩⟩
      obtain ⟨fuel, rfl⟩ : ∃ m, fuel = m + 1 := ⟨fuel - 1, by omega⟩
      obtain ⟨_, sent, _⟩ := after.sent.done upDone
      obtain ⟨_, answered, _⟩ := after.answered.done downDone
      simp only [rounds, round steps (by omega), result, sent, answered]
    | lighter finite less => exact next result finite fun _ _ => Prod.Lex.toLex_lt_toLex.mpr (.inl less)
    | @blocked side unfinished alike early =>
      refine next result (by simp) fun time isTime => Prod.Lex.toLex_lt_toLex.mpr (.inr ⟨alike.measure, ?_⟩)
      rw [isTime _ rfl]
      exact pendingLater unfinished alike early (Nat.le_max_left _ _) (Nat.le_max_right _ _)

def answer (x : Exchange σ τ) : Option (Except IoError (Nat × Nat)) :=
  match x.up.phase, x.down.phase with
  | .failed cause, _ => some (.error cause)
  | _, .failed cause => some (.error cause)
  | .finished, .finished => some (.ok (x.up.total, x.down.total))
  | _, _ => none

end Exchange

structure Unused {σ : Type} [Duplex σ] [Flowing σ] (s : σ) : Prop where
  ok : Flowing.ok s
  written : (Flowing.face s).written = []
  isOpen : .shutdown ∉ (Flowing.face s).calls

def Complete {σ : Type} [Duplex σ] [Flowing σ] (s : σ) (bytes : Bytes) : Prop :=
  (Flowing.face s).written = bytes ∧ ∃ earlier, (Flowing.face s).calls = .shutdown :: earlier ∧ .shutdown ∉ earlier

/- What holds of an exchange in the course of a schedule. Each direction that is tried again and again comes to its end,
also if the other one does not, or came to its end before. -/
structure Copied [Flowing σ] [Flowing τ] (sent answered : Bytes) (room : Nat) (schedule : Nat → Exchange.Turn)
    (x : Exchange σ τ) : Prop where
  written : ∀ n, (Flowing.face (x.played room schedule n).target).written <+: sent ∧
    (Flowing.face (x.played room schedule n).client).written <+: answered
  shut : ∀ n, (.shutdown ∈ (Flowing.face (x.played room schedule n).target).calls →
      Complete (x.played room schedule n).target sent) ∧
    (.shutdown ∈ (Flowing.face (x.played room schedule n).client).calls →
      Complete (x.played room schedule n).client answered)
  answers : ∀ n, (x.played room schedule n).answer = none ∨
    (x.played room schedule n).answer = some (.ok (sent.length, answered.length))
  up : Exchange.Keeps schedule true → ∃ n, ∀ m, n ≤ m → (x.played room schedule m).up = ⟨.finished, sent.length⟩ ∧
    Complete (x.played room schedule m).target sent
  down : Exchange.Keeps schedule false → ∃ n, ∀ m, n ≤ m →
    (x.played room schedule m).down = ⟨.finished, answered.length⟩ ∧ Complete (x.played room schedule m).client answered
  both : (∀ side, Exchange.Keeps schedule side) → ∃ n, ∀ m, n ≤ m →
    (x.played room schedule m).answer = some (.ok (sent.length, answered.length))

/- A connection is forwarded exactly: in every order of attempts, and in rounds under the clock. -/
structure ForwardsExactly [Flowing σ] [Flowing τ] (client : σ) (target : τ) (bufferSize : Nat)
    (sent answered : Bytes) : Prop where
  everyOrder : ∀ schedule, Copied sent answered (Direction.roomFor bufferSize) schedule (Exchange.mk client target {} {})
  underClock : ∃ enough deadline, ∀ limit fuel, deadline < limit → enough ≤ fuel → ∃ x,
    Exchange.run limit fuel bufferSize client target = (x, .finished sent.length answered.length) ∧
      Complete x.target sent ∧ Complete x.client answered

theorem Copying.sofar {whole : Bytes} {source target : Face} {d : Direction} (copying : Copying whole source target d) :
    target.written <+: whole := by
  cases copying with
  | reading order | writing order => exact ⟨_, order⟩
  | ending order | finished order => exact order ▸ List.prefix_refl _

theorem Copying.whenShut {whole : Bytes} {source target : Face} {d : Direction} (copying : Copying whole source target d)
    (shut : .shutdown ∈ target.calls) :
    target.written = whole ∧ ∃ earlier, target.calls = .shutdown :: earlier ∧ .shutdown ∉ earlier := by
  cases copying with
  | reading _ _ isOpen | ending _ _ _ isOpen => exact (isOpen shut).elim
  | writing _ _ _ isOpen => exact (isOpen shut).elim
  | finished order _ _ calls once => exact ⟨order, _, calls, once⟩

theorem Copying.whenDone {whole : Bytes} {source target : Face} {d : Direction} (copying : Copying whole source target d)
    (isDone : d.phase = .finished) : d = ⟨.finished, whole.length⟩ := by
  have total := (copying.done isDone).2.1
  obtain ⟨phase, count⟩ := d
  simp_all

section Answers
variable [Flowing σ] [Flowing τ] {sent answered : Bytes} {x : Exchange σ τ} {room : Nat}

theorem Exchange.Flows.answerDone (flows : x.Flows sent answered) (up : x.up.phase = .finished)
    (down : x.down.phase = .finished) :
    x.answer = some (.ok (sent.length, answered.length)) := by
  simp [Exchange.answer, flows.sent.whenDone up, flows.answered.whenDone down]

theorem Exchange.Flows.answer (flows : x.Flows sent answered) :
    x.answer = none ∨ x.answer = some (.ok (sent.length, answered.length)) := by
  by_cases both : x.up.phase = .finished ∧ x.down.phase = .finished
  · exact .inr (flows.answerDone both.1 both.2)
  · have upWell : ∀ cause, x.up.phase ≠ .failed cause := flows.well true
    have downWell : ∀ cause, x.down.phase ≠ .failed cause := flows.well false
    left
    unfold Exchange.answer
    split
    · exact (upWell _ ‹_›).elim
    · exact (downWell _ ‹_›).elim
    · exact (both ⟨‹_›, ‹_›⟩).elim
    · rfl

theorem copied (flows : x.Flows sent answered) (hasRoom : 0 < room) (schedule : Nat → Exchange.Turn) :
    Copied sent answered room schedule x := by
  have flowing := Exchange.playedFlows schedule flows hasRoom
  have ends {side : Bool} (keeps : Exchange.Keeps schedule side) :
      ∃ n, ∀ m, n ≤ m → (x.played room schedule m).phase side = .finished := by
    obtain ⟨n, isDone⟩ := Exchange.playedFinishes flows hasRoom keeps 0
    refine ⟨n, fun m later => ?_⟩
    obtain ⟨k, rfl⟩ := Nat.exists_eq_add_of_le later
    exact Exchange.playedKeeps schedule flows hasRoom isDone k
  refine ⟨fun n => ⟨(flowing n).sent.sofar, (flowing n).answered.sofar⟩,
    fun n => ⟨(flowing n).sent.whenShut, (flowing n).answered.whenShut⟩, fun n => (flowing n).answer, fun keeps => ?_,
    fun keeps => ?_, fun keeps => ?_⟩
  · obtain ⟨n, isDone⟩ := ends keeps
    refine ⟨n, fun m later => ⟨(flowing m).sent.whenDone (isDone m later), ?_⟩⟩
    obtain ⟨written, _, shut⟩ := (flowing m).sent.done (isDone m later)
    exact ⟨written, shut⟩
  · obtain ⟨n, isDone⟩ := ends keeps
    refine ⟨n, fun m later => ⟨(flowing m).answered.whenDone (isDone m later), ?_⟩⟩
    obtain ⟨written, _, shut⟩ := (flowing m).answered.done (isDone m later)
    exact ⟨written, shut⟩
  · obtain ⟨first, upDone⟩ := ends (keeps true)
    obtain ⟨second, downDone⟩ := ends (keeps false)
    exact ⟨max first second, fun m later => (flowing m).answerDone (upDone m (by omega)) (downDone m (by omega))⟩

theorem Unused.copying {source : σ} {target : τ} (fresh : Unused target) :
    Copying (Flowing.face source).rest (Flowing.face source) (Flowing.face target) {} :=
  .reading (by simp [fresh.written]) (by simp [fresh.written]) fresh.isOpen

theorem forwardsExactly {client : σ} {target : τ} (caller : Unused client) (fresh : Unused target) (bufferSize : Nat) :
    ForwardsExactly client target bufferSize (Flowing.face client).rest (Flowing.face target).rest := by
  have flows : (Exchange.mk client target {} {}).Flows (Flowing.face client).rest (Flowing.face target).rest :=
    ⟨caller.ok, fresh.ok, fresh.copying, caller.copying⟩
  have hasRoom := Direction.roomForPositive bufferSize
  obtain ⟨enough, deadline, settles⟩ := Exchange.settles hasRoom true 0 flows
  refine ⟨copied flows hasRoom, enough, deadline, fun limit fuel late more => ?_⟩
  obtain ⟨x, run, after, up, down⟩ := settles limit fuel fuel late more more
  obtain ⟨sent, _, sentShut⟩ := after.sent.done up
  obtain ⟨answered, _, answerShut⟩ := after.answered.done down
  exact ⟨x, run, ⟨sent, sentShut⟩, answered, answerShut⟩

end Answers

def haltingClient : Stream.Paced where
  reads := [.data [65, 66, 67], .pend, .delay 5, .data [68]]
  pace turn := (turn % 3, turn % 2)

def failingTarget : Stream.Paced where
  reads := [.pend, .data [90, 91]]
  pace turn := (2, turn)
  shutdownError := some ⟨.brokenPipe, none⟩

def alternate (n : Nat) : Exchange.Turn := ⟨n % 2 == 0, n⟩

theorem alternateKeeps (side : Bool) : Exchange.Keeps alternate side := by
  intro n time
  cases side with
  | true => exact ⟨2 * (n + time), by omega, by simp [alternate], by simp only [alternate]; omega⟩
  | false => exact ⟨2 * (n + time) + 1, by omega, by simp [alternate, Nat.add_mod], by simp only [alternate]; omega⟩

theorem haltingForwarded :
    Unused haltingClient ∧ Unused failingTarget ∧
      ForwardsExactly haltingClient failingTarget 0 [65, 66, 67, 68] [90, 91] ∧
      ∃ n, ((Exchange.mk haltingClient failingTarget {} {}).played 1 alternate n).answer = some (.ok (4, 2)) := by
  have client : Unused haltingClient :=
    ⟨⟨by simp [haltingClient], by simp [haltingClient]⟩, rfl, List.not_mem_nil⟩
  have target : Unused failingTarget :=
    ⟨⟨by simp [failingTarget], by simp [failingTarget]⟩, rfl, List.not_mem_nil⟩
  have forwards := forwardsExactly client target 0
  obtain ⟨n, answers⟩ := (forwards.everyOrder alternate).both alternateKeeps
  exact ⟨client, target, forwards, n, answers n (Nat.le_refl n)⟩

end SharedPort.Forward
