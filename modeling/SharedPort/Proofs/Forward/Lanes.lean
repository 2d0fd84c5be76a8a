import SharedPort.Forward.Exchange
import SharedPort.Proofs.Stream.Steady

/-! One direction of an exchange between steady streams. A step moves bytes from the source through the direction to the
target, in order, and makes the direction lighter unless it has to wait for a due time. -/
namespace SharedPort.Forward
open SharedPort.Stream (Attempt Duplex Face Steady Wake Waits ReadMove WriteMove ShutMove)

def Phase.weight : Phase → Nat
  | .reading => 2
  | .writing _ rest => rest.length + 2
  | .ending => 1
  | .finished | .failed _ => 0

/- How far a direction has copied `whole`: what was written, what it holds, what the source has yet to give.
The writer is shut down once, behind the last byte. -/
inductive Copying (whole : Bytes) (source target : Face) : Direction → Prop where
  | reading {total} (order : target.written ++ source.rest = whole) (count : target.written.length = total)
      (isOpen : .shutdown ∉ target.calls) : Copying whole source target ⟨.reading, total⟩
  | writing {total size rest} (order : target.written ++ (rest ++ source.rest) = whole) (nonempty : rest ≠ [])
      (count : target.written.length + rest.length = total + size) (isOpen : .shutdown ∉ target.calls) :
      Copying whole source target ⟨.writing size rest, total⟩
  | ending {total} (order : target.written = whole) (drained : source.rest = []) (count : target.written.length = total)
      (isOpen : .shutdown ∉ target.calls) : Copying whole source target ⟨.ending, total⟩
  | finished {total earlier} (order : target.written = whole) (drained : source.rest = [])
      (count : target.written.length = total) (calls : target.calls = .shutdown :: earlier)
      (once : .shutdown ∉ earlier) : Copying whole source target ⟨.finished, total⟩

theorem Copying.congr {whole : Bytes} {source target source' target' : Face} {d : Direction}
    (copying : Copying whole source target d) (rest : source'.rest = source.rest)
    (written : target'.written = target.written) (calls : target'.calls = target.calls) :
    Copying whole source' target' d := by
  cases copying with
  | reading order count isOpen =>
    exact .reading (by rw [written, rest, order]) (by rw [written, count]) (by rw [calls]; exact isOpen)
  | writing order nonempty count isOpen =>
    exact .writing (by rw [written, rest, order]) nonempty (by rw [written, count]) (by rw [calls]; exact isOpen)
  | ending order drained count isOpen =>
    exact .ending (by rw [written, order]) (by rw [rest, drained]) (by rw [written, count]) (by rw [calls]; exact isOpen)
  | finished order drained count shut once =>
    exact .finished (by rw [written, order]) (by rw [rest, drained]) (by rw [written, count]) (by rw [calls, shut]) once

theorem Copying.done {whole : Bytes} {source target : Face} {d : Direction} (copying : Copying whole source target d)
    (isDone : d.phase = .finished) : target.written = whole ∧ d.total = whole.length ∧
      ∃ earlier, target.calls = .shutdown :: earlier ∧ .shutdown ∉ earlier := by
  cases copying with
  | reading | writing | ending => cases isDone
  | finished order _ count calls once => exact ⟨order, by rw [← count, order], _, calls, once⟩

section Attempts
variable {whole : Bytes} {source target next : Face} {total : Nat}

theorem Copying.gave {bytes : Bytes} (copying : Copying whole source target ⟨.reading, total⟩) (nonempty : bytes ≠ [])
    (rest : source.rest = bytes ++ next.rest) :
    Copying whole next target (Direction.onRead ⟨.reading, total⟩ (.done bytes)) := by
  obtain ⟨b, bytes, rfl⟩ := List.exists_cons_of_ne_nil nonempty
  cases copying with
  | reading order count isOpen => exact .writing (by rw [← rest, order]) nonempty (by rw [count]) isOpen

theorem Copying.atEnd (copying : Copying whole source target ⟨.reading, total⟩) (rest : source.rest = [])
    (left : next.rest = []) : Copying whole next target (Direction.onRead ⟨.reading, total⟩ (.done [])) := by
  cases copying with
  | reading order count isOpen => exact .ending (by rw [← order, rest, List.append_nil]) left count isOpen

theorem Copying.took {size n : Nat} {rest : Bytes} {call : Stream.Call}
    (copying : Copying whole source target ⟨.writing size rest, total⟩) (positive : 0 < n) (fits : n ≤ rest.length)
    (written : next.written = target.written ++ rest.take n) (calls : next.calls = call :: target.calls)
    (kind : call ≠ .shutdown) :
    Copying whole source next (Direction.onWrite ⟨.writing size rest, total⟩ size rest (.done n)) := by
  obtain ⟨n, rfl⟩ : ∃ m, n = m + 1 := ⟨n - 1, by omega⟩
  cases copying with
  | writing order nonempty count isOpen =>
    have stillOpen : .shutdown ∉ next.calls := by simp [calls, kind.symm, isOpen]
    by_cases whole : rest.drop (n + 1) = []
    · have copied : rest.take (n + 1) = rest := by simpa [whole] using List.take_append_drop (n + 1) rest
      simp only [Direction.onWrite, whole, List.isEmpty_nil, if_true]
      refine .reading ?_ ?_ stillOpen
      · rw [written, copied, List.append_assoc, order]
      · rw [written, copied, List.length_append, count]
    · have more : (rest.drop (n + 1)).isEmpty = false := List.isEmpty_eq_false_iff.mpr whole
      simp only [Direction.onWrite, more, Bool.false_eq_true, if_false]
      refine .writing ?_ whole ?_ stillOpen
      · rw [written, List.append_assoc, ← List.append_assoc (rest.take (n + 1)), List.take_append_drop, order]
      · have length := congrArg List.length (List.take_append_drop (n + 1) rest)
        rw [List.length_append] at length
        rw [written, List.length_append]
        omega

theorem Copying.shut {attempt : Attempt Unit} (copying : Copying whole source target ⟨.ending, total⟩)
    (ready : ∀ wake, attempt ≠ .notReady wake) (written : next.written = target.written)
    (calls : next.calls = .shutdown :: target.calls) :
    Copying whole source next (Direction.onShutdown ⟨.ending, total⟩ attempt) := by
  cases copying with
  | ending order drained count isOpen =>
    cases attempt with
    | notReady wake => exact (ready wake rfl).elim
    | done | failed => exact .finished (by rw [written, order]) drained (by rw [written, count]) calls isOpen

end Attempts

theorem onWriteLighter (d : Direction) (size : Nat) {n : Nat} {rest : Bytes} (positive : 0 < n) (fits : n ≤ rest.length) :
    (d.onWrite size rest (.done n)).phase.weight < rest.length + 2 := by
  obtain ⟨n, rfl⟩ : ∃ m, n = m + 1 := ⟨n - 1, by omega⟩
  simp only [Direction.onWrite]
  split
  · simp only [Phase.weight]
    omega
  · simp only [Phase.weight, List.length_drop]
    omega

theorem onShutdownReady (d : Direction) {attempt : Attempt Unit} (ready : ∀ wake, attempt ≠ .notReady wake) :
    wakeOf attempt = none ∧ (d.onShutdown attempt).phase = .finished := by
  cases attempt with
  | notReady wake => exact (ready wake rfl).elim
  | done | failed => simp [wakeOf, Direction.onShutdown]

variable {σ τ : Type} [Duplex σ] [Duplex τ]

theorem laneRunStep {lane next : Lane σ τ} {now room fuel : Nat} {wake : Option Wake}
    (unfinished : lane.direction.phase ≠ .finished) (well : ∀ cause, lane.direction.phase ≠ .failed cause)
    (step : lane.step now room = (wake, next)) :
    lane.run now room (fuel + 1) = (wake.map fun w => (next, Progress.waiting w)).getD (next.run now room fuel) := by
  cases phase : lane.direction.phase with
  | finished => exact (unfinished phase).elim
  | failed cause => exact (well cause phase).elim
  | reading | writing | ending => cases wake <;> simp only [Lane.run, phase, step] <;> rfl

variable [Steady σ] [Steady τ]

def Lane.weight (lane : Lane σ τ) : Nat :=
  2 * ((Steady.face lane.source).weight + (Steady.face lane.target).weight) + lane.direction.phase.weight

def Lane.due (lane : Lane σ τ) : Nat :=
  match lane.direction.phase with
  | .reading => (Steady.face lane.source).readDue
  | _ => (Steady.face lane.target).writeDue

structure Lane.Fine (whole : Bytes) (lane : Lane σ τ) : Prop where
  source : Steady.ok lane.source
  target : Steady.ok lane.target
  copying : Copying whole (Steady.face lane.source) (Steady.face lane.target) lane.direction

/- What a direction leaves alone: the writing side of its source and the reading side of its target. -/
structure Lane.Leaves (old new : Lane σ τ) : Prop where
  written : (Steady.face new.source).written = (Steady.face old.source).written
  calls : (Steady.face new.source).calls = (Steady.face old.source).calls
  rest : (Steady.face new.target).rest = (Steady.face old.target).rest

theorem Lane.Leaves.refl (lane : Lane σ τ) : lane.Leaves lane := ⟨rfl, rfl, rfl⟩

theorem Lane.Leaves.trans {a b c : Lane σ τ} (first : a.Leaves b) (second : b.Leaves c) : a.Leaves c :=
  ⟨second.written.trans first.written, second.calls.trans first.calls, second.rest.trans first.rest⟩

structure Lane.Same (old new : Lane σ τ) : Prop where
  source : Steady.face new.source = Steady.face old.source
  target : Steady.face new.target = Steady.face old.target
  direction : new.direction = old.direction

inductive LaneMove (now : Nat) (old new : Lane σ τ) : Option Wake → Prop where
  | moved {wake} (finite : wake ≠ some .never) (less : new.weight < old.weight) : LaneMove now old new wake
  | blocked (same : old.Same new) (early : now < old.due) : LaneMove now old new (some (.at old.due))

theorem laneStep {whole : Bytes} {lane : Lane σ τ} (now : Nat) {room : Nat} (fine : lane.Fine whole) (hasRoom : 0 < room)
    (unfinished : lane.direction.phase ≠ .finished) :
    (lane.step now room).2.Fine whole ∧ lane.Leaves (lane.step now room).2 ∧
      LaneMove now lane (lane.step now room).2 (lane.step now room).1 := by
  obtain ⟨source, target, direction⟩ := lane
  obtain ⟨sourceFine, targetFine, copying⟩ := fine
  dsimp only at sourceFine targetFine copying unfinished
  cases kind : copying with
  | finished => exact (unfinished rfl).elim
  | reading =>
    obtain ⟨still, move⟩ := Steady.read now sourceFine hasRoom
    simp only [Lane.step]
    generalize (Duplex.read now room source).1 = attempt at move ⊢
    generalize (Duplex.read now room source).2 = next at still move ⊢
    cases move with
    | gave nonempty rest written calls weight =>
      refine ⟨⟨still, targetFine, copying.gave nonempty rest⟩, ⟨written, calls, rfl⟩, .moved (by simp [wakeOf]) ?_⟩
      obtain ⟨b, bytes, rfl⟩ := List.exists_cons_of_ne_nil nonempty
      simp only [Lane.weight, Direction.onRead, Phase.weight]
      simp only [List.length_cons] at weight ⊢
      omega
    | ended rest left written calls weight =>
      refine ⟨⟨still, targetFine, copying.atEnd rest left⟩, ⟨written, calls, rfl⟩, .moved (by simp [wakeOf]) ?_⟩
      simp only [Lane.weight, Direction.onRead, Phase.weight]
      omega
    | waited rest written calls waits =>
      refine ⟨⟨still, targetFine, copying.congr rest rfl rfl⟩, ⟨written, calls, rfl⟩, ?_⟩
      cases waits with
      | lighter finite less =>
        refine .moved (fun h => finite (Option.some.inj h)) ?_
        simp only [Lane.weight, Direction.onRead]
        omega
      | blocked same early => exact .blocked ⟨same, rfl, rfl⟩ early
  | @writing total size rest _ nonempty =>
    obtain ⟨still, move⟩ := Steady.write now targetFine nonempty
    simp only [Lane.step]
    generalize (Duplex.write now rest target).1 = attempt at move ⊢
    generalize (Duplex.write now rest target).2 = next at still move ⊢
    cases move with
    | took positive fits left written calls other weight =>
      refine ⟨⟨sourceFine, still, copying.took positive fits written calls other⟩, ⟨rfl, rfl, left⟩,
        .moved (by simp [wakeOf]) ?_⟩
      have lighter := onWriteLighter ⟨.writing size rest, total⟩ size positive fits
      simp only [Lane.weight, Phase.weight] at lighter ⊢
      omega
    | waited left written calls waits =>
      refine ⟨⟨sourceFine, still, copying.congr rfl written calls⟩, ⟨rfl, rfl, left⟩, ?_⟩
      cases waits with
      | lighter finite less =>
        refine .moved (fun h => finite (Option.some.inj h)) ?_
        simp only [Lane.weight, Direction.onWrite]
        omega
      | blocked same early => exact .blocked ⟨rfl, same, rfl⟩ early
  | @ending total =>
    obtain ⟨still, move⟩ := Steady.shutdown now targetFine
    simp only [Lane.step]
    generalize (Duplex.shutdown now target).1 = attempt at move ⊢
    generalize (Duplex.shutdown now target).2 = next at still move ⊢
    cases move with
    | shut ready left written calls weight =>
      obtain ⟨soon, isDone⟩ := onShutdownReady ⟨.ending, total⟩ ready
      refine ⟨⟨sourceFine, still, copying.shut ready written calls⟩, ⟨rfl, rfl, left⟩, .moved (by simp [soon]) ?_⟩
      simp only [Lane.weight, isDone, Phase.weight]
      omega
    | waited left written calls waits =>
      refine ⟨⟨sourceFine, still, copying.congr rfl written calls⟩, ⟨rfl, rfl, left⟩, ?_⟩
      cases waits with
      | lighter finite less =>
        refine .moved (fun h => finite (Option.some.inj h)) ?_
        simp only [Lane.weight, Direction.onShutdown]
        omega
      | blocked same early => exact .blocked ⟨rfl, same, rfl⟩ early

inductive RunMove (now : Nat) (old new : Lane σ τ) : Progress → Prop where
  | finished (isDone : new.direction.phase = .finished) (still : new = old ∨ new.weight < old.weight) :
      RunMove now old new .finished
  | waiting {wake} (finite : wake ≠ .never) (less : new.weight < old.weight) : RunMove now old new (.waiting wake)
  | blocked (unfinished : old.direction.phase ≠ .finished) (same : old.Same new) (early : now < old.due) :
      RunMove now old new (.waiting (.at old.due))

theorem Lane.Same.weight {old new : Lane σ τ} (same : old.Same new) : new.weight = old.weight := by
  unfold Lane.weight
  rw [same.source, same.target, same.direction]

theorem Lane.Fine.notFailed {whole : Bytes} {lane : Lane σ τ} (fine : lane.Fine whole) (cause : IoError) :
    lane.direction.phase ≠ .failed cause := by
  obtain ⟨source, target, direction⟩ := lane
  obtain ⟨_, _, copying⟩ := fine
  cases copying <;> exact fun h => by cases h

theorem laneRun {whole : Bytes} {lane : Lane σ τ} (now : Nat) {room fuel : Nat} (fine : lane.Fine whole)
    (hasRoom : 0 < room) (enough : lane.weight < fuel) :
    (lane.run now room fuel).1.Fine whole ∧ lane.Leaves (lane.run now room fuel).1 ∧
      RunMove now lane (lane.run now room fuel).1 (lane.run now room fuel).2 := by
  induction fuel generalizing lane with
  | zero => omega
  | succ fuel ih =>
    by_cases isDone : lane.direction.phase = .finished
    · have run : lane.run now room (fuel + 1) = (lane, .finished) := by simp only [Lane.run, isDone]
      rw [run]
      exact ⟨fine, .refl lane, .finished isDone (.inl rfl)⟩
    · obtain ⟨nextFine, leaves, move⟩ := laneStep now fine hasRoom isDone
      obtain ⟨wake, next, step⟩ : ∃ wake next, lane.step now room = (wake, next) := ⟨_, _, rfl⟩
      rw [step] at nextFine leaves move
      rw [laneRunStep isDone fine.notFailed step]
      dsimp only at nextFine leaves move
      cases move with
      | blocked same early => exact ⟨nextFine, leaves, .blocked isDone same early⟩
      | moved finite less =>
        cases wake with
        | some wake => exact ⟨nextFine, leaves, .waiting (fun h => finite (congrArg some h)) less⟩
        | none =>
          obtain ⟨stillFine, later, rest⟩ := ih nextFine (by omega)
          refine ⟨stillFine, leaves.trans later, ?_⟩
          change RunMove now lane (next.run now room fuel).1 (next.run now room fuel).2
          generalize next.run now room fuel = result at rest ⊢
          obtain ⟨final, progress⟩ := result
          cases rest with
          | finished isDone still =>
            refine .finished isDone (.inr ?_)
            rcases still with same | lighter
            · rw [same]
              exact less
            · omega
          | waiting finite lighter => exact .waiting finite (by omega)
          | blocked _ same => exact .waiting (fun h => by cases h) (by rw [same.weight]; exact less)

end SharedPort.Forward
