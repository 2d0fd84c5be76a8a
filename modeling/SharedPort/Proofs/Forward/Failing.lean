import SharedPort.Proofs.Forward.Attempts
import SharedPort.Proofs.Stream.Limited

/-! A forward between streams that may do anything at any attempt. Whatever it comes to, what was written is a beginning
of what was read, and a writer was shut down behind the last byte only. The first failure is the answer, and nothing is
tried behind it. -/
namespace SharedPort.Forward
open SharedPort.Stream (Attempt Deed Duplex Inlet Limited Outlet Replay Scripted Wake Watched)

inductive Records (source : Outlet) (target : Inlet) : Direction → Prop where
  | reading {total} (copied : target.taken = source.given) (count : target.taken.length = total)
      (isOpen : target.isShut = false) (well : source.faults ++ target.faults = []) :
      Records source target ⟨.reading, total⟩
  | writing {total size rest} (copied : target.taken ++ rest = source.given)
      (count : target.taken.length + rest.length = total + size) (isOpen : target.isShut = false)
      (well : source.faults ++ target.faults = []) : Records source target ⟨.writing size rest, total⟩
  | ending {total} (copied : target.taken = source.given) (count : target.taken.length = total)
      (atEnd : source.ended = true) (well : source.faults ++ target.faults = []) :
      Records source target ⟨.ending, total⟩
  | finished {total} (copied : target.taken = source.given) (count : target.taken.length = total)
      (atEnd : source.ended = true) (shut : target.isShut = true) (well : source.faults ++ target.faults = []) :
      Records source target ⟨.finished, total⟩
  | failed {total cause} (begun : target.taken <+: source.given) (isOpen : target.isShut = false)
      (fault : source.faults ++ target.faults = [cause]) : Records source target ⟨.failed cause, total⟩

namespace Records
variable {source : Outlet} {target : Inlet} {d : Direction} {total : Nat}

theorem onRead (records : Records source target ⟨.reading, total⟩) (attempt : Attempt Bytes) :
    Records (source.after (.read attempt)) target (Direction.onRead ⟨.reading, total⟩ attempt) := by
  cases records with
  | reading copied count isOpen well =>
    obtain ⟨noFault, noOther⟩ := List.append_eq_nil_iff.mp well
    cases attempt with
    | done bytes =>
      cases bytes with
      | nil =>
        refine .ending ?_ count ?_ ?_
        · simp [Outlet.after, Deed.given, copied]
        · simp [Outlet.after, Deed.isEnd]
        · simp [Outlet.after, Deed.readFault, noFault, noOther]
      | cons b bytes =>
        refine .writing ?_ (by rw [count]) isOpen ?_
        · simp [Outlet.after, Deed.given, copied]
        · simp [Outlet.after, Deed.readFault, noFault, noOther]
    | failed cause =>
      refine .failed ?_ isOpen ?_
      · simp [Outlet.after, Deed.given, copied]
      · simp [Outlet.after, Deed.readFault, noFault, noOther]
    | notReady wake =>
      refine .reading ?_ count isOpen ?_
      · simp [Outlet.after, Deed.given, copied]
      · simp [Outlet.after, Deed.readFault, noFault, noOther]

theorem onWrite {size : Nat} {rest : Bytes} (records : Records source target ⟨.writing size rest, total⟩)
    (attempt : Attempt Nat) : Records source (target.after (.write rest attempt))
      (Direction.onWrite ⟨.writing size rest, total⟩ size rest attempt) := by
  cases records with
  | writing copied count isOpen well =>
    obtain ⟨noOther, noFault⟩ := List.append_eq_nil_iff.mp well
    have begun : target.taken <+: source.given := ⟨rest, copied⟩
    have stillOpen (attempt : Attempt Nat) : (target.after (.write rest attempt)).isShut = false := by
      simp [Inlet.after, Deed.isShutdown, isOpen]
    cases attempt with
    | done n =>
      cases n with
      | zero =>
        refine .failed ?_ (stillOpen _) ?_
        · simp [Inlet.after, Deed.taken, begun]
        · simp [Inlet.after, Deed.writeFault, noFault, noOther]
      | succ n =>
        have taken : (target.after (.write rest (.done (n + 1)))).taken = target.taken ++ rest.take (n + 1) := rfl
        have whole : rest.take (n + 1) ++ rest.drop (n + 1) = rest := List.take_append_drop ..
        have none : source.faults ++ (target.after (.write rest (.done (n + 1)))).faults = [] := by
          simp [Inlet.after, Deed.writeFault, noFault, noOther]
        have length := congrArg List.length whole
        rw [List.length_append] at length
        simp only [Direction.onWrite]
        split
        · rename_i isLast
          rw [List.isEmpty_iff.mp isLast, List.append_nil] at whole
          refine .reading ?_ ?_ (stillOpen _) none
          · rw [taken, whole, copied]
          · rw [taken, whole, List.length_append, count]
        · refine .writing ?_ ?_ (stillOpen _) none
          · rw [taken, List.append_assoc, whole, copied]
          · rw [taken, List.length_append]
            omega
    | failed cause =>
      refine .failed ?_ (stillOpen _) ?_
      · simp [Inlet.after, Deed.taken, begun]
      · simp [Inlet.after, Deed.writeFault, noFault, noOther]
    | notReady wake =>
      refine .writing ?_ ?_ (stillOpen _) ?_
      · simp [Inlet.after, Deed.taken, copied]
      · simp [Inlet.after, Deed.taken, count]
      · simp [Inlet.after, Deed.writeFault, noFault, noOther]

theorem onShutdown (records : Records source target ⟨.ending, total⟩) (attempt : Attempt Unit) :
    Records source (target.after (.shutdown attempt)) (Direction.onShutdown ⟨.ending, total⟩ attempt) := by
  cases records with
  | ending copied count atEnd well =>
    have taken : (target.after (.shutdown attempt)).taken = target.taken := by simp [Inlet.after, Deed.taken]
    have shut : (target.after (.shutdown attempt)).isShut = true := by simp [Inlet.after, Deed.isShutdown]
    have faults : (target.after (.shutdown attempt)).faults = target.faults := by simp [Inlet.after, Deed.writeFault]
    cases attempt with
    | notReady wake => exact .ending (by rw [taken, copied]) (by rw [taken, count]) atEnd (by rw [faults, well])
    | done | failed =>
      exact .finished (by rw [taken, copied]) (by rw [taken, count]) atEnd shut (by rw [faults, well])

theorem begun (records : Records source target d) : target.taken <+: source.given := by
  cases records with
  | reading copied | ending copied | finished copied => exact copied ▸ List.prefix_refl _
  | writing copied => exact ⟨_, copied⟩
  | failed begun => exact begun

theorem whenShut (records : Records source target d) (shut : target.isShut = true) :
    source.ended = true ∧ target.taken = source.given := by
  cases records with
  | reading _ _ isOpen | writing _ _ isOpen | failed _ isOpen => exact (Bool.eq_false_iff.mp isOpen shut).elim
  | ending copied _ atEnd | finished copied _ atEnd => exact ⟨atEnd, copied⟩

theorem whenDone (records : Records source target d) (isDone : d.phase = .finished) :
    target.isShut = true ∧ target.taken.length = d.total := by
  cases records with
  | reading | writing | ending | failed => cases isDone
  | finished _ count _ shut => exact ⟨shut, count⟩

end Records

def Phase.fault : Phase → Option IoError
  | .failed cause => some cause
  | .reading | .writing .. | .ending | .finished => none

theorem Records.faults {source : Outlet} {target : Inlet} {d : Direction} (records : Records source target d) :
    source.faults ++ target.faults = d.phase.fault.toList := by
  cases records with
  | reading _ _ _ well | writing _ _ _ well | ending _ _ _ well => exact well
  | finished _ _ _ _ well => exact well
  | failed _ _ fault => exact fault

variable {σ τ : Type}

structure Lane.Keeps (old new : Lane (Watched σ) (Watched τ)) : Prop where
  records : Records new.source.outlet new.target.inlet new.direction
  inlet : new.source.inlet = old.source.inlet
  outlet : new.target.outlet = old.target.outlet

variable [Duplex σ] [Duplex τ]

theorem laneKeeps {lane : Lane (Watched σ) (Watched τ)} (now room : Nat)
    (records : Records lane.source.outlet lane.target.inlet lane.direction) : lane.Keeps (lane.step now room).2 := by
  obtain ⟨source, target, phase, total⟩ := lane
  dsimp only at records
  cases phase with
  | reading =>
    refine ⟨?_, source.inletRead _ _, rfl⟩
    simp only [Lane.step, Duplex.read, Watched.outletNote]
    exact records.onRead _
  | writing size rest =>
    refine ⟨?_, rfl, target.outletWrite _ _ _⟩
    simp only [Lane.step, Duplex.write, Watched.inletNote]
    exact records.onWrite _
  | ending =>
    refine ⟨?_, rfl, target.outletShutdown _ _⟩
    simp only [Lane.step, Duplex.shutdown, Watched.inletNote]
    exact records.onShutdown _
  | finished | failed => exact ⟨records, rfl, rfl⟩

namespace Exchange

def faults (x : Exchange (Watched σ) (Watched τ)) : List IoError :=
  x.client.outlet.faults ++ x.target.inlet.faults ++ (x.target.outlet.faults ++ x.client.inlet.faults)

structure Recorded (x : Exchange (Watched σ) (Watched τ)) : Prop where
  up : Records x.client.outlet x.target.inlet x.up
  down : Records x.target.outlet x.client.inlet x.down
  alone : x.Alone

theorem stepRecorded {x : Exchange (Watched σ) (Watched τ)} (side : Bool) (now room : Nat) (recorded : x.Recorded)
    (isOpen : x.answer = none) : (x.stepSide side now room).2.Recorded := by
  have alone := stepAlone side now room isOpen
  cases side with
  | true =>
    have keeps : (Lane.mk x.client x.target x.up).Keeps _ := laneKeeps now room recorded.up
    exact ⟨keeps.records, keeps.inlet ▸ keeps.outlet ▸ recorded.down, alone⟩
  | false =>
    have keeps : (Lane.mk x.target x.client x.down).Keeps _ := laneKeeps now room recorded.down
    exact ⟨keeps.inlet ▸ keeps.outlet ▸ recorded.up, keeps.records, alone⟩

theorem Tries.recorded {room : Nat} {x y : Exchange (Watched σ) (Watched τ)} {turns : List Turn}
    (tries : Tries room x turns y) (recorded : x.Recorded) : y.Recorded := by
  induction tries with
  | none => exact recorded
  | one isOpen _ ih => exact ih (stepRecorded _ _ room recorded isOpen)

structure Clean (x : Exchange (Watched σ) (Watched τ)) : Prop where
  sent : x.target.inlet.taken <+: x.client.outlet.given
  answered : x.client.inlet.taken <+: x.target.outlet.given
  targetShut : x.target.inlet.isShut = true →
    x.client.outlet.ended = true ∧ x.target.inlet.taken = x.client.outlet.given
  clientShut : x.client.inlet.isShut = true →
    x.target.outlet.ended = true ∧ x.client.inlet.taken = x.target.outlet.given
  once : x.faults.length ≤ 1
  fails : ∀ cause, x.answer = some (.error cause) ↔ cause ∈ x.faults
  succeeds : ∀ up down, x.answer = some (.ok (up, down)) →
    x.target.inlet.isShut = true ∧ x.client.inlet.isShut = true ∧ x.target.inlet.taken.length = up ∧
      x.client.inlet.taken.length = down

omit [Duplex σ] [Duplex τ] in
theorem Recorded.clean {x : Exchange (Watched σ) (Watched τ)} (recorded : x.Recorded) : x.Clean := by
  obtain ⟨up, down, alone⟩ := recorded
  have faults : x.faults = x.up.phase.fault.toList ++ x.down.phase.fault.toList := by
    rw [Exchange.faults, up.faults, down.faults]
  have upAlone (cause : IoError) (fails : x.up.phase = .failed cause) (other : IoError) :
      x.down.phase ≠ .failed other := alone true cause fails other
  refine ⟨up.begun, down.begun, up.whenShut, down.whenShut, ?_, fun cause => ?_, fun sent answered result => ?_⟩
  · rw [faults]
    cases first : x.up.phase with
    | failed cause =>
      cases second : x.down.phase with
      | failed other => exact (upAlone cause first other second).elim
      | reading | writing | ending | finished => simp [Phase.fault]
    | reading | writing | ending | finished => cases x.down.phase <;> simp [Phase.fault]
  · rw [faults]
    unfold answer
    cases first : x.up.phase with
    | failed cause =>
      cases second : x.down.phase with
      | failed other => exact (upAlone cause first other second).elim
      | reading | writing | ending | finished => simp [Phase.fault, eq_comm]
    | reading | writing | ending | finished => cases x.down.phase <;> simp [Phase.fault, eq_comm]
  · unfold answer at result
    split at result
    · cases result
    · cases result
    · rename_i upDone downDone
      cases result
      obtain ⟨targetShut, upCount⟩ := up.whenDone upDone
      obtain ⟨clientShut, downCount⟩ := down.whenDone downDone
      exact ⟨targetShut, clientShut, upCount, downCount⟩
    · cases result

def bare (x : Exchange (Watched σ) (Watched τ)) : Exchange σ τ := ⟨x.client.inner, x.target.inner, x.up, x.down⟩

theorem stepBare (side : Bool) (now room : Nat) (x : Exchange (Watched σ) (Watched τ)) :
    (x.stepSide side now room).2.bare = (x.bare.stepSide side now room).2 := by
  obtain ⟨client, target, ⟨upPhase, upTotal⟩, ⟨downPhase, downTotal⟩⟩ := x
  cases side with
  | true => cases upPhase <;> rfl
  | false => cases downPhase <;> rfl

theorem Tries.watched {room : Nat} {x y : Exchange σ τ} {turns : List Turn} (tries : Tries room x turns y)
    {w : Exchange (Watched σ) (Watched τ)} (same : w.bare = x) : ∃ v, Tries room w turns v ∧ v.bare = y := by
  induction tries generalizing w with
  | none => exact ⟨w, .none, same⟩
  | @one x y t turns isOpen _ ih =>
    subst same
    obtain ⟨v, rest, last⟩ := ih (stepBare t.side t.now room w)
    exact ⟨v, .one isOpen rest, last⟩

def watch (client : σ) (target : τ) : Exchange (Watched σ) (Watched τ) := ⟨⟨client, []⟩, ⟨target, []⟩, {}, {}⟩

omit [Duplex σ] [Duplex τ] in
theorem watchRecorded (client : σ) (target : τ) : (watch client target).Recorded :=
  ⟨.reading rfl rfl rfl rfl, .reading rfl rfl rfl rfl, fun side _ fails => by cases side <;> cases fails⟩

theorem Outcome.failedIff (outcome : Outcome) (cause : IoError) :
    outcome.answer = some (.error cause) ↔ outcome = .failed cause := by
  cases outcome <;> simp [Outcome.answer]

theorem roundsSettled {x : Exchange σ τ} {limit room steps fuel more : Nat} {upFirst : Bool} {now : Nat}
    (later : fuel ≤ more) (settled : (rounds limit room steps fuel upFirst now x).2 ≠ .unfinished) :
    rounds limit room steps more upFirst now x = rounds limit room steps fuel upFirst now x := by
  induction fuel generalizing more upFirst now x with
  | zero => exact (settled rfl).elim
  | succ fuel ih =>
    obtain ⟨more, rfl⟩ := Nat.exists_eq_add_of_le' (Nat.one_le_of_lt later)
    simp only [rounds] at settled ⊢
    generalize x.round upFirst now room steps = round at settled ⊢
    obtain ⟨y, p, q⟩ := round
    dsimp only at settled ⊢
    cases result : verdict p q with
    | error cause => rfl
    | ok wake =>
      cases wake with
      | none => rfl
      | some wake =>
        simp only [result] at settled ⊢
        cases next : Stream.nextTry (some limit) now wake with
        | error stop => rfl
        | ok time =>
          simp only [next] at settled ⊢
          exact ih (Nat.le_of_succ_le_succ later) settled

/- A failure that some of the rounds reach ends the run, and no other does. -/
theorem runFailed [Limited σ] [Limited τ] {client : σ} {target : τ} {limit fuel bufferSize : Nat}
    (enough : 3 * (Limited.supply client + Limited.supply target) + 4 < fuel) (cause : IoError) :
    (run limit fuel bufferSize client target).2 = .failed cause ↔ ∃ made side, made ≤ fuel ∧
      (rounds limit (Direction.roomFor bufferSize) fuel made true 0 ⟨client, target, {}, {}⟩).1.phase side =
        .failed cause := by
  have start : (Exchange.mk client target {} {}).answer = none := rfl
  have tried (made : Nat) : ∃ turns y outcome,
      rounds limit (Direction.roomFor bufferSize) fuel made true 0 ⟨client, target, {}, {}⟩ = (y, outcome) ∧
        Tries (Direction.roomFor bufferSize) ⟨client, target, {}, {}⟩ turns y ∧ y.answer = outcome.answer :=
    roundsTry limit made true 0 start enough
  constructor
  · intro failed
    obtain ⟨turns, y, outcome, run, _, answers⟩ := tried fuel
    obtain rfl : outcome = .failed cause := (congrArg Prod.snd run).symm.trans failed
    obtain ⟨side, fails⟩ := failedSide answers
    exact ⟨fuel, side, Nat.le_refl _, (congrArg (·.1.phase side) run).trans fails⟩
  · rintro ⟨made, side, most, fails⟩
    obtain ⟨turns, y, outcome, run, tries, answers⟩ := tried made
    rw [run] at fails
    rw [answerFailed fails (tries.alone (openAlone start) side cause fails)] at answers
    obtain rfl := (outcome.failedIff cause).mp answers.symm
    have same := roundsSettled most (by rw [run]; exact Outcome.noConfusion)
    exact congrArg Prod.snd (same.trans run)

end Exchange

/- A forward never corrupts what it carries, and tells of a failure. Under the clock, with enough steps for what the
streams can give, it makes such attempts and no other: none of them behind its answer. -/
structure FailsCleanly (client : σ) (target : τ) (bufferSize : Nat) : Prop where
  everyOrder : ∀ turns x,
    Exchange.Tries (Direction.roomFor bufferSize) (Exchange.watch client target) turns x → x.Clean
  underClock : ∀ [Limited σ] [Limited τ] (limit fuel : Nat),
    3 * (Limited.supply client + Limited.supply target) + 4 < fuel → ∃ turns x outcome,
      Exchange.run limit fuel bufferSize client target = (x.bare, outcome) ∧
        Exchange.Tries (Direction.roomFor bufferSize) (Exchange.watch client target) turns x ∧
        x.answer = outcome.answer ∧ x.Clean ∧ ∀ cause, outcome = .failed cause ↔ cause ∈ x.faults

theorem failsCleanly (client : σ) (target : τ) (bufferSize : Nat) : FailsCleanly client target bufferSize := by
  have clean {turns x} (tries : Exchange.Tries (Direction.roomFor bufferSize) (Exchange.watch client target) turns x) :
      x.Clean := (tries.recorded (Exchange.watchRecorded client target)).clean
  refine ⟨fun _ _ => clean, fun limit fuel enough => ?_⟩
  obtain ⟨turns, y, outcome, run, tries, answers⟩ := Exchange.roundsTry limit fuel true 0
    (x := ⟨client, target, {}, {}⟩) rfl enough
  obtain ⟨x, watched, rfl⟩ := tries.watched (w := Exchange.watch client target) rfl
  have answers : x.answer = outcome.answer := answers
  refine ⟨turns, x, outcome, run, watched, answers, clean watched, fun cause => ?_⟩
  rw [← (clean watched).fails, answers, outcome.failedIff]

def frailTarget : Scripted where
  reads := [.data [9]]
  sink := { plan := { atMost := some 1, failAfter := some (3, ⟨.brokenPipe, none⟩) } }

/- What was read of the second chunk is lost with the failure; the end of the target's own bytes was passed on before. -/
example : let run := Exchange.run 100 40 2 (Scripted.mk [.pend, .data [1, 2, 3, 4, 5]] {}) frailTarget
    run.2 = .failed ⟨.brokenPipe, none⟩ ∧ run.1.target.sink.written = [1, 2, 3] ∧ run.1.client.sink.written = [9] ∧
      run.1.client.sink.calls = [.shutdown, .write 1] ∧ .shutdown ∉ run.1.target.sink.calls := by
  decide

end SharedPort.Forward
