import SharedPort.Forward.Connection
import SharedPort.Proofs.Forward.Lanes

/-! An exchange between steady streams copies both ways and comes to its end. In every second round at least one
direction becomes lighter, so there is a time after which no limit of the clock matters. -/
namespace SharedPort.Forward
open SharedPort.Stream (Duplex Face Steady Wake)

variable {σ τ : Type} [Duplex σ] [Duplex τ] [Steady σ] [Steady τ]

namespace Exchange

structure Fine (up down : Bytes) (x : Exchange σ τ) : Prop where
  client : Steady.ok x.client
  target : Steady.ok x.target
  sent : Copying up (Steady.face x.client) (Steady.face x.target) x.up
  answered : Copying down (Steady.face x.target) (Steady.face x.client) x.down

def weight (x : Exchange σ τ) : Nat :=
  2 * ((Steady.face x.client).weight + (Steady.face x.target).weight) + x.up.phase.weight + x.down.phase.weight

def phase (x : Exchange σ τ) : Bool → Phase
  | true => x.up.phase
  | false => x.down.phase

def due (x : Exchange σ τ) : Bool → Nat
  | true => (Lane.mk x.client x.target x.up).due
  | false => (Lane.mk x.target x.client x.down).due

structure Same (x y : Exchange σ τ) : Prop where
  client : Steady.face y.client = Steady.face x.client
  target : Steady.face y.target = Steady.face x.target
  up : y.up = x.up
  down : y.down = x.down

theorem Same.weight {x y : Exchange σ τ} (same : x.Same y) : y.weight = x.weight := by
  unfold Exchange.weight
  rw [same.client, same.target, same.up, same.down]

theorem Same.phase {x y : Exchange σ τ} (same : x.Same y) (side : Bool) : y.phase side = x.phase side := by
  cases side with
  | true => exact congrArg Direction.phase same.up
  | false => exact congrArg Direction.phase same.down

theorem Same.due {x y : Exchange σ τ} (same : x.Same y) (side : Bool) : y.due side = x.due side := by
  cases side <;> simp only [Exchange.due, Lane.due, same.client, same.target, same.up, same.down]

theorem Same.trans {x y z : Exchange σ τ} (first : x.Same y) (second : y.Same z) : x.Same z :=
  ⟨second.client.trans first.client, second.target.trans first.target, second.up.trans first.up,
    second.down.trans first.down⟩

def runSide (side : Bool) (now room fuel : Nat) (x : Exchange σ τ) : Exchange σ τ × Progress :=
  if side then x.runUp now room fuel else x.runDown now room fuel

inductive SideMove (side : Bool) (now : Nat) (x y : Exchange σ τ) : Progress → Prop where
  | finished (isDone : y.phase side = .finished) (still : y = x ∨ y.weight < x.weight) : SideMove side now x y .finished
  | waiting {wake} (finite : wake ≠ .never) (less : y.weight < x.weight) : SideMove side now x y (.waiting wake)
  | blocked (unfinished : x.phase side ≠ .finished) (same : x.Same y) (early : now < x.due side) :
      SideMove side now x y (.waiting (.at (x.due side)))

theorem sideMove {up down : Bytes} {x : Exchange σ τ} (now : Nat) {room fuel : Nat} (side : Bool) (fine : x.Fine up down)
    (hasRoom : 0 < room) (enough : x.weight < fuel) :
    (x.runSide side now room fuel).1.Fine up down ∧ (x.runSide side now room fuel).1.phase (!side) = x.phase (!side) ∧
      SideMove side now x (x.runSide side now room fuel).1 (x.runSide side now room fuel).2 := by
  obtain ⟨client, target, sent, answered⟩ := fine
  unfold weight at enough
  cases side with
  | true =>
    have lighter : (Lane.mk x.client x.target x.up).weight < fuel := by
      unfold Lane.weight
      dsimp only
      omega
    obtain ⟨laneFine, leaves, move⟩ := laneRun now ⟨client, target, sent⟩ hasRoom lighter
    simp only [runSide, if_true, runUp]
    generalize (Lane.mk x.client x.target x.up).run now room fuel = result at laneFine leaves move ⊢
    obtain ⟨⟨client', target', up'⟩, progress⟩ := result
    refine ⟨⟨laneFine.source, laneFine.target, laneFine.copying, ?_⟩, rfl, ?_⟩
    · exact answered.congr leaves.rest leaves.written leaves.calls
    · cases move with
      | finished isDone still =>
        refine .finished isDone (still.imp (fun same => ?_) fun less => ?_)
        · cases same
          rfl
        · simp only [Lane.weight, weight] at less ⊢
          omega
      | waiting finite less =>
        refine .waiting finite ?_
        simp only [Lane.weight, weight] at less ⊢
        omega
      | blocked unfinished same early => exact .blocked unfinished ⟨same.source, same.target, same.direction, rfl⟩ early
  | false =>
    have lighter : (Lane.mk x.target x.client x.down).weight < fuel := by
      unfold Lane.weight
      dsimp only
      omega
    obtain ⟨laneFine, leaves, move⟩ := laneRun now ⟨target, client, answered⟩ hasRoom lighter
    simp only [runSide, Bool.false_eq_true, if_false, runDown]
    generalize (Lane.mk x.target x.client x.down).run now room fuel = result at laneFine leaves move ⊢
    obtain ⟨⟨target', client', down'⟩, progress⟩ := result
    refine ⟨⟨laneFine.target, laneFine.source, ?_, laneFine.copying⟩, rfl, ?_⟩
    · exact sent.congr leaves.rest leaves.written leaves.calls
    · cases move with
      | finished isDone still =>
        refine .finished isDone (still.imp (fun same => ?_) fun less => ?_)
        · cases same
          rfl
        · simp only [Lane.weight, weight] at less ⊢
          omega
      | waiting finite less =>
        refine .waiting finite ?_
        simp only [Lane.weight, weight] at less ⊢
        omega
      | blocked unfinished same early => exact .blocked unfinished ⟨same.target, same.source, rfl, same.direction⟩ early

theorem SideMove.weight {side : Bool} {now : Nat} {x y : Exchange σ τ} {progress : Progress}
    (move : SideMove side now x y progress) : y.weight ≤ x.weight := by
  cases move with
  | finished _ still =>
    rcases still with same | less
    · exact Nat.le_of_eq (congrArg Exchange.weight same)
    · omega
  | waiting _ less => omega
  | blocked _ same => exact Nat.le_of_eq same.weight

/- A round that neither ends nor lightens the exchange has to wait for the first due time. -/
inductive RoundMove (now : Nat) (x y : Exchange σ τ) : Except IoError (Option Wake) → Prop where
  | finished (up : y.up.phase = .finished) (down : y.down.phase = .finished) : RoundMove now x y (.ok none)
  | lighter {wake} (finite : wake ≠ .never) (less : y.weight < x.weight) : RoundMove now x y (.ok (some wake))
  | blocked {time} (same : x.Same y) (early : now < time) (due : ∃ side, x.phase side ≠ .finished ∧ x.due side = time)
      (dues : ∀ side, x.phase side ≠ .finished → time ≤ x.due side) : RoundMove now x y (.ok (some (.at time)))

theorem earlierFinite {v w : Wake} (first : v ≠ .never) (second : w ≠ .never) : earlier v w ≠ .never := by
  cases v with
  | never => exact (first rfl).elim
  | soon => exact fun h => by cases h
  | «at» s =>
    cases w with
    | never => exact (second rfl).elim
    | soon | «at» t => exact fun h => by cases h

theorem bothSides {P : Bool → Prop} (side : Bool) (first : P side) (second : P (!side)) : ∀ b, P b := by
  intro b
  cases side <;> cases b <;> assumption

theorem verdictMove {side : Bool} {now : Nat} {x y z : Exchange σ τ} {p q : Progress} (first : SideMove side now x y p)
    (second : SideMove (!side) now y z q) (kept : z.phase side = y.phase side) : RoundMove now x z (verdict p q) := by
  cases first with
  | finished isDone still =>
    cases second with
    | finished also =>
      have done := bothSides (P := fun b => z.phase b = .finished) side (kept.trans isDone) also
      exact .finished (done true) (done false)
    | waiting finite less =>
      refine .lighter finite ?_
      rcases still with rfl | lighter <;> omega
    | blocked unfinished same early =>
      rcases still with rfl | less
      · refine .blocked same early ⟨_, unfinished, rfl⟩
          (bothSides side (fun isOpen => (isOpen isDone).elim) fun _ => Nat.le_refl _)
      · exact .lighter (fun h => by cases h) (by rw [same.weight]; exact less)
  | waiting finite less =>
    have lighter := second.weight
    cases second with
    | finished => exact .lighter finite (by omega)
    | waiting also => exact .lighter (earlierFinite finite also) (by omega)
    | blocked => exact .lighter (earlierFinite finite fun h => by cases h) (by omega)
  | blocked unfinished same early =>
    have weight := same.weight
    cases second with
    | finished isDone still =>
      rcases still with rfl | less
      · refine .blocked same early ⟨side, unfinished, rfl⟩ (bothSides side (fun _ => Nat.le_refl _) fun isOpen => ?_)
        exact (isOpen ((same.phase _).symm.trans isDone)).elim
      · exact .lighter (fun h => by cases h) (by omega)
    | waiting finite less => exact .lighter (earlierFinite (fun h => by cases h) finite) (by omega)
    | blocked isOpen also soon =>
      rw [same.phase] at isOpen
      rw [same.due] at soon ⊢
      refine .blocked (same.trans also) (Nat.lt_min.mpr ⟨early, soon⟩) ?_ ?_
      · rcases Nat.le_total (x.due side) (x.due (!side)) with le | le
        · exact ⟨side, unfinished, (Nat.min_eq_left le).symm⟩
        · exact ⟨!side, isOpen, (Nat.min_eq_right le).symm⟩
      · exact bothSides side (fun _ => Nat.min_le_left _ _) fun _ => Nat.min_le_right _ _

omit [Steady σ] [Steady τ] in
theorem roundRun {x y z : Exchange σ τ} {p q : Progress} {now room fuel : Nat} {upFirst : Bool}
    (well : ∀ cause, p ≠ .failed cause) (first : x.runSide upFirst now room fuel = (y, p))
    (second : y.runSide (!upFirst) now room fuel = (z, q)) : x.round upFirst now room fuel = (z, p, q) := by
  cases p with
  | failed cause => exact (well cause rfl).elim
  | waiting | finished =>
    cases upFirst with
    | true =>
      change x.runUp now room fuel = _ at first
      change y.runDown now room fuel = _ at second
      simp only [round, if_true, first, second]
    | false =>
      change x.runDown now room fuel = _ at first
      change y.runUp now room fuel = _ at second
      simp only [round, Bool.false_eq_true, if_false, first, second]

theorem roundMove {up down : Bytes} {x : Exchange σ τ} (now : Nat) {room fuel : Nat} (upFirst : Bool)
    (fine : x.Fine up down) (hasRoom : 0 < room) (enough : x.weight < fuel) :
    ∃ y p q, x.round upFirst now room fuel = (y, p, q) ∧ y.Fine up down ∧ RoundMove now x y (verdict p q) := by
  obtain ⟨y, p, run⟩ : ∃ y p, x.runSide upFirst now room fuel = (y, p) := ⟨_, _, rfl⟩
  obtain ⟨midFine, _, first⟩ := sideMove now upFirst fine hasRoom enough
  rw [run] at midFine first
  have less : y.weight ≤ x.weight := first.weight
  obtain ⟨z, q, again⟩ : ∃ z q, y.runSide (!upFirst) now room fuel = (z, q) := ⟨_, _, rfl⟩
  obtain ⟨fine, kept, second⟩ := sideMove now (!upFirst) midFine hasRoom (by omega : y.weight < fuel)
  rw [again] at fine kept second
  rw [Bool.not_not] at kept
  have well : ∀ cause, p ≠ .failed cause := by
    intro cause failed
    rw [failed] at first
    cases first
  exact ⟨z, p, q, roundRun well run again, fine, verdictMove first second kept⟩

/- Both directions are done: each side was written what the other one had to give, and then shut down. -/
structure Done (up down : Bytes) (x : Exchange σ τ) : Prop where
  fine : x.Fine up down
  up : x.up.phase = .finished
  down : x.down.phase = .finished

def Ends (up down : Bytes) (room steps : Nat) (upFirst : Bool) (now : Nat) (x : Exchange σ τ) (n : Nat) : Prop :=
  ∃ deadline, ∀ limit, deadline < limit → ∀ fuel, n ≤ fuel → ∃ y,
    rounds limit room steps fuel upFirst now x = (y, .finished up.length down.length) ∧ y.Done up down

theorem nextTryFinite {wake : Wake} (finite : wake ≠ .never) (now : Nat) :
    ∃ time, (∀ t, wake = .at t → time = t) ∧
      ∀ limit, max now time < limit → Stream.nextTry (some limit) now wake = .ok time := by
  cases wake with
  | never => exact (finite rfl).elim
  | soon =>
    refine ⟨now, (fun t h => by cases h), fun limit later => ?_⟩
    have isOpen : ¬ limit ≤ now := by omega
    simp only [Stream.nextTry, if_neg isOpen]
  | «at» time =>
    refine ⟨time, fun t h => by cases h; rfl, fun limit later => ?_⟩
    have isOpen : ¬ (limit ≤ now ∨ limit < time) := by omega
    simp only [Stream.nextTry, if_neg isOpen]

theorem endsLater {up down : Bytes} {room steps now : Nat} {upFirst : Bool} {x y : Exchange σ τ} {p q : Progress}
    {wake : Wake} {n : Nat} (round : x.round upFirst now room steps = (y, p, q)) (more : verdict p q = .ok (some wake))
    (finite : wake ≠ .never)
    (rest : ∀ time, (∀ t, wake = .at t → time = t) → Ends up down room steps (!upFirst) (max now time) y n) :
    Ends up down room steps upFirst now x (n + 1) := by
  obtain ⟨time, isTime, next⟩ := nextTryFinite finite now
  obtain ⟨deadline, ends⟩ := rest time isTime
  refine ⟨max deadline (max now time), fun limit later fuel enough => ?_⟩
  obtain ⟨fuel, rfl⟩ : ∃ m, fuel = m + 1 := ⟨fuel - 1, by omega⟩
  obtain ⟨z, result, done⟩ := ends limit (by omega) fuel (by omega)
  refine ⟨z, ?_, done⟩
  rw [← result]
  simp only [rounds, round, more, next limit (by omega)]

theorem endsNow {up down : Bytes} {room steps now : Nat} {upFirst : Bool} {x y : Exchange σ τ} {p q : Progress}
    (round : x.round upFirst now room steps = (y, p, q)) (isDone : verdict p q = .ok none) (done : y.Done up down) :
    Ends up down room steps upFirst now x 1 := by
  refine ⟨0, fun limit _ fuel enough => ?_⟩
  obtain ⟨fuel, rfl⟩ : ∃ m, fuel = m + 1 := ⟨fuel - 1, by omega⟩
  obtain ⟨_, sent, _⟩ := Copying.done done.fine.sent done.up
  obtain ⟨_, answered, _⟩ := Copying.done done.fine.answered done.down
  refine ⟨y, ?_, done⟩
  simp only [rounds, round, isDone, sent, answered]

theorem Ends.weaken {up down : Bytes} {room steps now : Nat} {upFirst : Bool} {x : Exchange σ τ} {m n : Nat}
    (ends : Ends up down room steps upFirst now x m) (more : m ≤ n) : Ends up down room steps upFirst now x n := by
  obtain ⟨deadline, all⟩ := ends
  exact ⟨deadline, fun limit later fuel enough => all limit later fuel (Nat.le_trans more enough)⟩

theorem ends {up down : Bytes} {room steps : Nat} (hasRoom : 0 < room) (n : Nat) {x : Exchange σ τ} (now : Nat)
    (upFirst : Bool) (fine : x.Fine up down) (bound : x.weight ≤ n) (enough : x.weight < steps) :
    Ends up down room steps upFirst now x (2 * n + 2) := by
  induction n using Nat.strongRecOn generalizing x now upFirst with
  | ind n ih =>
    have lightened : ∀ {y z : Exchange σ τ} {p q : Progress} {wake : Wake} (now : Nat) (upFirst : Bool), z.Fine up down →
        y.weight ≤ n → y.weight < steps → z.weight < y.weight → y.round upFirst now room steps = (z, p, q) →
        verdict p q = .ok (some wake) → wake ≠ .never → Ends up down room steps upFirst now y (2 * n + 1) := by
      intro y z p q wake now upFirst fine bound enough less run more finite
      refine (endsLater run more finite fun time _ => ?_).weaken (by omega : 2 * (n - 1) + 2 + 1 ≤ 2 * n + 1)
      exact ih (n - 1) (by omega) _ _ fine (by omega) (by omega)
    obtain ⟨y, p, q, run, after, move⟩ := roundMove now upFirst fine hasRoom enough
    generalize result : verdict p q = v at move
    cases move with
    | finished upDone downDone =>
      exact (endsNow run result ⟨after, upDone, downDone⟩).weaken (by omega)
    | lighter finite less => exact (lightened now upFirst after bound enough less run result finite).weaken (by omega)
    | @blocked time same early due dues =>
      refine endsLater run result (fun h => by cases h) fun t isTime => ?_
      obtain rfl : t = time := isTime time rfl
      obtain ⟨z, p', q', again, afterwards, move⟩ := roundMove (max now t) (!upFirst) after hasRoom (same.weight ▸ enough)
      generalize result' : verdict p' q' = v at move
      cases move with
      | finished upDone downDone =>
        exact (endsNow again result' ⟨afterwards, upDone, downDone⟩).weaken (by omega)
      | lighter finite less =>
        exact lightened _ _ afterwards (same.weight ▸ bound) (same.weight ▸ enough) less again result' finite
      | blocked _ early' _ dues' =>
        obtain ⟨side, unfinished, isDue⟩ := due
        have later := dues' side (by rw [same.phase]; exact unfinished)
        rw [same.due, isDue] at later
        omega

end Exchange

structure Fresh (s : σ) : Prop where
  ok : Steady.ok s
  written : (Steady.face s).written = []
  isOpen : .shutdown ∉ (Steady.face s).calls

def Ended (s : σ) (bytes : Bytes) : Prop :=
  (Steady.face s).written = bytes ∧ ∃ earlier, (Steady.face s).calls = .shutdown :: earlier ∧ .shutdown ∉ earlier

theorem Fresh.copying {source : σ} {target : τ} (fresh : Fresh target) :
    Copying (Steady.face source).rest (Steady.face source) (Steady.face target) {} :=
  .reading (by rw [fresh.written, List.nil_append]) (by rw [fresh.written, List.length_nil]) fresh.isOpen

theorem connectionCopies {client : σ} {backend : τ} (o : Options) (target : String) {dial : String → Dialled τ}
    (dials : dial target = .connected backend) (caller : Fresh client) (fresh : Fresh backend) :
    ∃ enough, ∀ fuel, enough ≤ fuel → ∃ deadline, ∀ limit, deadline < limit → ∃ x : Exchange σ τ,
      connection dial limit fuel o target client = .exchanged x
        (.finished (Steady.face client).rest.length (Steady.face backend).rest.length) ∧
      Ended x.target (Steady.face client).rest ∧ Ended x.client (Steady.face backend).rest := by
  have fine : (Exchange.mk client backend {} {}).Fine (Steady.face client).rest (Steady.face backend).rest :=
    ⟨caller.ok, fresh.ok, fresh.copying, caller.copying⟩
  refine ⟨2 * (Exchange.mk client backend {} {}).weight + 2, fun fuel enough => ?_⟩
  have hasRoom := Direction.roomForPositive o.bufferSize
  obtain ⟨deadline, all⟩ :=
    Exchange.ends hasRoom _ 0 true fine (Nat.le_refl _) (by omega : Exchange.weight _ < fuel)
  refine ⟨deadline, fun limit later => ?_⟩
  obtain ⟨x, run, done⟩ := all limit later fuel enough
  obtain ⟨sent, _, sentShut⟩ := done.fine.sent.done done.up
  obtain ⟨answered, _, answerShut⟩ := done.fine.answered.done done.down
  refine ⟨x, ?_, ⟨sent, sentShut⟩, answered, answerShut⟩
  simp only [connection, dials, Exchange.run, run]

end SharedPort.Forward
