import SharedPort.Proofs.Gateway.Orderly

/-! What fair turns bring about for a connection whose stream goes on. Its worker reads it to the end of the prefix or
of the stream, and then drops it or puts it into the queue of its route. -/
namespace SharedPort.Gateway
open SharedPort.Selector (State Routed Worker WorkerStage Waiter)
open SharedPort.Selector.State (readStage)
open SharedPort.Stream (Gather Script Scripted)

/- What a turn does towards a goal, when `d` is due and `r` says how far the goal is. -/
inductive Nears {ρ : Type} (less : ρ → ρ → Prop) (due : ρ → Duty → World → Prop) (goal : World → Prop) (t : Turn)
    (w' : World) (r : ρ) (d : Duty) : Prop where
  | reached (goal : goal w')
  | nearer {r' d'} (less : less r' r) (next : due r' d' w')
  | rest (other : t.duty ≠ some d) (still : due r d w')

theorem inevitable {ρ : Type} {less : ρ → ρ → Prop} (founded : WellFounded less) {w : World} {turns : Nat → Turn}
    (fair : Fair turns) {due : ρ → Duty → World → Prop} {goal : World → Prop}
    (nears : ∀ r d n, due r d (w.after turns n) → Nears less due goal (turns n) (w.after turns (n + 1)) r d) (r : ρ) :
    ∀ d n, due r d (w.after turns n) → ∃ m, n ≤ m ∧ goal (w.after turns m) := by
  refine Progress.reached founded fair (fun r d n here => ?_) r
  cases nears r d n here with
  | reached goal => exact .reached goal
  | nearer lower next => exact .nearer lower next
  | rest other still => exact .rest other still

structure Known (w : World) (i : Nat) (s : Scripted) (v : Worker) (now : Scripted) : Prop where
  worker : w.selector.workers[i]? = some v
  caller : w.callers[i]? = some ⟨s, now⟩

theorem knownTurn {g : Gateway} {w : World} {i : Nat} {s : Scripted} {v : Worker} {now : Scripted} (sound : Sound g w)
    (known : Known w i s v now) (t : Turn) : ∃ stage now', Known (w.turn t) i s { v with stage } now' ∧
      WorkerTurn w (w.turn t) t i v.arrival v.stage stage := by
  obtain ⟨stage, next, turn⟩ := workerTurn sound t known.worker
  rcases turn.caller with same | ⟨_, _, _, now', _, before, after⟩
  · exact ⟨stage, now, ⟨next, same.trans known.caller⟩, turn⟩
  · obtain rfl := Option.some.inj (known.caller.symm.trans before)
    exact ⟨stage, now', ⟨next, after⟩, turn⟩

/- The worker reads in time and finds room in the queue of its route. -/
structure Unhindered (w : World) (i : Nat) : Prop where
  inTime : w.selector.isOverdue i = false
  hasRoom : w.hasRoom i = true

instance (w : World) (i : Nat) : Decidable (Unhindered w i) :=
  decidable_of_iff (w.selector.isOverdue i = false ∧ w.hasRoom i = true) ⟨fun h => ⟨h.1, h.2⟩, fun h => ⟨h.1, h.2⟩⟩

def Reading (i : Nat) (s : Scripted) (r : Nat × Nat) (d : Duty) (w : World) : Prop :=
  ∃ v now missing got, Known w i s v now ∧ v.stage = .peeking missing got ∧
    r = (now.reads.weight, now.reads.due - w.selector.now) ∧
    d = if w.selector.now < now.reads.due then .pass else .read i

def Read (i : Nat) (s : Scripted) (w : World) : Prop :=
  ∃ v now, Known w i s v now ∧
    ((∃ header, v.stage = .peeked header) ∨ ∃ cause, v.stage = .settled (.peekFailed (.io cause)))

theorem passing {w : World} {t : Turn} (pass : t.duty = some .pass) :
    w.selector.now < (w.turn t).selector.now := by
  cases t with
  | advance length =>
    simp only [Turn.duty] at pass
    split at pass
    · rename_i positive
      exact Nat.lt_add_of_pos_right positive
    · cases pass
  | _ => cases pass

theorem readClock (w : World) (i : Nat) : (w.turn (.read i)).selector.now = w.selector.now := by
  rcases turnActs w (.read i) with same | ⟨e, acts, same⟩
  · rw [same]
  · cases acts with
    | @read _ attempt =>
      obtain ⟨workers, counts, frame⟩ := State.workerReadFrame w.selector i attempt
      rw [same, State.apply, frame]

theorem readDuty {t : Turn} {i : Nat} (reads : t.duty = some (.read i)) : t = .read i := by
  cases t with
  | read j => cases reads; rfl
  | advance length =>
    simp only [Turn.duty] at reads
    split at reads <;> cases reads
  | _ => cases reads

theorem routeDuty {t : Turn} {i : Nat} (routes : t.duty = some (.route i)) : t = .route i := by
  cases t with
  | route j => cases routes; rfl
  | advance length =>
    simp only [Turn.duty] at routes
    split at routes <;> cases routes
  | _ => cases routes

def lighter : Nat × Nat → Nat × Nat → Prop := Prod.Lex (· < ·) (· < ·)

theorem lighterFounded : WellFounded lighter := WellFoundedRelation.wf

theorem readingRest {g : Gateway} {w : World} {t : Turn} {i : Nat} {s now : Scripted} {v : Worker} {missing : Nat}
    {got : Bytes} {r : Nat × Nat} {d : Duty} (sound : Sound g w) (stage : v.stage = .peeking missing got)
    (next : Known (w.turn t) i s v now) (rank : r = (now.reads.weight, now.reads.due - w.selector.now))
    (duty : d = if w.selector.now < now.reads.due then .pass else .read i)
    (other : t.duty ≠ some (.read i)) : Nears lighter (Reading i s) (Read i s) t (w.turn t) r d := by
  have clock := (sparedTurn sound t).clock
  have still : Reading i s (now.reads.weight, now.reads.due - (w.turn t).selector.now) _ (w.turn t) :=
    ⟨v, now, missing, got, next, stage, rfl, rfl⟩
  by_cases early : w.selector.now < now.reads.due
  · rw [if_pos early] at duty
    by_cases sooner : now.reads.due - (w.turn t).selector.now < now.reads.due - w.selector.now
    · refine .nearer ?_ still
      rw [rank]
      exact .right _ sooner
    · have same : (w.turn t).selector.now = w.selector.now := by omega
      refine .rest (fun pass => ?_) ?_
      · have later := passing (w := w) (duty ▸ pass)
        omega
      · rw [same, if_pos early] at still
        rw [rank, duty]
        exact still
  · rw [if_neg early] at duty
    have late : ¬ (w.turn t).selector.now < now.reads.due := by omega
    refine .rest (duty ▸ other) ?_
    rw [if_neg late] at still
    have same : now.reads.due - (w.turn t).selector.now = now.reads.due - w.selector.now := by omega
    rw [same] at still
    rw [rank, duty]
    exact still

theorem readingOwn {w w' : World} {t : Turn} {i missing : Nat} {s now : Scripted} {v : Worker} {got : Bytes}
    {r : Nat × Nat} {d : Duty} (lasts : now.reads.Lasts) (hasRoom : 0 < missing)
    (next : Known w' i s { v with stage := readStage (Gather.feed missing got (now.read w.selector.now missing).1) }
      (now.read w.selector.now missing).2)
    (event : t = .read i) (clock : w'.selector.now = w.selector.now)
    (rank : r = (now.reads.weight, now.reads.due - w.selector.now))
    (duty : d = if w.selector.now < now.reads.due then .pass else .read i) :
    Nears lighter (Reading i s) (Read i s) t w' r d := by
  obtain ⟨_, move⟩ := Script.readMove w.selector.now [] [] lasts hasRoom
  change Known w' i s { v with
    stage := readStage (Gather.feed missing got (now.reads.read w.selector.now missing).1) } _ at next
  generalize stream : (now.read w.selector.now missing).2 = later at next
  have reads : (now.reads.read w.selector.now missing).2 = later.reads := congrArg Scripted.reads stream
  rw [reads] at move
  generalize (now.reads.read w.selector.now missing).1 = attempt at move next
  have reading : ∀ {missing got}, Known w' i s { v with stage := .peeking missing got } later →
      later.reads.weight < now.reads.weight → Nears lighter (Reading i s) (Read i s) t w' r d := by
    intro missing got known less
    refine .nearer ?_ ⟨_, later, missing, got, known, rfl, rfl, rfl⟩
    rw [rank]
    exact .left _ _ less
  cases move with
  | @gave bytes nonempty _ _ _ weight =>
    obtain ⟨b, bytes, rfl⟩ := List.exists_cons_of_ne_nil nonempty
    have less : later.reads.weight + (b :: bytes).length ≤ now.reads.weight := weight
    rw [List.length_cons] at less
    simp only [Gather.feed, Gather.needing] at next
    by_cases enough : missing - (b :: bytes).length = 0
    · rw [if_pos enough] at next
      exact .reached ⟨_, later, next, .inl ⟨_, rfl⟩⟩
    · rw [if_neg enough] at next
      exact reading next (by omega)
  | ended => exact .reached ⟨_, later, next, .inr ⟨_, rfl⟩⟩
  | waited _ _ _ waits =>
    cases waits with
    | lighter _ less => exact reading next less
    | blocked same early =>
      have weight : later.reads.weight = now.reads.weight := congrArg Stream.Face.weight same
      have due : later.reads.due = now.reads.due := congrArg Stream.Face.readDue same
      have early : w.selector.now < now.reads.due := early
      rw [if_pos early] at duty
      refine .rest (by rw [event, duty]; rintro ⟨⟩) ⟨_, later, missing, got, next, rfl, ?_, ?_⟩
      · rw [rank, weight, due, clock]
      · rw [duty, clock, due, if_pos early]

theorem readingTurn {g : Gateway} {w : World} {i : Nat} {s : Scripted} {r : Nat × Nat} {d : Duty}
    (orderly : Orderly g w) (lasts : s.reads.Lasts) (unhindered : Unhindered w i) (t : Turn)
    (reading : Reading i s r d w) : Nears lighter (Reading i s) (Read i s) t (w.turn t) r d := by
  obtain ⟨v, now, missing, got, known, stage, rank, duty⟩ := reading
  obtain ⟨next, now', known', turn⟩ := knownTurn orderly.sound known t
  have tended := orderly.tended i v _ known.worker known.caller lasts
  have told := tended.told
  rw [stage] at told turn
  cases turn with
  | rest other caller =>
    cases (known'.caller.symm.trans caller).trans known.caller
    exact readingRest orderly.sound rfl known' rank duty fun reads => other (readDuty reads ▸ rfl)
  | late _ _ overdue =>
    rw [unhindered.inTime] at overdue
    cases overdue
  | read event found after =>
    cases found.symm.trans known.caller
    cases known'.caller.symm.trans after
    exact readingOwn tended.lasts told.2.2 known' event (event ▸ readClock w i) rank duty

theorem readsOn {g : Gateway} {w : World} {turns : Nat → Turn} {i : Nat} {s : Scripted} (ready : Ready g)
    (orderly : Orderly g w) (fair : Fair turns) (lasts : s.reads.Lasts)
    (unhindered : ∀ n, Unhindered (w.after turns n) i) {n missing : Nat} {v : Worker} {got : Bytes} {now : Scripted}
    (known : Known (w.after turns n) i s v now) (stage : v.stage = .peeking missing got) :
    ∃ m, n ≤ m ∧ Read i s (w.after turns m) :=
  inevitable lighterFounded fair
    (fun _ _ n => readingTurn (orderlyAfter ready orderly turns n) lasts (unhindered n) (turns n)) _ _ n
    ⟨v, now, missing, got, known, stage, rfl, rfl⟩

def Sent (i : Nat) (s : Scripted) (w : World) : Prop :=
  ∃ v now, Known w i s v now ∧
    ((∃ l, ∃ routed ∈ w.selector.waiting l, routed.stream.inner = i) ∨ v.stage = .settled .unroutable)

def Routing (i : Nat) (s : Scripted) (r : Nat) (d : Duty) (w : World) : Prop :=
  ∃ v now, Known w i s v now ∧ d = .route i ∧
    ((r = 1 ∧ ∃ header, v.stage = .peeked header) ∨ (r = 0 ∧ ∃ header l, v.stage = .found header l))

theorem routingTurn {g : Gateway} {w : World} {i r : Nat} {s : Scripted} {d : Duty} (orderly : Orderly g w)
    (unhindered : Unhindered w i) (t : Turn) (routing : Routing i s r d w) :
    Nears (· < ·) (Routing i s) (Sent i s) t (w.turn t) r d := by
  obtain ⟨v, now, known, rfl, before⟩ := routing
  obtain ⟨next, now', known', turn⟩ := knownTurn orderly.sound known t
  rcases before with ⟨rfl, header, stage⟩ | ⟨rfl, header, l, stage⟩
  · rw [stage] at turn
    cases turn with
    | rest other =>
      exact .rest (fun routes => other (routeDuty routes ▸ rfl)) ⟨_, now', known', rfl, .inl ⟨rfl, header, rfl⟩⟩
    | @routed _ l => exact .nearer Nat.zero_lt_one ⟨_, now', known', rfl, .inr ⟨rfl, header, l, rfl⟩⟩
    | astray => exact .reached ⟨_, now', known', .inr rfl⟩
  · have number := orderly.sound.numbered i v known.worker
    rw [stage] at turn
    cases turn with
    | rest other =>
      exact .rest (fun routes => other (routeDuty routes ▸ rfl)) ⟨_, now', known', rfl, .inr ⟨rfl, header, l, rfl⟩⟩
    | pushed _ _ grown =>
      refine .reached ⟨_, now', known', .inl ⟨l, ⟨.ofHeader v.arrival.connection header, v.arrival.peer⟩, ?_, number⟩⟩
      rw [grown]
      exact List.mem_append_right _ (List.mem_singleton.mpr rfl)
    | refused _ _ full =>
      have hasRoom := unhindered.hasRoom
      obtain ⟨arrival, owner, deadline, _⟩ := v
      cases stage
      rw [World.hasRoom, known.worker] at hasRoom
      dsimp only at hasRoom
      rw [full] at hasRoom
      cases hasRoom
    | vanished => exact .reached ⟨_, now', known', .inr rfl⟩

theorem routesOn {g : Gateway} {w : World} {turns : Nat → Turn} {i : Nat} {s : Scripted} (ready : Ready g)
    (orderly : Orderly g w) (fair : Fair turns) (unhindered : ∀ n, Unhindered (w.after turns n) i) {n : Nat}
    {v : Worker} {header : Bytes} {now : Scripted} (known : Known (w.after turns n) i s v now)
    (stage : v.stage = .peeked header) : ∃ m, n ≤ m ∧ Sent i s (w.after turns m) :=
  inevitable WellFoundedRelation.wf fair
    (fun _ _ n => routingTurn (orderlyAfter ready orderly turns n) (unhindered n) (turns n)) 1 _ n
    ⟨v, now, known, rfl, .inl ⟨rfl, header, stage⟩⟩

end SharedPort.Gateway
