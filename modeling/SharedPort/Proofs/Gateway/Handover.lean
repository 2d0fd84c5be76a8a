import SharedPort.Proofs.Gateway.Progress

/-! What fair turns bring about for a connection in the queue of a route. Its loop comes to it in turn, however often it
drops its accept call to see to forwards that ended, and has it forwarded. -/
namespace SharedPort.Gateway
open SharedPort.Selector (State Routed Waiter)
open SharedPort.Selector.State (WaiterMove)

/- How far the loop is from its next look into the queue, and then from its next call. -/
def distance : Option Waiter → Nat
  | none => 6
  | some .begun => 5
  | some .entering => 4
  | some (.looking _) => 3
  | some (.sleeping .waiting) => 6
  | some (.sleeping _) => 5
  | some (.leaving ..) => 8
  | some (.returned _) => 7

def inHand : Option Waiter → Nat
  | some (.leaving ..) | some (.returned _) => 1
  | _ => 0

/- Each of these may cost the loop an accept call. -/
def unjoined (v : Serving) : Nat := v.loop.forwards.countP (·.stage ≠ .joined)

def rank (k : Nat) (v : Serving) (x : Option Waiter) : Nat := 10 * (2 * k + unjoined v + inHand x) + distance x

theorem countModify {α : Type} {p : α → Bool} {f : α → α} (same : ∀ x, p (f x) = p x) (xs : List α) (j : Nat) :
    (xs.modify j f).countP p = xs.countP p := by
  induction xs generalizing j with
  | nil => rw [List.modify_nil]
  | cons x xs ih =>
    cases j with
    | zero => rw [List.modify_zero_cons, List.countP_cons, List.countP_cons, same]
    | succ j => rw [List.modify_succ_cons, List.countP_cons, List.countP_cons, ih]

theorem countLose {α : Type} {p : α → Bool} {f : α → α} {x : α} {xs : List α} {j : Nat} (found : xs[j]? = some x)
    (before : p x = true) (after : p (f x) = false) : (xs.modify j f).countP p + 1 = xs.countP p := by
  induction xs generalizing j with
  | nil => cases found
  | cons y xs ih =>
    cases j with
    | zero =>
      cases found
      rw [List.modify_zero_cons, List.countP_cons, List.countP_cons, before, after]
      rfl
    | succ j =>
      have rest := ih found
      rw [List.modify_succ_cons, List.countP_cons, List.countP_cons]
      omega

theorem unjoinedAccepted {v v' : Serving} {routed : Routed} (serving : v.loop.stage = .serving)
    (same : v'.loop = v.loop.accepted routed) : unjoined v' = unjoined v + 1 := by
  rw [unjoined, same, RouteLoop.accepted, if_pos serving, List.countP_append]
  rfl

theorem unjoinedEnded (v : Serving) (j : Nat) : unjoined { v with loop := v.loop.forwardEnded j } = unjoined v := by
  refine countModify (fun f => ?_) _ j
  split
  · rename_i running
    rw [running]
    rfl
  · rfl

theorem unjoinedJoin {v v' : Serving} {j : Nat} (isDone : (v.loop.forwards[j]?).any (·.stage = .ended) = true)
    (same : v'.loop = v.loop.join j) : unjoined v' + 1 = unjoined v := by
  cases found : v.loop.forwards[j]? with
  | none =>
    rw [found] at isDone
    cases isDone
  | some f =>
    have ended : f.stage = .ended := by simpa [found] using isDone
    rw [unjoined, same]
    exact countLose found (by rw [ended]; rfl) (by rw [if_pos ended]; rfl)

/- The duty that moves the loop on: its own, unless it sleeps and has to be woken. -/
inductive Moves (w : World) (l : Nat) : Option Waiter → Duty → Prop where
  | ring {i} (rings : Rings w l i) : Moves w l (some (.sleeping .waiting)) (.route i)
  | own {x} (awake : x ≠ some (.sleeping .waiting)) : Moves w l x (loopDuty l x)

def Queued (l : Nat) (routed : Routed) (r : Nat) (d : Duty) (w : World) : Prop :=
  ∃ v x k, w.loops[l]? = some v ∧ w.selector.WaiterAt l v.waiting x ∧ (w.selector.waiting l)[k]? = some routed ∧
    r = rank k v x ∧ Moves w l x d

def Held (l : Nat) (routed : Routed) (w : World) : Prop :=
  ∃ v x, w.loops[l]? = some v ∧ w.selector.WaiterAt l v.waiting (some x) ∧ x.result = some routed

theorem someMoves {w : World} {l k : Nat} {v : Serving} {x : Option Waiter} {routed : Routed} (heard : Heard w)
    (loop : w.loops[l]? = some v) (waiter : w.selector.WaiterAt l v.waiting x)
    (place : (w.selector.waiting l)[k]? = some routed) : ∃ d, Moves w l x d := by
  by_cases asleep : x = some (.sleeping .waiting)
  · subst x
    rcases heard l v loop waiter with empty | ⟨i, rings⟩
    · rw [empty] at place
      cases place
    · exact ⟨_, .ring rings⟩
  · exact ⟨_, .own asleep⟩

theorem looksLater (x : Option Waiter) : 3 ≤ distance x := by
  cases x with
  | none => exact Nat.le_add_left 3 3
  | some x =>
    cases x with
    | begun | entering | looking | leaving | returned => simp only [distance]; omega
    | sleeping ticket => cases ticket <;> (simp only [distance]; omega)

theorem wokenDistance {ticket : Listener.Ticket} (awake : ticket ≠ .waiting) :
    distance (some (.sleeping ticket)) = 5 := by
  cases ticket with
  | waiting => exact (awake rfl).elim
  | woken | wokenWithAll | through => rfl

theorem rungSame {l : Nat} {x : Option Waiter} (awake : x ≠ some (.sleeping .waiting)) :
    distance (x.map Waiter.ring) = distance x ∧ inHand (x.map Waiter.ring) = inHand x ∧
      loopDuty l (x.map Waiter.ring) = loopDuty l x ∧ x.map Waiter.ring ≠ some (.sleeping .waiting) := by
  cases x with
  | none => exact ⟨rfl, rfl, rfl, nofun⟩
  | some x =>
    cases x with
    | begun | entering | returned => exact ⟨rfl, rfl, rfl, nofun⟩
    | looking ticket | leaving _ ticket => cases ticket <;> exact ⟨rfl, rfl, rfl, nofun⟩
    | sleeping ticket =>
      cases ticket with
      | waiting => exact (awake rfl).elim
      | woken | wokenWithAll | through => exact ⟨rfl, rfl, rfl, nofun⟩

section
variable {g : Gateway} {w : World} {t : Turn} {l k : Nat} {routed : Routed} {v v' : Serving} {x y : Option Waiter}
  {d : Duty} {first : Routed} {ticket : Listener.Ticket}

theorem asideNears (sound : Sound g w) (loop' : (w.turn t).loops[l]? = some v') (waiting : v'.waiting = v.waiting)
    (count : unjoined v' = unjoined v) (waiter : w.selector.WaiterAt l v.waiting x)
    (waiter' : (w.turn t).selector.WaiterAt l v'.waiting x) (place : ((w.turn t).selector.waiting l)[k]? = some routed)
    (moves : Moves w l x d) (other : x ≠ some (.sleeping .waiting) → t.duty ≠ some (loopDuty l x)) :
    Nears (· < ·) (Queued l routed) (Held l routed) t (w.turn t) (rank k v x) d := by
  have same : rank k v x = rank k v' x := by rw [rank, rank, count]
  cases moves with
  | own awake => exact .rest (other awake) ⟨v', x, k, loop', waiter', place, same, .own awake⟩
  | @ring i rings =>
    by_cases event : t = .route i
    · subst t
      obtain ⟨u, worker, stage⟩ := rings
      rw [waiting] at waiter'
      cases (rungLoop worker stage waiter).unique waiter'
    · rcases ringsTurn sound rings t with still | own
      · exact .rest (fun routes => event (routeDuty routes)) ⟨v', _, k, loop', waiter', place, same, .ring still⟩
      · exact (event own).elim

theorem aheadNears (sound : Sound g w) (serving : v.loop.stage = .serving) (waiter : w.selector.WaiterAt l v.waiting x)
    (loop' : (w.turn t).loops[l]? = some v') (waiter' : (w.turn t).selector.WaiterAt l v'.waiting y)
    (full : w.selector.waiting l ≠ [])
    (untaken : ∀ first, w.selector.waiting l ≠ first :: (w.turn t).selector.waiting l)
    (place : ((w.turn t).selector.waiting l)[k]? = some routed) (heard : Heard (w.turn t)) (moves : Moves w l x d)
    (turn : LoopTurn w (w.turn t) t l v v' x y) :
    Nears (· < ·) (Queued l routed) (Held l routed) t (w.turn t) (rank k v x) d := by
  have nearer : rank k v' y < rank k v x →
      Nears (· < ·) (Queued l routed) (Held l routed) t (w.turn t) (rank k v x) d := by
    intro less
    obtain ⟨d', moves'⟩ := someMoves heard loop' waiter' place
    exact .nearer less ⟨v', y, k, loop', waiter', place, rfl, moves'⟩
  cases turn with
  | rest other same =>
    exact asideNears sound loop' (by rw [same]) (by rw [same]) waiter waiter' place moves fun _ => other
  | noted event same =>
    refine asideNears sound loop' (by rw [same]) (by rw [same, unjoinedEnded]) waiter waiter' place moves fun _ => ?_
    rw [event]
    exact nofun
  | rung event worker stage same =>
    subst v'
    by_cases asleep : x = some (.sleeping .waiting)
    · subst x
      exact nearer (Nat.add_lt_add_left (by decide) _)
    · obtain ⟨far, hand, duty, awake⟩ := @rungSame l x asleep
      cases moves with
      | ring => exact (asleep rfl).elim
      | own =>
        refine .rest ?_ ⟨v, _, k, loop', waiter', place, by rw [rank, rank, far, hand], duty ▸ .own awake⟩
        rw [event]
        exact otherDuty (.route _) l x fun _ => ⟨nofun, nofun, nofun⟩
  | listened _ _ same =>
    refine nearer ?_
    simp only [rank, unjoined, same, inHand, distance]
    omega
  | taken _ _ same =>
    have count := unjoinedAccepted serving same
    refine nearer ?_
    simp only [rank, count, inHand, distance]
    omega
  | joined _ _ same isDone =>
    have count := unjoinedJoin isDone same
    refine nearer ?_
    have more := looksLater x
    simp only [rank, inHand, distance]
    omega
  | stepped event same move =>
    subst v'
    cases move with
    | entered before =>
      refine nearer ?_
      rcases before with rfl | rfl <;> (simp only [rank, inHand, distance]; omega)
    | popped waits => exact (untaken _ waits).elim
    | slept drained => exact (full drained).elim
    | woken awake =>
      refine nearer (Nat.add_lt_add_left ?_ _)
      rw [wokenDistance awake]
      exact Nat.lt_succ_self 4
    | sleeps => exact asideNears sound loop' rfl rfl waiter waiter' place moves fun awake => (awake rfl).elim
    | left =>
      refine nearer ?_
      simp only [rank, inHand, distance]
      omega
    | stays =>
      refine asideNears sound loop' rfl rfl waiter waiter' place moves fun _ => ?_
      rw [event]
      exact nofun

theorem popNears (waiter : w.selector.WaiterAt l v.waiting (some (.looking ticket)))
    (loop' : (w.turn t).loops[l]? = some v') (waiter' : (w.turn t).selector.WaiterAt l v'.waiting y)
    (event : t = .accept l) (waits : w.selector.waiting l = first :: (w.turn t).selector.waiting l)
    (place : (w.selector.waiting l)[k]? = some routed) (heard : Heard (w.turn t))
    (turn : LoopTurn w (w.turn t) t l v v' (some (.looking ticket)) y) :
    Nears (· < ·) (Queued l routed) (Held l routed) t (w.turn t) (rank k v (some (.looking ticket))) d := by
  have took : v' = v ∧ y = some (.leaving first ticket) := by
    cases turn with
    | rest other => exact (other (by rw [event]; rfl)).elim
    | rung again | noted again | joined again => rw [event] at again; cases again
    | stepped _ same move =>
      cases move with
      | entered before => rcases before with before | before <;> cases before
      | popped also =>
        rw [waits] at also
        exact ⟨same, by rw [(List.cons.inj also).1]⟩
      | slept drained =>
        rw [waits] at drained
        cases drained
  obtain ⟨rfl, rfl⟩ := took
  rw [waits] at place
  cases k with
  | zero =>
    obtain rfl := Option.some.inj place
    exact .reached ⟨v', _, loop', waiter', rfl⟩
  | succ k =>
    obtain ⟨d', moves'⟩ := someMoves heard loop' waiter' place
    refine .nearer ?_ ⟨v', _, k, loop', waiter', place, rfl, moves'⟩
    simp only [rank, inHand, distance]
    omega

theorem queuedTurn {r : Nat} (orderly : Orderly g w) (t : Turn) (queued : Queued l routed r d w) :
    Nears (· < ·) (Queued l routed) (Held l routed) t (w.turn t) r d := by
  obtain ⟨v, x, k, loop, waiter, place, rfl, moves⟩ := queued
  have serving := (orderly.sound.loops l v loop).serving
  have heard := heardTurn orderly.sound orderly.heard t
  obtain ⟨v', y, loop', waiter', turn⟩ := loopTurn orderly.sound t loop waiter
  have full : w.selector.waiting l ≠ [] := by
    intro empty
    rw [empty] at place
    cases place
  cases queueTurn orderly.sound t l with
  | popped event again looks waits =>
    cases loop.symm.trans again
    cases waiter.unique looks
    exact popNears looks loop' waiter' event waits place heard turn
  | still same =>
    refine aheadNears orderly.sound serving waiter loop' waiter' full (fun first waits => ?_) (same ▸ place) heard
      moves turn
    have count := congrArg List.length waits
    rw [same, List.length_cons] at count
    omega
  | pushed _ _ _ _ grown =>
    have inside := (List.getElem?_eq_some_iff.mp place).1
    refine aheadNears orderly.sound serving waiter loop' waiter' full (fun first waits => ?_)
      (by rw [grown, List.getElem?_append_left inside, place]) heard moves turn
    have count := congrArg List.length waits
    rw [grown, List.length_cons, List.length_append] at count
    omega

def Holding (l : Nat) (routed : Routed) (r : Nat) (d : Duty) (w : World) : Prop :=
  ∃ v x, w.loops[l]? = some v ∧ w.selector.WaiterAt l v.waiting (some x) ∧ x.result = some routed ∧
    r = distance (some x) ∧ d = loopDuty l (some x)

def Forwarded (l : Nat) (routed : Routed) (w : World) : Prop :=
  ∃ v, w.loops[l]? = some v ∧ routed ∈ connections v

theorem holdingTurn {r : Nat} (sound : Sound g w) (t : Turn) (holding : Holding l routed r d w) :
    Nears (· < ·) (Holding l routed) (Forwarded l routed) t (w.turn t) r d := by
  obtain ⟨v, x, loop, waiter, result, rfl, rfl⟩ := holding
  have serving := (sound.loops l v loop).serving
  obtain ⟨v', y, loop', waiter', turn⟩ := loopTurn sound t loop waiter
  cases turn with
  | rest other same =>
    subst v'
    exact .rest other ⟨v, x, loop', waiter', result, rfl, rfl⟩
  | noted event => exact .rest (by rw [event]; exact nofun) ⟨v', x, loop', waiter', result, rfl, rfl⟩
  | rung event =>
    have awake : some x ≠ some (.sleeping .waiting) := by
      intro asleep
      cases asleep
      cases result
    obtain ⟨far, _, duty, _⟩ := @rungSame l _ awake
    refine .rest ?_ ⟨v', x.ring, loop', waiter', (resultRing x).trans result, far.symm, duty.symm⟩
    rw [event]
    exact otherDuty (.route _) l (some x) fun _ => ⟨nofun, nofun, nofun⟩
  | joined _ _ _ _ rests => rcases rests with rests | rests | ⟨_, rests⟩ <;> cases rests <;> cases result
  | stepped event _ move =>
    cases move with
    | entered before => rcases before with rfl | rfl <;> cases result
    | popped | slept | woken | sleeps => cases result
    | left => exact .nearer (Nat.lt_succ_self 7) ⟨v', _, loop', waiter', result, rfl, rfl⟩
    | stays => exact .rest (by rw [event]; exact nofun) ⟨v', _, loop', waiter', result, rfl, rfl⟩
  | taken _ _ same =>
    obtain rfl := Option.some.inj result
    refine .reached ⟨v', loop', ?_⟩
    rw [connections, same, RouteLoop.accepted, if_pos serving, List.map_append]
    exact List.mem_append_right _ (List.mem_singleton.mpr rfl)

end

theorem handsOver {g : Gateway} {w : World} {turns : Nat → Turn} {l n : Nat} {routed : Routed} (ready : Ready g)
    (orderly : Orderly g w) (fair : Fair turns) (served : l < (w.after turns n).loops.length)
    (queued : routed ∈ (w.after turns n).selector.waiting l) :
    ∃ m, n ≤ m ∧ Forwarded l routed (w.after turns m) := by
  have always := orderlyAfter ready orderly turns
  obtain ⟨v, loop⟩ : ∃ v, (w.after turns n).loops[l]? = some v := ⟨_, List.getElem?_eq_getElem served⟩
  obtain ⟨_, _, _, x, waiter⟩ := (always n).sound.loops l v loop
  obtain ⟨k, place⟩ := List.getElem?_of_mem queued
  obtain ⟨d, moves⟩ := someMoves (always n).heard loop waiter place
  obtain ⟨m, later, v', x', loop', waiter', result⟩ := inevitable WellFoundedRelation.wf fair
    (fun _ _ n => queuedTurn (always n) (turns n)) _ d n ⟨v, x, k, loop, waiter, place, rfl, moves⟩
  obtain ⟨m', latest, forwarded⟩ := inevitable WellFoundedRelation.wf fair
    (fun _ _ n => holdingTurn (always n).sound (turns n)) _ _ m ⟨v', x', loop', waiter', result, rfl, rfl⟩
  exact ⟨m', Nat.le_trans later latest, forwarded⟩

end SharedPort.Gateway
