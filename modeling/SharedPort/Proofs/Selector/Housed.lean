import SharedPort.Proofs.Selector.Blocks
import SharedPort.Proofs.Selector.Returning

/-! Where a listener is that nobody unregisters: in the registry, until a close has taken it over and shuts it. -/
namespace SharedPort.Selector.State

/- A listener that is registered, or shut, or on the list of a close. -/
inductive Housed (s : State) (l : Nat) : Prop where
  | registered (member : l ∈ s.registry.listeners)
  | listed {stage} (closes : s.Closes stage) (member : l ∈ stage.left)
  | shut (shut : s.isShut l = true)

def TakenOut (s₀ : State) (events : List Event) (l : Nat) : Prop :=
  ∃ before e after, events = before ++ e :: after ∧ ((∃ key, e = .unregister key) ∨ e = .unregisterDefault) ∧
    l ∈ (s₀.run before).registry.listeners ∧ l ∉ ((s₀.run before).apply e).registry.listeners

theorem TakenOut.later {s₀ : State} {events : List Event} {l : Nat} (taken : TakenOut s₀ events l) (e : Event) :
    TakenOut s₀ (events ++ [e]) l := by
  obtain ⟨before, first, after, rfl, rest⟩ := taken
  exact ⟨before, first, after ++ [e], by simp, rest⟩

section Steps
variable {s t : State} {l : Nat}

/- A close that goes on keeps its list, and takes the registry over as a whole. -/
theorem advanceHouses {stage : CloseStage} (present : l < s.listeners.length)
    (housed : l ∈ s.registry.listeners ∨ l ∈ stage.left) : (s.closeAdvance stage).2.isShut l = true ∨
      l ∈ (s.closeAdvance stage).2.registry.listeners ∨ l ∈ (s.closeAdvance stage).1.left := by
  cases stage with
  | swapping | taking =>
    unfold closeAdvance
    dsimp only
    split <;> exact .inr (.inl (housed.resolve_right List.not_mem_nil))
  | signalling | closingSource | returned => exact .inr (.inl (housed.resolve_right List.not_mem_nil))
  | draining => exact .inr (.inr (housed.resolve_right List.not_mem_nil))
  | ringing k left => exact .inr housed
  | closing left =>
    cases left with
    | nil => exact .inr housed
    | cons k left =>
      obtain ⟨registry, _⟩ := closeQueueRegistry s k
      have next : l ∈ left → l ∈ (if (s.closeQueue k).1 then CloseStage.ringing k left else .closing left).left := by
        intro member
        split <;> exact member
      rcases housed with member | member
      · exact .inr (.inl (registry ▸ member))
      · rcases List.mem_cons.mp member with rfl | later
        · exact .inl ((shutCloseQueue s l l).mpr (.inr ⟨rfl, present⟩))
        · exact .inr (.inr (next later))

theorem listedMove (move : CloserMove s t) (present : l < s.listeners.length) {stage : CloseStage}
    (closes : s.Closes stage) (member : l ∈ stage.left) : Housed t l := by
  cases move with
  | aside stages | registered _ _ stages | unregistered stages | shutOne stages | rangOne stages =>
    exact .listed ((stages stage).mpr closes) member
  | began stages => exact .listed ((stages stage).mpr (.inr closes)) member
  | ended _ _ stays =>
    rcases stays stage closes with rfl | still
    · cases member
    · exact .listed still member
  | advanced moves _ beside =>
    rcases moves.stays stage closes with rfl | still
    · rcases advanceHouses present (.inr member) with shut | registered | listed
      · exact .shut ((shutSame beside.listeners l).trans shut)
      · exact .registered (beside.registry ▸ registered)
      · exact .listed moves.has listed
    · exact .listed still member

theorem registeredMove (move : CloserMove s t) (each : t.listenerCloses = s.listenerCloses)
    (present : l < s.listeners.length) (member : l ∈ s.registry.listeners) : Housed t l := by
  cases move with
  | aside _ _ _ registry => exact .registered (registry ▸ member)
  | registered _ _ _ _ _ registry => exact .registered (registry l member)
  | unregistered _ longer =>
    have same := congrArg List.length (longer.symm.trans each)
    simp at same
  | began _ _ beside | ended _ _ _ _ beside | rangOne _ _ beside => exact .registered (beside.registry ▸ member)
  | @shutOne k _ _ _ beside => exact .registered (beside.registry.trans (closeQueueRegistry s k).1 ▸ member)
  | advanced moves _ beside =>
    rcases advanceHouses present (.inl member) with shut | registered | listed
    · exact .shut ((shutSame beside.listeners l).trans shut)
    · exact .registered (beside.registry ▸ registered)
    · exact .listed moves.has listed

theorem callerEach (move : CallerMove s t) : t.listenerCloses = s.listenerCloses := by
  cases move <;> assumption

end Steps

theorem registerKeeps (s : State) (key : Bytes) {l : Nat} (member : l ∈ s.registry.listeners) :
    l ∈ (s.register key).2.registry.listeners := by
  rw [registerAnswers]
  split
  · exact member
  · split
    · exact member
    · split
      · exact member
      · simp only [Registry.listeners, List.mem_append, List.map_append] at member ⊢
        exact member.imp_left .inl

theorem registerDefaultKeeps (s : State) {l : Nat} (member : l ∈ s.registry.listeners) :
    l ∈ s.registerDefault.2.registry.listeners := by
  rw [registerDefaultAnswers]
  split
  · exact member
  · split
    · exact member
    · rename_i free
      simp only [Option.isSome_iff_ne_none, ne_eq, not_not] at free
      simp only [Registry.listeners, free, Option.toList_none, List.append_nil] at member
      exact List.mem_append_left _ member

theorem housedApply {s : State} {l : Nat} (housed : Housed s l) (present : l < s.listeners.length) (e : Event) :
    Housed (s.apply e) l ∨ ((∃ key, e = .unregister key) ∨ e = .unregisterDefault) ∧ l ∈ s.registry.listeners ∧
      l ∉ (s.apply e).registry.listeners := by
  cases housed with
  | shut shut => exact .inl (.shut ((change s e).kept.shut shut))
  | listed closes member => exact .inl (listedMove (closerMove s e) present closes member)
  | registered member =>
    by_cases stays : l ∈ (s.apply e).registry.listeners
    · exact .inl (.registered stays)
    · cases closing : e.isClosing with
      | true =>
        refine .inl (registeredMove (closerMove s e) ?_ present member)
        cases e with
        | closeStep i => exact callerEach (callerCloseStep s i)
        | serveStep i => exact callerEach (callerServeStep s i)
        | _ => cases closing
      | false =>
        have registry := (untouched (s := s) closing).registry
        cases e with
        | register key => exact absurd (registerKeeps s key member) stays
        | registerDefault => exact absurd (registerDefaultKeeps s member) stays
        | unregister key => exact .inr ⟨.inl ⟨key, rfl⟩, member, stays⟩
        | unregisterDefault => exact .inr ⟨.inr rfl, member, stays⟩
        | _ => exact absurd (registry rfl ▸ member) stays

theorem housedNew {s : State} {l : Nat} {e : Event} (fresh : s.listeners.length ≤ l)
    (present : l < (s.apply e).listeners.length) : Housed (s.apply e) l := by
  cases (change s e).registry with
  | same _ length | drained _ length => omega
  | removed _ _ listeners | removedDefault _ _ listeners =>
    rw [listeners] at present
    omega
  | added _ _ _ registry listeners =>
    rw [listeners, List.length_append, List.length_singleton] at present
    obtain rfl : l = s.listeners.length := by omega
    exact .registered (registry ▸ by simp [Registry.listeners])
  | addedDefault _ _ _ registry listeners =>
    rw [listeners, List.length_append, List.length_singleton] at present
    obtain rfl : l = s.listeners.length := by omega
    exact .registered (registry ▸ by simp [Registry.listeners])

theorem housedRun {setup : Setup} {s₀ : State} (made : create setup = .ok s₀) (events : List Event) {l : Nat}
    (present : l < (s₀.run events).listeners.length) : Housed (s₀.run events) l ∨ TakenOut s₀ events l := by
  induction events using List.reverseRecOn with
  | nil =>
    obtain ⟨rfl, _⟩ := created made
    cases present
  | append_singleton events e ih =>
    rw [runSnoc] at present ⊢
    by_cases fresh : (s₀.run events).listeners.length ≤ l
    · exact .inl (housedNew fresh present)
    · have old := Nat.lt_of_not_le fresh
      rcases ih old with housed | taken
      · exact (housedApply housed old e).imp_right fun out => ⟨events, e, [], rfl, out⟩
      · exact .inr (taken.later e)

theorem emptied {s : State} (closable : Closable s) (closed : s.closed = true) (finished : ∀ k, ¬ s.Midway k) :
    s.registry = {} := by
  rcases closable.drained closed with empty | ⟨stage, closes, draining⟩
  · exact empty
  · obtain ⟨k, here⟩ := closesIff.mp closes
    exact (finished k ⟨stage, here, CloseStage.drainingMidway draining⟩).elim

theorem housedShut {s : State} {l : Nat} (closable : Closable s) (closed : s.closed = true) (finished : ∀ k, ¬ s.Midway k)
    (housed : Housed s l) : s.isShut l = true := by
  cases housed with
  | shut shut => exact shut
  | listed closes member =>
    obtain ⟨k, here⟩ := closesIff.mp closes
    exact (finished k ⟨_, here, CloseStage.leftMidway member⟩).elim
  | registered member =>
    rw [emptied closable closed finished] at member
    cases member

end SharedPort.Selector.State
