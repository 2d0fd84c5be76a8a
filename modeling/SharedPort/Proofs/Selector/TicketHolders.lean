import SharedPort.Proofs.Listener
import SharedPort.Proofs.Selector.Closers

/-! The accept calls of a listener and the tickets of its bell. The calls that look at the queue, sleep or leave hold
one ticket each, the others hold none, and a call parks only where the queue is empty and open. -/
namespace SharedPort.Selector
open SharedPort.Listener (Bell Ticket)

def AcceptStage.holdsTicket : AcceptStage → Bool
  | .looking | .sleeping | .leaving _ => true
  | .begun | .entering | .returned _ | .cancelled => false

namespace State

/- An accept call sleeps at `l`, and nothing has woken it. -/
def Parked (s : State) (l call : Nat) : Prop := s.stageAt l call = some .sleeping ∧ (s.bell l).isAwake call = false

structure Ticketed (s : State) (l : Nat) : Prop where
  distinct : (s.bell l).holders.Nodup
  holders : ∀ call, call ∈ (s.bell l).holders ↔ (s.stageAt l call).any AcceptStage.holdsTicket = true
  fair : (s.bell l).Fair

theorem Ticketed.parked {s : State} {l call : Nat} (ticketed : Ticketed s l) :
    s.Parked l call ↔ s.stageAt l call = some .sleeping ∧ (call, .waiting) ∈ (s.bell l).tickets := by
  unfold Parked
  constructor
  · rintro ⟨sleeps, asleep⟩
    obtain ⟨t, ticket⟩ := Bell.memHolders.mp ((ticketed.holders call).mpr (by simp [sleeps, AcceptStage.holdsTicket]))
    have found := Bell.ticketOfMem ticketed.distinct ticket
    simp only [Bell.isAwake, found, Option.any_some, decide_eq_false_iff_not, not_not] at asleep
    exact ⟨sleeps, asleep ▸ ticket⟩
  · rintro ⟨sleeps, ticket⟩
    exact ⟨sleeps, by simp [Bell.isAwake, Bell.ticketOfMem ticketed.distinct ticket]⟩

theorem ticketedLeave {s t : State} {l call : Nat} (ticketed : Ticketed s l) {after : AcceptStage}
    (holders : (t.bell l).holders = (s.bell l).holders.filter (· ≠ call)) (next : t.stageAt l call = some after)
    (others : ∀ other, other ≠ call → t.stageAt l other = s.stageAt l other) (up : after.holdsTicket = false)
    (fair : (t.bell l).Fair) : Ticketed t l := by
  refine ⟨?_, fun other => ?_, fair⟩
  · rw [holders]
    exact ticketed.distinct.filter _
  · rw [holders, List.mem_filter, decide_eq_true_eq]
    by_cases same : other = call
    · simp [same, next, up]
    · simp [same, others other same, ticketed.holders]

theorem ticketedStay {s t : State} {l call : Nat} (ticketed : Ticketed s l) {before after : AcceptStage}
    (bell : t.bell l = s.bell l) (found : s.stageAt l call = some before) (next : t.stageAt l call = some after)
    (others : ∀ other, other ≠ call → t.stageAt l other = s.stageAt l other)
    (same : after.holdsTicket = before.holdsTicket) : Ticketed t l := by
  refine ⟨bell ▸ ticketed.distinct, fun other => ?_, bell ▸ ticketed.fair⟩
  rw [bell, ticketed.holders]
  by_cases own : other = call
  · simp [own, found, next, same]
  · simp [others other own]

theorem ticketedSame {s t : State} {l : Nat} (ticketed : Ticketed s l) (holders : (t.bell l).holders = (s.bell l).holders)
    (calls : ∀ call, t.stageAt l call = s.stageAt l call) (fair : (t.bell l).Fair) : Ticketed t l := by
  refine ⟨holders ▸ ticketed.distinct, fun call => ?_, fair⟩
  rw [holders, calls, ticketed.holders]

theorem ticketedCall {s t : State} {l call : Nat} {before after : AcceptStage} (ticketed : Ticketed s l)
    (found : s.stageAt l call = some before) (next : t.stageAt l call = some after)
    (others : ∀ other, other ≠ call → t.stageAt l other = s.stageAt l other) (move : CallMove s t l call before after) :
    Ticketed t l := by
  cases move with
  | entered outside bell =>
    have absent : call ∉ (s.bell l).holders := by
      rw [ticketed.holders, found]
      rcases outside with rfl | rfl <;> simp [AcceptStage.holdsTicket]
    refine ⟨?_, fun other => ?_, by simp [bell, Bell.Fair, Bell.take]⟩
    · rw [bell, Bell.holdersTake, ← List.concat_eq_append]
      exact ticketed.distinct.concat absent
    · rw [bell, Bell.holdersTake, List.mem_append, List.mem_singleton]
      by_cases own : other = call
      · simp [own, next, AcceptStage.holdsTicket]
      · simp [own, others other own, ticketed.holders]
  | popped bell | ended bell | slept bell => exact ticketedStay ticketed bell found next others rfl
  | dropped bell => exact ticketedStay ticketed bell found next others rfl
  | woken _ bell =>
    exact ticketedLeave ticketed (bell ▸ Bell.holdersDiscard _ _) next others rfl
      (bell ▸ Bell.fairDiscard call ticketed.fair)
  | returned bell | cancelled bell =>
    exact ticketedLeave ticketed (bell ▸ Bell.holdersLeave _ _) next others rfl (bell ▸ Bell.fairLeave call ticketed.fair)

theorem ticketedMove {s t : State} {l : Nat} (ticketed : Ticketed s l) (move : ListenerMove s t l) : Ticketed t l := by
  cases move with
  | still aside bell => exact ticketedSame ticketed (by rw [bell]) aside.calls (bell ▸ ticketed.fair)
  | pushed bell _ calls => exact ticketedSame ticketed (by rw [bell]) calls (bell ▸ ticketed.fair)
  | rungAll aside bell =>
    refine ticketedSame ticketed (bell ▸ Bell.holdersRingAll _) aside.calls fun _ entry member => ?_
    exact Bell.ringAllWakes (bell ▸ member)
  | rung bell _ calls =>
    exact ticketedSame ticketed (bell ▸ Bell.holdersRingOne _) calls (bell ▸ Bell.fairRingOne ticketed.fair)
  | @began call bell _ begun others fresh =>
    refine ⟨bell ▸ ticketed.distinct, fun other => ?_, bell ▸ ticketed.fair⟩
    rw [bell, ticketed.holders]
    by_cases own : other = call
    · subst other
      simp [begun, fresh, AcceptStage.holdsTicket]
    · rw [others other own]
  | called found next others _ move => exact ticketedCall ticketed found next others move

/- Calls park only where the queue is empty and open. -/
theorem parkedMove {s t : State} {l call : Nat} (ticketed : Ticketed s l) (move : ListenerMove s t l)
    (parked : t.Parked l call) :
    s.Parked l call ∨ t.waiting l = [] ∧ s.isShut l = false := by
  obtain ⟨sleeps, waits⟩ := (ticketedMove ticketed move).parked.mp parked
  rw [ticketed.parked]
  cases move with
  | still aside bell => exact .inl ⟨aside.calls call ▸ sleeps, bell ▸ waits⟩
  | pushed bell _ calls => exact .inl ⟨calls call ▸ sleeps, bell ▸ waits⟩
  | rungAll _ bell => exact (Bell.ringAllWakes (bell ▸ waits) rfl).elim
  | rung bell _ calls => exact .inl ⟨calls call ▸ sleeps, Bell.waitingRingOne (bell ▸ waits)⟩
  | @began new bell _ begun others =>
    have other : call ≠ new := by
      rintro rfl
      simp [begun] at sleeps
    exact .inl ⟨others call other ▸ sleeps, bell ▸ waits⟩
  | @called own before after found next others _ move =>
    by_cases same : call = own
    · subst own
      cases Option.some.inj (next.symm.trans sleeps)
      cases move with
      | slept bell drained same _ listener isOpen =>
        exact .inr ⟨same.trans drained, by simp [isShut, listener, isOpen]⟩
    · refine .inl ⟨others call same ▸ sleeps, ?_⟩
      cases move with
      | entered _ bell => exact Bell.waitingTake same (bell ▸ waits)
      | popped bell | ended bell | slept bell => exact bell ▸ waits
      | dropped bell => exact bell ▸ waits
      | woken _ bell => exact Bell.waitingDiscard (bell ▸ waits)
      | returned bell | cancelled bell => exact Bell.waitingLeave (bell ▸ waits)

end State
end SharedPort.Selector
