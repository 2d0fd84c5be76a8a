import SharedPort.Proofs.Stream.Steady

/-! What a script tells and when, for a reader that never rests. An attempt tells what is there at its time, or says
when the next notice can come; each attempt leaves fewer to be made. -/
namespace SharedPort.Stream

inductive Notice
  | news (told : News)
  | ended
  deriving DecidableEq, Repr

abbrev Timeline := List (Nat × Notice)

def bytesAt (time : Nat) (bytes : Bytes) : Timeline := bytes.map fun b => (time, .news (.byte b))

namespace Script

/- A pause begins when everything before it was read. After silence for ever there is no notice, not even of an end. -/
def timeline (now : Nat) : Script → Timeline
  | [] => [(now, .ended)]
  | .data bytes :: rest => bytesAt now bytes ++ timeline now rest
  | .failure cause :: rest => (now, .news (.fault cause)) :: timeline now rest
  | .delay length :: rest => timeline (now + length) rest
  | .waitUntil time :: rest => timeline (max now time) rest
  | .pend :: rest => timeline now rest
  | .hang :: _ => []

def toGo (now : Nat) : Script → Nat
  | [] => 1
  | .data bytes :: rest => bytes.length + toGo now rest
  | .failure _ :: rest | .pend :: rest => 1 + toGo now rest
  | .delay length :: rest => (if length = 0 then 0 else 2) + toGo (now + length) rest
  | .waitUntil time :: rest => (if time ≤ now then 0 else 1) + toGo (max now time) rest
  | .hang :: _ => 1

theorem timelineLater {s : Script} {now : Nat} {e : Nat × Notice} (member : e ∈ s.timeline now) : now ≤ e.1 := by
  induction s generalizing now with
  | nil => exact Nat.le_of_eq (congrArg Prod.fst (List.mem_singleton.mp member)).symm
  | cons item rest ih =>
    cases item with
    | data bytes =>
      rcases List.mem_append.mp member with here | later
      · obtain ⟨b, _, rfl⟩ := List.mem_map.mp here
        exact Nat.le_refl _
      · exact ih later
    | failure cause =>
      rcases List.mem_cons.mp member with rfl | later
      · exact Nat.le_refl _
      · exact ih later
    | delay length => exact Nat.le_trans (Nat.le_add_right _ _) (ih member)
    | waitUntil time => exact Nat.le_trans (Nat.le_max_left _ _) (ih member)
    | pend => exact ih member
    | hang => cases member

theorem toGoWeight (s : Script) (now : Nat) : s.toGo now ≤ s.weight := by
  induction s generalizing now with
  | nil => exact Nat.le_succ 1
  | cons item rest ih =>
    rw [weightCons]
    cases item with
    | data bytes => exact Nat.add_le_add (Nat.le_succ _) (ih now)
    | failure | pend => exact Nat.add_le_add_left (ih now) 1
    | delay length =>
      have next := ih (now + length)
      simp only [toGo, itemWeight]
      split <;> omega
    | waitUntil time =>
      have next := ih (max now time)
      simp only [toGo, itemWeight]
      split <;> omega
    | hang => exact Nat.le_add_right _ _

theorem timelinePutBack (now : Nat) (bytes : Bytes) (rest : Script) :
    (putBack bytes rest).timeline now = bytesAt now bytes ++ rest.timeline now := by
  unfold putBack
  cases bytes <;> rfl

theorem toGoPutBack (now : Nat) (bytes : Bytes) (rest : Script) :
    (putBack bytes rest).toGo now = bytes.length + rest.toGo now := by
  unfold putBack
  cases bytes with
  | nil => exact (Nat.zero_add _).symm
  | cons b bytes => rfl

inductive Tells (now room : Nat) (s : Script) : Attempt Bytes → Script → Prop where
  | gave {bytes rest} (nonempty : bytes ≠ []) (fits : bytes.length ≤ room)
      (told : s.timeline now = bytesAt now bytes ++ rest.timeline now) (fewer : rest.toGo now < s.toGo now) :
      Tells now room s (.done bytes) rest
  | ended {rest} (told : s.timeline now = [(now, .ended)]) : Tells now room s (.done []) rest
  | failed {cause rest} (told : s.timeline now = (now, .news (.fault cause)) :: rest.timeline now)
      (fewer : rest.toGo now < s.toGo now) : Tells now room s (.failed cause) rest
  | soon {rest} (told : s.timeline now = rest.timeline now) (fewer : rest.toGo now < s.toGo now) :
      Tells now room s (.notReady .soon) rest
  | waits {time rest} (later : now < time) (told : s.timeline now = rest.timeline time)
      (fewer : rest.toGo time < s.toGo now) : Tells now room s (.notReady (.at time)) rest
  | silent {rest} (told : s.timeline now = []) : Tells now room s (.notReady .never) rest

/- An item that has passed unnoticed changes nothing. -/
theorem Tells.passed {now room : Nat} {s t rest : Script} {attempt : Attempt Bytes}
    (tells : Tells now room s attempt rest)
    (same : t.timeline now = s.timeline now) (count : t.toGo now = s.toGo now) : Tells now room t attempt rest := by
  cases tells with
  | gave nonempty fits told fewer => exact .gave nonempty fits (same.trans told) (count ▸ fewer)
  | ended told => exact .ended (same.trans told)
  | failed told fewer => exact .failed (same.trans told) (count ▸ fewer)
  | soon told fewer => exact .soon (same.trans told) (count ▸ fewer)
  | waits later told fewer => exact .waits later (same.trans told) (count ▸ fewer)
  | silent told => exact .silent (same.trans told)

theorem readTells (now : Nat) {room : Nat} (hasRoom : 0 < room) (s : Script) :
    Tells now room s (s.read now room).1 (s.read now room).2 := by
  induction s with
  | nil => exact .ended rfl
  | cons item rest ih =>
    cases item with
    | data bytes =>
      cases bytes with
      | nil => exact ih.passed rfl (Nat.zero_add _)
      | cons b bytes =>
        obtain ⟨room, rfl⟩ := Nat.exists_eq_succ_of_ne_zero (Nat.ne_of_gt hasRoom)
        simp only [read, List.isEmpty_cons, Bool.false_eq_true, if_false]
        refine .gave (List.cons_ne_nil _ _) (List.length_take_le _ _) ?_ ?_
        · rw [timelinePutBack, ← List.append_assoc, bytesAt, bytesAt, ← List.map_append, List.take_append_drop]
          rfl
        · rw [toGoPutBack, toGo, List.length_drop, List.length_cons]
          omega
    | failure cause => exact .failed rfl (Nat.lt_add_of_pos_left Nat.one_pos)
    | delay length =>
      unfold read
      split
      · rename_i zero
        subst zero
        exact ih.passed rfl (Nat.zero_add _)
      · rename_i some
        refine .waits (by omega) ?_ ?_
        · simp only [timeline, Nat.max_self]
        · simp only [toGo, Nat.le_refl, if_true, if_neg some, Nat.max_self]
          omega
    | waitUntil time =>
      unfold read
      split
      · rename_i passed
        refine ih.passed ?_ ?_
        · rw [timeline, Nat.max_eq_left passed]
        · rw [toGo, if_pos passed, Nat.max_eq_left passed, Nat.zero_add]
      · rename_i early
        refine .waits (by omega) ?_ ?_
        · simp only [timeline, Nat.max_self, Nat.max_eq_right (Nat.le_of_not_le early)]
        · simp only [toGo, Nat.le_refl, if_true, if_neg early, Nat.max_self,
            Nat.max_eq_right (Nat.le_of_not_le early)]
          omega
    | pend => exact .soon rfl (Nat.lt_add_of_pos_left Nat.one_pos)
    | hang => exact .silent rfl

end Script
end SharedPort.Stream
