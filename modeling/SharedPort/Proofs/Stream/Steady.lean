import SharedPort.Proofs.Stream.News
import SharedPort.Stream.Replay

/-! Streams that neither fail nor fall silent. Whatever the chunks and the pauses, each attempt goes on with the bytes
where the last one stopped, and either something is used up or the next attempt has a due time. -/
namespace SharedPort.Stream

/- What matters of a stream: the bytes it has yet to give before its end, those that were written to it and
the calls that did so, and how much there is before it can only be at rest. Before its due times an attempt
may be not ready again. -/
structure Face where
  rest : Bytes
  written : Bytes
  calls : List Call
  weight : Nat
  readDue : Nat
  writeDue : Nat

inductive Waits (now due : Nat) (a b : Face) : Wake → Prop where
  | lighter {wake} (finite : wake ≠ .never) (less : b.weight < a.weight) : Waits now due a b wake
  | blocked (same : b = a) (early : now < due) : Waits now due a b (.at due)

inductive ReadMove (now : Nat) (a b : Face) : Attempt Bytes → Prop where
  | gave {bytes} (nonempty : bytes ≠ []) (rest : a.rest = bytes ++ b.rest) (written : b.written = a.written)
      (calls : b.calls = a.calls) (weight : b.weight + bytes.length ≤ a.weight) : ReadMove now a b (.done bytes)
  | ended (rest : a.rest = []) (left : b.rest = []) (written : b.written = a.written) (calls : b.calls = a.calls)
      (weight : b.weight ≤ a.weight) : ReadMove now a b (.done [])
  | waited {wake} (rest : b.rest = a.rest) (written : b.written = a.written) (calls : b.calls = a.calls)
      (waits : Waits now a.readDue a b wake) : ReadMove now a b (.notReady wake)

inductive WriteMove (now : Nat) (bytes : Bytes) (a b : Face) : Attempt Nat → Prop where
  | took {n call} (positive : 0 < n) (fits : n ≤ bytes.length) (rest : b.rest = a.rest)
      (written : b.written = a.written ++ bytes.take n) (calls : b.calls = call :: a.calls) (kind : call ≠ .shutdown)
      (weight : b.weight ≤ a.weight) : WriteMove now bytes a b (.done n)
  | waited {wake} (rest : b.rest = a.rest) (written : b.written = a.written) (calls : b.calls = a.calls)
      (waits : Waits now a.writeDue a b wake) : WriteMove now bytes a b (.notReady wake)

inductive ShutMove (now : Nat) (a b : Face) : Attempt Unit → Prop where
  | shut {attempt} (ready : ∀ wake, attempt ≠ .notReady wake) (rest : b.rest = a.rest) (written : b.written = a.written)
      (calls : b.calls = .shutdown :: a.calls) (weight : b.weight ≤ a.weight) : ShutMove now a b attempt
  | waited {wake} (rest : b.rest = a.rest) (written : b.written = a.written) (calls : b.calls = a.calls)
      (waits : Waits now a.writeDue a b wake) : ShutMove now a b (.notReady wake)

class Steady (σ : Type) [Duplex σ] where
  ok : σ → Prop
  face : σ → Face
  read {s : σ} (now : Nat) {room : Nat} (fine : ok s) (hasRoom : 0 < room) : ok (Duplex.read now room s).2 ∧
    ReadMove now (face s) (face (Duplex.read now room s).2) (Duplex.read now room s).1
  write {s : σ} (now : Nat) {bytes : Bytes} (fine : ok s) (nonempty : bytes ≠ []) : ok (Duplex.write now bytes s).2 ∧
    WriteMove now bytes (face s) (face (Duplex.write now bytes s).2) (Duplex.write now bytes s).1
  shutdown {s : σ} (now : Nat) (fine : ok s) : ok (Duplex.shutdown now s).2 ∧
    ShutMove now (face s) (face (Duplex.shutdown now s).2) (Duplex.shutdown now s).1

namespace Script

def Lasts (s : Script) : Prop := .hang ∉ s ∧ ∀ cause, .failure cause ∉ s

def due : Script → Nat
  | .waitUntil time :: _ => time
  | _ => 0

theorem Lasts.tail {item : Item} {rest : Script} (lasts : Lasts (item :: rest)) : Lasts rest :=
  ⟨fun member => lasts.1 (List.mem_cons_of_mem _ member),
    fun cause member => lasts.2 cause (List.mem_cons_of_mem _ member)⟩

theorem Lasts.cons {item : Item} {rest : Script} (lasts : Lasts rest) (alive : item ≠ .hang)
    (well : ∀ cause, item ≠ .failure cause) : Lasts (item :: rest) := by
  refine ⟨?_, fun cause => ?_⟩ <;> intro member
  · rcases List.mem_cons.mp member with same | later
    · exact alive same.symm
    · exact lasts.1 later
  · rcases List.mem_cons.mp member with same | later
    · exact well cause same.symm
    · exact lasts.2 cause later

theorem Lasts.putBack {bytes : Bytes} {rest : Script} (lasts : Lasts rest) : Lasts (Script.putBack bytes rest) := by
  unfold Script.putBack
  split
  · exact lasts
  · exact lasts.cons (fun h => by cases h) fun _ h => by cases h

theorem weightCons (item : Item) (rest : Script) : weight (item :: rest) = itemWeight item + rest.weight := rfl

theorem weightPutBack (bytes : Bytes) (rest : Script) :
    (putBack bytes rest).weight ≤ bytes.length + 1 + rest.weight := by
  unfold putBack
  split
  · omega
  · exact Nat.le_refl _

def side (written : Bytes) (calls : List Call) (s : Script) : Face := ⟨s.whole, written, calls, s.weight, s.due, 0⟩

theorem wholeData (bytes : Bytes) (rest : Script) : whole (.data bytes :: rest) = bytes ++ rest.whole := by
  rw [whole, news, bytesOfAppend, bytesOfBytes]
  rfl

theorem wholePutBack (bytes : Bytes) (rest : Script) : (putBack bytes rest).whole = bytes ++ rest.whole := by
  rw [whole, newsPutBack, bytesOfAppend, bytesOfBytes]
  rfl

end Script

theorem ReadMove.heavier {now : Nat} {a a' b : Face} {attempt : Attempt Bytes} (move : ReadMove now a b attempt)
    (rest : a'.rest = a.rest) (written : a'.written = a.written) (calls : a'.calls = a.calls)
    (weight : a.weight < a'.weight) : ReadMove now a' b attempt := by
  cases move with
  | gave nonempty order w c less =>
    exact .gave nonempty (rest.trans order) (w.trans written.symm) (c.trans calls.symm) (by omega)
  | ended none left w c less =>
    exact .ended (rest.trans none) left (w.trans written.symm) (c.trans calls.symm) (by omega)
  | waited r w c waits =>
    refine .waited (r.trans rest.symm) (w.trans written.symm) (c.trans calls.symm) ?_
    cases waits with
    | lighter finite less => exact .lighter finite (by omega)
    | blocked same => exact .lighter (fun h => by cases h) (by rw [same]; exact weight)

namespace Script

theorem readMove (now : Nat) {room : Nat} {s : Script} (written : Bytes) (calls : List Call) (lasts : s.Lasts)
    (hasRoom : 0 < room) : (s.read now room).2.Lasts ∧
    ReadMove now (s.side written calls) ((s.read now room).2.side written calls) (s.read now room).1 := by
  induction s with
  | nil => exact ⟨lasts, .ended rfl rfl rfl rfl (Nat.le_refl _)⟩
  | cons item rest ih =>
    obtain ⟨after, move⟩ := ih lasts.tail
    cases item with
    | data bytes =>
      cases bytes with
      | nil => exact ⟨after, move.heavier rfl rfl rfl (by simp only [side, weightCons, itemWeight]; omega)⟩
      | cons b bytes =>
        simp only [read, List.isEmpty_cons, Bool.false_eq_true, if_false]
        refine ⟨lasts.tail.putBack, .gave ?_ ?_ rfl rfl ?_⟩
        · obtain ⟨room, rfl⟩ := Nat.exists_eq_succ_of_ne_zero (Nat.ne_of_gt hasRoom)
          exact List.cons_ne_nil _ _
        · simp only [side]
          rw [wholeData, wholePutBack, ← List.append_assoc, List.take_append_drop]
        · have bound := weightPutBack ((b :: bytes).drop room) rest
          simp only [side, weightCons, itemWeight, List.length_take, List.length_drop] at bound ⊢
          omega
    | delay length =>
      unfold read
      split
      · exact ⟨after, move.heavier rfl rfl rfl (by simp only [side, weightCons, itemWeight]; omega)⟩
      · refine ⟨lasts.tail.cons (fun h => by cases h) (fun _ h => by cases h),
          .waited rfl rfl rfl (.lighter (fun h => by cases h) ?_)⟩
        simp only [side, weightCons, itemWeight]
        omega
    | waitUntil time =>
      unfold read
      split
      · exact ⟨after, move.heavier rfl rfl rfl (by simp only [side, weightCons, itemWeight]; omega)⟩
      · exact ⟨lasts, .waited rfl rfl rfl (.blocked rfl (by simp only [side, due]; omega))⟩
    | pend =>
      refine ⟨lasts.tail, .waited rfl rfl rfl (.lighter (fun h => by cases h) ?_)⟩
      simp only [read, side, weightCons, itemWeight]
      omega
    | failure cause => exact (lasts.2 cause List.mem_cons_self).elim
    | hang => exact (lasts.1 List.mem_cons_self).elim

end Script

namespace WritePlan

/- Every call takes something of what it is offered. -/
def Takes (plan : WritePlan) : Prop := plan.failAfter = none ∧ plan.zeroAfter = none ∧ plan.atMost ≠ some 0

end WritePlan

namespace Sink

theorem roomTakes {k : Sink} (takes : k.plan.Takes) {offered : Nat} (positive : 0 < offered) :
    ∃ n, k.room offered = .ok n ∧ 0 < n ∧ n ≤ offered := by
  obtain ⟨never, always, enough⟩ := takes
  unfold room room.cap
  rw [never, always]
  dsimp only
  cases most : k.plan.atMost with
  | none => exact ⟨offered, rfl, positive, Nat.le_refl _⟩
  | some limit =>
    have nonzero : limit ≠ 0 := fun zero => enough (by rw [most, zero])
    exact ⟨min offered limit, rfl, by omega, Nat.min_le_left _ _⟩

theorem writeTakes {k : Sink} (takes : k.plan.Takes) {bytes : Bytes} (nonempty : bytes ≠ []) :
    ∃ n, 0 < n ∧ n ≤ bytes.length ∧ (k.write bytes).1 = .ok n ∧ (k.write bytes).2.plan = k.plan ∧
      (k.write bytes).2.written = k.written ++ bytes.take n ∧ (k.write bytes).2.calls = .write n :: k.calls := by
  obtain ⟨n, room, positive, fits⟩ := roomTakes takes (List.length_pos_iff.mpr nonempty)
  refine ⟨n, positive, fits, ?_⟩
  simp only [write, record, room]
  refine ⟨trivial, trivial, ?_, trivial⟩
  simp only [written, List.reverse_cons, List.flatten_append, List.flatten_singleton]

end Sink

instance : Steady Scripted where
  ok s := s.reads.Lasts ∧ s.sink.plan.Takes
  face s := s.reads.side s.sink.written s.sink.calls
  read := by
    intro s now room fine hasRoom
    obtain ⟨lasts, move⟩ := Script.readMove now s.sink.written s.sink.calls fine.1 hasRoom
    exact ⟨⟨lasts, fine.2⟩, move⟩
  write := by
    intro s now bytes fine nonempty
    obtain ⟨n, positive, fits, took, plan, written, calls⟩ := Sink.writeTakes fine.2 nonempty
    have attempt : (Duplex.write now bytes s).1 = .done n := congrArg Attempt.ofResult took
    have sink : (Duplex.write now bytes s).2.sink = (s.sink.write bytes).2 := rfl
    rw [attempt]
    refine ⟨⟨fine.1, by rw [sink, plan]; exact fine.2⟩, .took positive fits rfl written calls (fun h => by cases h) ?_⟩
    exact Nat.le_refl _
  shutdown := by
    intro s now fine
    refine ⟨fine, .shut (fun wake => ?_) rfl rfl rfl (Nat.le_refl _)⟩
    change Attempt.ofResult (s.sink.shutdown).1 ≠ _
    cases (s.sink.shutdown).1 <;> exact fun h => by cases h

def Face.behind (pending : Bytes) (a : Face) : Face :=
  { a with
    rest := pending ++ a.rest
    weight := pending.length + a.weight
    readDue := if pending = [] then a.readDue else 0 }

theorem Waits.behind {now due : Nat} {a b : Face} {wake : Wake} (waits : Waits now due a b wake) (pending : Bytes) :
    Waits now due (a.behind pending) (b.behind pending) wake := by
  cases waits with
  | lighter finite less => exact .lighter finite (Nat.add_lt_add_left less _)
  | blocked same early => exact .blocked (congrArg _ same) early

theorem WriteMove.behind {now : Nat} {bytes : Bytes} {a b : Face} {attempt : Attempt Nat}
    (move : WriteMove now bytes a b attempt) (pending : Bytes) :
    WriteMove now bytes (a.behind pending) (b.behind pending) attempt := by
  cases move with
  | took positive fits rest written calls kind weight =>
    exact .took positive fits (congrArg (pending ++ ·) rest) written calls kind (Nat.add_le_add_left weight _)
  | waited rest written calls waits =>
    exact .waited (congrArg (pending ++ ·) rest) written calls (waits.behind pending)

theorem ShutMove.behind {now : Nat} {a b : Face} {attempt : Attempt Unit} (move : ShutMove now a b attempt)
    (pending : Bytes) : ShutMove now (a.behind pending) (b.behind pending) attempt := by
  cases move with
  | shut ready rest written calls weight =>
    exact .shut ready (congrArg (pending ++ ·) rest) written calls (Nat.add_le_add_left weight _)
  | waited rest written calls waits =>
    exact .waited (congrArg (pending ++ ·) rest) written calls (waits.behind pending)

instance {σ : Type} [Duplex σ] [Steady σ] : Steady (Replay σ) where
  ok r := Steady.ok r.inner
  face r := (Steady.face r.inner).behind r.pending
  read := by
    intro r now room fine hasRoom
    by_cases pending : r.pending = []
    · have read : Duplex.read now room r =
          ((Duplex.read now room r.inner).1, { r with inner := (Duplex.read now room r.inner).2 }) :=
        Replay.readExhausted pending
      have same : ∀ a : Face, a.behind r.pending = a := by
        intro a
        simp [Face.behind, pending]
      obtain ⟨still, move⟩ := Steady.read now fine hasRoom
      rw [read]
      refine ⟨still, ?_⟩
      dsimp only
      rw [same, same]
      exact move
    · have read : Duplex.read now room r =
          (.done (r.pending.take room), { r with pending := r.pending.drop room }) :=
        Replay.readPending pending hasRoom
      rw [read]
      refine ⟨fine, .gave ?_ ?_ rfl rfl ?_⟩
      · intro nothing
        rcases List.take_eq_nil_iff.mp nothing with none | none
        · omega
        · exact pending none
      · simp only [Face.behind]
        rw [← List.append_assoc, List.take_append_drop]
      · simp only [Face.behind, List.length_drop, List.length_take]
        omega
  write := by
    intro r now bytes fine nonempty
    obtain ⟨still, move⟩ := Steady.write now fine nonempty
    exact ⟨still, move.behind r.pending⟩
  shutdown := by
    intro r now fine
    obtain ⟨still, move⟩ := Steady.shutdown now fine
    exact ⟨still, move.behind r.pending⟩

end SharedPort.Stream
