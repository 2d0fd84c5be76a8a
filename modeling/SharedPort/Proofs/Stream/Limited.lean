import SharedPort.Stream.Replay

/-! Streams with a bound on what they can still give, which a read lowers by what it gave, and streams that keep a
record of what is done with them. Whoever uses a watched stream finds it as it was, and the record tells what came out
of it and what went in. -/
namespace SharedPort.Stream

def Attempt.size : Attempt Bytes → Nat
  | .done bytes => bytes.length
  | .failed _ | .notReady _ => 0

class Limited (σ : Type) [Duplex σ] where
  supply : σ → Nat
  read (now room : Nat) (s : σ) : supply (Duplex.read now room s).2 + (Duplex.read now room s).1.size ≤ supply s
  write (now : Nat) (bytes : Bytes) (s : σ) : supply (Duplex.write now bytes s).2 ≤ supply s
  shutdown (now : Nat) (s : σ) : supply (Duplex.shutdown now s).2 ≤ supply s

namespace Script

/- All bytes of a script, those behind a failure too. -/
def supply : Script → Nat
  | [] => 0
  | .data bytes :: rest => bytes.length + supply rest
  | _ :: rest => supply rest

theorem supplyPutBack (bytes : Bytes) (rest : Script) : (putBack bytes rest).supply = bytes.length + rest.supply := by
  unfold putBack
  split
  · rename_i none
    simp [List.isEmpty_iff.mp none]
  · rfl

theorem supplyRead (now room : Nat) (s : Script) : (s.read now room).2.supply + (s.read now room).1.size = s.supply := by
  induction s with
  | nil => rfl
  | cons item rest ih =>
    cases item with
    | data bytes =>
      unfold read
      split
      · rename_i none
        rw [ih, supply, List.isEmpty_iff.mp none, List.length_nil, Nat.zero_add]
      · simp only [supplyPutBack, Attempt.size, supply, List.length_drop, List.length_take]
        omega
    | delay length =>
      unfold read
      split
      · exact ih
      · rfl
    | waitUntil time =>
      unfold read
      split
      · exact ih
      · rfl
    | failure | pend | hang => rfl

end Script

instance : Limited Scripted where
  supply s := s.reads.supply
  read now room s := Nat.le_of_eq (Script.supplyRead now room s.reads)
  write _ _ _ := Nat.le_refl _
  shutdown _ _ := Nat.le_refl _

instance {σ : Type} [Duplex σ] [Limited σ] : Limited (Replay σ) where
  supply r := r.pending.length + Limited.supply r.inner
  read now room r := by
    change (r.read Duplex.read now room).2.pending.length + Limited.supply (r.read Duplex.read now room).2.inner +
      (r.read Duplex.read now room).1.size ≤ _
    unfold Replay.read
    split
    · simp only [Attempt.size, List.length_drop, List.length_take]
      omega
    · have less := Limited.read now room r.inner
      dsimp only at less ⊢
      omega
  write now bytes r := Nat.add_le_add_left (Limited.write now bytes r.inner) _
  shutdown now r := Nat.add_le_add_left (Limited.shutdown now r.inner) _

inductive Deed
  | read (outcome : Attempt Bytes)
  | write (offered : Bytes) (outcome : Attempt Nat)
  | shutdown (outcome : Attempt Unit)
  deriving DecidableEq, Repr

namespace Deed

def given : Deed → Bytes
  | .read (.done bytes) => bytes
  | .read _ | .write .. | .shutdown _ => []

def taken : Deed → Bytes
  | .write offered (.done n) => offered.take n
  | .read _ | .write .. | .shutdown _ => []

def readFault : Deed → Option IoError
  | .read (.failed cause) => some cause
  | .read _ | .write .. | .shutdown _ => none

def writeFault : Deed → Option IoError
  | .write _ (.failed cause) => some cause
  | .write _ (.done 0) => some .writeZero
  | .read _ | .write .. | .shutdown _ => none

def isEnd : Deed → Bool
  | .read (.done []) => true
  | .read _ | .write .. | .shutdown _ => false

def isShutdown : Deed → Bool
  | .shutdown _ => true
  | .read _ | .write .. => false

end Deed

/- What came out of a stream: its bytes, whether its end was found, and the reads that failed. -/
structure Outlet where
  given : Bytes
  ended : Bool
  faults : List IoError
  deriving DecidableEq, Repr

/- What went into a stream: its bytes, whether it was told to shut down, and the writes that failed. -/
structure Inlet where
  taken : Bytes
  isShut : Bool
  faults : List IoError
  deriving DecidableEq, Repr

def Outlet.after (o : Outlet) (d : Deed) : Outlet :=
  ⟨o.given ++ d.given, o.ended || d.isEnd, o.faults ++ d.readFault.toList⟩

def Inlet.after (i : Inlet) (d : Deed) : Inlet :=
  ⟨i.taken ++ d.taken, i.isShut || d.isShutdown, i.faults ++ d.writeFault.toList⟩

structure Watched (σ : Type) where
  inner : σ
  deeds : List Deed := []

namespace Watched
variable {σ : Type}

def note (s : Watched σ) (inner : σ) (d : Deed) : Watched σ := ⟨inner, s.deeds ++ [d]⟩

def outlet (s : Watched σ) : Outlet where
  given := s.deeds.flatMap Deed.given
  ended := s.deeds.any Deed.isEnd
  faults := s.deeds.filterMap Deed.readFault

def inlet (s : Watched σ) : Inlet where
  taken := s.deeds.flatMap Deed.taken
  isShut := s.deeds.any Deed.isShutdown
  faults := s.deeds.filterMap Deed.writeFault

theorem outletNote (s : Watched σ) (inner : σ) (d : Deed) : (s.note inner d).outlet = s.outlet.after d := by
  cases fault : d.readFault <;> simp [outlet, Outlet.after, note, fault]

theorem inletNote (s : Watched σ) (inner : σ) (d : Deed) : (s.note inner d).inlet = s.inlet.after d := by
  cases fault : d.writeFault <;> simp [inlet, Inlet.after, note, fault]

theorem inletRead (s : Watched σ) (inner : σ) (attempt : Attempt Bytes) :
    (s.note inner (.read attempt)).inlet = s.inlet := by
  simp [inletNote, Inlet.after, Deed.taken, Deed.isShutdown, Deed.writeFault]

theorem outletWrite (s : Watched σ) (inner : σ) (offered : Bytes) (attempt : Attempt Nat) :
    (s.note inner (.write offered attempt)).outlet = s.outlet := by
  simp [outletNote, Outlet.after, Deed.given, Deed.isEnd, Deed.readFault]

theorem outletShutdown (s : Watched σ) (inner : σ) (attempt : Attempt Unit) :
    (s.note inner (.shutdown attempt)).outlet = s.outlet := by
  simp [outletNote, Outlet.after, Deed.given, Deed.isEnd, Deed.readFault]

end Watched

instance {σ : Type} [Duplex σ] : Duplex (Watched σ) where
  read now room s :=
    let (attempt, inner) := Duplex.read now room s.inner
    (attempt, s.note inner (.read attempt))
  write now bytes s :=
    let (attempt, inner) := Duplex.write now bytes s.inner
    (attempt, s.note inner (.write bytes attempt))
  shutdown now s :=
    let (attempt, inner) := Duplex.shutdown now s.inner
    (attempt, s.note inner (.shutdown attempt))

end SharedPort.Stream
