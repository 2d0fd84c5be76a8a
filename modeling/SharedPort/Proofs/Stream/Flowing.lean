import SharedPort.Proofs.Stream.Steady

/-! Streams that never fail and always go on. Between two attempts that get something done there are finitely many that
are not ready, but there is no bound on them over the whole life of the stream. -/
namespace SharedPort.Stream

inductive ReadFlow (now : Nat) (a b : Face) : Attempt Bytes → Prop where
  | gave {bytes} (nonempty : bytes ≠ []) (rest : a.rest = bytes ++ b.rest) (written : b.written = a.written)
      (calls : b.calls = a.calls) : ReadFlow now a b (.done bytes)
  | ended (rest : a.rest = []) (left : b.rest = []) (written : b.written = a.written) (calls : b.calls = a.calls) :
      ReadFlow now a b (.done [])
  | waited {wake} (rest : b.rest = a.rest) (written : b.written = a.written) (calls : b.calls = a.calls)
      (waits : Waits now a.readDue a b wake) : ReadFlow now a b (.notReady wake)

inductive WriteFlow (now : Nat) (bytes : Bytes) (a b : Face) : Attempt Nat → Prop where
  | took {n call} (positive : 0 < n) (fits : n ≤ bytes.length) (rest : b.rest = a.rest)
      (written : b.written = a.written ++ bytes.take n) (calls : b.calls = call :: a.calls) (kind : call ≠ .shutdown) :
      WriteFlow now bytes a b (.done n)
  | waited {wake} (rest : b.rest = a.rest) (written : b.written = a.written) (calls : b.calls = a.calls)
      (waits : Waits now a.writeDue a b wake) : WriteFlow now bytes a b (.notReady wake)

inductive ShutFlow (now : Nat) (a b : Face) : Attempt Unit → Prop where
  | shut {attempt} (ready : ∀ wake, attempt ≠ .notReady wake) (rest : b.rest = a.rest) (written : b.written = a.written)
      (calls : b.calls = .shutdown :: a.calls) : ShutFlow now a b attempt
  | waited {wake} (rest : b.rest = a.rest) (written : b.written = a.written) (calls : b.calls = a.calls)
      (waits : Waits now a.writeDue a b wake) : ShutFlow now a b (.notReady wake)

class Flowing (σ : Type) [Duplex σ] where
  ok : σ → Prop
  face : σ → Face
  read {s : σ} (now : Nat) {room : Nat} (fine : ok s) (hasRoom : 0 < room) : ok (Duplex.read now room s).2 ∧
    ReadFlow now (face s) (face (Duplex.read now room s).2) (Duplex.read now room s).1
  write {s : σ} (now : Nat) {bytes : Bytes} (fine : ok s) (nonempty : bytes ≠ []) : ok (Duplex.write now bytes s).2 ∧
    WriteFlow now bytes (face s) (face (Duplex.write now bytes s).2) (Duplex.write now bytes s).1
  shutdown {s : σ} (now : Nat) (fine : ok s) : ok (Duplex.shutdown now s).2 ∧
    ShutFlow now (face s) (face (Duplex.shutdown now s).2) (Duplex.shutdown now s).1

theorem ReadMove.flow {now : Nat} {a b : Face} {attempt : Attempt Bytes} (move : ReadMove now a b attempt) :
    ReadFlow now a b attempt := by
  cases move with
  | gave nonempty rest written calls => exact .gave nonempty rest written calls
  | ended rest left written calls => exact .ended rest left written calls
  | waited rest written calls waits => exact .waited rest written calls waits

theorem WriteMove.flow {now : Nat} {bytes : Bytes} {a b : Face} {attempt : Attempt Nat}
    (move : WriteMove now bytes a b attempt) : WriteFlow now bytes a b attempt := by
  cases move with
  | took positive fits rest written calls kind => exact .took positive fits rest written calls kind
  | waited rest written calls waits => exact .waited rest written calls waits

theorem ShutMove.flow {now : Nat} {a b : Face} {attempt : Attempt Unit} (move : ShutMove now a b attempt) :
    ShutFlow now a b attempt := by
  cases move with
  | shut ready rest written calls => exact .shut ready rest written calls
  | waited rest written calls waits => exact .waited rest written calls waits

instance {σ : Type} [Duplex σ] [Steady σ] : Flowing σ where
  ok := Steady.ok
  face := Steady.face
  read now _ fine hasRoom := (Steady.read now fine hasRoom).imp_right ReadMove.flow
  write now _ fine nonempty := (Steady.write now fine nonempty).imp_right WriteMove.flow
  shutdown now fine := (Steady.shutdown now fine).imp_right ShutMove.flow

/- The `n`-th write, or the shutdown in its place, is not ready `(pace n).1` times and takes at most one byte more than
`(pace n).2`. -/
structure Paced where
  reads : Script
  pace : Nat → Nat × Nat
  turn : Nat := 0
  waited : Nat := 0
  written : Bytes := []
  calls : List Call := []
  shutdownError : Option IoError := none

namespace Paced

def isReady (s : Paced) : Bool := (s.pace s.turn).1 ≤ s.waited

def wait (s : Paced) : Paced := { s with waited := s.waited + 1 }

def take (bytes : Bytes) (s : Paced) : Nat × Paced :=
  let n := min bytes.length ((s.pace s.turn).2 + 1)
  (n, { s with turn := s.turn + 1, waited := 0, written := s.written ++ bytes.take n, calls := .write n :: s.calls })

instance : Duplex Paced where
  read now room s :=
    let (attempt, reads) := s.reads.read now room
    (attempt, { s with reads })
  write _ bytes s :=
    if s.isReady then
      let (n, s) := s.take bytes
      (.done n, s)
    else (.notReady .soon, s.wait)
  shutdown _ s :=
    if s.isReady then
      ((match s.shutdownError with
        | some cause => .failed cause
        | none => .done ()), { s with turn := s.turn + 1, waited := 0, calls := .shutdown :: s.calls })
    else (.notReady .soon, s.wait)

def pauses (s : Paced) : Nat := (s.pace s.turn).1 - s.waited

def face (s : Paced) : Face := { s.reads.side s.written s.calls with weight := s.reads.weight + s.pauses }

theorem waitWaits {s : Paced} (unready : ¬ s.isReady = true) (now : Nat) :
    Waits now s.face.writeDue s.face s.wait.face .soon := by
  refine .lighter (fun h => by cases h) ?_
  simp only [isReady, decide_eq_true_eq] at unready
  simp only [face, pauses, wait]
  omega

instance : Flowing Paced where
  ok s := s.reads.Lasts
  face := face
  read := by
    intro s now room lasts hasRoom
    obtain ⟨still, move⟩ := Script.readMove now s.written s.calls lasts hasRoom
    refine ⟨still, ?_⟩
    simp only [Duplex.read]
    generalize (s.reads.read now room).1 = attempt at move ⊢
    generalize (s.reads.read now room).2 = reads at move ⊢
    cases move with
    | gave nonempty rest => exact .gave nonempty rest rfl rfl
    | ended rest left => exact .ended rest left rfl rfl
    | waited rest _ _ waits =>
      refine .waited rest rfl rfl ?_
      cases waits with
      | lighter finite less => exact .lighter finite (Nat.add_lt_add_right less s.pauses)
      | blocked same early =>
        exact .blocked (congrArg (fun a : Face => { a with weight := a.weight + s.pauses }) same) early
  write := by
    intro s now bytes lasts nonempty
    have some := List.length_pos_iff.mpr nonempty
    by_cases ready : s.isReady = true
    · simp only [Duplex.write, if_pos ready]
      refine ⟨lasts, .took ?_ ?_ rfl rfl rfl (by simp)⟩
      · simp only [take]
        omega
      · simp only [take]
        omega
    · simp only [Duplex.write, if_neg ready]
      exact ⟨lasts, .waited rfl rfl rfl (waitWaits ready now)⟩
  shutdown := by
    intro s now lasts
    by_cases ready : s.isReady = true
    · simp only [Duplex.shutdown, if_pos ready]
      refine ⟨lasts, .shut (fun wake => ?_) rfl rfl rfl⟩
      cases s.shutdownError <;> simp
    · simp only [Duplex.shutdown, if_neg ready]
      exact ⟨lasts, .waited rfl rfl rfl (waitWaits ready now)⟩

end Paced

end SharedPort.Stream
