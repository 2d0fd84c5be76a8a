import SharedPort.Stream.Script

/-! Reading the prefix of a stream ahead, and replaying it: the bytes read ahead are given again before the stream
itself is read, so that a reader finds the stream as it was. Under the virtual clock an attempt that was not ready is
made again at the next time at which something can happen; `fuel` bounds the number of attempts. -/
namespace SharedPort.Stream

inductive Gather
  | reading (missing : Nat) (got : Bytes)
  | complete (bytes : Bytes)
  | failed (cause : IoError)
  deriving DecidableEq, Repr

namespace Gather

def needing (missing : Nat) (got : Bytes) : Gather :=
  if missing = 0 then .complete got else .reading missing got

def start (size : Nat) : Gather := needing size []

def feed (missing : Nat) (got : Bytes) : Attempt Bytes → Gather
  | .done [] => .failed .earlyEnd
  | .done bytes => needing (missing - bytes.length) (got ++ bytes)
  | .failed cause => if cause.kind = .interrupted then .reading missing got else .failed cause
  | .notReady _ => .reading missing got

end Gather

structure Replay (σ : Type) where
  inner : σ
  header : Bytes
  pending : Bytes
  deriving Repr

namespace Replay

def ofHeader (inner : σ) (header : Bytes) : Replay σ := ⟨inner, header, header⟩

def read (readInner : ReadOp σ) : ReadOp (Replay σ) := fun now room r =>
  if r.pending ≠ [] ∧ 0 < room then
    (.done (r.pending.take room), { r with pending := r.pending.drop room })
  else
    let (attempt, inner) := readInner now room r.inner
    (attempt, { r with inner })

def onInner (act : σ → α × σ) (r : Replay σ) : α × Replay σ :=
  let (value, inner) := act r.inner
  (value, { r with inner })

def parts (r : Replay σ) : σ × Bytes := (r.inner, r.pending)

theorem readPending {readInner : ReadOp σ} {now room : Nat} {r : Replay σ} (pending : r.pending ≠ [])
    (hasRoom : 0 < room) :
    r.read readInner now room =
      (.done (r.pending.take room), { r with pending := r.pending.drop room }) := by
  simp [read, pending, hasRoom]

theorem readExhausted {readInner : ReadOp σ} {now room : Nat} {r : Replay σ} (h : r.pending = []) :
    r.read readInner now room = ((readInner now room r.inner).1, { r with inner := (readInner now room r.inner).2 }) := by
  simp [read, h]

theorem readHeader (readInner : ReadOp σ) (now room : Nat) (r : Replay σ) :
    (r.read readInner now room).2.header = r.header := by
  unfold read
  split <;> rfl

theorem readSuffix {readInner : ReadOp σ} {now room : Nat} {r : Replay σ} :
    (r.read readInner now room).2.pending <:+ r.pending := by
  unfold read
  split
  · exact List.drop_suffix room r.pending
  · exact List.suffix_refl _

end Replay

class Duplex (σ : Type) where
  read : ReadOp σ
  write : (now : Nat) → Bytes → σ → Attempt Nat × σ
  shutdown : (now : Nat) → σ → Attempt Unit × σ

def Attempt.ofResult : Except IoError α → Attempt α
  | .ok value => .done value
  | .error cause => .failed cause

instance : Duplex Scripted where
  read := Scripted.read
  write _ bytes s :=
    let (taken, s) := s.onSink (·.write bytes)
    (.ofResult taken, s)
  shutdown _ s :=
    let (closed, s) := s.onSink (·.shutdown)
    (.ofResult closed, s)

instance [Duplex σ] : Duplex (Replay σ) where
  read := Replay.read Duplex.read
  write now bytes r := r.onInner (Duplex.write now bytes)
  shutdown now r := r.onInner (Duplex.shutdown now)

inductive Stop
  | failed (cause : IoError)
  | timedOut
  | stuck
  deriving DecidableEq, Repr

structure Settled (σ : Type) where
  result : Except Stop Bytes
  now : Nat
  stream : σ

/-- The time at which a reader that is not ready tries again. The limit counts only once an attempt at its very time was
not ready. -/
def nextTry (limit : Option Nat) (now : Nat) : Wake → Except Stop Nat
  | .soon =>
      match limit with
      | some t => if t ≤ now then .error .timedOut else .ok now
      | none => .ok now
  | .at time =>
      match limit with
      | some t => if t ≤ now ∨ t < time then .error .timedOut else .ok time
      | none => .ok time
  | .never =>
      match limit with
      | some _ => .error .timedOut
      | none => .error .stuck

def stopTime (limit : Option Nat) (now : Nat) : Nat := max now (limit.getD now)

def gather (read : ReadOp σ) (limit : Option Nat) : Nat → Nat → Gather → σ → Settled σ
  | _, now, .complete bytes, s => ⟨.ok bytes, now, s⟩
  | _, now, .failed cause, s => ⟨.error (.failed cause), now, s⟩
  | 0, now, .reading .., s => ⟨.error .stuck, now, s⟩
  | fuel + 1, now, .reading missing got, s =>
      match read now missing s with
      | (.notReady wake, s) =>
          match nextTry limit now wake with
          | .ok time => gather read limit fuel (max now time) (.reading missing got) s
          | .error stop => ⟨.error stop, if stop = .timedOut then stopTime limit now else now, s⟩
      | (attempt, s) => gather read limit fuel now (Gather.feed missing got attempt) s

def readExact (read : ReadOp σ) (fuel now size : Nat) (s : σ) : Settled σ :=
  gather read none fuel now (.start size) s

def ampleRoom : Nat := Nat.pow 2 32

def readToEnd (read : ReadOp σ) : Nat → Nat → List Bytes → σ → Settled σ × Bytes
  | 0, now, got, s => (⟨.error .stuck, now, s⟩, got.reverse.flatten)
  | fuel + 1, now, got, s =>
      match read now ampleRoom s with
      | (.done [], s) => (⟨.ok got.reverse.flatten, now, s⟩, got.reverse.flatten)
      | (.done bytes, s) => readToEnd read fuel now (bytes :: got) s
      | (.failed cause, s) =>
          if cause.kind = .interrupted then readToEnd read fuel now got s
          else (⟨.error (.failed cause), now, s⟩, got.reverse.flatten)
      | (.notReady wake, s) =>
          match nextTry none now wake with
          | .ok time => readToEnd read fuel (max now time) got s
          | .error stop => (⟨.error stop, now, s⟩, got.reverse.flatten)

def readPrefix (read : ReadOp σ) (fuel now size : Nat) (limit : Option Nat) (s : σ) :
    Option (Except Error (Replay σ)) × Nat :=
  let settled := gather read (limit.map (now + ·)) fuel now (.start size) s
  match settled.result with
  | .ok header => (some (.ok (.ofHeader settled.stream header)), settled.now)
  | .error (.failed cause) => (some (.error (.io cause)), settled.now)
  | .error .timedOut => (some (.error (.peekTimeout (.ofMillis (limit.getD 0)))), settled.now)
  | .error .stuck => (none, settled.now)

end SharedPort.Stream
