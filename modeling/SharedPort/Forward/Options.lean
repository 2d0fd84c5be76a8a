import SharedPort.Config.Basic
import SharedPort.Stream.Script

/-! The limits of a forwarded connection, and one direction of it as a machine that is fed the outcomes of its attempts.
Everything that was read is written before the next read. At the end of the reader the writer is shut down, and whether
that goes well does not matter. -/
namespace SharedPort.Forward
open SharedPort.Stream (Attempt)

structure Options where
  bufferSize : Nat
  connectTimeout : Span
  deriving DecidableEq, Repr

def Options.ofConfig (c : Config) : Options := ⟨c.bufferSize.toNat, c.connectTimeout⟩

def Options.debug (o : Options) : String :=
  s!"ForwardOptions \x7b buffer_size: {o.bufferSize}, connect_timeout: {o.connectTimeout.render} \x7d"

/-- `writing size rest` is the chunk of `size` bytes of which `rest` is still to be written. -/
inductive Phase
  | reading
  | writing (size : Nat) (rest : Bytes)
  | ending
  | finished
  | failed (cause : IoError)
  deriving DecidableEq, Repr

structure Direction where
  phase : Phase := .reading
  total : Nat := 0
  deriving DecidableEq, Repr

namespace Direction

def fail (cause : IoError) (d : Direction) : Direction := { d with phase := .failed cause }

def onRead (d : Direction) : Attempt Bytes → Direction
  | .done [] => { d with phase := .ending }
  | .done bytes => { d with phase := .writing bytes.length bytes }
  | .failed cause => d.fail cause
  | .notReady _ => d

def onWrite (d : Direction) (size : Nat) (rest : Bytes) : Attempt Nat → Direction
  | .done 0 => d.fail .writeZero
  | .done taken =>
      if (rest.drop taken).isEmpty then { phase := .reading, total := d.total + size }
      else { d with phase := .writing size (rest.drop taken) }
  | .failed cause => d.fail cause
  | .notReady _ => d

def onShutdown (d : Direction) : Attempt Unit → Direction
  | .notReady _ => d
  | _ => { d with phase := .finished }

def roomFor (bufferSize : Nat) : Nat := max bufferSize 1

theorem roomForPositive (bufferSize : Nat) : 0 < roomFor bufferSize := by
  unfold roomFor
  omega

end Direction
end SharedPort.Forward
