import SharedPort.Forward.Options
import SharedPort.Stream.Replay

/-! Both directions of a forwarded connection, tried in rounds. A direction goes on until it is not ready or done for,
and after a failure in the first direction the second is not tried. -/
namespace SharedPort.Forward
open SharedPort.Stream (Attempt Duplex Wake)

inductive Progress
  | waiting (wake : Wake)
  | finished
  | failed (cause : IoError)
  deriving DecidableEq, Repr

structure Lane (σ τ : Type) where
  source : σ
  target : τ
  direction : Direction

def wakeOf : Attempt α → Option Wake
  | .notReady wake => some wake
  | _ => none

def Lane.step [Duplex σ] [Duplex τ] (now room : Nat) (lane : Lane σ τ) : Option Wake × Lane σ τ :=
  match lane.direction.phase with
  | .reading =>
      let (attempt, source) := Duplex.read now room lane.source
      (wakeOf attempt, { lane with source, direction := lane.direction.onRead attempt })
  | .writing size rest =>
      let (attempt, target) := Duplex.write now rest lane.target
      (wakeOf attempt, { lane with target, direction := lane.direction.onWrite size rest attempt })
  | .ending =>
      let (attempt, target) := Duplex.shutdown now lane.target
      (wakeOf attempt, { lane with target, direction := lane.direction.onShutdown attempt })
  | .finished => (none, lane)
  | .failed _ => (none, lane)

def Lane.run [Duplex σ] [Duplex τ] (now room : Nat) : Nat → Lane σ τ → Lane σ τ × Progress
  | 0, lane => (lane, .waiting .never)
  | fuel + 1, lane =>
      match lane.direction.phase with
      | .finished => (lane, .finished)
      | .failed cause => (lane, .failed cause)
      | _ =>
          match lane.step now room with
          | (some wake, lane) => (lane, .waiting wake)
          | (none, lane) => lane.run now room fuel

structure Exchange (σ τ : Type) where
  client : σ
  target : τ
  up : Direction := {}
  down : Direction := {}

namespace Exchange

variable {σ τ : Type} [Duplex σ] [Duplex τ]

def runUp (now room fuel : Nat) (x : Exchange σ τ) : Exchange σ τ × Progress :=
  let (lane, progress) := (Lane.mk x.client x.target x.up).run now room fuel
  ({ x with client := lane.source, target := lane.target, up := lane.direction }, progress)

def runDown (now room fuel : Nat) (x : Exchange σ τ) : Exchange σ τ × Progress :=
  let (lane, progress) := (Lane.mk x.target x.client x.down).run now room fuel
  ({ x with target := lane.source, client := lane.target, down := lane.direction }, progress)

/-- One round; after a failure in the first direction the second is not tried. -/
def round (upFirst : Bool) (now room fuel : Nat) (x : Exchange σ τ) : Exchange σ τ × Progress × Progress :=
  let first := if upFirst then runUp now room fuel else runDown now room fuel
  let second := if upFirst then runDown now room fuel else runUp now room fuel
  let (x, p) := first x
  match p with
  | .failed _ => (x, p, p)
  | _ =>
      let (x, q) := second x
      (x, p, q)

end Exchange
end SharedPort.Forward
