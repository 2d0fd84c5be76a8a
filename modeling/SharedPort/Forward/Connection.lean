import SharedPort.Forward.Exchange
import SharedPort.Forward.Options

/-! Forwarding one connection: the target is dialled, and if it answers in time, rounds are made under a virtual clock
until both directions are done or one fails. Which direction comes first changes from round to round. -/
namespace SharedPort.Forward
open SharedPort.Stream (Duplex Wake)

namespace Exchange
variable {σ τ : Type} [Duplex σ] [Duplex τ]

def earlier : Wake → Wake → Wake
  | .soon, _ => .soon
  | _, .soon => .soon
  | .never, w => w
  | w, .never => w
  | .at s, .at t => .at (min s t)

def verdict : Progress → Progress → Except IoError (Option Wake)
  | .failed cause, _ => .error cause
  | _, .failed cause => .error cause
  | .finished, .finished => .ok none
  | .finished, .waiting w => .ok (some w)
  | .waiting w, .finished => .ok (some w)
  | .waiting v, .waiting w => .ok (some (earlier v w))

inductive Outcome
  | finished (up down : Nat)
  | failed (cause : IoError)
  | unfinished
  deriving DecidableEq, Repr

def rounds (limit room steps : Nat) : Nat → Bool → Nat → Exchange σ τ → Exchange σ τ × Outcome
  | 0, _, _, x => (x, .unfinished)
  | fuel + 1, upFirst, now, x =>
      let (x, p, q) := x.round upFirst now room steps
      match verdict p q with
      | .error cause => (x, .failed cause)
      | .ok none => (x, .finished x.up.total x.down.total)
      | .ok (some wake) =>
          match Stream.nextTry (some limit) now wake with
          | .ok time => rounds limit room steps fuel (!upFirst) (max now time) x
          | .error _ => (x, .unfinished)

/-- The whole exchange, watched for `limit` milliseconds. `fuel` bounds the rounds, and the steps in each. -/
def run (limit fuel bufferSize : Nat) (client : σ) (target : τ) : Exchange σ τ × Outcome :=
  rounds limit (Direction.roomFor bufferSize) fuel fuel true 0 ⟨client, target, {}, {}⟩

end Exchange

inductive Dialled (τ : Type)
  | connected (backend : τ)
  | failed (cause : IoError)
  | timedOut

inductive Forwarded (σ τ : Type)
  | notConnected (cause : Error)
  | exchanged (x : Exchange σ τ) (outcome : Exchange.Outcome)

def dialFailure (o : Options) (target : String) : Dialled τ → Option Error
  | .connected _ => none
  | .failed cause => some (.io cause)
  | .timedOut => some (.other s!"Timed out after {o.connectTimeout.render} connecting to {target}")

def connection [Duplex σ] [Duplex τ] (dial : String → Dialled τ) (limit fuel : Nat) (o : Options) (target : String)
    (client : σ) : Forwarded σ τ :=
  match dial target with
  | .connected backend =>
      let (x, outcome) := Exchange.run limit fuel o.bufferSize client backend
      .exchanged x outcome
  | other => .notConnected ((dialFailure o target other).getD (.other ""))

end SharedPort.Forward
