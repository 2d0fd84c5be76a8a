import Mathlib.Data.Nat.Pairing
import SharedPort.Gateway.RouteLoop
import SharedPort.Proofs.Progress
import SharedPort.Proofs.Selector.Changes
import SharedPort.Proofs.Stream.News
import SharedPort.Stream.Script

/-! A gateway at work with its clients. Serve calls, workers and route loops take turns in any order; the connections
that the source returns are numbered and bring their streams with them. Nobody closes the gateway and its source fails
in passing only. -/
namespace SharedPort.Gateway
open SharedPort.Selector (State Routed Worker Arrival)
open SharedPort.Stream (Attempt Script Scripted)

structure Caller where
  start : Scripted
  now : Scripted

def Caller.whole (caller : Caller) : Bytes := caller.start.reads.whole

structure World where
  selector : State
  loops : List Serving
  callers : List Caller := []

/- `ended` is a forward that comes to its end, `join` a loop that takes note of one, `late` the time limit
of a worker. -/
inductive Turn
  | serve
  | serveStep (call : Nat)
  | hiccup (call : Nat) (cause : IoError)
  | arrive (call : Nat) (peer : SocketAddress) (stream : Scripted)
  | read (worker : Nat)
  | late (worker : Nat)
  | route (worker : Nat)
  | listen (route : Nat)
  | accept (route : Nat)
  | take (route : Nat)
  | ended (route forward : Nat)
  | join (route forward : Nat)
  | advance (length : Nat)
  deriving DecidableEq

namespace World

def start (g : Gateway) : World :=
  ⟨g.selector, g.routes.map fun r => { listener := r.listener, loop := { target := r.target } }, []⟩

def act (w : World) (e : State.Event) : World := { w with selector := w.selector.apply e }

def read (w : World) (i : Nat) : World :=
  match w.selector.workers[i]? with
  | some ⟨arrival, _, _, .peeking missing _⟩ =>
      match w.callers[arrival.connection]? with
      | none => w
      | some caller =>
          let (attempt, now) := caller.now.read w.selector.now missing
          { w.act (.workerRead i attempt) with callers := w.callers.set arrival.connection { caller with now } }
  | _ => w

def awaited (w : World) (l : Nat) : Option Nat := (w.loops[l]?).bind Serving.waiting

def step (w : World) (l : Nat) (change : Serving → State → Serving × State) : World :=
  match w.loops[l]? with
  | none => w
  | some v => { w with selector := (change v w.selector).2, loops := w.loops.set l (change v w.selector).1 }

def turn (w : World) : Turn → World
  | .serve => w.act .beginServe
  | .serveStep call => w.act (.serveStep call)
  | .hiccup call cause => if cause.isTransient then w.act (.acceptFailed call (.io cause)) else w
  | .arrive call peer stream =>
      if w.selector.isAccepting call then
        { w.act (.accepted call ⟨w.callers.length, peer⟩) with callers := w.callers ++ [⟨stream, stream⟩] }
      else w
  | .read i => w.read i
  | .late i => w.act (.workerTimeout i)
  | .route i => w.act (.workerStep i)
  | .listen l => w.step l fun v s => v.listen s
  | .accept l => ((w.awaited l).map fun call => w.act (.acceptStep call)).getD w
  | .take l => w.step l fun v s => (v.take s, s)
  | .ended l j => w.step l fun v s => ({ v with loop := v.loop.forwardEnded j }, s)
  | .join l j => w.step l fun v s => v.join j s
  | .advance length => w.act (.advance length)

def after (w : World) (turns : Nat → Turn) : Nat → World
  | 0 => w
  | n + 1 => (w.after turns n).turn (turns n)

def contact (w : World) (l j : Nat) : Option (String × Routed) :=
  (w.loops[l]?).bind fun v => (v.loop.forwards[j]?).map fun f => (v.loop.target, f.connection)

/- Whether the worker finds room in the queue that it is about to fill. -/
def hasRoom (w : World) (i : Nat) : Bool :=
  match w.selector.workers[i]? with
  | some ⟨_, _, _, .found _ l⟩ => !(w.selector.listeners[l]?).any fun L => L.queue.isFull L.capacity
  | _ => true

end World

/- What is bound to happen again and again, however the other turns fall: readers read, workers and loops go
on, and time passes. -/
inductive Duty
  | read (worker : Nat)
  | route (worker : Nat)
  | listen (route : Nat)
  | accept (route : Nat)
  | take (route : Nat)
  | pass
  deriving DecidableEq

def Turn.duty : Turn → Option Duty
  | .read i => some (.read i)
  | .route i => some (.route i)
  | .listen l => some (.listen l)
  | .accept l => some (.accept l)
  | .take l => some (.take l)
  | .advance length => if 0 < length then some .pass else none
  | .serve | .serveStep _ | .hiccup .. | .arrive .. | .late _ | .ended .. | .join .. => none

def Fair (turns : Nat → Turn) : Prop := ∀ d n, ∃ m, n ≤ m ∧ (turns m).duty = some d

theorem keptLater {p : World → Prop} {w : World} {turns : Nat → Turn} {m n : Nat}
    (keeps : ∀ n, p (w.after turns n) → p (w.after turns (n + 1))) (later : m ≤ n) (here : p (w.after turns m)) :
    p (w.after turns n) := Progress.keptFrom keeps later here

def roundTurn (n : Nat) : Turn :=
  match n % 6 with
  | 0 => .read (n / 6)
  | 1 => .route (n / 6)
  | 2 => .listen (n / 6)
  | 3 => .accept (n / 6)
  | 4 => .take (n / 6)
  | _ => .advance 1

def opened (opening : List Turn) (n : Nat) : Turn :=
  (opening[n]?).getD (roundTurn (Nat.unpair (n - opening.length)).1)

theorem roundDuty (d : Duty) : ∃ n, (roundTurn n).duty = some d := by
  cases d with
  | read i => exact ⟨6 * i, by simp [roundTurn, Turn.duty]⟩
  | route i => exact ⟨6 * i + 1, by simp [roundTurn, Turn.duty]; omega⟩
  | listen l => exact ⟨6 * l + 2, by simp [roundTurn, Turn.duty]; omega⟩
  | accept l => exact ⟨6 * l + 3, by simp [roundTurn, Turn.duty]; omega⟩
  | take l => exact ⟨6 * l + 4, by simp [roundTurn, Turn.duty]; omega⟩
  | pass => exact ⟨5, rfl⟩

theorem openedFair (opening : List Turn) : Fair (opened opening) := by
  intro d n
  obtain ⟨k, duty⟩ := roundDuty d
  have later : n ≤ Nat.pair k n := Nat.right_le_pair k n
  refine ⟨opening.length + Nat.pair k n, by omega, ?_⟩
  rw [opened, List.getElem?_eq_none (Nat.le_add_right _ _), Option.getD_none, Nat.add_sub_cancel_left, Nat.unpair_pair]
  exact duty

end SharedPort.Gateway
