import SharedPort.Gateway.Basic

/-! The loop that takes the connections of one route and forwards each to the route's target. It waits for the next
connection and for the end of its forwards at once; when a forward ends first, the accept call that waited is dropped
and a new one is made. It stops when its listener is closed, and takes its forwards down with it. -/
namespace SharedPort.Gateway
open SharedPort.Selector (State Routed)

inductive ForwardStage
  | running
  | ended
  | stopped
  | joined
  deriving DecidableEq, Repr

structure ForwardTask (κ : Type) where
  connection : κ
  stage : ForwardStage
  deriving Repr

inductive LoopStage
  | serving
  | stopping
  | returned
  deriving DecidableEq, Repr

structure RouteLoop (κ : Type) where
  target : String
  stage : LoopStage := .serving
  forwards : List (ForwardTask κ) := []
  deriving Repr

namespace RouteLoop

def accepted (l : RouteLoop κ) (connection : κ) : RouteLoop κ :=
  if l.stage = .serving then { l with forwards := l.forwards ++ [⟨connection, .running⟩] } else l

def acceptFailed (l : RouteLoop κ) (cause : Error) : RouteLoop κ :=
  if l.stage = .serving ∧ cause.isClosed then { l with stage := .stopping } else l

def move (l : RouteLoop κ) (i : Nat) (old new : ForwardStage) : RouteLoop κ :=
  { l with forwards := l.forwards.modify i fun f => if f.stage = old then { f with stage := new } else f }

def forwardEnded (l : RouteLoop κ) (i : Nat) : RouteLoop κ := l.move i .running .ended

def join (l : RouteLoop κ) (i : Nat) : RouteLoop κ := l.move i .ended .joined

def stopForward (l : RouteLoop κ) (i : Nat) : RouteLoop κ :=
  if l.stage = .stopping then l.move i .running .stopped else l

def finish (l : RouteLoop κ) : RouteLoop κ :=
  if l.stage = .stopping ∧ l.forwards.all (·.stage ≠ .running) then { l with stage := .returned } else l

def shutdown (l : RouteLoop κ) : RouteLoop κ := ((List.range l.forwards.length).foldl stopForward l).finish

end RouteLoop

structure Serving where
  listener : Nat
  loop : RouteLoop Routed
  waiting : Option Nat := none

namespace Serving

def listen (v : Serving) (s : State) : Serving × State :=
  if v.loop.stage = .serving ∧ v.waiting = none then
    ({ v with waiting := some s.accepts.length }, s.beginAccept v.listener)
  else (v, s)

def take (v : Serving) (s : State) : Serving :=
  match v.waiting.bind fun call => s.accepts[call]? with
  | some ⟨_, .returned (.ok routed)⟩ => { v with waiting := none, loop := v.loop.accepted routed }
  | some ⟨_, .returned (.error e)⟩ => { v with waiting := none, loop := v.loop.acceptFailed e }
  | _ => v

def isFree (v : Serving) (s : State) : Bool := v.waiting.all s.canCancelAccept

/-- Takes note that a forward ended: the accept call that waits is dropped. One that does not rest, or has its result, is
seen to first. -/
def join (v : Serving) (i : Nat) (s : State) : Serving × State :=
  if v.loop.stage = .serving ∧ (v.loop.forwards[i]?).any (·.stage = .ended) ∧ v.isFree s then
    ({ v with waiting := none, loop := v.loop.join i }, (v.waiting.map s.cancelAccept).getD s)
  else (v, s)

end Serving
end SharedPort.Gateway
