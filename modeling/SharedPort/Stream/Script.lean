import SharedPort.Error

/-! Attempts to read or write, and streams that behave as a script says. An attempt gives a value, fails, or says when
it is worth trying again. A read that gives no bytes although there was room for some is the end of the stream. -/
namespace SharedPort.Stream

/-- When an attempt that was not ready may go better: at once, at a time on the clock, or never. Times are whole
milliseconds. -/
inductive Wake
  | soon
  | at (time : Nat)
  | never
  deriving DecidableEq, Repr

inductive Attempt (α : Type)
  | done (value : α)
  | failed (cause : IoError)
  | notReady (wake : Wake)
  deriving DecidableEq, Repr

def Attempt.fits (room : Nat) : Attempt Bytes → Bool
  | .done bytes => bytes.length ≤ room
  | _ => true

abbrev ReadOp (σ : Type) := (now room : Nat) → σ → Attempt Bytes × σ

inductive Item
  | data (bytes : Bytes)
  | failure (cause : IoError)
  | delay (length : Nat)
  | waitUntil (time : Nat)
  | pend
  | hang
  deriving DecidableEq, Repr

abbrev Script := List Item

namespace Script

def putBack (bytes : Bytes) (rest : Script) : Script :=
  if bytes.isEmpty then rest else .data bytes :: rest

/-- One attempt. A chunk is never joined with the next one; a pause begins with the first attempt that meets it. -/
def read (now room : Nat) : Script → Attempt Bytes × Script
  | [] => (.done [], [])
  | .data bytes :: rest =>
      if bytes.isEmpty then read now room rest
      else (.done (bytes.take room), putBack (bytes.drop room) rest)
  | .failure cause :: rest => (.failed cause, rest)
  | .delay length :: rest =>
      if length = 0 then read now room rest
      else (.notReady (.at (now + length)), .waitUntil (now + length) :: rest)
  | .waitUntil time :: rest =>
      if time ≤ now then read now room rest else (.notReady (.at time), .waitUntil time :: rest)
  | .pend :: rest => (.notReady .soon, rest)
  | .hang :: rest => (.notReady .never, .hang :: rest)

def content : Script → Bytes
  | [] => []
  | .data bytes :: rest => bytes ++ content rest
  | .failure _ :: _ => []
  | .hang :: _ => []
  | _ :: rest => content rest

def itemWeight : Item → Nat
  | .data bytes => bytes.length + 1
  | .delay _ => 3
  | .waitUntil _ => 2
  | _ => 1

def weight (s : Script) : Nat := s.foldr (fun item rest => itemWeight item + rest) 2

end Script

structure WritePlan where
  atMost : Option Nat := none
  failAfter : Option (Nat × IoError) := none
  zeroAfter : Option Nat := none
  shutdownError : Option IoError := none
  isVectored : Bool := false
  deriving DecidableEq, Repr

inductive Call
  | write (taken : Nat)
  | writeVectored (slices taken : Nat)
  | flush
  | shutdown
  deriving DecidableEq, Repr

structure Sink where
  plan : WritePlan := {}
  count : Nat := 0
  chunks : List Bytes := []
  calls : List Call := []
  deriving DecidableEq, Repr

namespace Sink

def written (s : Sink) : Bytes := s.chunks.reverse.flatten

def room (s : Sink) (offered : Nat) : Except IoError Nat :=
  match s.plan.failAfter with
  | some (limit, cause) =>
      if limit ≤ s.count then .error cause
      else .ok (cap (min offered (limit - s.count)))
  | none => .ok (cap offered)
where
  cap (offered : Nat) : Nat :=
    let offered := match s.plan.zeroAfter with
      | some limit => min offered (limit - s.count)
      | none => offered
    match s.plan.atMost with
    | some most => min offered most
    | none => offered

def record (s : Sink) (bytes : Bytes) (call : Nat → Call) : Except IoError Nat × Sink :=
  match s.room bytes.length with
  | .error cause => (.error cause, s)
  | .ok taken =>
      (.ok taken,
        { s with count := s.count + taken, chunks := bytes.take taken :: s.chunks, calls := call taken :: s.calls })

def write (s : Sink) (bytes : Bytes) : Except IoError Nat × Sink := s.record bytes .write

def writeVectored (s : Sink) (slices : List Bytes) : Except IoError Nat × Sink :=
  s.record slices.flatten (.writeVectored slices.length)

def flush (s : Sink) : Except IoError Unit × Sink := (.ok (), { s with calls := .flush :: s.calls })

def shutdown (s : Sink) : Except IoError Unit × Sink :=
  (match s.plan.shutdownError with
    | some cause => .error cause
    | none => .ok (), { s with calls := .shutdown :: s.calls })

def writeAllWithin : Nat → Sink → Bytes → Except IoError Unit × Sink
  | _, s, [] => (.ok (), s)
  | 0, s, _ => (.error .writeZero, s)
  | calls + 1, s, bytes =>
      match s.write bytes with
      | (.error cause, s) => (.error cause, s)
      | (.ok 0, s) => (.error .writeZero, s)
      | (.ok taken, s) => writeAllWithin calls s (bytes.drop taken)

def writeAll (s : Sink) (bytes : Bytes) : Except IoError Unit × Sink := writeAllWithin bytes.length s bytes

end Sink

structure Scripted where
  reads : Script := []
  sink : Sink := {}
  deriving DecidableEq, Repr

namespace Scripted

def read : ReadOp Scripted := fun now room s =>
  let (attempt, reads) := s.reads.read now room
  (attempt, { s with reads })

def onSink (act : Sink → α × Sink) (s : Scripted) : α × Scripted :=
  let (value, sink) := act s.sink
  (value, { s with sink })

def attempts (s : Scripted) : Nat := 2 * s.reads.weight

end Scripted
end SharedPort.Stream
