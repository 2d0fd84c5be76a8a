import SharedPort.Net.Address
import SharedPort.Text.Basic

/-! A virtual listener: a closable queue with an optional limit, and the bell that wakes whoever waits at it. Whoever
wants to wait first takes a ticket, then looks at the queue once more, then sleeps. One ring wakes the oldest ticket
that still waits, or is kept, once only, for the next ticket taken. -/
namespace SharedPort.Listener

structure Queue (α : Type) where
  items : List α := []
  closed : Bool := false
  deriving Repr

inductive Refusal
  | closed
  | full
  deriving DecidableEq, Repr

inductive Pushed (α : Type)
  | accepted
  | refused (why : Refusal) (item : α)
  deriving Repr

inductive Popped (α : Type)
  | item (value : α)
  | closed
  | empty
  deriving Repr

namespace Queue

def isFull (capacity : Option Nat) (q : Queue α) : Bool := capacity.any (· ≤ q.items.length)

def push (capacity : Option Nat) (q : Queue α) (item : α) : Pushed α × Queue α :=
  if q.closed then (.refused .closed item, q)
  else if q.isFull capacity then (.refused .full item, q)
  else (.accepted, { q with items := q.items ++ [item] })

def pop (q : Queue α) : Popped α × Queue α :=
  match q.items with
  | item :: rest => (.item item, { q with items := rest })
  | [] => (if q.closed then .closed else .empty, q)

def close (q : Queue α) : Bool × Queue α := (!q.closed, { q with closed := true })

theorem pushRefused {capacity : Option Nat} {q : Queue α} {item back : α} {why : Refusal}
    (h : (q.push capacity item).1 = .refused why back) : back = item ∧ (q.push capacity item).2 = q := by
  unfold push at h ⊢
  split at h
  · cases h
    simp [*]
  · split at h
    · cases h
      simp [*]
    · cases h

theorem pushClosed (capacity : Option Nat) (q : Queue α) (item : α) :
    (q.push capacity item).2.closed = q.closed := by
  unfold push
  split
  · rfl
  · split <;> rfl

theorem popClosed (q : Queue α) : q.pop.2.closed = q.closed := by
  unfold pop
  split <;> rfl

end Queue

/-- A ticket waits, was woken by a ring meant for one or for all, or found a ring that was kept. -/
inductive Ticket
  | waiting
  | woken
  | wokenWithAll
  | through
  deriving DecidableEq, Repr

structure Bell where
  kept : Bool := false
  tickets : List (Nat × Ticket) := []
  deriving DecidableEq, Repr

namespace Bell

def take (holder : Nat) (b : Bell) : Bell :=
  ⟨false, b.tickets ++ [(holder, if b.kept then .through else .waiting)]⟩

def wakeFirst : List (Nat × Ticket) → Option (List (Nat × Ticket))
  | [] => none
  | (holder, .waiting) :: rest => some ((holder, .woken) :: rest)
  | other :: rest => (wakeFirst rest).map (other :: ·)

def ringOne (b : Bell) : Bell :=
  match wakeFirst b.tickets with
  | some tickets => { b with tickets }
  | none => { b with kept := true }

def ringAll (b : Bell) : Bell :=
  { b with tickets := b.tickets.map fun (holder, t) => (holder, if t = .waiting then .wokenWithAll else t) }

def ticket? (holder : Nat) (b : Bell) : Option Ticket := b.tickets.lookup holder

def isAwake (holder : Nat) (b : Bell) : Bool := (b.ticket? holder).any (· ≠ .waiting)

def discard (holder : Nat) (b : Bell) : Bell := { b with tickets := b.tickets.filter (·.1 ≠ holder) }

def pass (holder : Nat) (b : Bell) : Bell := b.discard holder

/-- Gives a ticket back. A ring that was meant for one goes on to the next. -/
def leave (holder : Nat) (b : Bell) : Bell :=
  if b.ticket? holder = some .woken then (b.discard holder).ringOne else b.discard holder

theorem wakeFirstNone {tickets : List (Nat × Ticket)} :
    wakeFirst tickets = none ↔ ∀ entry ∈ tickets, entry.2 ≠ .waiting := by
  induction tickets with
  | nil => simp [wakeFirst]
  | cons entry rest ih =>
    obtain ⟨holder, ticket⟩ := entry
    cases ticket <;> simp [wakeFirst, ih]

theorem ringAllWakes {b : Bell} {holder : Nat} {t : Ticket} (h : (holder, t) ∈ b.ringAll.tickets) :
    t ≠ .waiting := by
  simp only [ringAll, List.mem_map, Prod.mk.injEq] at h
  obtain ⟨⟨_, old⟩, _, _, rfl⟩ := h
  cases old <;> simp

end Bell
end SharedPort.Listener

namespace SharedPort

structure Listener (α : Type) where
  key : Option Bytes
  address : SocketAddress
  capacity : Option Nat
  queue : Listener.Queue α := {}
  bell : Listener.Bell := {}
  deriving Repr

namespace Listener

def pending (l : Listener α) : Nat := l.queue.items.length

def isClosed (l : Listener α) : Bool := l.queue.closed

def isDefault (l : Listener α) : Bool := l.key.isNone

def display (l : Listener α) : String :=
  match l.key with
  | some key => s!"{Quoted.text (Utf8.decodeLossy key)}@{l.address.render}"
  | none => s!"default@{l.address.render}"

def debug (l : Listener α) : String :=
  let key := match l.key with
    | some key => s!"Some({Quoted.bytes key})"
    | none => "None"
  s!"VirtualListener \x7b key: {key}, local_addr: {l.address.render}, pending: {l.pending}, closed: {l.isClosed} \x7d"

end Listener
end SharedPort
