import Mathlib.Data.List.Nodup
import SharedPort.Listener

/-! A closable queue by what is seen of it, and the tickets of a bell after each of its operations. The signs that a
queue gives, one after another, are the whole of its behaviour. A ring for one wakes one holder and touches no other
ticket, or nobody waits; it is kept only as long as nobody waits. -/
namespace SharedPort.Listener
variable {α : Type} {capacity : Option Nat}

/- `handed` and `told` name the call that gets an item or learns that there will be none. A close has the number of its
call, if it has one, and the answer whether the queue was open. -/
inductive Sign (α : Type) where
  | pushed (item : α)
  | refused (why : Refusal) (item back : α)
  | handed (call : Nat) (item : α)
  | told (call : Nat)
  | closed (call : Option Nat) (answer : Bool)
  deriving Repr

namespace Sign

def pushed? : Sign α → Option α
  | .pushed item => some item
  | .refused .. | .handed .. | .told _ | .closed .. => none

def handed? : Sign α → Option α
  | .handed _ item => some item
  | .pushed _ | .refused .. | .told _ | .closed .. => none

def answer? : Sign α → Option Bool
  | .closed _ answer => some answer
  | .pushed _ | .refused .. | .handed .. | .told _ => none

end Sign

inductive Shows (capacity : Option Nat) : Queue α → Sign α → Queue α → Prop where
  | pushed {items item} (room : ∀ n, capacity = some n → items.length < n) :
      Shows capacity ⟨items, false⟩ (.pushed item) ⟨items ++ [item], false⟩
  | late {items item} : Shows capacity ⟨items, true⟩ (.refused .closed item item) ⟨items, true⟩
  | crowded {items item n} (bound : capacity = some n) (full : n ≤ items.length) :
      Shows capacity ⟨items, false⟩ (.refused .full item item) ⟨items, false⟩
  | handed {item items closed call} : Shows capacity ⟨item :: items, closed⟩ (.handed call item) ⟨items, closed⟩
  | told {call} : Shows capacity ⟨[], true⟩ (.told call) ⟨[], true⟩
  | closed {items closed call} : Shows capacity ⟨items, closed⟩ (.closed call !closed) ⟨items, true⟩

inductive Shown (capacity : Option Nat) : Queue α → List (Sign α) → Queue α → Prop where
  | nil {q} : Shown capacity q [] q
  | cons {q r last sign signs} (first : Shows capacity q sign r) (rest : Shown capacity r signs last) :
      Shown capacity q (sign :: signs) last

def pushedIn (signs : List (Sign α)) : List α := signs.flatMap fun sign => sign.pushed?.toList

def handedIn (signs : List (Sign α)) : List α := signs.flatMap fun sign => sign.handed?.toList

def answersIn (signs : List (Sign α)) : List Bool := signs.flatMap fun sign => sign.answer?.toList

theorem Shown.one {q r : Queue α} {sign : Sign α} (shows : Shows capacity q sign r) : Shown capacity q [sign] r :=
  .cons shows .nil

theorem Shown.append {q r last : Queue α} {before after : List (Sign α)} (first : Shown capacity q before r)
    (second : Shown capacity r after last) : Shown capacity q (before ++ after) last := by
  induction first with
  | nil => exact second
  | cons sign _ ih => exact .cons sign (ih second)

theorem showsPush (q : Queue α) (item : α) :
    Shows capacity q (match (q.push capacity item).1 with
      | .accepted => .pushed item
      | .refused why back => .refused why item back) (q.push capacity item).2 := by
  obtain ⟨items, closed⟩ := q
  cases closed with
  | true => exact .late
  | false =>
    by_cases full : Queue.isFull capacity ⟨items, false⟩ = true
    · obtain ⟨n, bound, crowd⟩ := (Option.any_eq_true _ _).mp full
      simp only [Queue.push, if_pos full, Bool.false_eq_true, if_false]
      exact .crowded bound (by simpa using crowd)
    · simp only [Queue.push, if_neg full, Bool.false_eq_true, if_false]
      refine .pushed fun n bound => ?_
      simpa [Queue.isFull, bound] using full

theorem showsClose (q : Queue α) (call : Option Nat) : Shows capacity q (.closed call q.close.1) q.close.2 := .closed

theorem Shown.conserved {q r : Queue α} {signs : List (Sign α)} (shown : Shown capacity q signs r) :
    handedIn signs ++ r.items = q.items ++ pushedIn signs := by
  induction shown with
  | nil => simp [handedIn, pushedIn]
  | cons first _ ih => cases first <;> simpa [handedIn, pushedIn, Sign.handed?, Sign.pushed?] using ih

theorem Shown.bounded {q r : Queue α} {signs : List (Sign α)} (shown : Shown capacity q signs r) {n : Nat}
    (bound : capacity = some n) (within : q.items.length ≤ n) : r.items.length ≤ n := by
  induction shown with
  | nil => exact within
  | cons first _ ih =>
    apply ih
    cases first with
    | pushed room =>
      have less := room n bound
      simp only [List.length_append, List.length_singleton]
      omega
    | handed => exact Nat.le_of_succ_le within
    | late | crowded | told | closed => exact within

theorem Shown.staysClosed {q r : Queue α} {signs : List (Sign α)} (shown : Shown capacity q signs r)
    (closed : q.closed = true) : r.closed = true := by
  induction shown with
  | nil => exact closed
  | cons first _ ih =>
    apply ih
    cases first with
    | pushed | crowded => cases closed
    | handed => exact closed
    | late | told | closed => rfl

theorem Shown.enters {q r : Queue α} {signs : List (Sign α)} (shown : Shown capacity q signs r)
    (closed : q.closed = true) : pushedIn signs = [] := by
  induction shown with
  | nil => rfl
  | cons first _ ih =>
    cases first with
    | pushed | crowded => cases closed
    | handed => exact ih closed
    | late | told | closed => exact ih rfl

theorem Shown.answers {q r : Queue α} {signs : List (Sign α)} (shown : Shown capacity q signs r) :
    ∃ again, answersIn signs = (if q.closed = r.closed then [] else [true]) ++ List.replicate again false := by
  induction shown with
  | nil => exact ⟨0, by simp [answersIn]⟩
  | cons first rest ih =>
    obtain ⟨again, answers⟩ := ih
    cases first with
    | pushed | late | crowded | handed | told => exact ⟨again, answers⟩
    | @closed items closed call =>
      rw [rest.staysClosed rfl] at answers ⊢
      cases closed with
      | true => exact ⟨again + 1, congrArg (false :: ·) answers⟩
      | false => exact ⟨again, congrArg (true :: ·) answers⟩

end SharedPort.Listener

namespace SharedPort.Listener.Bell

def holders (b : Bell) : List Nat := b.tickets.map Prod.fst

theorem memHolders {b : Bell} {holder : Nat} : holder ∈ b.holders ↔ ∃ t, (holder, t) ∈ b.tickets := by
  simp [holders]

theorem oneTicket {b : Bell} (distinct : b.holders.Nodup) {holder : Nat} {t u : Ticket} (first : (holder, t) ∈ b.tickets)
    (second : (holder, u) ∈ b.tickets) : t = u := by
  obtain ⟨kept, tickets⟩ := b
  unfold holders at distinct
  dsimp only at distinct first second
  induction tickets with
  | nil => simp at first
  | cons entry rest ih =>
    obtain ⟨absent, distinct⟩ := List.nodup_cons.mp distinct
    rcases List.mem_cons.mp first with rfl | first <;> rcases List.mem_cons.mp second with same | second
    · simpa using same.symm
    · exact (absent (List.mem_map.mpr ⟨_, second, rfl⟩)).elim
    · exact (absent (List.mem_map.mpr ⟨_, first, by rw [← same]⟩)).elim
    · exact ih distinct first second

theorem ticketOfMem {b : Bell} (distinct : b.holders.Nodup) {holder : Nat} {t : Ticket}
    (member : (holder, t) ∈ b.tickets) :
    b.ticket? holder = some t := by
  obtain ⟨kept, tickets⟩ := b
  change tickets.lookup holder = some t
  unfold holders at distinct
  dsimp only at distinct member
  induction tickets with
  | nil => simp at member
  | cons entry rest ih =>
    obtain ⟨absent, distinct⟩ := List.nodup_cons.mp distinct
    rcases List.mem_cons.mp member with rfl | member
    · simp
    · have other : (holder == entry.1) = false := by
        simp only [beq_eq_false_iff_ne]
        exact fun same => absent (List.mem_map.mpr ⟨_, member, same⟩)
      have rest := ih distinct member
      obtain ⟨first, ticket⟩ := entry
      simp [List.lookup_cons, other, rest]

theorem memDiscard {b : Bell} {call holder : Nat} {t : Ticket} :
    (holder, t) ∈ (b.discard call).tickets ↔ (holder, t) ∈ b.tickets ∧ holder ≠ call := by
  simp [discard]

theorem holdersDiscard (b : Bell) (call : Nat) : (b.discard call).holders = b.holders.filter (· ≠ call) := by
  simp [holders, discard, List.filter_map, Function.comp_def]

theorem holdersTake (b : Bell) (call : Nat) : (b.take call).holders = b.holders ++ [call] := by
  simp [holders, take]

theorem holdersRingAll (b : Bell) : b.ringAll.holders = b.holders := by
  simp [holders, ringAll, Function.comp_def]

theorem wakeFirstSome {tickets woken : List (Nat × Ticket)} (woke : wakeFirst tickets = some woken) :
    ∃ before holder after, tickets = before ++ (holder, .waiting) :: after ∧
      woken = before ++ (holder, .woken) :: after := by
  induction tickets generalizing woken with
  | nil => simp [wakeFirst] at woke
  | cons entry rest ih =>
    obtain ⟨holder, ticket⟩ := entry
    cases ticket with
    | waiting =>
      simp only [wakeFirst, Option.some.injEq] at woke
      exact ⟨[], holder, rest, rfl, woke.symm⟩
    | woken | wokenWithAll | through =>
      simp only [wakeFirst, Option.map_eq_some_iff] at woke
      obtain ⟨later, woke, rfl⟩ := woke
      obtain ⟨before, other, after, rfl, rfl⟩ := ih woke
      exact ⟨_ :: before, other, after, rfl, rfl⟩

/- A ring for one is kept if nobody waits. Otherwise it goes to one of those who wait. -/
inductive RingMove (a b : Bell) : Prop where
  | kept (nobody : ∀ entry ∈ a.tickets, entry.2 ≠ .waiting) (tickets : b.tickets = a.tickets)
  | woke {holder} (waits : (holder, .waiting) ∈ a.tickets) (woken : (holder, .woken) ∈ b.tickets)
      (others : ∀ {other t}, other ≠ holder → ((other, t) ∈ b.tickets ↔ (other, t) ∈ a.tickets)) (same : b.kept = a.kept)

theorem ringMove (b : Bell) : RingMove b b.ringOne := by
  unfold ringOne
  cases woke : wakeFirst b.tickets with
  | none => exact .kept (wakeFirstNone.mp woke) rfl
  | some woken =>
    obtain ⟨before, holder, after, old, rfl⟩ := wakeFirstSome woke
    have waits : (holder, .waiting) ∈ b.tickets := by simp [old]
    refine .woke waits (by simp) (fun other => ?_) rfl
    simp [old, other]

theorem holdersRingOne (b : Bell) : b.ringOne.holders = b.holders := by
  unfold ringOne
  cases woke : wakeFirst b.tickets with
  | none => rfl
  | some woken =>
    obtain ⟨before, holder, after, old, rfl⟩ := wakeFirstSome woke
    simp [holders, old]

theorem holdersLeave (b : Bell) (call : Nat) : (b.leave call).holders = b.holders.filter (· ≠ call) := by
  unfold leave
  split
  · rw [holdersRingOne, holdersDiscard]
  · exact holdersDiscard b call

/- A ring is kept only while nobody waits. -/
def Fair (b : Bell) : Prop := b.kept = true → ∀ entry ∈ b.tickets, entry.2 ≠ .waiting

theorem fairRingOne {b : Bell} (fair : b.Fair) : b.ringOne.Fair := by
  intro kept
  cases ringMove b with
  | kept nobody tickets =>
    rw [tickets]
    exact nobody
  | woke waits _ _ same => exact (fair (same ▸ kept) _ waits rfl).elim

theorem fairDiscard {b : Bell} (call : Nat) (fair : b.Fair) : (b.discard call).Fair :=
  fun kept entry member => fair kept entry (memDiscard.mp member).1

theorem fairLeave {b : Bell} (call : Nat) (fair : b.Fair) : (b.leave call).Fair := by
  unfold leave
  split
  · exact fairRingOne (fairDiscard call fair)
  · exact fairDiscard call fair

theorem waitingRingOne {b : Bell} {holder : Nat} (waits : (holder, .waiting) ∈ b.ringOne.tickets) :
    (holder, .waiting) ∈ b.tickets := by
  cases move : ringMove b with
  | kept _ tickets => exact tickets ▸ waits
  | @woke first firstWaits _ others =>
    by_cases same : holder = first
    · exact same ▸ firstWaits
    · exact (others same).mp waits

theorem waitingDiscard {b : Bell} {call holder : Nat} (waits : (holder, .waiting) ∈ (b.discard call).tickets) :
    (holder, .waiting) ∈ b.tickets := (memDiscard.mp waits).1

theorem waitingLeave {b : Bell} {call holder : Nat} (waits : (holder, .waiting) ∈ (b.leave call).tickets) :
    (holder, .waiting) ∈ b.tickets := by
  unfold leave at waits
  split at waits
  · exact waitingDiscard (waitingRingOne waits)
  · exact waitingDiscard waits

theorem waitingTake {b : Bell} {call holder : Nat} (other : holder ≠ call)
    (waits : (holder, .waiting) ∈ (b.take call).tickets) : (holder, .waiting) ∈ b.tickets := by
  simpa [take, other] using waits

end SharedPort.Listener.Bell
