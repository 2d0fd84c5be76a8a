import Mathlib.Logic.Function.Basic
import SharedPort.Proofs.Selector.Callers
import SharedPort.Proofs.Selector.Routing

/-! Who has the source of connections. It waits until a serve call or a close takes it, and whoever took it lets it go
once and for all: closed, unless the call is cancelled in its loop or finds the selector closed before it begins one. -/
namespace SharedPort.Selector

def CloseStage.holds : CloseStage → Bool
  | .closingSource => true
  | .swapping | .signalling | .taking | .draining | .closing _ | .ringing .. | .returned => false

def ServeStage.holds : ServeStage → Bool
  | .subscribing | .checking _ | .looping _ | .closingSource _ => true
  | .closing stage _ => stage.holds
  | .taking | .withoutSource | .aborting _ | .returned _ | .cancelled => false

def ServeStage.isIdle : ServeStage → Bool
  | .taking | .cancelled => true
  | .withoutSource | .subscribing | .checking _ | .looping _ | .closingSource _ | .closing .. | .aborting _
  | .returned _ => false

namespace State

def Idle (s : State) : Prop := ∀ stage ∈ s.serves, stage.isIdle = true

def holds (s : State) : Closer → Bool
  | .close i => (s.closes[i]?).any CloseStage.holds
  | .serve i => (s.serves[i]?).any ServeStage.holds

/- A serve call lets the source go as it is: it finds the flag set before it has begun its loop, or is dropped there. -/
inductive LeavesOpen (s : State) : Event → Prop where
  | foundShut {i seen} (found : s.serves[i]? = some (.checking seen)) (shut : s.closed = true) :
      LeavesOpen s (.serveStep i)
  | cancelled {i seen} (found : s.serves[i]? = some (.looping seen)) : LeavesOpen s (.cancelServe i)

inductive SourceMove (s : State) (e : Event) (t : State) : Prop where
  | rest (parked : t.parked = s.parked) (source : t.source = s.source) (holders : t.holds = s.holds)
      (idle : s.parked = true → s.Idle → t.Idle)
  | took (k : Closer) (waited : s.parked = true) (parked : t.parked = false) (source : t.source = s.source)
      (holders : t.holds = Function.update s.holds k true)
  | closed (k : Closer) (held : s.holds k = true) (parked : t.parked = s.parked)
      (source : t.source = s.closeSource.dropSource.source) (holders : t.holds = Function.update s.holds k false)
  | dropped (k : Closer) (held : s.holds k = true) (parked : t.parked = s.parked)
      (source : t.source = s.dropSource.source) (holders : t.holds = Function.update s.holds k false)
      (leaves : LeavesOpen s e)

theorem holdersSame {s t : State} (closes : t.closes = s.closes) (serves : t.serves = s.serves) :
    t.holds = s.holds := by
  funext k
  cases k <;> simp only [holds, closes, serves]

theorem holdersSetClose {s t : State} {i : Nat} {old next : CloseStage} {b : Bool} (found : s.closes[i]? = some old)
    (closes : t.closes = s.closes.set i next) (serves : t.serves = s.serves) (value : next.holds = b) :
    t.holds = Function.update s.holds (.close i) b := by
  subst value
  funext k
  cases k with
  | close j =>
    by_cases own : j = i
    · subst j
      simp only [Function.update_self, holds, closes, foundSet found, Option.any_some]
    · rw [Function.update_of_ne (by simpa using own)]
      simp only [holds, closes, List.getElem?_set_ne (Ne.symm own)]
  | serve j =>
    rw [Function.update_of_ne (by simp)]
    simp only [holds, serves]

theorem holdersSetServe {s t : State} {i : Nat} {old next : ServeStage} {b : Bool} (found : s.serves[i]? = some old)
    (closes : t.closes = s.closes) (serves : t.serves = s.serves.set i next) (value : next.holds = b) :
    t.holds = Function.update s.holds (.serve i) b := by
  subst value
  funext k
  cases k with
  | close j =>
    rw [Function.update_of_ne (by simp)]
    simp only [holds, closes]
  | serve j =>
    by_cases own : j = i
    · subst j
      simp only [Function.update_self, holds, serves, foundSet found, Option.any_some]
    · rw [Function.update_of_ne (by simpa using own)]
      simp only [holds, serves, List.getElem?_set_ne (Ne.symm own)]

theorem holdersKept {s t : State} {k : Closer} {b : Bool} (same : s.holds k = b)
    (holders : t.holds = Function.update s.holds k b) : t.holds = s.holds := by
  rw [holders, ← same, Function.update_eq_self]

theorem holdersBegin {s t : State} (closes : t.closes = s.closes ∨ t.closes = s.closes ++ [.swapping])
    (serves : t.serves = s.serves ∨ t.serves = s.serves ++ [.taking]) : t.holds = s.holds := by
  have appended {α : Type} (xs : List α) (x : α) (p : α → Bool) (idle : p x = false) (i : Nat) :
      ((xs ++ [x])[i]?).any p = (xs[i]?).any p := by
    rw [List.getElem?_append]
    split
    · rfl
    · rename_i beyond
      rw [List.getElem?_eq_none (Nat.le_of_not_lt beyond), List.getElem?_singleton]
      split <;> simp [idle]
  funext k
  cases k with
  | close i =>
    rcases closes with same | more
    · simp only [holds, same]
    · simp only [holds, more, appended _ CloseStage.swapping CloseStage.holds rfl]
  | serve i =>
    rcases serves with same | more
    · simp only [holds, same]
    · simp only [holds, more, appended _ ServeStage.taking ServeStage.holds rfl]

theorem restSame {s t : State} {e : Event} (parked : t.parked = s.parked) (source : t.source = s.source)
    (closes : t.closes = s.closes) (serves : t.serves = s.serves) : SourceMove s e t :=
  .rest parked source (holdersSame closes serves) fun _ idle => by rwa [Idle, serves]

theorem restServe {s t : State} {e : Event} {i : Nat} {old next : ServeStage} (found : s.serves[i]? = some old)
    (parked : t.parked = s.parked) (source : t.source = s.source) (closes : t.closes = s.closes)
    (serves : t.serves = s.serves.set i next) (same : next.holds = old.holds)
    (step : next.isIdle = true ∨ old.isIdle = false ∨ s.parked = false) : SourceMove s e t := by
  have holder : s.holds (.serve i) = old.holds := by simp only [holds, found, Option.any_some]
  refine .rest parked source (holdersKept (holder.trans same.symm) (holdersSetServe found closes serves rfl)) ?_
  intro waits idle stage member
  rw [serves] at member
  rcases List.mem_or_eq_of_mem_set member with before | rfl
  · exact idle stage before
  · rcases step with still | busy | taken
    · exact still
    · cases busy.symm.trans (idle old (List.mem_of_getElem? found))
    · cases taken.symm.trans waits

theorem closeQueueSource (s : State) (l : Nat) :
    (s.closeQueue l).2.parked = s.parked ∧ (s.closeQueue l).2.source = s.source := by
  unfold closeQueue
  split <;> exact ⟨rfl, rfl⟩

inductive StageHands (s : State) (stage next : CloseStage) (u : State) : Prop where
  | rest (same : next.holds = stage.holds) (parked : u.parked = s.parked) (source : u.source = s.source)
  | took (has : next.holds = true) (waited : s.parked = true) (parked : u.parked = false) (source : u.source = s.source)
  | closed (had : stage.holds = true) (free : next.holds = false) (parked : u.parked = s.parked)
      (source : u.source = s.closeSource.dropSource.source)

theorem stageHands (s : State) (stage : CloseStage) :
    StageHands s stage (s.closeAdvance stage).1 (s.closeAdvance stage).2 := by
  cases stage with
  | swapping =>
    unfold closeAdvance
    dsimp only
    split <;> exact .rest rfl rfl rfl
  | taking =>
    cases parked : s.parked with
    | true =>
      simp only [closeAdvance, parked, if_true]
      exact .took rfl parked rfl rfl
    | false =>
      simp only [closeAdvance, parked, Bool.false_eq_true, if_false]
      exact .rest rfl rfl rfl
  | closingSource => exact .closed rfl rfl rfl rfl
  | closing left =>
    cases left with
    | nil => exact .rest rfl rfl rfl
    | cons l left =>
      refine .rest ?_ (closeQueueSource s l).1 (closeQueueSource s l).2
      unfold closeAdvance
      dsimp only
      split <;> rfl
  | signalling | draining | ringing | returned => exact .rest rfl rfl rfl

theorem handsMove {s t u : State} {e : Event} {k : Closer} {stage next : CloseStage} (hands : StageHands s stage next u)
    (before : s.holds k = stage.holds) (parked : t.parked = u.parked) (source : t.source = u.source)
    (holders : t.holds = Function.update s.holds k next.holds) (idle : s.Idle → t.Idle) : SourceMove s e t := by
  cases hands with
  | rest same parkedToo sourceToo =>
    refine .rest (parked.trans parkedToo) (source.trans sourceToo) (holdersKept (before.trans same.symm) holders) ?_
    exact fun _ => idle
  | took has waited taken sourceToo =>
    exact .took k waited (parked.trans taken) (source.trans sourceToo) (has ▸ holders)
  | closed had free parkedToo sourceToo =>
    exact .closed k (before.trans had) (parked.trans parkedToo) (source.trans sourceToo) (free ▸ holders)

theorem sourceCloseStep (s : State) (i : Nat) : SourceMove s (.closeStep i) (s.closeStep i) := by
  unfold closeStep
  cases found : s.closes[i]? with
  | none => exact restSame rfl rfl rfl rfl
  | some stage =>
    obtain ⟨closes, serves, _⟩ := closeAdvanceSame s stage
    have holder : s.holds (.close i) = stage.holds := by simp only [holds, found, Option.any_some]
    exact handsMove (stageHands s stage) holder rfl rfl
      (holdersSetClose found (congrArg (List.set · i _) closes) serves rfl) fun idle => by rwa [Idle, serves]

theorem sourceServeStep (s : State) (i : Nat) : SourceMove s (.serveStep i) (s.serveStep i) := by
  unfold serveStep
  cases found : s.serves[i]? with
  | none => exact restSame rfl rfl rfl rfl
  | some stage =>
    have holder : s.holds (.serve i) = stage.holds := by simp only [holds, found, Option.any_some]
    cases stage with
    | taking =>
      dsimp only
      split
      · rename_i waited
        exact .took (.serve i) waited rfl rfl (holdersSetServe found rfl rfl rfl)
      · rename_i taken
        exact restServe found rfl rfl rfl rfl rfl (.inr (.inr (by simpa using taken)))
    | checking seen =>
      dsimp only
      split
      · rename_i shut
        exact .dropped (.serve i) holder rfl rfl (holdersSetServe found rfl rfl rfl) (.foundShut found shut)
      · exact restServe found rfl rfl rfl rfl rfl (.inr (.inl rfl))
    | looping seen =>
      dsimp only
      split
      · exact restServe found rfl rfl rfl rfl rfl (.inr (.inl rfl))
      · exact restSame rfl rfl rfl rfl
    | closingSource result => exact .closed (.serve i) holder rfl rfl (holdersSetServe found rfl rfl rfl)
    | closing stage result =>
      obtain ⟨closes, serves, _⟩ := closeAdvanceSame s stage
      have went : SourceMove s (.serveStep i)
          ((s.closeAdvance stage).2.setServe i (.closing (s.closeAdvance stage).1 result)) :=
        handsMove (stageHands s stage) holder rfl rfl
          (holdersSetServe found closes (congrArg (List.set · i _) serves) rfl)
          fun idle => nomatch idle _ (List.mem_of_getElem? found)
      cases stage with
      | returned => exact restServe found rfl rfl rfl rfl rfl (.inr (.inl rfl))
      | swapping | signalling | taking | closingSource | draining | closing | ringing => exact went
    | aborting result =>
      dsimp only
      split
      · exact restServe found rfl rfl rfl rfl rfl (.inr (.inl rfl))
      · exact restSame rfl rfl rfl rfl
    | withoutSource | subscribing => exact restServe found rfl rfl rfl rfl rfl (.inr (.inl rfl))
    | returned | cancelled => exact restSame rfl rfl rfl rfl

theorem sourceAcceptFailed (s : State) (i : Nat) (cause : Error) :
    SourceMove s (.acceptFailed i cause) (s.acceptFailed i cause) := by
  unfold acceptFailed isAccepting
  cases found : s.serves[i]? with
  | none => exact restSame rfl rfl rfl rfl
  | some stage =>
    have holder : s.holds (.serve i) = stage.holds := by simp only [holds, found, Option.any_some]
    cases stage with
    | looping seen =>
      dsimp only
      split
      · split
        · exact restSame rfl rfl rfl rfl
        · exact restServe found rfl rfl rfl rfl rfl (.inr (.inl rfl))
      · exact restSame rfl rfl rfl rfl
    | taking | withoutSource | subscribing | checking | closingSource | closing | aborting | returned | cancelled =>
      exact restSame rfl rfl rfl rfl

theorem sourceCancelServe (s : State) (i : Nat) : SourceMove s (.cancelServe i) (s.cancelServe i) := by
  unfold cancelServe
  cases found : s.serves[i]? with
  | none => exact restSame rfl rfl rfl rfl
  | some stage =>
    have holder : s.holds (.serve i) = stage.holds := by simp only [holds, found, Option.any_some]
    cases stage with
    | looping seen =>
      exact .dropped (.serve i) holder rfl rfl (holdersSetServe found rfl rfl rfl) (.cancelled found)
    | taking | aborting => exact restServe found rfl rfl rfl rfl rfl (.inl rfl)
    | withoutSource | subscribing | checking | closingSource | closing | returned | cancelled =>
      exact restSame rfl rfl rfl rfl

theorem sourceMove (s : State) (e : Event) : SourceMove s e (s.apply e) := by
  cases calling : e.isCalling with
  | false =>
    have apart := uncalled s calling
    exact restSame apart.parked apart.source apart.closes apart.serves
  | true =>
    cases e with
    | beginClose => exact .rest rfl rfl (holdersBegin (.inr rfl) (.inl rfl)) fun _ idle => idle
    | beginServe =>
      refine .rest rfl rfl (holdersBegin (.inl rfl) (.inr rfl)) fun _ idle stage member => ?_
      rcases List.mem_append.mp member with before | new
      · exact idle stage before
      · rw [List.mem_singleton.mp new]
        rfl
    | closeStep i => exact sourceCloseStep s i
    | serveStep i => exact sourceServeStep s i
    | acceptFailed i cause => exact sourceAcceptFailed s i cause
    | cancelServe i => exact sourceCancelServe s i
    | _ => cases calling

def LeftOpen (s₀ : State) (events : List Event) : Prop :=
  ∃ before e after, events = before ++ e :: after ∧ LeavesOpen (s₀.run before) e

theorem leftOpenSnoc {s₀ : State} {events : List Event} {e : Event} :
    LeftOpen s₀ (events ++ [e]) ↔ LeftOpen s₀ events ∨ LeavesOpen (s₀.run events) e := by
  constructor
  · rintro ⟨before, x, after, split, leaves⟩
    rcases List.eq_nil_or_concat after with rfl | ⟨rest, y, rfl⟩
    · obtain ⟨rfl, same⟩ := List.append_inj' split rfl
      cases List.singleton_inj.mp same
      exact .inr leaves
    · have cut : events ++ [e] = (before ++ x :: rest) ++ [y] := by simpa using split
      obtain ⟨rfl, _⟩ := List.append_inj' cut rfl
      exact .inl ⟨before, x, rest, rfl, leaves⟩
  · rintro (⟨before, x, after, rfl, leaves⟩ | leaves)
    · exact ⟨before, x, after ++ [e], by simp, leaves⟩
    · exact ⟨events, e, [], rfl, leaves⟩

theorem leavesSource {s : State} {e : Event} (leaves : LeavesOpen s e) :
    ∃ k, s.holds k = true ∧ (s.apply e).source = s.dropSource.source := by
  cases leaves with
  | @foundShut i seen found shut =>
    refine ⟨.serve i, by simp only [holds, found]; rfl, ?_⟩
    simp only [apply, serveStep, found, shut, if_true]
    rfl
  | @cancelled i seen found =>
    refine ⟨.serve i, by simp only [holds, found]; rfl, ?_⟩
    simp only [apply, cancelServe, found]
    rfl

def nobody : Closer → Bool := fun _ => false

def only (k : Closer) : Closer → Bool := Function.update nobody k true

theorem onlyHolds {k j : Closer} (holds : only k j = true) : j = k := by
  by_contra other
  rw [only, Function.update_of_ne other] at holds
  cases holds

theorem onlyReleased (k : Closer) : Function.update (only k) k false = nobody := by
  rw [only, Function.update_idem]
  exact Function.update_eq_self k nobody

inductive Custody (s : State) (leftOpen : Prop) : Prop where
  | waiting (parked : s.parked = true) (free : s.holds = nobody) (source : s.source = {}) (idle : s.Idle)
      (kept : ¬ leftOpen)
  | held (k : Closer) (taken : s.parked = false) (holder : s.holds = only k) (source : s.source = {}) (kept : ¬ leftOpen)
  | closed (taken : s.parked = false) (free : s.holds = nobody) (source : s.source = ⟨1, some 1⟩) (kept : ¬ leftOpen)
  | left (taken : s.parked = false) (free : s.holds = nobody) (source : s.source = ⟨0, some 0⟩) (happened : leftOpen)

theorem leavesNothing {s : State} {e : Event} (free : s.holds = nobody) : ¬ LeavesOpen s e := by
  intro leaves
  obtain ⟨k, holder, _⟩ := leavesSource leaves
  rw [free] at holder
  cases holder

theorem keptUnlike {s : State} {e : Event} (source : s.source = {}) (unlike : (s.apply e).source ≠ ⟨0, some 0⟩) :
    ¬ LeavesOpen s e := by
  intro leaves
  obtain ⟨_, _, dropped⟩ := leavesSource leaves
  rw [dropSource, source] at dropped
  exact unlike dropped

theorem custodyMove {s : State} {leftOpen : Prop} (custody : Custody s leftOpen) (e : Event) :
    Custody (s.apply e) (leftOpen ∨ LeavesOpen s e) := by
  have move := sourceMove s e
  cases custody with
  | waiting parked free source idle kept =>
    have still : ¬ (leftOpen ∨ LeavesOpen s e) := not_or.mpr ⟨kept, leavesNothing free⟩
    cases move with
    | rest stays same holders idleToo =>
      exact .waiting (stays.trans parked) (holders.trans free) (same.trans source) (idleToo parked idle) still
    | took k _ taken same holders => exact .held k taken (by rw [holders, free, only]) (same.trans source) still
    | closed k held | dropped k held =>
      rw [free] at held
      cases held
  | held k taken holder source kept =>
    cases move with
    | rest stays same holders =>
      have none := (same.trans source)
      refine .held k (stays.trans taken) (holders.trans holder) none (not_or.mpr ⟨kept, keptUnlike source fun same => ?_⟩)
      cases none.symm.trans same
    | took _ waited => cases taken.symm.trans waited
    | closed j held stays changed holders =>
      obtain rfl := onlyHolds (holder ▸ held)
      have once : (s.apply e).source = ⟨1, some 1⟩ := by rw [changed, dropSource, closeSource, source]; rfl
      refine .closed (stays.trans taken) (by rw [holders, holder, onlyReleased]) once
        (not_or.mpr ⟨kept, keptUnlike source fun same => ?_⟩)
      cases once.symm.trans same
    | dropped j held stays changed holders leaves =>
      obtain rfl := onlyHolds (holder ▸ held)
      refine .left (stays.trans taken) (by rw [holders, holder, onlyReleased]) ?_ (.inr leaves)
      rw [changed, dropSource, source]
      rfl
  | closed taken free source kept =>
    cases move with
    | rest stays same holders =>
      exact .closed (stays.trans taken) (holders.trans free) (same.trans source)
        (not_or.mpr ⟨kept, leavesNothing free⟩)
    | took _ waited => cases taken.symm.trans waited
    | closed k held | dropped k held =>
      rw [free] at held
      cases held
  | left taken free source happened =>
    cases move with
    | rest stays same holders => exact .left (stays.trans taken) (holders.trans free) (same.trans source) (.inl happened)
    | took _ waited => cases taken.symm.trans waited
    | closed k held | dropped k held =>
      rw [free] at held
      cases held

theorem custodyRun {setup : Setup} {s₀ : State} (made : create setup = .ok s₀) (events : List Event) :
    Custody (s₀.run events) (LeftOpen s₀ events) := by
  induction events using List.reverseRecOn with
  | nil =>
    obtain ⟨rfl, _⟩ := created made
    refine .waiting rfl ?_ rfl (fun stage member => nomatch member) ?_
    · funext k
      cases k <;> rfl
    · rintro ⟨before, e, after, split, _⟩
      simp at split
  | append_singleton events e ih =>
    rw [runSnoc, show LeftOpen s₀ (events ++ [e]) = _ from propext leftOpenSnoc]
    exact custodyMove ih e

theorem acceptingHolds {s : State} {i : Nat} (accepting : s.isAccepting i = true) : s.holds (.serve i) = true := by
  unfold isAccepting at accepting
  split at accepting
  · rename_i found
    simp only [holds, found]
    rfl
  · cases accepting

theorem goneForGood {s : State} (taken : s.parked = false) (free : s.holds = nobody) (more : List Event) :
    (s.run more).holds = nobody ∧ (s.run more).source = s.source := by
  induction more generalizing s with
  | nil => exact ⟨free, rfl⟩
  | cons e rest ih =>
    cases sourceMove s e with
    | rest stays same holders =>
      obtain ⟨later, source⟩ := ih (stays.trans taken) (holders.trans free)
      exact ⟨later, source.trans same⟩
    | took _ waited => cases taken.symm.trans waited
    | closed k held | dropped k held =>
      rw [free] at held
      cases held

def FoundShut (s₀ : State) (events : List Event) : Prop :=
  ∃ before i seen after, events = before ++ .serveStep i :: after ∧
    (s₀.run before).serves[i]? = some (.checking seen) ∧ (s₀.run before).closed = true

theorem leftOpenIff {s₀ : State} {events : List Event} (uncancelled : ∀ i, .cancelServe i ∉ events) :
    LeftOpen s₀ events ↔ FoundShut s₀ events := by
  constructor
  · rintro ⟨before, e, after, rfl, leaves⟩
    cases leaves with
    | foundShut found shut => exact ⟨before, _, _, after, rfl, found, shut⟩
    | @cancelled i seen => exact absurd (List.mem_append_right _ List.mem_cons_self) (uncancelled i)
  · rintro ⟨before, i, seen, after, rfl, found, shut⟩
    exact ⟨before, _, after, rfl, .foundShut found shut⟩

/- The source was closed `n` times before it was let go, it stays so, and no call accepts from it any more. -/
structure SourceEnded (s₀ : State) (events : List Event) (n : Nat) : Prop where
  letGo : ∀ more, (s₀.run (events ++ more)).source = ⟨n, some n⟩
  deaf : ∀ more i, (s₀.run (events ++ more)).isAccepting i = false
  closedOnce : ¬ FoundShut s₀ events → n = 1
  leftOpen : FoundShut s₀ events → n = 0

theorem restHolds {s : State} (serves : ∀ stage ∈ s.serves, ∃ result, stage = .returned result)
    (closes : ∀ stage ∈ s.closes, stage = .returned) (k : Closer) : s.holds k = false := by
  cases k with
  | close i =>
    cases found : s.closes[i]? with
    | none => simp only [holds, found, Option.any_none]
    | some stage =>
      obtain rfl := closes stage (List.mem_of_getElem? found)
      simp only [holds, found]
      rfl
  | serve i =>
    cases found : s.serves[i]? with
    | none => simp only [holds, found, Option.any_none]
    | some stage =>
      obtain ⟨result, rfl⟩ := serves stage (List.mem_of_getElem? found)
      simp only [holds, found]
      rfl

theorem sourceEnds {setup : Setup} {s₀ : State} (made : create setup = .ok s₀) {events : List Event}
    (uncancelled : ∀ i, .cancelServe i ∉ events) (called : (s₀.run events).serves ≠ [])
    (serves : ∀ stage ∈ (s₀.run events).serves, ∃ result, stage = .returned result)
    (closes : ∀ stage ∈ (s₀.run events).closes, stage = .returned) : ∃ n, SourceEnded s₀ events n := by
  have ended (n : Nat) (taken : (s₀.run events).parked = false) (free : (s₀.run events).holds = nobody)
      (source : (s₀.run events).source = ⟨n, some n⟩) (once : ¬ FoundShut s₀ events → n = 1)
      (never : FoundShut s₀ events → n = 0) : SourceEnded s₀ events n := by
    refine ⟨fun more => ?_, fun more i => ?_, once, never⟩
    · rw [runAppend, (goneForGood taken free more).2, source]
    · rw [runAppend]
      refine Bool.eq_false_iff.mpr fun accepting => ?_
      have holder := acceptingHolds accepting
      rw [(goneForGood taken free more).1] at holder
      cases holder
  have custody := custodyRun made events
  rw [show LeftOpen s₀ events = _ from propext (leftOpenIff uncancelled)] at custody
  cases custody with
  | waiting parked free source idle =>
    -- The one that has returned reached for the source.
    obtain ⟨stage, rest, first⟩ := List.exists_cons_of_ne_nil called
    obtain ⟨result, rfl⟩ := serves stage (first ▸ List.mem_cons_self)
    cases idle _ (first ▸ List.mem_cons_self)
  | held k taken holder =>
    have none := restHolds serves closes k
    rw [holder, only, Function.update_self] at none
    cases none
  | closed taken free source kept => exact ⟨1, ended 1 taken free source (fun _ => rfl) fun found => absurd found kept⟩
  | left taken free source happened =>
    exact ⟨0, ended 0 taken free source (fun kept => absurd happened kept) fun _ => rfl⟩

def heardRun : List Event :=
  [.beginServe, .serveStep 0, .serveStep 0, .serveStep 0, .accepted 0 ⟨7, ⟨.v4 10 0 0 1, 5000⟩⟩, .beginClose, .beginClose,
    .closeStep 0, .closeStep 1, .closeStep 0, .serveStep 0, .closeStep 0, .serveStep 0, .serveStep 0, .serveStep 0,
    .serveStep 0, .closeStep 0, .closeStep 0]

def unheardRun : List Event :=
  [.beginServe, .serveStep 0, .beginClose, .closeStep 0, .closeStep 0, .closeStep 0, .closeStep 0, .closeStep 0,
    .serveStep 0, .serveStep 0]

theorem heardEnds : create pairSetup = .ok { setup := pairSetup } ∧
    (run { setup := pairSetup } heardRun).source = ⟨1, some 1⟩ ∧ ∃ n, SourceEnded { setup := pairSetup } heardRun n := by
  have made : create pairSetup = .ok { setup := pairSetup } := rfl
  have serves : (run { setup := pairSetup } heardRun).serves = [.returned (.ok ())] := rfl
  have closes : (run { setup := pairSetup } heardRun).closes = [.returned, .returned] := rfl
  refine ⟨made, rfl, sourceEnds made (by simp [heardRun]) (by simp [serves]) ?_ ?_⟩
  · simp [serves]
  · simp [closes]

theorem unheardLeftOpen :
    create pairSetup = .ok { setup := pairSetup } ∧ (∀ i, .cancelServe i ∉ unheardRun) ∧
      (run { setup := pairSetup } unheardRun).serves = [.returned (.ok ())] ∧
      (run { setup := pairSetup } unheardRun).closes = [.returned] ∧
      (run { setup := pairSetup } unheardRun).source = ⟨0, some 0⟩ :=
  ⟨rfl, by simp [unheardRun], rfl, rfl, rfl⟩

end State
end SharedPort.Selector
