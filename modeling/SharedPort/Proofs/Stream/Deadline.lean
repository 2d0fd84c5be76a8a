import SharedPort.Proofs.Stream.Planned
import SharedPort.Proofs.Stream.Timeline

/-! The reading of a prefix within a limit of time. What the stream tells decides the reading at one moment: with the
last byte that was asked for, with the end, or with a failure that is not for trying again. The reader gives what was
decided if that is in time, and its limit otherwise, and a limit is for the whole prefix. -/
namespace SharedPort.Stream

def Notice.byte? : Notice → Option UInt8
  | .news told => told.byte?
  | .ended => none

def bytesIn (heard : Timeline) : Bytes := heard.filterMap fun e => e.2.byte?

structure Verdict where
  time : Nat
  outcome : Except IoError Bytes
  later : Timeline

variable {retried : IoError → Bool} {size missing : Nat} {notices rest : Timeline} {v : Verdict}

def Quiet (retried : IoError → Bool) (heard : Timeline) : Prop :=
  ∀ e ∈ heard, (∃ b, e.2 = .news (.byte b)) ∨ ∃ cause, e.2 = .news (.fault cause) ∧ retried cause = true

inductive Concludes (retried : IoError → Bool) (size : Nat) (got : Bytes) : Notice → Except IoError Bytes → Prop where
  | filled {b} (last : got.length + 1 = size) : Concludes retried size got (.news (.byte b)) (.ok (got ++ [b]))
  | ended : Concludes retried size got .ended (.error .earlyEnd)
  | failed {cause} (final : retried cause = false) : Concludes retried size got (.news (.fault cause)) (.error cause)

/- The first notice with which a reader of so many bytes is done. -/
def Decides (retried : IoError → Bool) (size : Nat) (notices : Timeline) (v : Verdict) : Prop :=
  ∃ heard last, notices = heard ++ (v.time, last) :: v.later ∧ Quiet retried heard ∧ (bytesIn heard).length < size ∧
    Concludes retried size (bytesIn heard) last v.outcome

def Verdict.after (bytes : Bytes) (v : Verdict) : Verdict := { v with outcome := v.outcome.map (bytes ++ ·) }

theorem Verdict.afterNil (v : Verdict) : v.after [] = v := by
  obtain ⟨time, outcome, later⟩ := v
  cases outcome <;> rfl

theorem Verdict.afterAfter (first second : Bytes) (v : Verdict) :
    (v.after second).after first = v.after (first ++ second) := by
  obtain ⟨time, outcome, later⟩ := v
  cases outcome with
  | error cause => rfl
  | ok header => simp only [after, Except.map, List.append_assoc]

def verdict (retried : IoError → Bool) : Nat → Timeline → Option Verdict
  | _, [] => none
  | _, (time, .ended) :: later => some ⟨time, .error .earlyEnd, later⟩
  | missing, (time, .news (.fault cause)) :: later =>
      if retried cause then verdict retried missing later else some ⟨time, .error cause, later⟩
  | missing, (time, .news (.byte b)) :: later =>
      if missing ≤ 1 then some ⟨time, .ok [b], later⟩
      else (verdict retried (missing - 1) later).map (Verdict.after [b])

theorem concludesAfter {got : Bytes} {b : UInt8} {last : Notice} {outcome : Except IoError Bytes} :
    Concludes retried (size + 1) (b :: got) last outcome ↔
      ∃ inner : Except IoError Bytes, Concludes retried size got last inner ∧ outcome = inner.map ([b] ++ ·) := by
  constructor
  · rintro (count | _ | final)
    · exact ⟨.ok (got ++ [_]), .filled (by simpa using count), rfl⟩
    · exact ⟨.error .earlyEnd, .ended, rfl⟩
    · exact ⟨.error _, .failed final, rfl⟩
  · rintro ⟨inner, concludes, rfl⟩
    cases concludes with
    | filled count => exact .filled (by simpa using count)
    | ended => exact .ended
    | failed final => exact .failed final

theorem decidesCons {e : Nat × Notice} : Decides retried size (e :: rest) v ↔
    (0 < size ∧ Concludes retried size [] e.2 v.outcome ∧ v.time = e.1 ∧ v.later = rest) ∨
    (∃ cause, e.2 = .news (.fault cause) ∧ retried cause = true ∧ Decides retried size rest v) ∨
    ∃ b n w, e.2 = .news (.byte b) ∧ size = n + 1 ∧ Decides retried n rest w ∧ v = w.after [b] := by
  constructor
  · rintro ⟨heard, last, split, quiet, short, concludes⟩
    cases heard with
    | nil =>
      obtain ⟨rfl, rfl⟩ := List.cons.inj split
      exact .inl ⟨short, concludes, rfl, rfl⟩
    | cons first heard =>
      obtain ⟨rfl, rfl⟩ := List.cons.inj split
      have others : Quiet retried heard := fun x member => quiet x (List.mem_cons_of_mem _ member)
      obtain ⟨time, notice⟩ := e
      rcases quiet _ List.mem_cons_self with ⟨b, rfl⟩ | ⟨cause, rfl, again⟩
      · have bytes : bytesIn ((time, .news (.byte b)) :: heard) = b :: bytesIn heard := rfl
        rw [bytes] at short concludes
        obtain ⟨n, rfl⟩ := Nat.exists_eq_succ_of_ne_zero (Nat.ne_of_gt (Nat.zero_lt_of_lt short))
        obtain ⟨inner, within, outcome⟩ := concludesAfter.mp concludes
        refine .inr (.inr ⟨b, n, ⟨v.time, inner, v.later⟩, rfl, rfl, ?_, ?_⟩)
        · exact ⟨heard, last, rfl, others, Nat.lt_of_succ_lt_succ short, within⟩
        · rw [Verdict.after, ← outcome]
      · exact .inr (.inl ⟨cause, rfl, again, heard, last, rfl, others, short, concludes⟩)
  · obtain ⟨time, notice⟩ := e
    rintro (⟨positive, concludes, same, later⟩ | ⟨cause, here, again, heard, last, split, quiet, short, concludes⟩ |
      ⟨b, n, w, here, rfl, ⟨heard, last, split, quiet, short, concludes⟩, rfl⟩)
    · exact ⟨[], notice, by rw [same, later]; rfl, nofun, positive, concludes⟩
    · obtain rfl : notice = _ := here
      refine ⟨(time, .news (.fault cause)) :: heard, last, by rw [split]; rfl, ?_, short, concludes⟩
      exact List.forall_mem_cons.mpr ⟨.inr ⟨cause, rfl, again⟩, quiet⟩
    · obtain rfl : notice = _ := here
      refine ⟨(time, .news (.byte b)) :: heard, last, by rw [split]; rfl, ?_, Nat.succ_lt_succ short, ?_⟩
      · exact List.forall_mem_cons.mpr ⟨.inl ⟨b, rfl⟩, quiet⟩
      · exact concludesAfter.mpr ⟨_, concludes, rfl⟩

theorem decidesEnded {time : Nat} (positive : 0 < size) :
    Decides retried size ((time, .ended) :: rest) v ↔ v = ⟨time, .error .earlyEnd, rest⟩ := by
  rw [decidesCons]
  obtain ⟨t, outcome, later⟩ := v
  constructor
  · rintro (⟨_, concludes, rfl, rfl⟩ | ⟨_, other, _⟩ | ⟨_, _, _, other, _⟩)
    · cases concludes
      rfl
    · cases other
    · cases other
  · rintro ⟨⟩
    exact .inl ⟨positive, .ended, rfl, rfl⟩

theorem decidesFault {time : Nat} {cause : IoError} (positive : 0 < size) :
    Decides retried size ((time, .news (.fault cause)) :: rest) v ↔
      if retried cause then Decides retried size rest v else v = ⟨time, .error cause, rest⟩ := by
  rw [decidesCons]
  obtain ⟨t, outcome, later⟩ := v
  cases again : retried cause with
  | true =>
    simp only [if_true]
    constructor
    · rintro (⟨_, concludes, _⟩ | ⟨_, _, _, decides⟩ | ⟨_, _, _, other, _⟩)
      · cases concludes with
        | failed final => cases final.symm.trans again
      · exact decides
      · cases other
    · exact fun decides => .inr (.inl ⟨cause, rfl, again, decides⟩)
  | false =>
    simp only [Bool.false_eq_true, if_false]
    constructor
    · rintro (⟨_, concludes, rfl, rfl⟩ | ⟨_, same, also, _⟩ | ⟨_, _, _, other, _⟩)
      · cases concludes
        rfl
      · cases same
        cases also.symm.trans again
      · cases other
    · rintro ⟨⟩
      exact .inl ⟨positive, .failed again, rfl, rfl⟩

theorem decidesByte {time : Nat} {b : UInt8} (positive : 0 < size) :
    Decides retried size ((time, .news (.byte b)) :: rest) v ↔
      if size ≤ 1 then v = ⟨time, .ok [b], rest⟩ else ∃ w, Decides retried (size - 1) rest w ∧ v = w.after [b] := by
  rw [decidesCons]
  obtain ⟨t, outcome, later⟩ := v
  obtain ⟨n, rfl⟩ := Nat.exists_eq_succ_of_ne_zero (Nat.ne_of_gt positive)
  split
  · rename_i last
    constructor
    · rintro (⟨_, concludes, rfl, rfl⟩ | ⟨_, other, _⟩ | ⟨_, _, _, _, count, ⟨_, _, _, _, short, _⟩, _⟩)
      · cases concludes
        rfl
      · cases other
      · omega
    · rintro ⟨⟩
      exact .inl ⟨positive, .filled (by simp only [List.length_nil]; omega), rfl, rfl⟩
  · rename_i more
    constructor
    · rintro (⟨_, concludes, _⟩ | ⟨_, other, _⟩ | ⟨_, _, w, same, count, decides, taken⟩)
      · cases concludes with
        | filled last => simp only [List.length_nil] at last; omega
      · cases other
      · cases same
        obtain rfl := Nat.succ.inj count
        exact ⟨w, decides, taken⟩
    · rintro ⟨w, decides, taken⟩
      exact .inr (.inr ⟨b, n, w, rfl, rfl, decides, taken⟩)

theorem decidesVerdict (positive : 0 < size) :
    Decides retried size notices v ↔ verdict retried size notices = some v := by
  induction notices generalizing size v with
  | nil =>
    constructor
    · rintro ⟨heard, last, split, _⟩
      simp at split
    · nofun
  | cons e rest ih =>
    obtain ⟨time, notice⟩ := e
    cases notice with
    | ended => rw [decidesEnded positive, verdict, Option.some.injEq, eq_comm]
    | news told =>
      cases told with
      | fault cause =>
        rw [decidesFault positive, verdict]
        split
        · exact ih positive
        · rw [Option.some.injEq, eq_comm]
      | byte b =>
        rw [decidesByte positive, verdict]
        split
        · rw [Option.some.injEq, eq_comm]
        · rename_i more
          rw [Option.map_eq_some_iff]
          exact exists_congr fun w => and_congr (ih (by omega)) eq_comm

theorem verdictWithin {now : Nat} {bytes : Bytes} (within : bytes.length < missing) :
    verdict retried missing (bytesAt now bytes ++ rest) =
      (verdict retried (missing - bytes.length) rest).map (Verdict.after bytes) := by
  induction bytes generalizing missing with
  | nil =>
    have same : Verdict.after [] = id := funext Verdict.afterNil
    rw [same, Option.map_id]
    rfl
  | cons b bytes ih =>
    simp only [List.length_cons] at within
    change verdict retried missing ((now, .news (.byte b)) :: (bytesAt now bytes ++ rest)) = _
    rw [verdict, if_neg (by omega), ih (by omega), Option.map_map]
    have same : Verdict.after [b] ∘ Verdict.after bytes = Verdict.after (b :: bytes) :=
      funext fun v => Verdict.afterAfter [b] bytes v
    rw [same, List.length_cons, Nat.sub_sub, Nat.add_comm 1]

theorem verdictFilled {now : Nat} {bytes : Bytes} (nonempty : bytes ≠ []) (filled : bytes.length = missing) :
    verdict retried missing (bytesAt now bytes ++ rest) = some ⟨now, .ok bytes, rest⟩ := by
  induction bytes generalizing missing with
  | nil => exact absurd rfl nonempty
  | cons b bytes ih =>
    simp only [List.length_cons] at filled
    change verdict retried missing ((now, .news (.byte b)) :: (bytesAt now bytes ++ rest)) = _
    rw [verdict]
    cases bytes with
    | nil => exact if_pos (Nat.le_of_eq filled.symm)
    | cons c bytes =>
      simp only [List.length_cons] at filled ih
      rw [if_neg (by omega), ih (List.cons_ne_nil _ _) (by omega)]
      rfl

theorem verdictLater {now : Nat} (later : ∀ e ∈ notices, now ≤ e.1) (positive : 0 < size)
    (reached : verdict retried size notices = some v) : now ≤ v.time := by
  obtain ⟨heard, last, split, _⟩ := (decidesVerdict positive).mpr reached
  exact later (v.time, last) (split ▸ List.mem_append_right _ List.mem_cons_self)

def interrupted (cause : IoError) : Bool := cause.kind = .interrupted

/- How a reading comes out, for what the notices decide. -/
inductive Settles (sink : Sink) (limit : Option Nat) : Option Verdict → Settled Scripted → Prop where
  | filled {time header later reads} (early : ∀ bound, limit = some bound → time ≤ bound)
      (stands : Script.timeline time reads = later) :
      Settles sink limit (some ⟨time, .ok header, later⟩) ⟨.ok header, time, ⟨reads, sink⟩⟩
  | failed {time cause later left} (early : ∀ bound, limit = some bound → time ≤ bound) :
      Settles sink limit (some ⟨time, .error cause, later⟩) ⟨.error (.failed cause), time, left⟩
  | timedOut {bound reached left} (limited : limit = some bound) (late : ∀ v, reached = some v → bound ≤ v.time) :
      Settles sink limit reached ⟨.error .timedOut, bound, left⟩
  | stuck {now left} (unlimited : limit = none) : Settles sink limit none ⟨.error .stuck, now, left⟩

theorem toGoPositive (s : Script) (now : Nat) : 0 < s.toGo now := by
  induction s generalizing now with
  | nil => exact Nat.one_pos
  | cons item rest ih =>
    cases item with
    | data bytes => exact Nat.lt_of_lt_of_le (ih now) (Nat.le_add_left _ _)
    | failure | pend => exact Nat.lt_of_lt_of_le (ih now) (Nat.le_add_left _ _)
    | delay length => exact Nat.lt_of_lt_of_le (ih _) (Nat.le_add_left _ _)
    | waitUntil time => exact Nat.lt_of_lt_of_le (ih _) (Nat.le_add_left _ _)
    | hang => exact Nat.one_pos

theorem plannedSoon {limit : Option Nat} {now : Nat} (early : ∀ bound, limit = some bound → now ≤ bound) :
    planned limit now (.notReady .soon) = .again now ∨
      limit = some now ∧ planned limit now (.notReady .soon) = .late now := by
  cases limit with
  | none => exact .inl (by simp [planned, nextTry])
  | some bound =>
    have within := early bound rfl
    by_cases atLimit : bound = now
    · subst bound
      exact .inr ⟨rfl, by simp [planned, nextTry, stopTime]⟩
    · exact .inl (by simp [planned, nextTry, show ¬ bound ≤ now by omega])

theorem plannedAt {limit : Option Nat} {now time : Nat} (early : ∀ bound, limit = some bound → now ≤ bound)
    (later : now < time) :
    (planned limit now (.notReady (.at time)) = .again time ∧ ∀ bound, limit = some bound → time ≤ bound) ∨
      ∃ bound, limit = some bound ∧ bound ≤ time ∧ planned limit now (.notReady (.at time)) = .late bound := by
  cases limit with
  | none => exact .inl ⟨by simp [planned, nextTry, Nat.max_eq_right (Nat.le_of_lt later)], nofun⟩
  | some bound =>
    have within := early bound rfl
    by_cases passed : bound ≤ now ∨ bound < time
    · refine .inr ⟨bound, rfl, by omega, ?_⟩
      simp [planned, nextTry, if_pos passed, stopTime, Nat.max_eq_right within]
    · refine .inl ⟨by simp [planned, nextTry, if_neg passed, Nat.max_eq_right (Nat.le_of_lt later)], ?_⟩
      rintro _ ⟨⟩
      omega

theorem plannedNever {limit : Option Nat} {now : Nat} (early : ∀ bound, limit = some bound → now ≤ bound) :
    limit = none ∧ planned limit now (.notReady .never) = .idle ∨
      ∃ bound, limit = some bound ∧ planned limit now (.notReady .never) = .late bound := by
  cases limit with
  | none => exact .inl ⟨rfl, rfl⟩
  | some bound =>
    exact .inr ⟨bound, rfl, by simp [planned, nextTry, stopTime, Nat.max_eq_right (early bound rfl)]⟩

theorem gatherSettles {limit : Option Nat} {fuel now missing : Nat} {got : Bytes} {s : Scripted}
    (enough : s.reads.toGo now ≤ fuel) (positive : 0 < missing) (early : ∀ bound, limit = some bound → now ≤ bound) :
    Settles s.sink limit ((verdict interrupted missing (s.reads.timeline now)).map (Verdict.after got))
      (gather Scripted.read limit fuel now (.reading missing got) s) := by
  induction fuel generalizing now missing got s with
  | zero => exact absurd enough (Nat.not_le_of_lt (toGoPositive _ _))
  | succ fuel ih =>
    have tells := Script.readTells now positive s.reads
    have step : Scripted.read now missing s = ((s.reads.read now missing).1, ⟨(s.reads.read now missing).2, s.sink⟩) := rfl
    have noEarlier {time : Nat} {reads : Script} {w : Verdict}
        (reached : (verdict interrupted missing (reads.timeline time)).map (Verdict.after got) = some w) :
        time ≤ w.time := by
      obtain ⟨v, decided, rfl⟩ := Option.map_eq_some_iff.mp reached
      have later : time ≤ v.time := verdictLater (fun _ => Script.timelineLater) positive decided
      exact later
    rw [gatherTry, step]
    generalize (s.reads.read now missing).1 = attempt at tells ⊢
    generalize (s.reads.read now missing).2 = reads at tells ⊢
    have spare {time : Nat} (fewer : reads.toGo time < s.reads.toGo now) : reads.toGo time ≤ fuel :=
      Nat.le_of_lt_succ (Nat.lt_of_lt_of_le fewer enough)
    cases tells with
    | @gave bytes _ nonempty fits told fewer =>
      have fed : Gather.feed missing got (.done bytes) = Gather.needing (missing - bytes.length) (got ++ bytes) := by
        cases bytes with
        | nil => exact absurd rfl nonempty
        | cons b bytes => rfl
      simp only [planned, fed, told]
      rcases Nat.lt_or_ge bytes.length missing with within | whole
      · have more : missing - bytes.length ≠ 0 := by omega
        rw [verdictWithin within, Option.map_map, Gather.needing, if_neg more]
        have same : Verdict.after got ∘ Verdict.after bytes = Verdict.after (got ++ bytes) :=
          funext fun v => Verdict.afterAfter got bytes v
        rw [same]
        exact @ih now _ _ ⟨reads, s.sink⟩ (spare fewer) (Nat.pos_of_ne_zero more) early
      · have filled : bytes.length = missing := Nat.le_antisymm fits whole
        rw [verdictFilled nonempty filled, Gather.needing, if_pos (by omega), gatherComplete]
        exact .filled early rfl
    | ended told =>
      simp only [planned, Gather.feed, told, verdict, gatherFailed]
      exact .failed early
    | @failed cause _ told fewer =>
      simp only [planned, Gather.feed, told, verdict, interrupted]
      by_cases again : cause.kind = .interrupted
      · simp only [again, decide_true, if_true]
        exact @ih now _ _ ⟨reads, s.sink⟩ (spare fewer) positive early
      · simp only [again, decide_false, Bool.false_eq_true, if_false, gatherFailed]
        exact .failed early
    | soon told fewer =>
      rw [told]
      rcases plannedSoon early with plan | ⟨atLimit, plan⟩
      · rw [plan]
        exact @ih now _ _ ⟨reads, s.sink⟩ (spare fewer) positive early
      · rw [plan]
        exact .timedOut atLimit fun w reached => noEarlier reached
    | @waits time _ later told fewer =>
      rw [told]
      rcases plannedAt early later with ⟨plan, inTime⟩ | ⟨bound, limited, before, plan⟩
      · rw [plan]
        exact @ih time _ _ ⟨reads, s.sink⟩ (spare fewer) positive inTime
      · rw [plan]
        exact .timedOut limited fun w reached => Nat.le_trans before (noEarlier reached)
    | silent told =>
      rw [told]
      rcases plannedNever early with ⟨unlimited, plan⟩ | ⟨bound, limited, plan⟩
      · rw [plan]
        exact .stuck unlimited
      · rw [plan]
        refine .timedOut limited fun w reached => ?_
        cases reached

inductive Gives (sink : Sink) : Verdict → Option (Except Error (Replay Scripted)) × Nat → Prop where
  | stream {time header later reads} (stands : Script.timeline time reads = later) :
      Gives sink ⟨time, .ok header, later⟩ (some (.ok (.ofHeader ⟨reads, sink⟩ header)), time)
  | failure {time cause later} : Gives sink ⟨time, .error cause, later⟩ (some (.error (.io cause)), time)

def overdue (now length : Nat) : Option (Except Error (Replay Scripted)) × Nat :=
  (some (.error (.peekTimeout (.ofMillis length))), now + length)

/- The outcome of peeking at `now`, before, after, and at the limit of its time, and without one. -/
structure Peeks (retried : IoError → Bool) (s : Scripted) (now size : Nat) (limit : Option Nat)
    (result : Option (Except Error (Replay Scripted)) × Nat) : Prop where
  inTime : ∀ v, Decides retried size (s.reads.timeline now) v →
    (∀ length, limit = some length → v.time < now + length) → Gives s.sink v result
  tooLate : ∀ length, limit = some length → (∀ v, Decides retried size (s.reads.timeline now) v → now + length < v.time) →
    result = overdue now length
  atLimit : ∀ length v, limit = some length → Decides retried size (s.reads.timeline now) v → v.time = now + length →
    Gives s.sink v result ∨ result = overdue now length
  unlimited : limit = none → (∀ span, result.1 ≠ some (.error (.peekTimeout span))) ∧
    ((∀ v, ¬ Decides retried size (s.reads.timeline now) v) → result.1 = none)

inductive Answers (sink : Sink) (now : Nat) (limit : Option Nat) (reached : Option Verdict)
    (result : Option (Except Error (Replay Scripted)) × Nat) : Prop where
  | decided {w : Verdict} (told : reached = some w) (early : ∀ length, limit = some length → w.time ≤ now + length)
      (gives : Gives sink w result)
  | late {length} (limited : limit = some length) (after : ∀ w, reached = some w → now + length ≤ w.time)
      (gaveUp : result = overdue now length)
  | silent (unlimited : limit = none) (undecided : reached = none) (nothing : result.1 = none)

theorem prefixAnswers {s : Scripted} {fuel now size : Nat} {limit : Option Nat} (positive : 0 < size)
    (enough : s.attempts ≤ fuel) :
    Answers s.sink now limit (verdict interrupted size (s.reads.timeline now))
      (readPrefix Scripted.read fuel now size limit s) := by
  have start : Gather.start size = .reading size [] := by
    unfold Gather.start Gather.needing
    rw [if_neg (Nat.ne_of_gt positive)]
  have fuelled : s.reads.toGo now ≤ fuel := by
    have weight := s.reads.toGoWeight now
    unfold Scripted.attempts at enough
    omega
  have bounded : ∀ bound, limit.map (now + ·) = some bound → now ≤ bound := by
    rintro bound limited
    obtain ⟨length, _, rfl⟩ := Option.map_eq_some_iff.mp limited
    exact Nat.le_add_right _ _
  have settles := @gatherSettles _ _ _ _ [] _ fuelled positive bounded
  have same : Verdict.after [] = id := funext Verdict.afterNil
  rw [same, Option.map_id, ← start] at settles
  unfold readPrefix
  generalize gather Scripted.read (limit.map (now + ·)) fuel now (.start size) s = settled at settles
  generalize verdict interrupted size (s.reads.timeline now) = reached at settles ⊢
  cases settles with
  | filled early stands =>
    exact .decided rfl (fun length limited => early _ (by rw [limited]; rfl)) (.stream stands)
  | failed early => exact .decided rfl (fun length limited => early _ (by rw [limited]; rfl)) .failure
  | timedOut limited late =>
    obtain ⟨length, rfl, rfl⟩ := Option.map_eq_some_iff.mp limited
    exact .late rfl late rfl
  | stuck unlimited => exact .silent (Option.map_eq_none_iff.mp unlimited) rfl rfl

theorem givesNoTimeout {sink : Sink} {v : Verdict} {result : Option (Except Error (Replay Scripted)) × Nat}
    (gives : Gives sink v result) (span : Span) : result.1 ≠ some (.error (.peekTimeout span)) := by
  cases gives <;> simp

theorem peekedByDeadline {s : Scripted} {fuel now size : Nat} {limit : Option Nat} (positive : 0 < size)
    (enough : s.attempts ≤ fuel) :
    Peeks interrupted s now size limit (readPrefix Scripted.read fuel now size limit s) := by
  have answers := @prefixAnswers s fuel now size limit positive enough
  generalize readPrefix Scripted.read fuel now size limit s = result at answers ⊢
  have decides {v : Verdict} : Decides interrupted size (s.reads.timeline now) v ↔
      verdict interrupted size (s.reads.timeline now) = some v := decidesVerdict positive
  cases answers with
  | @decided w told early gives =>
    have only {v : Verdict} (other : Decides interrupted size (s.reads.timeline now) v) : v = w :=
      Option.some.inj ((decides.mp other).symm.trans told)
    refine ⟨fun v other _ => only other ▸ gives, fun length limited after => ?_,
      fun length v _ other _ => .inl (only other ▸ gives), fun unlimited => ⟨givesNoTimeout gives, fun none => ?_⟩⟩
    · have before := early length limited
      have past := after w (decides.mpr told)
      omega
    · exact absurd (decides.mpr told) (none w)
  | @late length limited after gaveUp =>
    refine ⟨fun v other inTime => ?_, fun other same _ => ?_, fun other v same _ _ => ?_, fun unlimited => ?_⟩
    · have before := inTime length limited
      have past := after v (decides.mp other)
      omega
    · cases Option.some.inj (limited.symm.trans same)
      exact gaveUp
    · cases Option.some.inj (limited.symm.trans same)
      exact .inr gaveUp
    · cases limited.symm.trans unlimited
  | silent unlimited undecided nothing =>
    have none {v : Verdict} : ¬ Decides interrupted size (s.reads.timeline now) v := by
      rw [decides, undecided]
      nofun
    refine ⟨fun v other => absurd other none, fun _ limited => ?_, fun _ v _ other => absurd other none, fun _ => ?_⟩
    · cases unlimited.symm.trans limited
    · rw [nothing]
      exact ⟨nofun, fun _ => rfl⟩

def trickle : Scripted :=
  { reads := [.data [80], .delay 400, .pend, .failure ⟨.interrupted, none⟩, .data [82], .delay 400, .data [80, 67, 33],
      .failure ⟨.connectionReset, none⟩] }

theorem tricklePeeked :
    0 < 4 ∧ trickle.attempts ≤ trickle.attempts ∧
      readPrefix Scripted.read trickle.attempts 0 4 (some 1000) trickle =
        (some (.ok (.ofHeader { reads := [.data [33], .failure ⟨.connectionReset, none⟩] } [80, 82, 80, 67])), 800) ∧
      readPrefix Scripted.read trickle.attempts 0 4 (some 700) trickle = overdue 0 700 ∧
      Peeks interrupted trickle 0 4 (some 700) (readPrefix Scripted.read trickle.attempts 0 4 (some 700) trickle) :=
  ⟨by decide, Nat.le_refl _, rfl, rfl, peekedByDeadline (by decide) (Nat.le_refl _)⟩

def startled : Scripted := { reads := [.failure ⟨.interrupted, none⟩, .data [80, 82, 80, 67]] }

theorem startledPeeked :
    ¬ Peeks (fun _ => false) startled 0 4 (some 1000)
      (readPrefix Scripted.read startled.attempts 0 4 (some 1000) startled) := by
  intro peeks
  have decides : Decides (fun _ => false) 4 (startled.reads.timeline 0)
      ⟨0, .error ⟨.interrupted, none⟩, Script.timeline 0 [.data [80, 82, 80, 67]]⟩ :=
    (decidesVerdict (by decide)).mpr rfl
  have gives := peeks.inTime _ decides fun length limited => by cases limited; decide
  cases gives

end SharedPort.Stream
