import SharedPort.Proofs.Stream.News
import SharedPort.Proofs.Stream.Planned

/-! A stream whose prefix was read ahead tells its reader what the stream itself would have told, from its first byte.
An interrupted read of the prefix is made again and is the only thing that is left out. -/
namespace SharedPort.Stream

/- What reading a prefix took from a stream: the prefix and the interruptions before its last byte. -/
structure Peeked (s t : Scripted) (got header : Bytes) (missing : Nat) (met : List News) : Prop where
  order : met ++ t.reads.news = s.reads.news
  bytes : got ++ bytesOf met = header
  size : header.length = got.length + missing
  calm : ∀ cause, .fault cause ∈ met → cause.kind = .interrupted
  sink : t.sink = s.sink

theorem Peeked.later {s t u : Scripted} {got next header : Bytes} {missing rest : Nat} {met : List News}
    {attempt : Attempt Bytes} (peeked : Peeked t u next header rest met)
    (order : attempt.news ++ t.reads.news = s.reads.news) (joined : got ++ bytesOf attempt.news = next)
    (size : next.length + rest = got.length + missing)
    (calm : ∀ cause, attempt = .failed cause → cause.kind = .interrupted) (sink : t.sink = s.sink) :
    Peeked s u got header missing (attempt.news ++ met) := by
  obtain ⟨orders, bytes, sizes, calms, sinks⟩ := peeked
  refine ⟨?_, ?_, sizes.trans size, ?_, sinks.trans sink⟩
  · rw [List.append_assoc, orders, order]
  · rw [bytesOfAppend, ← List.append_assoc, joined, bytes]
  · intro cause member
    rcases List.mem_append.mp member with first | second
    · cases attempt with
      | done bytes =>
        obtain ⟨_, _, same⟩ := List.mem_map.mp first
        cases same
      | failed other =>
        obtain rfl := News.fault.inj (List.mem_singleton.mp first)
        exact calm _ rfl
      | notReady => cases first
    · exact calms cause second

variable {limit : Option Nat} {fuel now missing : Nat} {got header : Bytes} {s t : Scripted}

theorem gatherWait {wake : Wake} (read : s.read now missing = (.notReady wake, t)) :
    gather Scripted.read limit (fuel + 1) now (.reading missing got) s =
      match nextTry limit now wake with
      | .ok time => gather Scripted.read limit fuel (max now time) (.reading missing got) t
      | .error stop => ⟨.error stop, if stop = .timedOut then stopTime limit now else now, t⟩ := by
  cases next : nextTry limit now wake <;> simp only [gather, read, next]

theorem gatherFeed {attempt : Attempt Bytes} (read : s.read now missing = (attempt, t))
    (ready : ∀ wake, attempt ≠ .notReady wake) :
    gather Scripted.read limit (fuel + 1) now (.reading missing got) s =
      gather Scripted.read limit fuel now (Gather.feed missing got attempt) t := by
  cases attempt with
  | done | failed => simp only [gather, read]
  | notReady wake => exact (ready wake rfl).elim

theorem gatherPeeked (done : (gather Scripted.read limit fuel now (.reading missing got) s).result = .ok header) :
    ∃ met, Peeked s (gather Scripted.read limit fuel now (.reading missing got) s).stream got header missing met := by
  induction fuel generalizing now missing got s with
  | zero => cases done
  | succ fuel ih =>
    have order := Script.readNews now missing s.reads
    have fits := Script.readFits now missing s.reads
    cases read : s.read now missing with
    | mk attempt t =>
      have sink : t.sink = s.sink := (congrArg (fun x => x.2.sink) read).symm
      have same : (s.reads.read now missing).1 = attempt := congrArg Prod.fst read
      have left : (s.reads.read now missing).2 = t.reads := congrArg (fun x => x.2.reads) read
      rw [same, left] at order
      rw [same] at fits
      cases attempt with
      | notReady wake =>
        rw [gatherWait read] at done ⊢
        cases next : nextTry limit now wake with
        | error stop =>
          rw [next] at done
          cases done
        | ok time =>
          simp only [next] at done ⊢
          obtain ⟨met, peeked⟩ := ih done
          exact ⟨_, peeked.later order (List.append_nil got) rfl (fun _ h => by cases h) sink⟩
      | failed cause =>
        rw [gatherFeed read fun _ h => by cases h] at done ⊢
        by_cases calm : cause.kind = .interrupted
        · simp only [Gather.feed, if_pos calm] at done ⊢
          obtain ⟨met, peeked⟩ := ih done
          exact ⟨_, peeked.later order (List.append_nil got) rfl (fun _ h => by cases h; exact calm) sink⟩
        · simp only [Gather.feed, if_neg calm, gatherFailed] at done
          cases done
      | done bytes =>
        have size : bytes.length ≤ missing := of_decide_eq_true fits
        rw [gatherFeed read fun _ h => by cases h] at done ⊢
        cases bytes with
        | nil =>
          simp only [Gather.feed, gatherFailed] at done
          cases done
        | cons b rest =>
          have joined : got ++ bytesOf (Attempt.done (b :: rest)).news = got ++ (b :: rest) :=
            congrArg (got ++ ·) (bytesOfBytes (b :: rest))
          have sizes : (got ++ (b :: rest)).length + (missing - (b :: rest).length) = got.length + missing := by
            rw [List.length_append]
            omega
          by_cases whole : missing - (b :: rest).length = 0
          · simp only [Gather.feed, Gather.needing, if_pos whole, gatherComplete] at done ⊢
            cases done
            have last : Peeked t t (got ++ (b :: rest)) (got ++ (b :: rest)) 0 [] :=
              ⟨rfl, List.append_nil _, rfl, (fun _ h => by cases h), rfl⟩
            exact ⟨_, last.later order joined (whole ▸ sizes) (fun _ h => by cases h) sink⟩
          · simp only [Gather.feed, Gather.needing, if_neg whole] at done ⊢
            obtain ⟨met, peeked⟩ := ih done
            exact ⟨_, peeked.later order joined sizes (fun _ h => by cases h) sink⟩

theorem prefixPeeked {size time : Nat} {r : Replay Scripted}
    (peeked : readPrefix Scripted.read fuel now size limit s = (some (.ok r), time)) :
    r.pending = r.header ∧ ∃ met, Peeked s r.inner [] r.header size met := by
  unfold readPrefix at peeked
  dsimp only at peeked
  cases result : (gather Scripted.read (limit.map (now + ·)) fuel now (.start size) s).result with
  | error stop => rw [result] at peeked; cases stop <;> cases peeked
  | ok header =>
    rw [result] at peeked
    cases peeked
    refine ⟨rfl, ?_⟩
    unfold Gather.start Gather.needing at result ⊢
    by_cases zero : size = 0
    · rw [if_pos zero, gatherComplete] at result ⊢
      cases result
      exact ⟨[], rfl, rfl, by rw [zero]; rfl, (fun _ h => by cases h), rfl⟩
    · rw [if_neg zero] at result ⊢
      exact gatherPeeked result

inductive Act
  | read (room : Nat) (hasRoom : 0 < room)
  | write (bytes : Bytes)
  | writeVectored (slices : List Bytes)
  | flush
  | shutdown

inductive Answer
  | read (attempt : Attempt Bytes)
  | wrote (taken : Except IoError Nat)
  | ended (result : Except IoError Unit)

def Answer.news : Answer → List News
  | .read attempt => attempt.news
  | .wrote _ | .ended _ => []

def Answer.isRead : Answer → Bool
  | .read _ => true
  | .wrote _ | .ended _ => false

def Act.onSink : Act → Sink → List Answer × Sink
  | .read .., k => ([], k)
  | .write bytes, k => ([.wrote (k.write bytes).1], (k.write bytes).2)
  | .writeVectored slices, k => ([.wrote (k.writeVectored slices).1], (k.writeVectored slices).2)
  | .flush, k => ([.ended k.flush.1], k.flush.2)
  | .shutdown, k => ([.ended k.shutdown.1], k.shutdown.2)

def pass {α : Type} (answer : α → Answer) (act : Sink → α × Sink) (r : Replay Scripted) : Answer × Replay Scripted :=
  (answer (r.onInner (Scripted.onSink act)).1, (r.onInner (Scripted.onSink act)).2)

def Act.onReplay (now : Nat) : Act → Replay Scripted → Answer × Replay Scripted
  | .read room _, r => (.read (r.read Scripted.read now room).1, (r.read Scripted.read now room).2)
  | .write bytes, r => pass .wrote (·.write bytes) r
  | .writeVectored slices, r => pass .wrote (·.writeVectored slices) r
  | .flush, r => pass .ended Sink.flush r
  | .shutdown, r => pass .ended Sink.shutdown r

def onSink : List (Nat × Act) → Sink → List Answer × Sink
  | [], k => ([], k)
  | (_, act) :: rest, k => ((act.onSink k).1 ++ (onSink rest (act.onSink k).2).1, (onSink rest (act.onSink k).2).2)

def onReplay : List (Nat × Act) → Replay Scripted → List Answer × Replay Scripted
  | [], r => ([], r)
  | (now, act) :: rest, r =>
      ((act.onReplay now r).1 :: (onReplay rest (act.onReplay now r).2).1, (onReplay rest (act.onReplay now r).2).2)

def newsOf (answers : List Answer) : List News := answers.flatMap Answer.news

def Replay.news (r : Replay Scripted) : List News := r.pending.map .byte ++ r.inner.reads.news

theorem replayRead (now : Nat) {room : Nat} (hasRoom : 0 < room) (r : Replay Scripted) :
    (r.pending ≠ [] ∧
      r.read Scripted.read now room = (.done (r.pending.take room), { r with pending := r.pending.drop room })) ∨
    (r.pending = [] ∧
      r.read Scripted.read now room =
        ((r.inner.read now room).1, { r with inner := (r.inner.read now room).2 })) := by
  by_cases pending : r.pending = []
  · exact .inr ⟨pending, Replay.readExhausted pending⟩
  · exact .inl ⟨pending, Replay.readPending pending hasRoom⟩

theorem replayReadNews (now : Nat) {room : Nat} (hasRoom : 0 < room) (r : Replay Scripted) :
    (r.read Scripted.read now room).1.news ++ (r.read Scripted.read now room).2.news = r.news := by
  rcases replayRead now hasRoom r with ⟨_, read⟩ | ⟨pending, read⟩
  · rw [read]
    simp only [Attempt.news, Replay.news]
    rw [← List.append_assoc, ← List.map_append, List.take_append_drop]
  · rw [read]
    simp only [Replay.news, pending, List.map_nil, List.nil_append]
    exact Script.readNews now room r.inner.reads

theorem replayReadSink (now room : Nat) (r : Replay Scripted) :
    (r.read Scripted.read now room).2.inner.sink = r.inner.sink := by
  unfold Replay.read
  split <;> rfl

structure Acted (now : Nat) (act : Act) (r : Replay Scripted) : Prop where
  news : (act.onReplay now r).1.news ++ (act.onReplay now r).2.news = r.news
  header : (act.onReplay now r).2.header = r.header
  pending : (act.onReplay now r).2.pending <:+ r.pending
  answers : (act.onSink r.inner.sink).1 = [(act.onReplay now r).1].filter (!·.isRead)
  sink : (act.onReplay now r).2.inner.sink = (act.onSink r.inner.sink).2

theorem acted (now : Nat) (act : Act) (r : Replay Scripted) : Acted now act r := by
  cases act with
  | read room hasRoom =>
    have header := Replay.readHeader Scripted.read now room r
    have pending : (r.read Scripted.read now room).2.pending <:+ r.pending := Replay.readSuffix
    exact ⟨replayReadNews now hasRoom r, header, pending, rfl, replayReadSink now room r⟩
  | write | writeVectored | flush | shutdown => exact ⟨rfl, rfl, List.suffix_refl _, rfl, rfl⟩

theorem actsNews (acts : List (Nat × Act)) (r : Replay Scripted) :
    newsOf (onReplay acts r).1 ++ (onReplay acts r).2.news = r.news := by
  induction acts generalizing r with
  | nil => rfl
  | cons entry rest ih =>
    obtain ⟨now, act⟩ := entry
    have first := (acted now act r).news
    have later := ih (act.onReplay now r).2
    rw [onReplay, newsOf, List.flatMap_cons, List.append_assoc]
    exact (congrArg _ later).trans first

theorem actsHeader (acts : List (Nat × Act)) (r : Replay Scripted) :
    (onReplay acts r).2.header = r.header ∧ (onReplay acts r).2.pending <:+ r.pending := by
  induction acts generalizing r with
  | nil => exact ⟨rfl, List.suffix_refl _⟩
  | cons entry rest ih =>
    obtain ⟨now, act⟩ := entry
    obtain ⟨header, pending⟩ := ih (act.onReplay now r).2
    exact ⟨header.trans (acted now act r).header, pending.trans (acted now act r).pending⟩

theorem actsSink (acts : List (Nat × Act)) (r : Replay Scripted) :
    onSink acts r.inner.sink = ((onReplay acts r).1.filter (!·.isRead), (onReplay acts r).2.inner.sink) := by
  induction acts generalizing r with
  | nil => rfl
  | cons entry rest ih =>
    obtain ⟨now, act⟩ := entry
    obtain ⟨_, _, _, answers, sink⟩ := acted now act r
    have later := ih (act.onReplay now r).2
    rw [sink] at later
    simp only [onSink, onReplay, later, answers]
    rw [← List.filter_append]
    rfl

/- What a reader finds after any acts on the replay `r` of the stream `s`, of which `size` bytes were read ahead. -/
structure Transparent (size : Nat) (s : Scripted) (r : Replay Scripted) (acts : List (Nat × Act)) : Prop where
  header : (onReplay acts r).2.header = s.reads.whole.take size ∧ (onReplay acts r).2.header.length = size
  buffered : (onReplay acts r).2.pending <:+ (onReplay acts r).2.header
  parts : bytesOf (newsOf (onReplay acts r).1) ++ (onReplay acts r).2.parts.2 ++
    (onReplay acts r).2.parts.1.reads.whole = s.reads.whole
  order : ∃ met left, s.reads.news = met ++ left ∧ bytesOf met = s.reads.whole.take size ∧
    (∀ cause, .fault cause ∈ met → cause.kind = .interrupted) ∧
    newsOf (onReplay acts r).1 ++ (onReplay acts r).2.news = (s.reads.whole.take size).map .byte ++ left
  late : ∀ now room, 0 < room →
    (∀ b rest, ((onReplay acts r).2.read Scripted.read now room).1 ≠ .done (b :: rest)) →
    (onReplay acts r).2.pending = [] ∧
    (onReplay acts r).2.read Scripted.read now room =
      (((onReplay acts r).2.inner.read now room).1,
        { (onReplay acts r).2 with inner := ((onReplay acts r).2.inner.read now room).2 }) ∧
    (((onReplay acts r).2.inner.read now room).1 = .done [] →
      bytesOf (newsOf (onReplay acts r).1) = s.reads.whole)
  writes : onSink acts s.sink = ((onReplay acts r).1.filter (!·.isRead), (onReplay acts r).2.inner.sink)

theorem peekedTransparent {size time : Nat} {r : Replay Scripted}
    (peeked : readPrefix Scripted.read fuel now size limit s = (some (.ok r), time)) (acts : List (Nat × Act)) :
    Transparent size s r acts := by
  obtain ⟨fresh, met, taken⟩ := prefixPeeked peeked
  obtain ⟨order, bytes, length, calm, sink⟩ := taken
  have told := actsNews acts r
  obtain ⟨header, pending⟩ := actsHeader acts r
  have whole : s.reads.whole = r.header ++ r.inner.reads.whole := by
    rw [Script.whole, ← order, bytesOfAppend, ← bytes]
    rfl
  have first : s.reads.whole.take size = r.header := by
    rw [whole, List.take_left' (by simpa using length)]
  have parts : bytesOf (newsOf (onReplay acts r).1) ++ (onReplay acts r).2.pending ++
      (onReplay acts r).2.inner.reads.whole = s.reads.whole := by
    have bytes := congrArg bytesOf told
    rw [Replay.news, Replay.news, bytesOfAppend, bytesOfAppend, bytesOfAppend, bytesOfBytes, bytesOfBytes, fresh] at bytes
    rw [List.append_assoc, whole]
    exact bytes
  refine ⟨?_, ?_, parts, ?_, ?_, ?_⟩
  · exact ⟨header.trans first.symm, by rw [header]; simpa using length⟩
  · rw [header, ← fresh]
    exact pending
  · refine ⟨met, r.inner.reads.news, order.symm, ?_, calm, ?_⟩
    · rw [first, ← bytes]
      rfl
    · rw [told, first, Replay.news, fresh]
  · intro now room hasRoom nothing
    rcases replayRead now hasRoom (onReplay acts r).2 with ⟨pending, read⟩ | ⟨pending, read⟩
    · obtain ⟨b, rest, more⟩ := List.exists_cons_of_ne_nil pending
      obtain ⟨room, rfl⟩ := Nat.exists_eq_succ_of_ne_zero (Nat.ne_of_gt hasRoom)
      rw [read, more] at nothing
      exact (nothing _ _ rfl).elim
    · refine ⟨pending, read, fun ended => ?_⟩
      obtain ⟨finished, _⟩ := Script.readEnd (s := (onReplay acts r).2.inner.reads) hasRoom ended
      have nothingLeft : (onReplay acts r).2.inner.reads.whole = [] := by rw [Script.whole, finished]; rfl
      rw [pending, nothingLeft, List.append_nil, List.append_nil] at parts
      exact parts
  · rw [← sink]
    exact actsSink acts r

def splitStream : Scripted where
  reads := [.data [65], .pend, .failure ⟨.interrupted, none⟩, .data [66, 67], .delay 5, .data [68]]

def splitReplay : Replay Scripted := ⟨⟨[.data [67], .delay 5, .data [68]], {}⟩, [65, 66], [65, 66]⟩

def splitActs : List (Nat × Act) :=
  [(0, .read 1 (by decide)), (0, .write [90]), (1, .read 4 (by decide)), (2, .read 4 (by decide))]

theorem splitTransparent :
    readPrefix Scripted.read 9 0 2 none splitStream = (some (.ok splitReplay), 0) ∧
    Transparent 2 splitStream splitReplay splitActs := by
  have peeked : readPrefix Scripted.read 9 0 2 none splitStream = (some (.ok splitReplay), 0) := rfl
  exact ⟨peeked, peekedTransparent peeked splitActs⟩

end SharedPort.Stream
