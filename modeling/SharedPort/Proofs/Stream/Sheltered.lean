import SharedPort.Proofs.Stream.Transparent

/-! Reads of a stream with bytes read ahead, as long as some of them are pending. A read into a buffer with room is
answered out of these bytes and never gets to the stream; a read into an empty buffer always does. So the stream sees
the reads into empty buffers and nothing else, in their order. -/
namespace SharedPort.Stream

structure Reading where
  now : Nat
  room : Nat
  deriving DecidableEq, Repr

def Reading.isEmpty (a : Reading) : Bool := a.room = 0

variable {σ : Type}

def readAll (read : ReadOp σ) : List Reading → σ → List (Reading × Attempt Bytes) × σ
  | [], s => ([], s)
  | a :: rest, s =>
      let first := read a.now a.room s
      let later := readAll read rest first.2
      ((a, first.1) :: later.1, later.2)

abbrev Replay.readAll (readInner : ReadOp σ) (reads : List Reading) (r : Replay σ) :
    List (Reading × Attempt Bytes) × Replay σ :=
  SharedPort.Stream.readAll (Replay.read readInner) reads r

def told (answers : List (Reading × Attempt Bytes)) : List News := answers.flatMap (·.2.news)

def filled (answers : List (Reading × Attempt Bytes)) : Bytes := bytesOf (told (answers.filter (!·.1.isEmpty)))

/- A read gives pending bytes if there are some and it has room for them, and otherwise it is the stream's own. -/
inductive Replayed (readInner : ReadOp σ) (a : Reading) (r : Replay σ) : Attempt Bytes × Replay σ → Prop where
  | ahead (pending : r.pending ≠ []) (room : a.isEmpty = false) :
      Replayed readInner a r (.done (r.pending.take a.room), { r with pending := r.pending.drop a.room })
  | through (free : r.pending = [] ∨ a.isEmpty = true) :
      Replayed readInner a r
        ((readInner a.now a.room r.inner).1, { r with inner := (readInner a.now a.room r.inner).2 })

variable {readInner : ReadOp σ} {r : Replay σ} {before : List Reading} {a : Reading}

theorem replayed (readInner : ReadOp σ) (a : Reading) (r : Replay σ) :
    Replayed readInner a r (r.read readInner a.now a.room) := by
  unfold Replay.read
  split
  · rename_i both
    exact .ahead both.1 (decide_eq_false (Nat.ne_of_gt both.2))
  · rename_i neither
    refine .through ?_
    by_cases pending : r.pending = []
    · exact .inl pending
    · exact .inr (decide_eq_true (Nat.eq_zero_of_not_pos fun room => neither ⟨pending, room⟩))

/- A sequence of reads, the last of them made with something pending: what the stream was asked, what the reads got of
it and what they got of the prefix. -/
structure Shaded (readInner : ReadOp σ) (reads : List Reading) (r : Replay σ) : Prop where
  asked : (r.readAll readInner reads).2.inner =
    (readAll readInner (reads.filter Reading.isEmpty) r.inner).2
  empties : (r.readAll readInner reads).1.filter (·.1.isEmpty) =
    (readAll readInner (reads.filter Reading.isEmpty) r.inner).1
  served : ∀ entry ∈ (r.readAll readInner reads).1, entry.1.isEmpty = false →
    ∃ bytes ≠ [], entry.2 = .done bytes ∧ bytes.length ≤ entry.1.room
  given : filled (r.readAll readInner reads).1 ++ (r.readAll readInner reads).2.pending =
    r.pending
  header : (r.readAll readInner reads).2.header = r.header

theorem shadedNone (r : Replay σ) : Shaded readInner [] r :=
  ⟨rfl, rfl, (fun _ none => by cases none), rfl, rfl⟩

theorem filledEmpty (attempt : Attempt Bytes) (answers : List (Reading × Attempt Bytes)) (empty : a.isEmpty = true) :
    filled ((a, attempt) :: answers) = filled answers := by
  simp only [filled, List.filter_cons, empty, Bool.not_true, Bool.false_eq_true, if_false]

theorem filledRoom (bytes : Bytes) (answers : List (Reading × Attempt Bytes)) (room : a.isEmpty = false) :
    filled ((a, .done bytes) :: answers) = bytes ++ filled answers := by
  simp only [filled, told, List.filter_cons, room, Bool.not_false, if_true, List.flatMap_cons, bytesOfAppend,
    Attempt.news, bytesOfBytes]

theorem Shaded.first {reads : List Reading} (pending : r.pending ≠ [])
    (later : Shaded readInner reads (r.read readInner a.now a.room).2) : Shaded readInner (a :: reads) r := by
  have step := replayed readInner a r
  generalize got : r.read readInner a.now a.room = next at step later
  obtain ⟨asked, empties, served, given, header⟩ := later
  cases step with
  | ahead _ room =>
    have some : 0 < a.room := Nat.pos_of_ne_zero (of_decide_eq_false room)
    constructor <;> simp only [Replay.readAll, readAll, got, List.filter_cons, room, Bool.false_eq_true, if_false]
    · exact asked
    · exact empties
    · intro entry member room
      rcases List.mem_cons.mp member with rfl | after
      · refine ⟨r.pending.take a.room, ?_, rfl, List.length_take_le a.room r.pending⟩
        simp [pending, Nat.ne_of_gt some]
      · exact served entry after room
    · rw [filledRoom _ _ room, List.append_assoc, given]
      exact List.take_append_drop a.room r.pending
    · exact header
  | through free =>
    have empty := free.resolve_left pending
    constructor <;> simp only [Replay.readAll, readAll, got, List.filter_cons, empty, if_true]
    · exact asked
    · rw [empties]
    · intro entry member room
      rcases List.mem_cons.mp member with rfl | after
      · cases empty.symm.trans room
      · exact served entry after room
    · rw [filledEmpty _ _ empty]
      exact given
    · exact header

theorem pendingSuffix (readInner : ReadOp σ) (reads : List Reading) (r : Replay σ) :
    (r.readAll readInner reads).2.pending <:+ r.pending := by
  induction reads generalizing r with
  | nil => exact List.suffix_refl _
  | cons a rest ih => exact (ih _).trans Replay.readSuffix

theorem shaded (a : Reading) (left : (r.readAll readInner before).2.pending ≠ []) :
    Shaded readInner (before ++ [a]) r := by
  induction before generalizing r with
  | nil => exact (shadedNone _).first left
  | cons b rest ih =>
    have pending : r.pending ≠ [] := by
      intro none
      have suffix := pendingSuffix readInner (b :: rest) r
      rw [none, List.suffix_nil] at suffix
      exact left suffix
    exact (ih left).first pending

theorem readAllSnoc (read : ReadOp σ) (before : List Reading) (a : Reading) (s : σ) :
    readAll read (before ++ [a]) s =
      ((readAll read before s).1 ++ [(a, (read a.now a.room (readAll read before s).2).1)],
        (read a.now a.room (readAll read before s).2).2) := by
  induction before generalizing s with
  | nil => rfl
  | cons b rest ih => simp only [List.cons_append, readAll, ih]

theorem readAllNews (reads : List Reading) (s : Scripted) :
    told (readAll Scripted.read reads s).1 ++ (readAll Scripted.read reads s).2.reads.news = s.reads.news := by
  induction reads generalizing s with
  | nil => rfl
  | cons a rest ih =>
    simp only [readAll, told, List.flatMap_cons, List.append_assoc]
    exact (congrArg _ (ih _)).trans (Script.readNews a.now a.room s.reads)

theorem emptyReadTold (now : Nat) (s : Script) : bytesOf (s.read now 0).1.news = [] := by
  have fits := Script.readFits now 0 s
  cases answer : (s.read now 0).1 with
  | failed | notReady => rfl
  | done bytes =>
    rw [answer] at fits
    rw [List.eq_nil_of_length_eq_zero (Nat.le_zero.mp (of_decide_eq_true fits))]
    rfl

theorem emptyTold (reads : List Reading) (s : Scripted) :
    bytesOf (told (readAll Scripted.read (reads.filter Reading.isEmpty) s).1) = [] := by
  induction reads generalizing s with
  | nil => rfl
  | cons a rest ih =>
    cases empty : a.isEmpty with
    | false => simpa only [List.filter_cons, empty, Bool.false_eq_true, if_false] using ih s
    | true =>
      have first : bytesOf (s.read a.now a.room).1.news = [] := by
        rw [show a.room = 0 from of_decide_eq_true empty]
        exact emptyReadTold a.now s.reads
      simp only [List.filter_cons, empty, if_true, readAll, told, List.flatMap_cons, bytesOfAppend, first,
        List.nil_append]
      exact ih _

/- A read `a` after the reads `before`, and everything that the script was asked up to it. -/
structure Sheltered (r : Replay Scripted) (before : List Reading) (a : Reading) : Prop where
  ahead : a.isEmpty = false → r.readAll Scripted.read (before ++ [a]) =
    ((r.readAll Scripted.read before).1 ++ [(a, .done ((r.readAll Scripted.read before).2.pending.take a.room))],
      { (r.readAll Scripted.read before).2 with
        pending := (r.readAll Scripted.read before).2.pending.drop a.room })
  through : a.isEmpty = true → r.readAll Scripted.read (before ++ [a]) =
    ((r.readAll Scripted.read before).1 ++ [(a, ((r.readAll Scripted.read before).2.inner.read a.now a.room).1)],
      { (r.readAll Scripted.read before).2 with
        inner := ((r.readAll Scripted.read before).2.inner.read a.now a.room).2 })
  shaded : Shaded Scripted.read (before ++ [a]) r
  untouched : (∀ b ∈ before ++ [a], b.isEmpty = false) →
    (r.readAll Scripted.read (before ++ [a])).2.inner = r.inner
  faults : told ((r.readAll Scripted.read (before ++ [a])).1.filter (·.1.isEmpty)) ++
    (r.readAll Scripted.read (before ++ [a])).2.inner.reads.news = r.inner.reads.news
  kept : (r.readAll Scripted.read (before ++ [a])).2.inner.reads.whole = r.inner.reads.whole

theorem prefixSheltered {r : Replay Scripted} (a : Reading)
    (left : (r.readAll Scripted.read before).2.pending ≠ []) : Sheltered r before a := by
  have shade := shaded a left
  have news := readAllNews ((before ++ [a]).filter Reading.isEmpty) r.inner
  refine ⟨fun room => ?_, fun empty => ?_, shade, fun rooms => ?_, ?_, ?_⟩
  · rw [Replay.readAll, readAllSnoc, Replay.readPending left (Nat.pos_of_ne_zero (of_decide_eq_false room))]
  · have none : a.room = 0 := of_decide_eq_true empty
    rw [Replay.readAll, readAllSnoc, none]
    simp [Replay.read]
  · rw [shade.asked, List.filter_eq_nil_iff.mpr fun b member => by simp [rooms b member]]
    rfl
  · rw [shade.empties, shade.asked]
    exact news
  · have bytes := congrArg bytesOf news
    rw [bytesOfAppend, emptyTold, List.nil_append] at bytes
    rw [shade.asked]
    exact bytes

def resetBehind : Replay Scripted := .ofHeader { reads := [.failure ⟨.connectionReset, none⟩, .data [67]] } [65, 66]

def silenceBehind : Replay Scripted := .ofHeader { reads := [.hang] } [65, 66]

theorem oneByteSheltered :
    (resetBehind.readAll Scripted.read [⟨0, 1⟩, ⟨0, 0⟩]).2.pending ≠ [] ∧
    Sheltered resetBehind [⟨0, 1⟩, ⟨0, 0⟩] ⟨1, 4⟩ := by
  have left : (resetBehind.readAll Scripted.read [⟨0, 1⟩, ⟨0, 0⟩]).2.pending ≠ [] := by decide
  exact ⟨left, prefixSheltered ⟨1, 4⟩ left⟩

theorem emptyReadFails :
    resetBehind.pending = [65, 66] ∧
    resetBehind.read Scripted.read 0 0 =
      (.failed ⟨.connectionReset, none⟩, { resetBehind with inner := { reads := [.data [67]] } }) ∧
    silenceBehind.pending = [65, 66] ∧
    silenceBehind.read Scripted.read 0 0 = (.notReady .never, silenceBehind) :=
  ⟨rfl, rfl, rfl, rfl⟩

end SharedPort.Stream
