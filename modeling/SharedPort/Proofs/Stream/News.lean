import SharedPort.Stream.Script

/-! What a stream has to tell its reader: bytes and failures in one order, however they are cut into chunks and whatever
pauses lie between them. An attempt tells the beginning and leaves the rest. -/
namespace SharedPort.Stream

inductive News
  | byte (value : UInt8)
  | fault (cause : IoError)
  deriving DecidableEq, Repr

def News.byte? : News → Option UInt8
  | .byte value => some value
  | .fault _ => none

def bytesOf (news : List News) : Bytes := news.filterMap News.byte?

theorem bytesOfAppend (first second : List News) : bytesOf (first ++ second) = bytesOf first ++ bytesOf second :=
  List.filterMap_append

theorem bytesOfBytes (bytes : Bytes) : bytesOf (bytes.map .byte) = bytes := by
  induction bytes with
  | nil => rfl
  | cons b rest ih => exact congrArg (b :: ·) ih

def Attempt.news : Attempt Bytes → List News
  | .done bytes => bytes.map .byte
  | .failed cause => [.fault cause]
  | .notReady _ => []

namespace Script

def news : Script → List News
  | [] => []
  | .data bytes :: rest => bytes.map .byte ++ news rest
  | .failure cause :: rest => .fault cause :: news rest
  | .hang :: _ => []
  | .delay _ :: rest | .waitUntil _ :: rest | .pend :: rest => news rest

def whole (s : Script) : Bytes := bytesOf s.news

theorem newsPutBack (bytes : Bytes) (rest : Script) : (putBack bytes rest).news = bytes.map .byte ++ rest.news := by
  unfold putBack
  cases bytes <;> rfl

theorem readNews (now room : Nat) (s : Script) :
    (s.read now room).1.news ++ (s.read now room).2.news = s.news := by
  induction s with
  | nil => rfl
  | cons item rest ih =>
    cases item with
    | data bytes =>
      cases bytes with
      | nil => exact ih
      | cons b bytes =>
        simp only [read, List.isEmpty_cons, Bool.false_eq_true, if_false, Attempt.news, newsPutBack]
        rw [← List.append_assoc, ← List.map_append, List.take_append_drop]
        rfl
    | delay length =>
      unfold read
      split
      · exact ih
      · rfl
    | waitUntil time =>
      unfold read
      split
      · exact ih
      · rfl
    | failure | pend | hang => rfl

theorem readFits (now room : Nat) (s : Script) : (s.read now room).1.fits room = true := by
  induction s with
  | nil => exact decide_eq_true (Nat.zero_le room)
  | cons item rest ih =>
    cases item with
    | data bytes =>
      unfold read
      split
      · exact ih
      · exact decide_eq_true (List.length_take_le room bytes)
    | delay | waitUntil =>
      unfold read
      split
      · exact ih
      · rfl
    | failure | pend | hang => rfl

/- Only a script that is over gives no bytes where there is room for some, and it stays over. -/
theorem readEnd {now room : Nat} {s : Script} (hasRoom : 0 < room) (ended : (s.read now room).1 = .done []) :
    s.news = [] ∧ (s.read now room).2 = [] := by
  induction s with
  | nil => exact ⟨rfl, rfl⟩
  | cons item rest ih =>
    cases item with
    | data bytes =>
      cases bytes with
      | nil => exact ih ended
      | cons b bytes =>
        obtain ⟨room, rfl⟩ := Nat.exists_eq_succ_of_ne_zero (Nat.ne_of_gt hasRoom)
        cases ended
    | delay length =>
      unfold read at ended ⊢
      split at ended
      · rename_i zero
        rw [if_pos zero]
        exact ih ended
      · cases ended
    | waitUntil time =>
      unfold read at ended ⊢
      split at ended
      · rename_i passed
        rw [if_pos passed]
        exact ih ended
      · cases ended
    | failure | pend | hang => cases ended

end Script
end SharedPort.Stream
