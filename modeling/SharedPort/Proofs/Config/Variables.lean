import SharedPort.Proofs.Config.Layers
import SharedPort.Proofs.Number
import SharedPort.Proofs.Text.Lowercase

/-! Texts that come from the environment. The value of a variable is a truth value or a number wherever it reads as one,
and a setting that holds a text gets the text of that value; any other value arrives as it is. -/
namespace SharedPort.Config
open Settings (Node converted lowerKey reading)
open Settings.Environment (scalar)

variable {v t t' : String}

/- The text of a value, as it was given or in the usual form of what it reads as. -/
inductive Told (v : String) : String → Prop where
  | truth {b : Bool} (word : v.toLower = toString b) : Told v (toString b)
  | whole {n : Int} (untrue : ∀ b : Bool, v.toLower ≠ toString b)
      (written : Decimal.Signed Decimal.bound63 v.toList n) : Told v (toString n)
  | number {x : Binary64} (untrue : ∀ b : Bool, v.toLower ≠ toString b)
      (wide : ∀ n, ¬ Decimal.Signed Decimal.bound63 v.toList n) (written : Binary64.Written v.toList x) : Told v x.plain
  | verbatim (untrue : ∀ b : Bool, v.toLower ≠ toString b) (unwritten : ∀ x, ¬ Binary64.Written v.toList x) : Told v v

def ofValue (v : String) : Node := .scalar (some .environment) (scalar v)

theorem truthLowered (b : Bool) (v : String) : Lowercase.lower v = toString b ↔ v.toLower = toString b := by
  have plain : Lowercase.isPlain (toString b) = true := by cases b <;> decide +kernel
  have same := Lowercase.lowerSame (f := id) (fun _ => id) plain v
  rwa [String.map_id, String.map_id] at same

theorem toldTruth {b : Bool} (word : v.toLower = toString b) : scalar v = .boolean b := by
  have lowered := (truthLowered b v).mpr word
  cases b with
  | true => exact if_pos lowered
  | false =>
    have other : Lowercase.lower v ≠ "true" := by
      rw [lowered]
      decide
    exact (if_neg other).trans (if_pos lowered)

theorem toldOther (untrue : ∀ b : Bool, v.toLower ≠ toString b) : scalar v =
    match Decimal.signed Decimal.bound63 v.toList with
    | .ok n => .integer n
    | .error _ =>
        match Binary64.ofText? v with
        | some x => .float x
        | none => .text v :=
  (if_neg (mt (truthLowered true v).mp (untrue true))).trans (if_neg (mt (truthLowered false v).mp (untrue false)))

theorem signedFails (wide : ∀ n, ¬ Decimal.Signed Decimal.bound63 v.toList n) :
    ∃ e, Decimal.signed Decimal.bound63 v.toList = .error e := by
  cases read : Decimal.signed Decimal.bound63 v.toList with
  | ok n => exact absurd (Decimal.signedOk.mp read) (wide n)
  | error e => exact ⟨e, rfl⟩

theorem Told.reads (told : Told v t) (place : String) :
    Settings.text place (ofValue v) = .ok t ∧ Settings.optionalText place (ofValue v) = .ok (some t) := by
  unfold ofValue
  cases told with
  | truth word =>
    rw [toldTruth word]
    exact ⟨rfl, rfl⟩
  | whole untrue written =>
    rw [toldOther untrue, Decimal.signedOk.mpr written]
    exact ⟨rfl, rfl⟩
  | number untrue wide written =>
    obtain ⟨e, fails⟩ := signedFails wide
    rw [toldOther untrue, fails, Binary64.readsWritten.mpr written]
    exact ⟨rfl, rfl⟩
  | verbatim untrue unwritten =>
    obtain ⟨e, fails⟩ := signedFails fun n written => (Binary64.wholeWritten written).elim unwritten
    have unread : Binary64.ofText? v = none :=
      Option.eq_none_iff_forall_ne_some.mpr fun x read => unwritten x (Binary64.readsWritten.mp read)
    rw [toldOther untrue, fails, unread]
    exact ⟨rfl, rfl⟩

/- The settings that hold a text. -/
inductive TextSetting
  | host
  | defaultTarget
  | logLevel

namespace TextSetting

def field : TextSetting → Field
  | .host => .host
  | .defaultTarget => .defaultTarget
  | .logLevel => .logLevel

def only : TextSetting → String → Config
  | .host, t => { host := some t }
  | .defaultTarget, t => { defaultTarget := some t }
  | .logLevel, t => { logLevel := t }

end TextSetting

variable {files : FileTree} {before after : Environment} {name : String}

end SharedPort.Config
