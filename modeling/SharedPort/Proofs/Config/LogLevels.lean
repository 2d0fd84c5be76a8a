import SharedPort.CommandLine.Run
import SharedPort.Proofs.Gateway.Assembly

/-! The warning about a log level against the level that is then set. The checks know five names, in small letters only;
the setting knows these and `off` in letters of any case. So the warning comes whenever the default takes the place of a
level, and also where a level with a capital letter, or `off`, is set as it is. -/
namespace SharedPort.Config
open Log (Entry Limit)

variable {c : Config} {level : String}

def levelNames : List String := ["error", "warn", "info", "debug", "trace"]

def levelWarning (level : String) : Entry :=
  ⟨.warn, .validator, s!"Invalid log level: {level}. Using default: info"⟩

def LevelWarned (c : Config) : Prop := levelWarning c.logLevel ∈ c.validate.log

/- Setting the level, with no filter from outside, does not know the name and takes the default. -/
def FallsBack (level : String) : Prop :=
  Limit.ofName? level = none ∧ ∀ current, Limit.choose current false level = some .info

/- A name that the checks do not know and the setting does. -/
def Misjudged (level : String) : Prop :=
  level.toLower = "off" ∨ level.toLower ∈ levelNames ∧ level.toLower ≠ level

theorem namesListed : Log.Level.all.map Log.Level.name = levelNames := rfl

theorem namesSmall : ∀ level ∈ levelNames, level.toLower = level := by decide +kernel

theorem knownNames : knownLogLevel level = true ↔ level ∈ levelNames := by
  rw [← namesListed, List.mem_map, knownLogLevel, List.any_eq_true]
  simp only [beq_iff_eq]

theorem unknownNames : Limit.ofName? level = none ↔ level.toLower ≠ "off" ∧ level.toLower ∉ levelNames := by
  rw [← namesListed, List.mem_map]
  simp only [Limit.ofName?]
  split
  · rename_i off
    simp [off]
  · rename_i other
    simp [other, List.find?_eq_none]

theorem fallsBack : FallsBack level ↔ level.toLower ≠ "off" ∧ level.toLower ∉ levelNames := by
  rw [← unknownNames]
  constructor
  · exact And.left
  · intro unknown
    refine ⟨unknown, fun current => ?_⟩
    simp [Limit.choose, Limit.parse, unknown]

theorem misjudgedIff : Misjudged level ↔ level ∉ levelNames ∧ ¬ FallsBack level := by
  have small := namesSmall level
  rw [fallsBack, Classical.not_and_iff_not_or_not, Classical.not_not, Classical.not_not]
  constructor
  · rintro (off | ⟨known, capital⟩)
    · refine ⟨fun quiet => ?_, .inl off⟩
      rw [← small quiet, off] at quiet
      revert quiet
      decide
    · exact ⟨fun quiet => capital (small quiet), .inr known⟩
  · rintro ⟨loud, off | known⟩
    · exact .inl off
    · exact .inr ⟨known, fun same => loud (same ▸ known)⟩

theorem validLog (valid : c.validate.value = .ok ()) : c.validate.log = logLevelWarnings c := by
  unfold validate at valid ⊢
  cases checked : (do validateListener c; validateRoutes c : Except Error Unit) with
  | error e => simp [checked] at valid
  | ok => rfl

theorem levelWarned (valid : c.validate.value = .ok ()) : c.LevelWarned ↔ c.logLevel ∉ levelNames := by
  rw [LevelWarned, validLog valid, logLevelWarnings, ← knownNames]
  cases knownLogLevel c.logLevel <;> simp [levelWarning]

structure LevelTold (c : Config) : Prop where
  valid : c.validate.value = .ok ()
  log : c.validate.log = if c.logLevel ∈ levelNames then [] else [levelWarning c.logLevel]
  warned : FallsBack c.logLevel → c.LevelWarned
  truthful : (c.LevelWarned ↔ FallsBack c.logLevel) ↔ ¬ Misjudged c.logLevel
  setNext : ∀ env first current, env.lookup CommandLine.filterVariable = none →
    (CommandLine.openGate env first).1.choose c.logLevel = .limit (Limit.choose current false c.logLevel)

theorem levelTold (well : { c with logLevel := "info" }.validate.value = .ok ()) : LevelTold c := by
  have valid : c.validate.value = .ok () := by
    rw [validateParts] at well ⊢
    exact well
  have warned : FallsBack c.logLevel → c.LevelWarned := by
    intro back
    rw [levelWarned valid]
    intro known
    have unknown := (fallsBack.mp back).2
    rw [namesSmall _ known] at unknown
    exact unknown known
  refine ⟨valid, ?_, warned, ?_, ?_⟩
  · rw [validLog valid, logLevelWarnings]
    simp only [knownNames]
    rfl
  · rw [misjudgedIff, ← levelWarned valid]
    exact ⟨fun alike lie => lie.2 (alike.mp lie.1),
      fun honest => ⟨fun told => Classical.not_not.mp fun kept => honest ⟨told, kept⟩, warned⟩⟩
  · intro env first current unset
    simp [CommandLine.openGate, unset, Log.Gate.choose, Limit.choose]

/- A level in capital letters is set as it is, after the warning that the default is used. -/
theorem capitalsMistold : ({ logLevel := "WARN" } : Config).validate =
      ⟨.ok (), [⟨.warn, .validator, "Invalid log level: WARN. Using default: info"⟩]⟩ ∧
    Limit.choose (some .trace) false "WARN" = some .warn ∧
    LevelWarned { logLevel := "WARN" } ∧ ¬ FallsBack "WARN" := by
  have named : Limit.ofName? "WARN" = some (some .warn) := by decide +kernel
  refine ⟨rfl, ?_, List.mem_singleton.mpr rfl, fun back => ?_⟩
  · rw [Limit.choose, if_neg (by decide), Limit.parse, named]
    rfl
  · rw [back.1] at named
    cases named

theorem warningMistaken : LevelTold { logLevel := "warning" } ∧ LevelWarned { logLevel := "warning" } ∧
    FallsBack "warning" := by
  have told : LevelTold { logLevel := "warning" } := levelTold rfl
  have unknown : Limit.ofName? "warning" = none := by decide +kernel
  have back : FallsBack "warning" := fallsBack.mpr (unknownNames.mp unknown)
  exact ⟨told, told.warned back, back⟩

end SharedPort.Config
