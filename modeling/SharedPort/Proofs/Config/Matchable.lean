import SharedPort.Proofs.Config.Shadowing
import SharedPort.Proofs.Gateway.Agreement
import SharedPort.Proofs.Selector.Blocks

/-! Which keys are taken. Registrations and the checks of a configuration look at the length of a key, matching compares
bytes; yet the keys that are taken are exactly those which some prefix of the size that is read can match. -/
namespace SharedPort
open Config (FitRoute matchEqual matchLeading matchInsensitive exactLength)

variable {mode : MatchMode} {size : Nat} {key : Bytes}

/- Some prefix of the size that is read belongs to the key. -/
def MatchMode.Reaches (mode : MatchMode) (size : Nat) (key : Bytes) : Prop :=
  ∃ p : Bytes, p.length = size ∧ mode.isMatch p key size = true

structure FitKey (mode : MatchMode) (size : Nat) (key : Bytes) : Prop where
  nonempty : key.isEmpty = false
  fits : key.length ≤ size
  mode : mode.validateKey key size = .ok ()

theorem lengthLower (key : Bytes) : (Bytes.lower key).length = key.length := List.length_map _

theorem exactFit (exactly : mode ≠ .leading) (positive : 0 < size) (whole : key.length = size) :
    FitKey mode size key where
  nonempty := List.isEmpty_eq_false_iff.mpr (List.length_pos_iff.mp (whole ▸ positive))
  fits := Nat.le_of_eq whole
  mode := by
    cases mode with
    | leading => exact absurd rfl exactly
    | equal | caseInsensitive => exact if_pos whole

theorem filledLength (fits : key.length ≤ size) : (key ++ List.replicate (size - key.length) 0).length = size := by
  rw [List.length_append, List.length_replicate]
  omega

theorem reachesIff (positive : 0 < size) : mode.Reaches size key ↔ FitKey mode size key := by
  constructor
  · rintro ⟨p, whole, matched⟩
    cases mode with
    | equal => exact exactFit nofun positive ((matchEqual whole).mp matched ▸ whole)
    | leading =>
      obtain ⟨nonempty, front⟩ := (matchLeading whole).mp matched
      exact ⟨nonempty, whole ▸ front.length_le, rfl⟩
    | caseInsensitive =>
      have same := congrArg List.length ((matchInsensitive whole).mp matched)
      rw [lengthLower, lengthLower] at same
      exact exactFit nofun positive (same.symm.trans whole)
  · intro fit
    cases mode with
    | equal =>
      have whole : key.length = size := exactLength (by decide) fit.mode
      exact ⟨key, whole, (matchEqual whole).mpr rfl⟩
    | leading =>
      have whole := filledLength fit.fits
      exact ⟨_, whole, (matchLeading whole).mpr ⟨fit.nonempty, List.prefix_append _ _⟩⟩
    | caseInsensitive =>
      have whole : key.length = size := exactLength (by decide) fit.mode
      exact ⟨key, whole, (matchInsensitive whole).mpr rfl⟩

namespace Selector

theorem Setup.keyChecked {setup : Setup} (rule : setup.rule = mode.rule) (key : Bytes) :
    FitKey mode setup.headerSize key ∧ setup.validateKey key = .ok () ∨
    ¬ FitKey mode setup.headerSize key ∧
      ∃ cause, setup.validateKey key = .error (.invalidKeyLength (Utf8.decodeLossy key) key.length cause) := by
  unfold validateKey
  rw [rule]
  cases nonempty : key.isEmpty with
  | true => exact .inr ⟨fun fit => absurd (fit.nonempty.symm.trans nonempty) nofun, _, rfl⟩
  | false =>
    by_cases long : setup.headerSize < key.length
    · exact .inr ⟨fun fit => Nat.not_le_of_lt long fit.fits, _, by rw [if_neg nofun, if_pos long]⟩
    · rw [if_neg nofun, if_neg long]
      change _ ∧ mode.validateKey key setup.headerSize = _ ∨ _ ∧ ∃ cause, mode.validateKey key setup.headerSize = _
      cases checked : mode.validateKey key setup.headerSize with
      | ok => exact .inl ⟨⟨nonempty, Nat.le_of_not_lt long, checked⟩, rfl⟩
      | error e =>
        exact .inr ⟨fun fit => absurd (checked.symm.trans fit.mode) nofun, _, congrArg _ (Config.modeRefuses checked)⟩

theorem State.registersMatchable {s : State} (rule : s.setup.rule = mode.rule) (positive : 0 < s.setup.headerSize)
    (isOpen : s.closed = false) (absent : key ∉ s.registry.keys) :
    ((∃ l, (s.register key).1 = .ok l) ↔ mode.Reaches s.setup.headerSize key) ∧
      (¬ mode.Reaches s.setup.headerSize key →
        ∃ cause, s.register key = (.error (.invalidKeyLength (Utf8.decodeLossy key) key.length cause), s)) := by
  rw [reachesIff positive, State.registerAnswers]
  rcases Setup.keyChecked rule key with ⟨fit, checked⟩ | ⟨unfit, cause, checked⟩
  · simp [checked, isOpen, absent, fit]
  · simp [checked, unfit]

end Selector

namespace Config
variable {seen : List Bytes} {r : RouteConfig} {c : Config}

theorem routeFits (fit : FitKey mode size (Utf8.encode r.key)) (fresh : Utf8.encode r.key ∉ seen)
    (target : validateTarget (.route r.key) r.target = .ok ()) : validateRoute mode size seen r = .ok () := by
  have notLong : ¬ size < (Utf8.encode r.key).length := Nat.not_lt_of_le fit.fits
  have absent : seen.contains (Utf8.encode r.key) = false := by simpa using fresh
  simp only [validateRoute, fit.nonempty, notLong, fit.mode, absent, target, Bool.false_eq_true, if_false, bind, Except.bind]

theorem routeUnfit (unfit : ¬ FitKey mode size (Utf8.encode r.key)) : ∃ cause,
    validateRoute mode size seen r = .error (.invalidKeyLength r.key (Utf8.encode r.key).length cause) := by
  unfold validateRoute
  cases nonempty : (Utf8.encode r.key).isEmpty with
  | true =>
    have none : (Utf8.encode r.key).length = 0 := by simpa using nonempty
    exact ⟨_, by rw [none]; exact if_pos nonempty⟩
  | false =>
    by_cases long : size < (Utf8.encode r.key).length
    · exact ⟨_, by simp only [nonempty, long, Bool.false_eq_true, if_false, if_true]; rfl⟩
    · cases checked : mode.validateKey (Utf8.encode r.key) size with
      | ok => exact absurd ⟨nonempty, Nat.le_of_not_lt long, checked⟩ unfit
      | error e =>
        refine ⟨.notExact size, ?_⟩
        simp only [nonempty, long, checked, Bool.false_eq_true, if_false, bind, Except.bind]
        rw [modeRefuses checked, Utf8.decodeLossyEncode]

theorem routeTarget (valid : validateRoute mode size seen r = .ok ()) :
    validateTarget (.route r.key) r.target = .ok () := by
  obtain ⟨nonempty, fits, checked, fresh⟩ := fitRoute valid
  have notLong : ¬ size < (Utf8.encode r.key).length := Nat.not_lt_of_le fits
  have absent : seen.contains (Utf8.encode r.key) = false := by simpa using fresh
  simpa only [validateRoute, nonempty, notLong, checked, absent, Bool.false_eq_true, if_false, bind, Except.bind]
    using valid

/- Routes stay valid behind one more key that none of them has. -/
theorem routesBehind {others : List Bytes} {routes : List RouteConfig} {key : Bytes}
    (valid : validateRoutesFrom mode size seen routes = .ok ()) (absent : ∀ r ∈ routes, Utf8.encode r.key ≠ key)
    (more : ∀ k ∈ others, k = key ∨ k ∈ seen) : validateRoutesFrom mode size others routes = .ok () := by
  induction routes generalizing seen others with
  | nil => rfl
  | cons r rest ih =>
    obtain ⟨first, later⟩ := validRoutesCons valid
    obtain ⟨nonempty, fits, checked, fresh⟩ := fitRoute first
    have still : validateRoute mode size others r = .ok () := by
      refine routeFits ⟨nonempty, fits, checked⟩ (fun present => ?_) (routeTarget first)
      rcases more _ present with same | old
      · exact absent r List.mem_cons_self same
      · exact fresh old
    have rest : validateRoutesFrom mode size (Utf8.encode r.key :: others) rest = .ok () := by
      refine ih later (fun r member => absent r (List.mem_cons_of_mem _ member)) fun k member => ?_
      rcases List.mem_cons.mp member with rfl | old
      · exact .inr List.mem_cons_self
      · exact (more k old).imp_right (List.mem_cons_of_mem _)
    simp only [validateRoutesFrom, still, rest, bind, Except.bind]

theorem routesAppend (before after : List RouteConfig) (seen : List Bytes) :
    validateRoutesFrom mode size seen (before ++ after) =
      (validateRoutesFrom mode size seen before).bind fun _ =>
        validateRoutesFrom mode size (seenIn before ++ seen) after := by
  induction before generalizing seen with
  | nil => rfl
  | cons r rest ih =>
    simp only [List.cons_append, validateRoutesFrom, ih, bind]
    cases validateRoute mode size seen r with
    | error => rfl
    | ok => simp [Except.bind, seenIn]

theorem routesWith {before after : List RouteConfig} (valid : validateRoutesFrom mode size [] (before ++ after) = .ok ())
    (fresh : ∀ other ∈ before ++ after, Utf8.encode other.key ≠ Utf8.encode r.key)
    (target : validateTarget (.route r.key) r.target = .ok ()) :
    FitKey mode size (Utf8.encode r.key) ∧ validateRoutesFrom mode size [] (before ++ r :: after) = .ok () ∨
    ¬ FitKey mode size (Utf8.encode r.key) ∧ ∃ cause, validateRoutesFrom mode size [] (before ++ r :: after) =
      .error (.invalidKeyLength r.key (Utf8.encode r.key).length cause) := by
  rw [routesAppend] at valid ⊢
  cases early : validateRoutesFrom mode size [] before with
  | error e =>
    rw [early] at valid
    cases valid
  | ok =>
    rw [early] at valid
    change validateRoutesFrom mode size (seenIn before ++ []) after = .ok () at valid
    by_cases fit : FitKey mode size (Utf8.encode r.key)
    · have unseen : Utf8.encode r.key ∉ seenIn before ++ [] := by
        rw [List.append_nil, seenMem]
        intro present
        obtain ⟨other, member, same⟩ := List.mem_map.mp present
        exact fresh other (List.mem_append_left _ member) same
      have here : validateRoute mode size (seenIn before ++ []) r = .ok () := routeFits fit unseen target
      have later : validateRoutesFrom mode size (Utf8.encode r.key :: (seenIn before ++ [])) after = .ok () :=
        routesBehind valid (fun other member => fresh other (List.mem_append_right _ member)) fun _ => List.mem_cons.mp
      refine .inl ⟨fit, ?_⟩
      simp only [validateRoutesFrom, here, later, bind, Except.bind]
    · obtain ⟨cause, refused⟩ := @routeUnfit mode size (seenIn before ++ []) r fit
      refine .inr ⟨fit, cause, ?_⟩
      simp only [validateRoutesFrom, refused, bind, Except.bind]

theorem validateWith (valid : c.validate.value = .ok ()) (routes : List RouteConfig) :
    { c with routes }.validate.value = validateRoutesFrom c.matchMode c.headerSize.toNat [] routes := by
  have old := validRoutes valid
  rw [validateParts] at valid ⊢
  change (do validateListener c; validateRoutes { c with routes }; validateGeneral c) = _
  simp only [validateRoutes, bind, old] at valid ⊢
  cases listener : validateListener c with
  | error e =>
    rw [listener] at valid
    cases valid
  | ok =>
    rw [listener] at valid
    cases validateRoutesFrom c.matchMode c.headerSize.toNat [] routes with
    | error => rfl
    | ok => exact valid

theorem validSize (valid : c.validate.value = .ok ()) : 0 < c.headerSize.toNat := by
  refine Nat.pos_of_ne_zero fun zero => ?_
  have refused := validateSize.mpr ⟨by rw [zero]; rfl, rfl⟩
  rw [valid] at refused
  cases refused

theorem validatesMatchable {before after : List RouteConfig} (valid : c.validate.value = .ok ())
    (routes : c.routes = before ++ after) (fresh : ∀ other ∈ c.routes, Utf8.encode other.key ≠ Utf8.encode r.key)
    (target : validateTarget (.route r.key) r.target = .ok ()) :
    ({ c with routes := before ++ r :: after }.validate.value = .ok () ↔
        c.matchMode.Reaches c.headerSize.toNat (Utf8.encode r.key)) ∧
      (¬ c.matchMode.Reaches c.headerSize.toNat (Utf8.encode r.key) →
        ∃ cause, { c with routes := before ++ r :: after }.validate.value =
          .error (.invalidKeyLength r.key (Utf8.encode r.key).length cause)) := by
  have others := validRoutes valid
  rw [routes] at others fresh
  rw [validateWith valid, reachesIff (validSize valid)]
  rcases routesWith others fresh target with ⟨fit, checked⟩ | ⟨unfit, cause, checked⟩
  · simp [checked, fit]
  · simp [checked, unfit]

end Config

/- A registration takes exactly the keys that can be matched, and so do the checks of a configuration with one route more,
at any place. What they refuse they refuse for its length. -/
theorem acceptsMatchable :
    (∀ (mode : MatchMode) (s : Selector.State) (key : Bytes), s.setup.rule = mode.rule → 0 < s.setup.headerSize →
      s.closed = false → key ∉ s.registry.keys →
        ((∃ l, (s.register key).1 = .ok l) ↔ mode.Reaches s.setup.headerSize key) ∧
        (¬ mode.Reaches s.setup.headerSize key →
          ∃ cause, s.register key = (.error (.invalidKeyLength (Utf8.decodeLossy key) key.length cause), s))) ∧
    ∀ (c : Config) (before after : List RouteConfig) (r : RouteConfig), c.validate.value = .ok () →
      c.routes = before ++ after → (∀ other ∈ c.routes, Utf8.encode other.key ≠ Utf8.encode r.key) →
      Config.validateTarget (.route r.key) r.target = .ok () →
        ({ c with routes := before ++ r :: after }.validate.value = .ok () ↔
          c.matchMode.Reaches c.headerSize.toNat (Utf8.encode r.key)) ∧
        (¬ c.matchMode.Reaches c.headerSize.toNat (Utf8.encode r.key) →
          ∃ cause, { c with routes := before ++ r :: after }.validate.value =
            .error (.invalidKeyLength r.key (Utf8.encode r.key).length cause)) :=
  ⟨fun _ _ _ => Selector.State.registersMatchable, fun _ _ _ _ => Config.validatesMatchable⟩

def fourLetters : Selector.State := { setup := ⟨MatchMode.caseInsensitive.rule, 4, {}, ⟨.v4 127 0 0 1, 4000⟩⟩ }

theorem shortKeyRefused :
    (∃ cause, fourLetters.register [71, 69, 84] =
      (.error (.invalidKeyLength (Utf8.decodeLossy [71, 69, 84]) 3 cause), fourLetters)) ∧
    { Config.nestedConfig with routes := Config.nestedConfig.routes.take 1 ++ RouteConfig.mk "é" "epsilon:5" ::
        Config.nestedConfig.routes.drop 1 }.validate.value = .ok () := by
  have unreached : ¬ MatchMode.caseInsensitive.Reaches 4 [71, 69, 84] := by
    intro reached
    have whole : [71, 69, 84].length = 4 := exactLength (by decide) ((reachesIff (by decide)).mp reached).mode
    cases whole
  have reached : MatchMode.leading.Reaches 7 (Utf8.encode "é") := (reachesIff (by decide)).mpr ⟨rfl, by decide, rfl⟩
  exact ⟨(acceptsMatchable.1 .caseInsensitive fourLetters _ rfl (by decide) rfl (by decide)).2 unreached,
    (acceptsMatchable.2 Config.nestedConfig _ _ ⟨"é", "epsilon:5"⟩ rfl rfl (by decide) rfl).1.mpr reached⟩

end SharedPort
