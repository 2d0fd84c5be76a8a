import SharedPort.Proofs.Gateway.Assembly
import SharedPort.Proofs.Text.Quoting

/-! Which warnings about shadowed keys are given, and which keys no connection can reach. A key is out of reach behind
an earlier one that takes every prefix the later asks for. The warnings compare keys byte by byte, which tells the same
wherever prefixes are compared so. -/
namespace SharedPort.Config

variable {c : Config} {a b : RouteConfig}

def Asks (c : Config) (r : RouteConfig) (p : Bytes) : Prop :=
  c.matchMode.isMatch p (Utf8.encode r.key) c.headerSize.toNat = true

/- Whatever prefix the later route asks for, the earlier one takes. -/
def Covers (c : Config) (earlier later : RouteConfig) : Prop :=
  ∀ p : Bytes, p.length = c.headerSize.toNat → c.Asks later p → c.Asks earlier p

def Warned (c : Config) (earlier later : RouteConfig) : Prop :=
  (Warning.shadowed earlier.key later.key).message ∈ c.check.map Warning.message

theorem inOrder {routes : List RouteConfig} {i j : Nat} (before : i < j) (first : routes[i]? = some a)
    (second : routes[j]? = some b) : [a, b].Sublist routes := by
  have pairs : routes.Pairwise fun a b => [a, b].Sublist routes :=
    List.pairwise_iff_forall_sublist.mpr fun sub => sub
  obtain ⟨iInside, rfl⟩ := List.getElem?_eq_some_iff.mp first
  obtain ⟨jInside, rfl⟩ := List.getElem?_eq_some_iff.mp second
  exact List.pairwise_iff_getElem.mp pairs i j iInside jInside before

theorem fitBehind {mode : MatchMode} {headerSize : Nat} {seen : List Bytes} {routes : List RouteConfig}
    (valid : validateRoutesFrom mode headerSize seen routes = .ok ()) (listed : b ∈ routes) :
    ∃ before, seen ⊆ before ∧ FitRoute mode headerSize before b := by
  induction routes generalizing seen with
  | nil => cases listed
  | cons r rest ih =>
    obtain ⟨first, others⟩ := validRoutesCons valid
    rcases List.mem_cons.mp listed with rfl | inside
    · exact ⟨seen, List.Subset.refl seen, fitRoute first⟩
    · obtain ⟨before, within, fit⟩ := ih others inside
      exact ⟨before, fun key present => within (List.mem_cons_of_mem _ present), fit⟩

theorem fitPair {mode : MatchMode} {headerSize : Nat} {seen : List Bytes} {routes : List RouteConfig}
    (valid : validateRoutesFrom mode headerSize seen routes = .ok ()) (order : [a, b].Sublist routes) :
    (∃ before, FitRoute mode headerSize before a) ∧
      ∃ before, Utf8.encode a.key ∈ before ∧ FitRoute mode headerSize before b := by
  induction routes generalizing seen with
  | nil => exact absurd order (by simp)
  | cons r rest ih =>
    obtain ⟨first, others⟩ := validRoutesCons valid
    rcases List.sublist_cons_iff.mp order with inside | ⟨tail, split, inside⟩
    · exact ih others inside
    · obtain ⟨rfl, rfl⟩ := List.cons.inj split
      obtain ⟨before, within, fit⟩ := fitBehind others (List.singleton_sublist.mp inside)
      exact ⟨⟨seen, fitRoute first⟩, before, within List.mem_cons_self, fit⟩

theorem memShadowWarnings {routes : List RouteConfig} {w : Warning} : w ∈ shadowWarnings routes ↔
    ∃ a b, [a, b].Sublist routes ∧ shadows a b = true ∧ w = .shadowed a.key b.key := by
  induction routes with
  | nil => simp [shadowWarnings]
  | cons r rest ih =>
    simp only [shadowWarnings, List.mem_append, List.mem_map, List.mem_filter, ih]
    constructor
    · rintro (⟨later, ⟨inside, shadow⟩, rfl⟩ | ⟨a, b, order, shadow, rfl⟩)
      · exact ⟨r, later, List.Sublist.cons_cons r (List.singleton_sublist.mpr inside), shadow, rfl⟩
      · exact ⟨a, b, List.Sublist.cons r order, shadow, rfl⟩
    · rintro ⟨a, b, order, shadow, rfl⟩
      rcases List.sublist_cons_iff.mp order with inside | ⟨tail, split, inside⟩
      · exact .inr ⟨a, b, inside, shadow, rfl⟩
      · obtain ⟨rfl, rfl⟩ := List.cons.inj split
        exact .inl ⟨b, ⟨List.singleton_sublist.mp inside, shadow⟩, rfl⟩

theorem memCheck {earlier later : String} :
    .shadowed earlier later ∈ c.check ↔ .shadowed earlier later ∈ shadowWarnings c.routes := by
  simp only [check, List.mem_append]
  constructor
  · rintro ((((first | shadow) | peek) | queue) | buffer)
    · split_ifs at first <;> simp at first
    · exact shadow
    · split_ifs at peek <;> simp at peek
    · split_ifs at queue <;> simp at queue
    · split_ifs at buffer <;> simp at buffer
  · exact fun shadow => .inl (.inl (.inl (.inr shadow)))

theorem shadowChars (earlier later : String) : (Warning.shadowed earlier later).message.toList =
    "Key ".toList ++ ((Quoted.text earlier).toList ++ (" shadows later key ".toList ++
      ((Quoted.text later).toList ++ "; the first registered match wins".toList))) := by
  unfold Warning.message
  simp only [String.toList_append, List.append_assoc]
  rfl

theorem shadowFirst (earlier later : String) : (Warning.shadowed earlier later).message.toList.head? = some 'K' := by
  rw [shadowChars]
  rfl

theorem shadowMessage {earlier later : String} {w : Warning}
    (same : w.message = (Warning.shadowed earlier later).message) : w = .shadowed earlier later := by
  have first := congrArg (fun text => text.toList.head?) same
  simp only [shadowFirst] at first
  cases w with
  | shadowed one other =>
    have chars := congrArg String.toList same
    rw [shadowChars, shadowChars] at chars
    obtain ⟨rfl, rest⟩ := Quoted.textSame (List.append_cancel_left chars)
    obtain ⟨rfl, _⟩ := Quoted.textSame (List.append_cancel_left rest)
    rfl
  | noRoutes => exact absurd first (by decide)
  | noDefaultTarget => exact absurd first (by decide)
  | noPeekTimeout => exact absurd first (by decide)
  | unboundedQueues => exact absurd first (by decide)
  | smallBuffer size =>
    have front : (Warning.smallBuffer size).message.toList.head? = some 'B' := by
      unfold Warning.message
      simp only [String.toList_append, List.append_assoc]
      rfl
    exact absurd (front.symm.trans first) (by decide)

theorem warnedIff (order : [a, b].Sublist c.routes) : c.Warned a b ↔ shadows a b = true := by
  simp only [Warned, List.mem_map]
  constructor
  · rintro ⟨w, told, same⟩
    cases shadowMessage same
    obtain ⟨x, y, _, shadow, same⟩ := memShadowWarnings.mp (memCheck.mp told)
    obtain ⟨first, second⟩ := Warning.shadowed.inj same
    simpa only [shadows, first, second] using shadow
  · exact fun shadow => ⟨_, memCheck.mpr (memShadowWarnings.mpr ⟨a, b, order, shadow, rfl⟩), rfl⟩

variable {size : Nat} {x y p : Bytes}

theorem matchedWhole {mode : MatchMode} (matched : mode.isMatch p x size = true) : p.length = size := by
  unfold MatchMode.isMatch at matched
  split at matched
  · cases matched
  · exact Decidable.not_not.mp ‹_›

theorem matchEqual (whole : p.length = size) : MatchMode.equal.isMatch p x size = true ↔ p = x := by
  simp only [MatchMode.isMatch, whole, ne_eq, not_true_eq_false, if_false, beq_iff_eq]

theorem matchLeading (whole : p.length = size) :
    MatchMode.leading.isMatch p x size = true ↔ x.isEmpty = false ∧ x <+: p := by
  simp only [MatchMode.isMatch, whole, ne_eq, not_true_eq_false, if_false, Bool.and_eq_true, Bool.not_eq_true',
    List.isPrefixOf_iff_prefix]

theorem matchInsensitive (whole : p.length = size) :
    MatchMode.caseInsensitive.isMatch p x size = true ↔ Bytes.lower p = Bytes.lower x := by
  simp only [MatchMode.isMatch, whole, ne_eq, not_true_eq_false, if_false, Bytes.sameIgnoringCase, beq_iff_eq]

theorem coversEqual (whole : y.length = size) :
    (∀ p : Bytes, p.length = size → MatchMode.equal.isMatch p y size = true → MatchMode.equal.isMatch p x size = true) ↔
      y = x := by
  constructor
  · intro covers
    exact (matchEqual whole).mp (covers y whole ((matchEqual whole).mpr rfl))
  · rintro rfl
    exact fun _ _ asks => asks

theorem coversInsensitive (whole : y.length = size) :
    (∀ p : Bytes, p.length = size → MatchMode.caseInsensitive.isMatch p y size = true →
      MatchMode.caseInsensitive.isMatch p x size = true) ↔ Bytes.lower y = Bytes.lower x := by
  constructor
  · intro covers
    exact (matchInsensitive whole).mp (covers y whole ((matchInsensitive whole).mpr rfl))
  · intro same p length asks
    exact (matchInsensitive length).mpr (((matchInsensitive length).mp asks).trans same)

theorem nextDiffers (b : UInt8) : b + 1 ≠ b := by
  intro same
  have numbers := congrArg UInt8.toNat same
  rw [UInt8.toNat_add] at numbers
  have small := b.toNat_lt
  change (b.toNat + 1) % 256 = b.toNat at numbers
  omega

/- A key that goes on where the later one stops leaves out the prefixes that go on otherwise. -/
theorem coversLeading (someX : x.isEmpty = false) (someY : y.isEmpty = false) (fits : y.length ≤ size) :
    (∀ p : Bytes, p.length = size → MatchMode.leading.isMatch p y size = true →
      MatchMode.leading.isMatch p x size = true) ↔ x <+: y := by
  constructor
  · intro covers
    let other := x.getD y.length 0 + 1
    let p := y ++ List.replicate (size - y.length) other
    have whole : p.length = size := by
      simp only [p, List.length_append, List.length_replicate]
      omega
    obtain ⟨_, taken⟩ := (matchLeading whole).mp (covers p whole ((matchLeading whole).mpr ⟨someY, List.prefix_append _ _⟩))
    rcases Nat.lt_or_ge y.length x.length with longer | shorter
    · have inside : y.length < p.length := Nat.lt_of_lt_of_le longer taken.length_le
      have agrees : x[y.length] = p[y.length] := taken.getElem longer
      have goesOn : p[y.length] = x[y.length] + 1 := by
        simp only [p, other, List.getElem_append_right (Nat.le_refl _), List.getElem_replicate,
          List.getD_eq_getElem?_getD, List.getElem?_eq_getElem longer, Option.getD_some]
      exact absurd (agrees.trans goesOn).symm (nextDiffers _)
    · exact List.prefix_of_prefix_length_le taken (List.prefix_append _ _) shorter
  · intro front p length asks
    exact (matchLeading length).mpr ⟨someX, front.trans ((matchLeading length).mp asks).2⟩

theorem exactLength {mode : MatchMode} {key : Bytes} (exactly : mode ≠ .leading)
    (fit : mode.validateKey key size = .ok ()) : key.length = size := by
  have required : MatchMode.requireExact key size = .ok () := by
    cases mode with
    | equal => exact fit
    | caseInsensitive => exact fit
    | leading => exact absurd rfl exactly
  unfold MatchMode.requireExact at required
  split at required
  · assumption
  · cases required

def Takes (mode : MatchMode) (x y : Bytes) : Prop :=
  match mode with
  | .equal => y = x
  | .leading => x <+: y
  | .caseInsensitive => Bytes.lower y = Bytes.lower x

theorem coversIff {seen others : List Bytes} (first : FitRoute c.matchMode c.headerSize.toNat seen a)
    (second : FitRoute c.matchMode c.headerSize.toNat others b) :
    c.Covers a b ↔ Takes c.matchMode (Utf8.encode a.key) (Utf8.encode b.key) := by
  unfold Covers Asks
  have checked := second.mode
  generalize c.matchMode = mode at checked ⊢
  cases mode with
  | equal => exact coversEqual (exactLength (by decide) checked)
  | leading => exact coversLeading first.nonempty second.nonempty second.fits
  | caseInsensitive => exact coversInsensitive (exactLength (by decide) checked)

theorem shadowsExact {seen others : List Bytes} (exactly : c.matchMode ≠ .leading)
    (first : FitRoute c.matchMode c.headerSize.toNat seen a) (second : FitRoute c.matchMode c.headerSize.toNat others b)
    (distinct : Utf8.encode a.key ≠ Utf8.encode b.key) : shadows a b = false := by
  refine Bool.eq_false_iff.mpr fun shadow => distinct ?_
  refine (List.isPrefixOf_iff_prefix.mp shadow).eq_of_length ?_
  rw [exactLength exactly first.mode, exactLength exactly second.mode]

theorem neverReached {setup : Selector.Setup} {options : Forward.Options} {i j : Nat} (before : i < j)
    (first : c.routes[i]? = some a) (second : c.routes[j]? = some b) (covers : c.Covers a b) (p : Bytes) :
    (Gateway.assembled setup options c.routes c.defaultTarget).selector.registry.route c.matchMode.rule
      c.headerSize.toNat p ≠ some j := by
  intro leads
  obtain ⟨iInside, rfl⟩ := List.getElem?_eq_some_iff.mp first
  obtain ⟨jInside, rfl⟩ := List.getElem?_eq_some_iff.mp second
  simp only [Registry.route, Gateway.assembled] at leads
  cases found : (c.routes.mapIdx fun l r => (Utf8.encode r.key, l)).find? fun entry =>
      c.matchMode.rule.isMatch p entry.1 c.headerSize.toNat with
  | none =>
    rw [found] at leads
    obtain ⟨_, _, count⟩ := Option.map_eq_some_iff.mp leads
    omega
  | some entry =>
    rw [found] at leads
    obtain ⟨asks, k, kInside, here, passed⟩ := List.find?_eq_some_iff_getElem.mp found
    rw [List.getElem_mapIdx] at here
    subst here
    cases Option.some.inj leads
    have refused := passed i before
    rw [List.getElem_mapIdx] at refused
    have taken := covers p (matchedWhole asks) asks
    exact absurd taken (by simpa [Asks, MatchMode.rule] using refused)

structure Shadowing (c : Config) (j : Nat) (earlier later : RouteConfig) : Prop where
  toldExactly : c.matchMode ≠ .caseInsensitive → (c.Warned earlier later ↔ c.Covers earlier later)
  untold : c.matchMode = .caseInsensitive → ¬ c.Warned earlier later
  coveredUntold : c.matchMode = .caseInsensitive →
    (c.Covers earlier later ↔ Bytes.lower (Utf8.encode later.key) = Bytes.lower (Utf8.encode earlier.key))
  starved : c.Covers earlier later → ∀ setup options p,
    (Gateway.assembled setup options c.routes c.defaultTarget).selector.registry.route c.matchMode.rule
      c.headerSize.toNat p ≠ some j

theorem shadowing (valid : c.validate.value = .ok ()) {i j : Nat} {earlier later : RouteConfig} (before : i < j)
    (first : c.routes[i]? = some earlier) (second : c.routes[j]? = some later) : Shadowing c j earlier later := by
  have order := inOrder before first second
  obtain ⟨⟨_, fitEarlier⟩, _, seen, fitLater⟩ := fitPair (validRoutes valid) order
  have distinct : Utf8.encode earlier.key ≠ Utf8.encode later.key := fun same => fitLater.fresh (same ▸ seen)
  have warned := warnedIff order
  have covers := coversIff fitEarlier fitLater
  refine ⟨fun alike => ?_, fun insensitive => ?_, fun insensitive => ?_, fun covered setup options => ?_⟩
  · rw [warned, covers]
    cases mode : c.matchMode with
    | equal =>
      have apart := shadowsExact (by rw [mode]; nofun) fitEarlier fitLater distinct
      simp only [apart, Bool.false_eq_true, Takes, false_iff]
      exact fun same => distinct same.symm
    | leading => exact List.isPrefixOf_iff_prefix
    | caseInsensitive => exact absurd mode alike
  · rw [warned, shadowsExact (by rw [insensitive]; nofun) fitEarlier fitLater distinct]
    exact Bool.false_ne_true
  · rw [covers, insensitive]
    rfl
  · exact neverReached before first second covered

def nestedConfig : Config :=
  { headerSize := 7, matchMode := .leading, routes := [⟨"SSH-", "alpha:1"⟩, ⟨"GET", "beta:2"⟩, ⟨"SSH-2.0", "gamma:3"⟩],
    defaultTarget := some "delta:4" }

theorem nestedShadowing : nestedConfig.validate.value = .ok () ∧
    nestedConfig.Warned ⟨"SSH-", "alpha:1"⟩ ⟨"SSH-2.0", "gamma:3"⟩ ∧
    ¬ nestedConfig.Warned ⟨"GET", "beta:2"⟩ ⟨"SSH-2.0", "gamma:3"⟩ ∧
    Shadowing nestedConfig 2 ⟨"SSH-", "alpha:1"⟩ ⟨"SSH-2.0", "gamma:3"⟩ := by
  have valid : nestedConfig.validate.value = .ok () := rfl
  have order : [(⟨"SSH-", "alpha:1"⟩ : RouteConfig), ⟨"SSH-2.0", "gamma:3"⟩].Sublist nestedConfig.routes :=
    inOrder (i := 0) (j := 2) (by decide) rfl rfl
  have apart : [(⟨"GET", "beta:2"⟩ : RouteConfig), ⟨"SSH-2.0", "gamma:3"⟩].Sublist nestedConfig.routes :=
    inOrder (i := 1) (j := 2) (by decide) rfl rfl
  refine ⟨valid, (warnedIff order).mpr rfl, fun warned => ?_, shadowing valid (i := 0) (by decide) rfl rfl⟩
  exact absurd ((warnedIff apart).mp warned) (by decide)

/- Two spellings of one key, where the case of letters does not count: the second is out of reach without a word. -/
def twinConfig : Config :=
  { matchMode := .caseInsensitive, routes := [⟨"GET ", "alpha:1"⟩, ⟨"get ", "beta:2"⟩] }

theorem twinUntold : twinConfig.validate.value = .ok () ∧ twinConfig.Covers ⟨"GET ", "alpha:1"⟩ ⟨"get ", "beta:2"⟩ ∧
    ¬ twinConfig.Warned ⟨"GET ", "alpha:1"⟩ ⟨"get ", "beta:2"⟩ := by
  have valid : twinConfig.validate.value = .ok () := rfl
  have order : [(⟨"GET ", "alpha:1"⟩ : RouteConfig), ⟨"get ", "beta:2"⟩].Sublist twinConfig.routes :=
    inOrder (i := 0) (j := 1) (by decide) rfl rfl
  obtain ⟨⟨_, first⟩, _, _, second⟩ := fitPair (validRoutes valid) order
  refine ⟨valid, (coversIff first second).mpr rfl, fun warned => ?_⟩
  exact absurd ((warnedIff order).mp warned) (by decide)

end SharedPort.Config
