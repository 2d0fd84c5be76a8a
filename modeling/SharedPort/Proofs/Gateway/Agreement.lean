import SharedPort.Proofs.Gateway.Assembly
import SharedPort.Proofs.Text.Encoding

/-! The checks of a configuration and the registrations of its gateway. They accept the same routes, and of routes that
they refuse both refuse the same one first. Neither looks at a configuration whose prefix has no usable size. -/
namespace SharedPort

/- Refusals of one key for one kind of reason; its wording is left open. -/
inductive Error.SameRefusal : Error → Error → Prop where
  | length {key length cause cause'} :
      SameRefusal (.invalidKeyLength key length cause) (.invalidKeyLength key length cause')
  | duplicate {key} : SameRefusal (.duplicateKey key) (.duplicateKey key)

namespace Config
open Error (SameRefusal)

def seenIn (routes : List RouteConfig) : List Bytes := (routes.map fun r => Utf8.encode r.key).reverse

theorem seenMem {routes : List RouteConfig} {key : Bytes} :
    key ∈ seenIn routes ↔ key ∈ routes.map fun r => Utf8.encode r.key := List.mem_reverse

theorem firstRefused {mode : MatchMode} {headerSize : Nat} {seen : List Bytes} {routes : List RouteConfig} {e : Error}
    (refused : validateRoutesFrom mode headerSize seen routes = .error e) :
    ∃ before r after, routes = before ++ r :: after ∧ validateRoutesFrom mode headerSize seen before = .ok () ∧
      validateRoute mode headerSize (seenIn before ++ seen) r = .error e := by
  induction routes generalizing seen with
  | nil => cases refused
  | cons r rest ih =>
    unfold validateRoutesFrom at refused
    cases first : validateRoute mode headerSize seen r with
    | error f =>
      simp only [first, bind, Except.bind] at refused
      cases refused
      exact ⟨[], r, rest, rfl, rfl, first⟩
    | ok _ =>
      simp only [first, bind, Except.bind] at refused
      obtain ⟨before, s, after, rfl, fine, stops⟩ := ih refused
      refine ⟨r :: before, s, after, rfl, ?_, ?_⟩
      · simp only [validateRoutesFrom, first, fine, bind, Except.bind]
      · simpa [seenIn] using stops

theorem modeRefuses {mode : MatchMode} {key : Bytes} {headerSize : Nat} {e : Error}
    (refused : mode.validateKey key headerSize = .error e) :
    e = .invalidKeyLength (Utf8.decodeLossy key) key.length (.notExact headerSize) := by
  cases mode with
  | leading => cases refused
  | equal | caseInsensitive =>
    simp only [MatchMode.validateKey, MatchMode.requireExact] at refused
    split at refused
    · cases refused
    · cases refused
      rfl

theorem refusedAlike {setup : Selector.Setup} {mode : MatchMode} {seen : List Bytes} {r : RouteConfig} {e : Error}
    (rule : setup.rule = mode.rule) (target : validateTarget (.route r.key) r.target = .ok ())
    (refused : validateRoute mode setup.headerSize seen r = .error e) :
    ∃ e', SameRefusal e e' ∧ (setup.validateKey (Utf8.encode r.key) = .error e' ∨
      setup.validateKey (Utf8.encode r.key) = .ok () ∧ Utf8.encode r.key ∈ seen ∧ e' = .duplicateKey r.key) := by
  have text := Utf8.decodeLossyEncode r.key
  unfold validateRoute at refused
  unfold Selector.Setup.validateKey
  simp only [rule, MatchMode.rule, text]
  cases empty : (Utf8.encode r.key).isEmpty with
  | true =>
    have none : (Utf8.encode r.key).length = 0 := by simpa using empty
    simp only [empty, if_true] at refused ⊢
    cases refused
    rw [none]
    exact ⟨_, .length, .inl rfl⟩
  | false =>
    by_cases long : setup.headerSize < (Utf8.encode r.key).length
    · simp only [empty, long, Bool.false_eq_true, if_true, if_false] at refused ⊢
      cases refused
      exact ⟨_, .length, .inl rfl⟩
    · simp only [empty, long, Bool.false_eq_true, if_false] at refused ⊢
      cases checked : mode.validateKey (Utf8.encode r.key) setup.headerSize with
      | error f =>
        simp only [checked, bind, Except.bind] at refused
        cases refused
        rw [modeRefuses checked]
        exact ⟨_, .length, .inl rfl⟩
      | ok _ =>
        simp only [checked, bind, Except.bind, target] at refused
        split at refused
        · rename_i present
          cases refused
          exact ⟨_, .duplicate, .inr ⟨rfl, List.contains_iff_mem.mp present, rfl⟩⟩
        · cases refused

def speaksOfSize : Error → Bool
  | .invalidHeaderSize _ => true
  | _ => false

theorem targetSilent {owner : TargetOwner} {target : String} {e : Error}
    (refused : validateTarget owner target = .error e) : speaksOfSize e = false := by
  unfold validateTarget HostPort.parse at refused
  split at refused
  · cases refused
    rfl
  · split at refused
    · cases refused
      rfl
    · simp only [bind, Except.bind] at refused
      split at refused
      · cases refused
      · cases refused
        rfl

theorem routeSilent {mode : MatchMode} {headerSize : Nat} {seen : List Bytes} {r : RouteConfig} {e : Error}
    (refused : validateRoute mode headerSize seen r = .error e) : speaksOfSize e = false := by
  unfold validateRoute at refused
  dsimp only at refused
  split at refused
  · cases refused
    rfl
  · split at refused
    · cases refused
      rfl
    · cases checked : mode.validateKey (Utf8.encode r.key) headerSize with
      | error f =>
        simp only [checked, bind, Except.bind] at refused
        cases refused
        rw [modeRefuses checked]
        rfl
      | ok _ =>
        simp only [checked, bind, Except.bind] at refused
        split at refused
        · cases refused
          rfl
        · exact targetSilent refused

theorem routesSilent {c : Config} {e : Error} (refused : validateRoutes c = .error e) : speaksOfSize e = false := by
  unfold validateRoutes at refused
  cases checked : validateRoutesFrom c.matchMode c.headerSize.toNat [] c.routes with
  | error f =>
    simp only [checked, bind, Except.bind] at refused
    cases refused
    obtain ⟨_, _, _, _, _, stops⟩ := firstRefused checked
    exact routeSilent stops
  | ok _ =>
    simp only [checked, bind, Except.bind] at refused
    split at refused
    · exact targetSilent refused
    · cases refused

theorem generalSilent {c : Config} {e : Error} (refused : validateGeneral c = .error e) : speaksOfSize e = false := by
  unfold validateGeneral at refused
  split at refused
  · cases refused
    rfl
  · split at refused
    · cases refused
      rfl
    · cases refused

theorem listenerSize {c : Config} {n : Nat} : validateListener c = .error (.invalidHeaderSize n) ↔
    validHeaderSize c.headerSize.toNat = false ∧ n = c.headerSize.toNat := by
  unfold validateListener
  cases valid : validHeaderSize c.headerSize.toNat with
  | false => simp [eq_comm]
  | true =>
    simp only [Bool.not_true, Bool.false_eq_true, if_false, reduceCtorEq, false_and, iff_false]
    have backlog : (if c.listenBacklog = 0 then .error (.config (.notPositive .listenBacklog)) else .ok () :
        Except Error Unit) ≠ .error (.invalidHeaderSize n) := by
      split <;> simp
    split
    · split
      · simp [bind, Except.bind]
      · exact backlog
    · exact backlog

theorem validateSize {c : Config} {n : Nat} : c.validate.value = .error (.invalidHeaderSize n) ↔
    validHeaderSize c.headerSize.toNat = false ∧ n = c.headerSize.toNat := by
  have loud : speaksOfSize (.invalidHeaderSize n) ≠ false := by simp [speaksOfSize]
  rw [← listenerSize]
  unfold validate
  cases listener : validateListener c with
  | error e => simp [bind, Except.bind]
  | ok _ =>
    simp only [bind, Except.bind, reduceCtorEq, iff_false]
    cases routes : validateRoutes c with
    | error e =>
      rintro ⟨⟩
      exact loud (routesSilent routes)
    | ok _ => exact fun refused => loud (generalSilent refused)

end Config

namespace Gateway
open Config (seenIn)
open Error (SameRefusal)

variable {setup : Selector.Setup} {options : Forward.Options}

theorem registerRefuses {mode : MatchMode} {routes : List RouteConfig} {r : RouteConfig} {e : Error}
    (rule : setup.rule = mode.rule) (target : Config.validateTarget (.route r.key) r.target = .ok ())
    (refused : Config.validateRoute mode setup.headerSize (seenIn routes) r = .error e) :
    ∃ e', SameRefusal e e' ∧
      ((assembled setup options routes none).selector.register (Utf8.encode r.key)).1 = .error e' := by
  obtain ⟨e', same, invalid | ⟨valid, seen, rfl⟩⟩ := Config.refusedAlike rule target refused
  · have check :
        (assembled setup options routes none).selector.setup.validateKey (Utf8.encode r.key) = .error e' := invalid
    exact ⟨e', same, by simp only [Selector.State.register, check, bind, Except.bind]⟩
  · have check : (assembled setup options routes none).selector.setup.validateKey (Utf8.encode r.key) = .ok () := valid
    have isOpen : (assembled setup options routes none).selector.closed = false := rfl
    have present : Utf8.encode r.key ∈ (assembled setup options routes none).selector.registry.keys := by
      rw [keysAssembled]
      exact Config.seenMem.mp seen
    have twice := Registry.insertPresent (assembled setup options routes none).selector.listeners.length present
    rw [Utf8.decodeLossyEncode] at twice
    refine ⟨_, same, ?_⟩
    simp only [Selector.State.register, check, isOpen, twice, bind, Except.bind, Bool.false_eq_true, if_false]

theorem addRoutesStops {g h : Gateway} {before after : List RouteConfig} {r : RouteConfig} {e : Error}
    (added : (g.addRoutes before).value = .ok h) (refused : (h.selector.register (Utf8.encode r.key)).1 = .error e) :
    (g.addRoutes (before ++ r :: after)).value = .error e := by
  induction before generalizing g with
  | nil =>
    obtain rfl : g = h := Except.ok.inj added
    simp only [List.nil_append, addRoutes]
    generalize g.selector.register (Utf8.encode r.key) = answer at refused
    obtain ⟨result, s⟩ := answer
    cases refused
    rfl
  | cons first before ih =>
    simp only [List.cons_append, addRoutes] at added ⊢
    generalize g.selector.register (Utf8.encode first.key) = answer at added
    obtain ⟨result, s⟩ := answer
    cases result with
    | error f => cases added
    | ok l => exact ih added

/- The gateway serves exactly the routes of the configuration, in their order. -/
structure Pairs (c : Config) (g : Gateway) : Prop where
  count : g.routes.length = c.routes.length + c.defaultTarget.toList.length
  routes : ∀ (l : Nat) (r : RouteConfig), c.routes[l]? = some r → g.routes[l]? = some ⟨l, r.target⟩ ∧
    g.selector.registry.routes[l]? = some (Utf8.encode r.key, l) ∧
    ∃ L, g.selector.listeners[l]? = some L ∧ L.key = some (Utf8.encode r.key)
  unmatched : ∀ target, c.defaultTarget = some target →
    g.routes[c.routes.length]? = some ⟨c.routes.length, target⟩ ∧
    ∃ L, g.selector.listeners[c.routes.length]? = some L ∧ L.key = none
  keys : g.selector.registry.keys = c.routes.map fun r => Utf8.encode r.key
  default : g.selector.registry.unmatched = c.defaultTarget.map fun _ => c.routes.length

/- Checks and registrations come as far as the same route, and there both refuse its key. -/
structure RefusedAt (c : Config) (g : Gateway) (e e' : Error) (before : List RouteConfig) (r : RouteConfig) : Prop where
  leads : ∃ after, c.routes = before ++ r :: after
  checked : Config.validateRoutesFrom c.matchMode c.headerSize.toNat [] before = .ok ()
  refused : Config.validateRoute c.matchMode c.headerSize.toNat (seenIn before) r = .error e
  registered : ∃ h, (g.addRoutes before).value = .ok h ∧ (h.selector.register (Utf8.encode r.key)).1 = .error e'
  same : SameRefusal e e'

structure Agree (lookup : Resolver) (c : Config) : Prop where
  accepts : Config.validateRoutes c = .ok () ↔ ∃ g, (ofConfig lookup c).value = .ok g
  pairs : ∀ g, (ofConfig lookup c).value = .ok g → Pairs c g
  refuses : ∀ e, Config.validateRoutes c = .error e → ∃ e' g before r, (ofConfig lookup c).value = .error e' ∧
    bound lookup c = .ok g ∧ RefusedAt c g e e' before r

theorem pairsAssembled (c : Config) : Pairs c (assembled setup options c.routes c.defaultTarget) := by
  refine ⟨?_, fun l r found => ?_, fun target present => ?_, keysAssembled _ _, rfl⟩
  · simp [assembled, Config.targets]
  · obtain ⟨inside, same⟩ := List.getElem?_eq_some_iff.mp found
    refine ⟨?_, ?_, ({ setup } : Selector.State).newListener (some (Utf8.encode r.key)), ?_, rfl⟩
    · simp [assembled, Config.targets, List.getElem?_append, inside, same]
    · simp [assembled, List.getElem?_mapIdx, found]
    · simp [assembled, listenersFor, Config.keys, List.getElem?_append, inside, same]
  · refine ⟨?_, ({ setup } : Selector.State).newListener none, ?_, rfl⟩
    · simp [assembled, Config.targets, present]
    · simp [assembled, listenersFor, Config.keys, present]

theorem boundFor {lookup : Resolver} {c : Config} {address : SocketAddress}
    (listener : Config.validateListener c = .ok ())
    (resolves : resolveListenAddress lookup c.network c.host c.port = .ok address) : ∃ g, bound lookup c = .ok g := by
  have valid : Config.validHeaderSize c.headerSize.toNat = true := by
    by_contra invalid
    have refused := Config.listenerSize.mpr ⟨Bool.eq_false_iff.mpr invalid, rfl⟩
    cases listener.symm.trans refused
  simp [bound, Selector.bindConfig, Selector.bindNetwork, Selector.State.create, Selector.checkHeaderSize, valid,
    resolves, bind, Except.bind, pure, Except.pure]

theorem routesChecked {c : Config}
    (unmatched : ∀ target, c.defaultTarget = some target → Config.validateTarget .unmatched target = .ok ()) :
    Config.validateRoutes c = Config.validateRoutesFrom c.matchMode c.headerSize.toNat [] c.routes := by
  unfold Config.validateRoutes
  cases Config.validateRoutesFrom c.matchMode c.headerSize.toNat [] c.routes with
  | error e => rfl
  | ok _ =>
    simp only [bind, Except.bind]
    split
    · rename_i target present
      exact unmatched target present
    · rfl

theorem agreeing {lookup : Resolver} {c : Config} {address : SocketAddress}
    (listener : Config.validateListener c = .ok ())
    (targets : ∀ r ∈ c.routes, Config.validateTarget (.route r.key) r.target = .ok ())
    (unmatched : ∀ target, c.defaultTarget = some target → Config.validateTarget .unmatched target = .ok ())
    (resolves : resolveListenAddress lookup c.network c.host c.port = .ok address) : Agree lookup c := by
  obtain ⟨g, socket⟩ := boundFor listener resolves
  obtain ⟨fresh, rule, size, _⟩ := boundSetup socket
  have start : ∀ key, key ∈ [] ↔ key ∈ [].map fun r : RouteConfig => Utf8.encode r.key := fun key => by simp
  have routes := routesChecked unmatched
  cases checked : Config.validateRoutesFrom c.matchMode c.headerSize.toNat [] c.routes with
  | ok _ =>
    have added := @addRoutesFit _ (.ofConfig c) _ [] _ _ rule start (by rw [size]; exact checked)
    rw [← fresh, List.nil_append] at added
    have made : (ofConfig lookup c).value = .ok (assembled g.selector.setup (.ofConfig c) c.routes c.defaultTarget) := by
      simp only [ofConfig, socket, added, addDefaultFits]
    rw [checked] at routes
    refine ⟨⟨fun _ => ⟨_, made⟩, fun _ => routes⟩, fun h other => ?_, fun e refused => ?_⟩
    · cases made.symm.trans other
      exact pairsAssembled c
    · cases routes.symm.trans refused
  | error e =>
    obtain ⟨before, r, after, split, fine, stops⟩ := Config.firstRefused checked
    have added := @addRoutesFit _ (.ofConfig c) _ [] _ _ rule start (by rw [size]; exact fine)
    rw [← fresh, List.nil_append] at added
    rw [List.append_nil] at stops
    have target := targets r (by simp [split])
    obtain ⟨e', same, refuses⟩ := @registerRefuses _ (.ofConfig c) _ _ _ _ rule target (by rw [size]; exact stops)
    have stopped := @addRoutesStops _ _ _ after _ _ added refuses
    rw [← split] at stopped
    have failed : (ofConfig lookup c).value = .error e' := by simp only [ofConfig, socket, stopped]
    rw [checked] at routes
    refine ⟨⟨fun accepted => ?_, fun built => ?_⟩, fun h made => ?_, fun f refused => ?_⟩
    · cases routes.symm.trans accepted
    · obtain ⟨h, made⟩ := built
      cases failed.symm.trans made
    · cases failed.symm.trans made
    · cases routes.symm.trans refused
      exact ⟨e', g, before, r, failed, socket, ⟨after, split⟩, fine, stops, ⟨_, added, refuses⟩, same⟩

structure SizesAgree (c : Config) : Prop where
  created : ∀ (setup : Selector.Setup) (n : Nat), setup.headerSize = c.headerSize.toNat →
    (c.validate.value = .error (.invalidHeaderSize n) ↔ Selector.State.create setup = .error (.invalidHeaderSize n))
  bound : ∀ lookup n, c.validate.value = .error (.invalidHeaderSize n) ↔ bound lookup c = .error (.invalidHeaderSize n)
  only : ∀ (setup : Selector.Setup) (e : Error), Selector.State.create setup = .error e →
    e = .invalidHeaderSize setup.headerSize

theorem addressSilent {lookup : Resolver} {network : Network} {host : Option String} {port : UInt16} {e : Error}
    (refused : resolveListenAddress lookup network host port = .error e) : Config.speaksOfSize e = false := by
  unfold resolveListenAddress at refused
  dsimp only at refused
  split at refused
  · cases refused
  · split at refused
    · split at refused
      · cases refused
      · cases refused
        rfl
    · split at refused
      · cases refused
        rfl
      · split at refused
        · cases refused
        · cases refused
          rfl

theorem sizesAgree (c : Config) : SizesAgree c := by
  refine ⟨fun setup n size => ?_, fun lookup n => ?_, fun setup e refused => ?_⟩
  · rw [Config.validateSize, Selector.State.create, Selector.checkHeaderSize, size]
    cases Config.validHeaderSize c.headerSize.toNat with
    | true => simp [bind, Except.bind, pure, Except.pure]
    | false => simp [bind, Except.bind, eq_comm]
  · rw [Config.validateSize, Gateway.bound, Selector.bindConfig, Selector.bindNetwork, Selector.checkHeaderSize]
    cases valid : Config.validHeaderSize c.headerSize.toNat with
    | false => simp [bind, Except.bind, eq_comm]
    | true =>
      cases address : resolveListenAddress lookup c.network c.host c.port with
      | error e =>
        have silent := addressSilent address
        simp only [bind, Except.bind, if_true, reduceCtorEq, false_and, false_iff, Except.error.injEq]
        rintro rfl
        cases silent
      | ok address => simp [Selector.State.create, Selector.checkHeaderSize, valid, bind, Except.bind, pure, Except.pure]
  · unfold Selector.State.create Selector.checkHeaderSize at refused
    split at refused
    · cases refused
    · cases refused
      rfl

theorem checksAgree (c : Config) : SizesAgree c ∧ ∀ lookup address, Config.validateListener c = .ok () →
    (∀ r ∈ c.routes, Config.validateTarget (.route r.key) r.target = .ok ()) →
    (∀ target, c.defaultTarget = some target → Config.validateTarget .unmatched target = .ok ()) →
    resolveListenAddress lookup c.network c.host c.port = .ok address → Agree lookup c :=
  ⟨sizesAgree c, fun _ _ listener targets unmatched resolves => agreeing listener targets unmatched resolves⟩

def crowdedConfig : Config :=
  { headerSize := 2, routes := [⟨"AB", "alpha:1"⟩, ⟨"AB", "beta:2"⟩, ⟨"ABC", "gamma:3"⟩], defaultTarget := some "delta:4" }

theorem crowdedAgree :
    Config.validateListener crowdedConfig = .ok () ∧
      (∀ r ∈ crowdedConfig.routes, Config.validateTarget (.route r.key) r.target = .ok ()) ∧
      (∀ target, crowdedConfig.defaultTarget = some target → Config.validateTarget .unmatched target = .ok ()) ∧
      resolveListenAddress localResolver crowdedConfig.network crowdedConfig.host crowdedConfig.port =
        .ok ⟨.v4 0 0 0 0, 7000⟩ ∧
      (ofConfig localResolver crowdedConfig).value = .error (.duplicateKey "AB") ∧
      SizesAgree crowdedConfig ∧ Agree localResolver crowdedConfig := by
  have listener : Config.validateListener crowdedConfig = .ok () := rfl
  have targets : ∀ r ∈ crowdedConfig.routes, Config.validateTarget (.route r.key) r.target = .ok () := by
    simp only [crowdedConfig, List.forall_mem_cons, List.not_mem_nil, false_imp_iff, implies_true, and_true]
    exact ⟨rfl, rfl, rfl⟩
  have unmatched : ∀ target, crowdedConfig.defaultTarget = some target →
      Config.validateTarget .unmatched target = .ok () := by
    rintro target ⟨⟩
    rfl
  have resolves : resolveListenAddress localResolver crowdedConfig.network crowdedConfig.host crowdedConfig.port =
      .ok ⟨.v4 0 0 0 0, 7000⟩ := rfl
  obtain ⟨sizes, agree⟩ := checksAgree crowdedConfig
  exact ⟨listener, targets, unmatched, resolves, rfl, sizes, agree _ _ listener targets unmatched resolves⟩

end Gateway
end SharedPort
