import SharedPort.Gateway.Basic

/-! The gateway that a valid configuration gives. Route `l` of the configuration is registered as listener `l`, the
default behind them all, and each listener is paired with its own target. -/
namespace SharedPort
open Log (Logged)

namespace Config

def chosen (c : Config) (p : Bytes) : Option String :=
  ((c.routes.find? fun r => c.matchMode.isMatch p (Utf8.encode r.key) c.headerSize.toNat).map RouteConfig.target).or
    c.defaultTarget

/- Where a stream of these bytes is to go, if anywhere. -/
def destination (c : Config) (bytes : Bytes) : Option String :=
  if bytes.length < c.headerSize.toNat then none else c.chosen (bytes.take c.headerSize.toNat)

def targets (routes : List RouteConfig) (unmatched : Option String) : List String :=
  routes.map RouteConfig.target ++ unmatched.toList

def keys (routes : List RouteConfig) (unmatched : Option String) : List (Option Bytes) :=
  routes.map (fun r => some (Utf8.encode r.key)) ++ unmatched.toList.map fun _ => none

theorem targetsLength (routes : List RouteConfig) (unmatched : Option String) :
    (targets routes unmatched).length = (keys routes unmatched).length := by
  simp only [targets, keys, List.length_append, List.length_map]

structure FitRoute (mode : MatchMode) (headerSize : Nat) (seen : List Bytes) (r : RouteConfig) : Prop where
  nonempty : (Utf8.encode r.key).isEmpty = false
  fits : (Utf8.encode r.key).length ≤ headerSize
  mode : mode.validateKey (Utf8.encode r.key) headerSize = .ok ()
  fresh : Utf8.encode r.key ∉ seen

theorem fitRoute {mode : MatchMode} {headerSize : Nat} {seen : List Bytes} {r : RouteConfig}
    (valid : validateRoute mode headerSize seen r = .ok ()) : FitRoute mode headerSize seen r := by
  unfold validateRoute at valid
  cases nonempty : (Utf8.encode r.key).isEmpty with
  | true => simp [nonempty] at valid
  | false =>
    by_cases long : headerSize < (Utf8.encode r.key).length
    · simp [nonempty, long] at valid
    · cases checked : mode.validateKey (Utf8.encode r.key) headerSize with
      | error e => simp [nonempty, long, checked, bind, Except.bind] at valid
      | ok _ =>
        by_cases present : Utf8.encode r.key ∈ seen
        · simp [nonempty, long, checked, bind, Except.bind, present] at valid
        · exact ⟨nonempty, Nat.le_of_not_lt long, checked, present⟩

theorem validRoutesCons {mode : MatchMode} {headerSize : Nat} {seen : List Bytes} {r : RouteConfig}
    {rest : List RouteConfig} (valid : validateRoutesFrom mode headerSize seen (r :: rest) = .ok ()) :
    validateRoute mode headerSize seen r = .ok () ∧
      validateRoutesFrom mode headerSize (Utf8.encode r.key :: seen) rest = .ok () := by
  unfold validateRoutesFrom at valid
  cases first : validateRoute mode headerSize seen r with
  | error e => simp [first, bind, Except.bind] at valid
  | ok _ => exact ⟨rfl, by simpa [first, bind, Except.bind] using valid⟩

theorem validateParts (c : Config) :
    c.validate.value = (do validateListener c; validateRoutes c; validateGeneral c) := by
  unfold validate
  cases validateListener c with
  | error => rfl
  | ok => cases validateRoutes c <;> rfl

theorem validRoutes {c : Config} (valid : c.validate.value = .ok ()) :
    validateRoutesFrom c.matchMode c.headerSize.toNat [] c.routes = .ok () := by
  rw [validateParts] at valid
  cases listener : validateListener c with
  | error e => simp [listener, bind, Except.bind] at valid
  | ok _ =>
    cases routes : validateRoutesFrom c.matchMode c.headerSize.toNat [] c.routes with
    | error e => simp [listener, validateRoutes, routes, bind, Except.bind] at valid
    | ok _ => rfl

end Config

namespace Gateway

def listenersFor (setup : Selector.Setup) (keys : List (Option Bytes)) : List (Listener Selector.Routed) :=
  keys.map ({ setup } : Selector.State).newListener

def assembled (setup : Selector.Setup) (options : Forward.Options) (routes : List RouteConfig)
    (unmatched : Option String) : Gateway where
  selector :=
    { setup
      registry := ⟨routes.mapIdx fun l r => (Utf8.encode r.key, l), unmatched.map fun _ => routes.length⟩
      listeners := listenersFor setup (Config.keys routes unmatched) }
  routes := (Config.targets routes unmatched).mapIdx fun l target => ⟨l, target⟩
  options := options

variable {setup : Selector.Setup} {options : Forward.Options}

theorem keysAssembled (routes : List RouteConfig) (unmatched : Option String) :
    (assembled setup options routes unmatched).selector.registry.keys = routes.map fun r => Utf8.encode r.key := by
  apply List.ext_getElem?
  intro l
  simp only [Registry.keys, assembled, List.getElem?_map, List.getElem?_mapIdx]
  cases routes[l]? <;> rfl

theorem registerFits {mode : MatchMode} {routes : List RouteConfig} {r : RouteConfig} (rule : setup.rule = mode.rule)
    (fit : Config.FitRoute mode setup.headerSize (routes.map fun r => Utf8.encode r.key) r) :
    (assembled setup options routes none).selector.register (Utf8.encode r.key) =
      (.ok routes.length, (assembled setup options (routes ++ [r]) none).selector) := by
  obtain ⟨nonempty, fits, checked, fresh⟩ := fit
  have notLonger : ¬ setup.headerSize < (Utf8.encode r.key).length := by omega
  have check : (assembled setup options routes none).selector.setup.validateKey (Utf8.encode r.key) = .ok () := by
    simp only [assembled, Selector.Setup.validateKey, nonempty, notLonger, Bool.false_eq_true, if_false, rule]
    exact checked
  have absent : (assembled setup options routes none).selector.registry.contains (Utf8.encode r.key) = false := by
    refine Bool.eq_false_iff.mpr fun present => fresh ?_
    rw [← @keysAssembled setup options routes none]
    exact Registry.containsKey.mp present
  have count : (assembled setup options routes none).selector.listeners.length = routes.length := by
    simp [assembled, listenersFor, Config.keys]
  have isOpen : (assembled setup options routes none).selector.closed = false := rfl
  unfold Selector.State.register
  simp only [count, check, isOpen, absent, bind, Except.bind, Registry.insert, Bool.false_eq_true, if_false]
  simp [assembled, listenersFor, Config.keys, List.mapIdx_concat, Selector.State.newListener]

theorem addRoutesFit {mode : MatchMode} {routes rest : List RouteConfig} {seen : List Bytes}
    (rule : setup.rule = mode.rule) (before : ∀ key, key ∈ seen ↔ key ∈ routes.map fun r => Utf8.encode r.key)
    (valid : Config.validateRoutesFrom mode setup.headerSize seen rest = .ok ()) :
    ((assembled setup options routes none).addRoutes rest).value =
      .ok (assembled setup options (routes ++ rest) none) := by
  induction rest generalizing routes seen with
  | nil => simp only [addRoutes, List.append_nil]
  | cons r rest ih =>
    obtain ⟨first, others⟩ := Config.validRoutesCons valid
    obtain ⟨nonempty, fits, checked, fresh⟩ := Config.fitRoute first
    have registers := @registerFits setup options _ _ _ rule
      ⟨nonempty, fits, checked, fun present => fresh ((before _).mpr present)⟩
    have paired : (assembled setup options routes none).routes ++ [⟨routes.length, r.target⟩] =
        (assembled setup options (routes ++ [r]) none).routes := by
      simp [assembled, Config.targets, List.mapIdx_concat]
    simp only [addRoutes, registers, paired]
    rw [List.append_cons routes r rest]
    refine @ih (routes ++ [r]) _ (fun key => ?_) others
    simp only [List.mem_cons, List.map_append, List.mem_append, List.map_cons, List.map_nil, List.not_mem_nil, or_false,
      before key]
    exact or_comm

theorem addDefaultFits (routes : List RouteConfig) (unmatched : Option String) :
    ((assembled setup options routes none).addDefault unmatched).value =
      .ok (assembled setup options routes unmatched) := by
  cases unmatched with
  | none => rfl
  | some target =>
    have count : (assembled setup options routes none).selector.listeners.length = routes.length := by
      simp [assembled, listenersFor, Config.keys]
    have isOpen : (assembled setup options routes none).selector.closed = false := rfl
    have free : (assembled setup options routes none).selector.registry.unmatched = none := rfl
    simp only [addDefault, Selector.State.registerDefault, count, isOpen, free, Registry.setDefault,
      Option.isSome_none, Bool.false_eq_true, if_false]
    simp [assembled, listenersFor, Config.keys, Config.targets, List.mapIdx_concat, Selector.State.newListener]

theorem boundSetup {lookup : Resolver} {c : Config} {g : Gateway} (socket : bound lookup c = .ok g) :
    g = assembled g.selector.setup (.ofConfig c) [] none ∧ g.selector.setup.rule = c.matchMode.rule ∧
      g.selector.setup.headerSize = c.headerSize.toNat ∧ g.selector.setup.options = .ofConfig c ∧
      0 < c.headerSize.toNat := by
  unfold bound Selector.bindConfig Selector.bindNetwork Selector.State.create Selector.checkHeaderSize at socket
  by_cases valid : Config.validHeaderSize c.headerSize.toNat
  · cases address : resolveListenAddress lookup c.network c.host c.port with
    | error e => simp [valid, address, bind, Except.bind] at socket
    | ok address =>
      simp only [valid, address, bind, Except.bind, if_true, pure, Except.pure] at socket
      cases socket
      refine ⟨rfl, rfl, rfl, rfl, ?_⟩
      simp only [Config.validHeaderSize, Bool.and_eq_true, decide_eq_true_eq] at valid
      exact valid.1
  · simp [valid, bind, Except.bind] at socket

theorem assembles {lookup : Resolver} {c : Config} {g : Gateway} (valid : c.validate.value = .ok ())
    (socket : bound lookup c = .ok g) :
    (ofConfig lookup c).value = .ok (assembled g.selector.setup (.ofConfig c) c.routes c.defaultTarget) := by
  obtain ⟨fresh, rule, size, _⟩ := boundSetup socket
  have routes := Config.validRoutes valid
  rw [← size] at routes
  have added := @addRoutesFit _ (.ofConfig c) _ [] _ _ rule (fun key => by simp) routes
  rw [← fresh, List.nil_append] at added
  simp only [ofConfig, socket, added, addDefaultFits]

/- The listener to which the registry leads a prefix has the chosen target. -/
theorem routesToChosen {c : Config} (rule : setup.rule = c.matchMode.rule)
    (size : setup.headerSize = c.headerSize.toNat) (p : Bytes) :
    ((assembled setup options c.routes c.defaultTarget).selector.registry.route setup.rule setup.headerSize p).map
        (fun l => (Config.targets c.routes c.defaultTarget)[l]?) = (c.chosen p).map some := by
  let hit (r : RouteConfig) := c.matchMode.isMatch p (Utf8.encode r.key) c.headerSize.toNat
  have found : c.routes.find? hit = (c.routes.zipIdx.find? fun e => hit e.1).map Prod.fst := by
    have numbered := List.find?_map (f := Prod.fst) (p := hit) (l := c.routes.zipIdx)
    rwa [List.zipIdx_map_fst] at numbered
  simp only [Registry.route, Config.chosen, assembled, List.mapIdx_eq_zipIdx_map, List.find?_map, rule, size,
    MatchMode.rule]
  change ((Option.map Prod.snd (Option.map _ (c.routes.zipIdx.find? fun e => hit e.1))).or _).map _ =
    (((c.routes.find? hit).map RouteConfig.target).or _).map some
  rw [found]
  cases first : c.routes.zipIdx.find? fun e => hit e.1 with
  | some e =>
    have here : c.routes[e.2]? = some e.1 := List.mem_zipIdx_iff_getElem?.mp (List.mem_of_find?_eq_some first)
    have inside := (List.getElem?_eq_some_iff.mp here).1
    simp only [Option.map_some, Option.some_or, Config.targets]
    rw [List.getElem?_append_left (by rw [List.length_map]; exact inside), List.getElem?_map, here]
    rfl
  | none =>
    cases c.defaultTarget with
    | none => rfl
    | some target =>
      simp only [Option.map_none, Option.none_or, Option.map_some, Config.targets]
      rw [List.getElem?_append_right (Nat.le_of_eq (List.length_map ..)), List.length_map, Nat.sub_self]
      rfl

end Gateway
end SharedPort
