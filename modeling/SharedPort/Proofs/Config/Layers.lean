import Mathlib.Data.List.Nodup
import SharedPort.Proofs.Config.Tree

/-! Where each setting of a configuration comes from. What is given on the spot counts before a variable of the
environment, that before the file, and that before the default; what is checked is what came of it. -/
namespace SharedPort

def Overrides.given (o : Overrides) : (f : Config.Field) → Option f.Value
  | .network => o.network
  | .host => o.host.map some
  | .port => o.port
  | .headerSize => o.headerSize
  | .matchMode => o.matchMode
  | .peekTimeoutMs => o.peekTimeoutMs
  | .logLevel => o.logLevel
  | .listenBacklog | .queueCapacity | .routes | .defaultTarget | .bufferSize | .connectionTimeout => none

namespace Config
open Settings (Node lowerKey converted given putAll)

theorem getApply (o : Overrides) (c : Config) (f : Field) : (o.apply c).get f = (o.given f).getD (c.get f) := by
  cases f with
  | host =>
    cases given : o.host with
    | none =>
      simp only [get, Overrides.apply, Overrides.given, given, Option.none_or]
      rfl
    | some host =>
      simp only [get, Overrides.apply, Overrides.given, given, Option.some_or]
      rfl
  | _ => rfl

def ofVariable? (v : String × String) : Option (Field × Node) :=
  (Field.all.find? fun f => lowerKey v.1 = Settings.Environment.beginning ++ f.name).map fun f =>
    (f, .scalar (some .environment) (Settings.Environment.scalar v.2))

def spoken (env : Environment) : List (Field × Node) := env.filterMap ofVariable?

def fromEnvironment (env : Environment) (f : Field) : Option Node := given (spoken env) f

/- Variables of the program name one setting each that is not a list, and no two the same. -/
structure NamesScalars (env : Environment) : Prop where
  named : ∀ v ∈ env, (Settings.Environment.key? v.1).isSome = true →
    ∃ f : Field, f ≠ .routes ∧ lowerKey v.1 = Settings.Environment.beginning ++ f.name
  once : ((spoken env).map Prod.fst).Nodup

theorem variableKey {name : String} {f : Field} (named : lowerKey name = Settings.Environment.beginning ++ f.name) :
    Settings.Environment.key? name = some f.name := by
  unfold Settings.Environment.key?
  rw [named]
  cases f <;> decide +kernel

theorem ofVariable {v : String × String} {f : Field} (named : lowerKey v.1 = Settings.Environment.beginning ++ f.name) :
    ofVariable? v = some (f, .scalar (some .environment) (Settings.Environment.scalar v.2)) := by
  have first : (Field.all.find? fun g => lowerKey v.1 = Settings.Environment.beginning ++ g.name) = some f := by
    rw [named]
    cases f <;> decide +kernel
  simp only [ofVariable?, first, Option.map_some]

theorem ofVariableInverse {v : String × String} {f : Field} {n : Node} (gives : ofVariable? v = some (f, n)) :
    lowerKey v.1 = Settings.Environment.beginning ++ f.name ∧
      n = .scalar (some .environment) (Settings.Environment.scalar v.2) := by
  obtain ⟨g, found, pair⟩ := Option.map_eq_some_iff.mp gives
  cases pair
  exact ⟨by simpa using List.find?_some found, rfl⟩

theorem putSilent {env : Environment} (silent : ∀ v ∈ env, Settings.Environment.key? v.1 = none) (root : Node) :
    env.foldl (fun root (name, value) => Settings.Environment.put root name value) root = root := by
  induction env with
  | nil => rfl
  | cons v env ih =>
    obtain ⟨name, value⟩ := v
    have unchanged : Settings.Environment.put root name value = root := by
      simp only [Settings.Environment.put, silent (name, value) (List.mem_cons_self ..)]
    rw [List.foldl_cons]
    simp only [unchanged]
    exact ih fun w member => silent w (List.mem_cons_of_mem _ member)

theorem putVariables {env : Environment} (names : NamesScalars env) (root : Node) :
    env.foldl (fun root (name, value) => Settings.Environment.put root name value) root = putAll root (spoken env) := by
  rw [putAll, spoken, List.foldl_filterMap]
  refine List.foldl_ext _ _ _ fun root v member => ?_
  obtain ⟨name, value⟩ := v
  cases key : Settings.Environment.key? name with
  | none =>
    have silent : ofVariable? (name, value) = none := by
      cases gives : ofVariable? (name, value) with
      | none => rfl
      | some pair => cases key.symm.trans (variableKey (ofVariableInverse gives).1)
    simp only [Settings.Environment.put, key, silent]
  | some text =>
    obtain ⟨f, _, named⟩ := names.named _ member (by rw [key]; rfl)
    simp only [Settings.Environment.put, variableKey named, ofVariable named]

theorem getPutVariables {env : Environment} (names : NamesScalars env) (root : Node) (f : Field) :
    (putAll root (spoken env)).get? f.name = (fromEnvironment env f).or (root.get? f.name) := by
  rw [Settings.getPutAll names.once]
  cases found : given (spoken env) f with
  | none => simp only [fromEnvironment, found, Option.map_none]
  | some n =>
    obtain ⟨⟨g, m⟩, first, rfl⟩ := Option.map_eq_some_iff.mp found
    obtain ⟨v, _, gives⟩ := List.mem_filterMap.mp (List.mem_of_find?_eq_some first)
    simp only [fromEnvironment, found, (ofVariableInverse gives).2, Option.map_some, Settings.merge]

theorem routesUnnamed {env : Environment} (names : NamesScalars env) : fromEnvironment env .routes = none := by
  refine Settings.givenNone fun member => ?_
  obtain ⟨⟨g, n⟩, inside, rfl⟩ := List.mem_map.mp member
  obtain ⟨v, present, gives⟩ := List.mem_filterMap.mp inside
  have named := (ofVariableInverse gives).1
  obtain ⟨f, scalar, other⟩ := names.named v present (by rw [variableKey named]; rfl)
  have same := (variableKey named).symm.trans (variableKey other)
  exact scalar (Settings.nameInjective (Option.some.inj same)).symm

def fileMembers (files : FileTree) (path : Option String) : List (String × Node) :=
  match locate files (path.getD defaultFile) with
  | none => []
  | some file =>
      match readText files file with
      | .error _ => []
      | .ok content =>
          match Json.Value.ofText? content with
          | some (.object members) => Settings.ofMembers (.file (files.relative file)) members
          | _ => []

def ofMember? (m : String × Node) : Option (Field × Node) := (Field.ofName? m.1).map fun f => (f, m.2)

structure NamesSettings (members : List (String × Node)) : Prop where
  named : ∀ key ∈ members.map Prod.fst, ∃ f : Field, key = f.name
  once : (members.map Prod.fst).Nodup

theorem ofNamed {m : String × Node} {f : Field} (named : m.1 = f.name) : ofMember? m = some (f, m.2) := by
  have found : Field.ofName? f.name = some f := by cases f <;> rfl
  simp only [ofMember?, named, found, Option.map_some]

theorem membersOnce {members : List (String × Node)} (names : NamesSettings members) :
    ((members.filterMap ofMember?).map Prod.fst).Nodup := by
  have spelled : ((members.filterMap ofMember?).map Prod.fst).map Field.name = members.map Prod.fst := by
    have named := names.named
    clear names
    induction members with
    | nil => rfl
    | cons m members ih =>
      obtain ⟨f, name⟩ := named m.1 (by simp)
      have rest := ih fun other member => named other (List.mem_cons_of_mem _ member)
      rw [List.filterMap_cons, ofNamed name]
      simp only [List.map_cons, rest, name]
  exact List.Nodup.of_map _ (spelled ▸ names.once)

theorem putMembers {members : List (String × Node)} (names : NamesSettings members) (root : Node) :
    members.foldl (fun root (key, value) => root.putKey key value) root =
      putAll root (members.filterMap ofMember?) := by
  rw [putAll, List.foldl_filterMap]
  refine List.foldl_ext _ _ _ fun root m member => ?_
  obtain ⟨f, named⟩ := names.named m.1 (List.mem_map_of_mem member)
  simp only [ofNamed named, named]

def fromFile (files : FileTree) (path : Option String) (f : Field) : Option Node :=
  given ((fileMembers files path).filterMap ofMember?) f

theorem settingsOfFileGiven {files : FileTree} {path : Option String} (names : NamesSettings (fileMembers files path))
    {root : Node} (read : settingsOfFile files (path.getD defaultFile) path.isSome = .ok root) (f : Field) :
    root.get? f.name = (fromFile files path f).map (Settings.merge none) := by
  have put : root = putAll .emptyTable ((fileMembers files path).filterMap ofMember?) := by
    rw [← putMembers names]
    unfold settingsOfFile at read
    unfold fileMembers
    cases located : locate files (path.getD defaultFile) with
    | none =>
      simp only [located] at read
      split at read
      · cases read
      · exact (Except.ok.inj read).symm
    | some file =>
      simp only [located] at read ⊢
      cases text : readText files file with
      | error e =>
        simp only [text] at read
        split at read
        · cases read
        · exact (Except.ok.inj read).symm
      | ok content =>
        simp only [text] at read ⊢
        unfold fileSettings at read
        cases document : Json.Value.ofText? content with
        | none => simp [document] at read
        | some v =>
          simp only [document] at read
          cases v with
          | object members => exact (Except.ok.inj read).symm
          | number n => cases n <;> cases read
          | _ => cases read
  rw [put, Settings.getPutAll (membersOnce names)]
  cases found : given ((fileMembers files path).filterMap ofMember?) f <;> simp [fromFile, found, Node.emptyTable, Node.get?]

/- The value of a setting by the sources that may speak of it, the strongest first. -/
def layered (f : Field) (onTheSpot : Option f.Value) (inEnvironment inFile : Option Node) :
    Except Settings.Fault f.Value :=
  match onTheSpot, inEnvironment, inFile with
  | some value, _, _ => .ok value
  | none, some n, _ => converted f n
  | none, none, some n => converted f n
  | none, none, none => .ok (({} : Config).get f)

theorem loadFromLayers {files : FileTree} {env : Environment} {path : Option String} {c : Config}
    (scalars : NamesScalars env) (members : NamesSettings (fileMembers files path))
    (loaded : loadFrom files env (path.getD defaultFile) path.isSome = .ok c) (f : Field) :
    layered f none (fromEnvironment env f) (fromFile files path f) = .ok (c.get f) := by
  unfold loadFrom settings at loaded
  cases read : settingsOfFile files (path.getD defaultFile) path.isSome with
  | error e =>
    simp only [read, bind, Except.bind, Except.mapError] at loaded
    cases loaded
  | ok root =>
    simp only [read, bind, Except.bind, Except.mapError, pure, Except.pure, putVariables scalars] at loaded
    have tree : Settings.toConfig (putAll root (spoken env)) = .ok c := by
      cases built : Settings.toConfig (putAll root (spoken env)) with
      | error e => simp [built] at loaded
      | ok d => simpa [built] using loaded
    have reads := Settings.toConfigReads tree f
    rw [Settings.reading, getPutVariables scalars, settingsOfFileGiven members read] at reads
    unfold layered
    cases inEnvironment : fromEnvironment env f with
    | some n => simpa [inEnvironment] using reads
    | none =>
      cases inFile : fromFile files path f with
      | some n => exact Settings.convertedMerged (by simpa [inEnvironment, inFile] using reads)
      | none => simpa [inEnvironment, inFile] using reads

theorem loadLoads {files : FileTree} {env : Environment} {path : Option String} {c : Config}
    (loaded : (load files env path).value = .ok c) :
    loadFrom files env (path.getD defaultFile) path.isSome = .ok c := by
  unfold load at loaded
  dsimp only at loaded
  split at loaded
  · exact loaded
  · split at loaded
    · cases loaded
    · exact loaded

theorem resolveIff {files : FileTree} {env : Environment} {path : Option String} {o : Overrides} {r : Config} :
    (resolve files env path o).value = .ok r ↔
      ∃ c, (load files env path).value = .ok c ∧ o.apply c = r ∧ r.validate.value = .ok () := by
  unfold resolve
  cases loaded : (load files env path).value with
  | error e => simp [loaded]
  | ok c =>
    cases checked : (o.apply c).validate.value with
    | error e =>
      simp only [loaded, checked, reduceCtorEq, false_iff]
      rintro ⟨d, same, rfl, valid⟩
      cases same
      cases checked.symm.trans valid
    | ok _ =>
      simp only [loaded, checked, Except.ok.injEq]
      constructor
      · rintro rfl
        exact ⟨c, rfl, rfl, checked⟩
      · rintro ⟨d, rfl, rfl, _⟩
        rfl

theorem routesConverted {n : Node} {routes : List RouteConfig} (fits : converted .routes n = .ok routes) :
    Settings.routes "routes" n = .ok routes := by
  unfold converted at fits
  simp only [Settings.readField, Field.name, bind, Except.bind] at fits
  cases read : Settings.routes "routes" n with
  | error e =>
    rw [read] at fits
    cases fits
  | ok routes' =>
    rw [read] at fits
    exact fits

theorem resolveLayers {files : FileTree} {env : Environment} {path : Option String} {o : Overrides} {r : Config}
    (scalars : NamesScalars env) (members : NamesSettings (fileMembers files path))
    (resolved : (resolve files env path o).value = .ok r) (f : Field) :
    layered f (o.given f) (fromEnvironment env f) (fromFile files path f) = .ok (r.get f) := by
  obtain ⟨c, loaded, rfl, _⟩ := resolveIff.mp resolved
  rw [getApply]
  cases onTheSpot : o.given f with
  | some value => rfl
  | none => exact loadFromLayers scalars members (loadLoads loaded) f

/- Each setting is what the strongest source that speaks of it says; the outcome is valid, and only the outcome has to
be. -/
structure Layered (files : FileTree) (env : Environment) (path : Option String) (o : Overrides) (r : Config) : Prop where
  settings : ∀ f, layered f (o.given f) (fromEnvironment env f) (fromFile files path f) = .ok (r.get f)
  routes : match fromFile files path .routes with
    | some n => Settings.routes "routes" n = .ok r.routes
    | none => r.routes = []
  valid : r.validate.value = .ok ()
  replaced : ∀ (files' : FileTree) (env' : Environment) (path' : Option String) (c : Config),
    (load files' env' path').value = .ok c → (∀ f, o.given f = none → c.get f = r.get f) →
      (resolve files' env' path' o).value = .ok r
  apart : ∀ (files' : FileTree) (env' : Environment) (path' : Option String) (o' : Overrides) (r' : Config),
    NamesScalars env' → NamesSettings (fileMembers files' path') → (resolve files' env' path' o').value = .ok r' →
      ∀ f, o'.given f = o.given f → fromEnvironment env' f = fromEnvironment env f →
        fromFile files' path' f = fromFile files path f → r'.get f = r.get f

theorem resolvesLayered {files : FileTree} {env : Environment} {path : Option String} {o : Overrides} {r : Config}
    (scalars : NamesScalars env) (members : NamesSettings (fileMembers files path))
    (resolved : (resolve files env path o).value = .ok r) : Layered files env path o r := by
  have layers := resolveLayers scalars members resolved
  obtain ⟨c, _, rfl, valid⟩ := resolveIff.mp resolved
  refine ⟨layers, ?_, valid, fun files' env' path' d loaded same => ?_,
    fun files' env' path' o' r' scalars' members' resolved' f onTheSpot inEnvironment inFile => ?_⟩
  · have found := layers .routes
    rw [routesUnnamed scalars] at found
    cases inFile : fromFile files path .routes with
    | none =>
      rw [inFile] at found
      exact (Except.ok.inj found).symm
    | some n =>
      rw [inFile] at found
      exact routesConverted found
  · refine resolveIff.mpr ⟨d, loaded, sameSettings fun f => ?_, valid⟩
    have same := same f
    rw [getApply] at same ⊢
    rw [getApply]
    cases onTheSpot : o.given f with
    | some value => rfl
    | none => simpa [onTheSpot] using same onTheSpot
  · have theirs := resolveLayers scalars' members' resolved' f
    rw [onTheSpot, inEnvironment, inFile] at theirs
    exact Except.ok.inj (theirs.symm.trans (layers f))

def layerFiles : FileTree :=
  ⟨[(["config.json"], .file (Utf8.encode "\x7b\"port\":8000,\"header_size\":0,\"routes\":[[\"GIT0\",\"git:1\"]]\x7d"))], []⟩

def layerEnvironment : Environment :=
  [("HOME", "/"), ("Port_Selector_PORT", "7444"), ("PORT_SELECTOR_PEEK_TIMEOUT_MS", "off")]

def layerOverrides : Overrides := { headerSize := some 4 }

def layerOutcome : Config := { port := 7444, peekTimeoutMs := 0, routes := [⟨"GIT0", "git:1"⟩] }

def hugeEnvironment : Environment := ("PORT_SELECTOR_HEADER_SIZE", "70000") :: layerEnvironment

set_option maxRecDepth 10000 in
theorem layersCounted :
    NamesScalars layerEnvironment ∧ NamesSettings (fileMembers layerFiles none) ∧
      (resolve layerFiles layerEnvironment none layerOverrides).value = .ok layerOutcome ∧
      Layered layerFiles layerEnvironment none layerOverrides layerOutcome ∧
      (resolve layerFiles layerEnvironment none {}).value = .error (.invalidHeaderSize 0) ∧
      (resolve layerFiles hugeEnvironment none {}).value = .error (.invalidHeaderSize 70000) ∧
      (resolve layerFiles hugeEnvironment none layerOverrides).value = .ok layerOutcome := by
  have scalars : NamesScalars layerEnvironment := by
    refine ⟨?_, by decide +kernel⟩
    simp only [layerEnvironment, List.forall_mem_cons, List.not_mem_nil, false_imp_iff, implies_true, and_true]
    refine ⟨?_, fun _ => ⟨.port, ?_⟩, fun _ => ⟨.peekTimeoutMs, ?_⟩⟩
    · have silent : Settings.Environment.key? "HOME" = none := by decide +kernel
      simp [silent]
    · decide +kernel
    · decide +kernel
  have keys : (fileMembers layerFiles none).map Prod.fst = [Field.port.name, Field.headerSize.name, Field.routes.name] := by
    decide +kernel
  have members : NamesSettings (fileMembers layerFiles none) := by
    refine ⟨?_, ?_⟩
    · rw [keys]
      simp only [List.forall_mem_cons, List.not_mem_nil, false_imp_iff, implies_true, and_true]
      exact ⟨⟨_, rfl⟩, ⟨_, rfl⟩, ⟨_, rfl⟩⟩
    · rw [keys]
      decide +kernel
  have resolved : (resolve layerFiles layerEnvironment none layerOverrides).value = .ok layerOutcome := by
    decide +kernel
  have huge : (load layerFiles hugeEnvironment none).value = .ok { layerOutcome with headerSize := 70000 } := by
    decide +kernel
  have layers := resolvesLayered scalars members resolved
  refine ⟨scalars, members, resolved, layers, by decide +kernel, by decide +kernel, ?_⟩
  refine layers.replaced layerFiles hugeEnvironment none _ huge fun f silent => ?_
  cases f with
  | headerSize => cases silent
  | _ => rfl

end Config
end SharedPort
