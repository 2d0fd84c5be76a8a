import SharedPort.Config.Reader
import SharedPort.Proofs.Config.Tree
import SharedPort.Proofs.Json.Document

/-! Documents that name settings, each with a value of its type, in any order and with blanks as anyone likes. The
reader of configurations takes from them the default configuration with these settings replaced. -/
namespace SharedPort.Config
open Json (Value Reader Blank Takes Spelled SpelledText SpelledMember Listed Chain ItemTaken MemberTaken Alone colonTaken
  skipBlankAppend skipBlankCons)

inductive RouteParts (r : RouteConfig) : List (String × String) → Prop where
  | keyFirst : RouteParts r [("key", r.key), ("target", r.target)]
  | targetFirst : RouteParts r [("target", r.target), ("key", r.key)]

def IsRoute (v : Value) (r : RouteConfig) : Prop :=
  ∃ parts, RouteParts r parts ∧ v = .object (parts.map fun p => (p.1, .text p.2))

def optional (s : Option String) : Value := s.elim .null .text

/- How the value of a setting stands in a document. -/
def Holds : (f : Field) → Value → f.Value → Prop
  | .network, v, network => ∃ name, v = .text name ∧ Network.ofName? name = some network
  | .host, v, s => v = optional s
  | .port, v, (n : UInt16) => v = .number (.whole n.toNat)
  | .listenBacklog, v, (n : UInt32) => v = .number (.whole n.toNat)
  | .matchMode, v, mode => ∃ name, v = .text name ∧ MatchMode.ofName? name = some mode
  | .routes, v, rs => ∃ items, v = .array items ∧ List.Forall₂ IsRoute items rs
  | .defaultTarget, v, s => v = optional s
  | .logLevel, v, s => v = .text s
  | .headerSize, v, (n : UInt64) | .peekTimeoutMs, v, (n : UInt64) | .queueCapacity, v, (n : UInt64)
  | .bufferSize, v, (n : UInt64) | .connectionTimeout, v, (n : UInt64) =>
      v = .number (.whole n.toNat)

abbrev Setting := (f : Field) × f.Value

def Stands (m : String × Value) (s : Setting) : Prop := m.1 = s.1.name ∧ Holds s.1 m.2 s.2

def applied (settings : List Setting) : Config := settings.foldl (fun c s => c.set s.1 s.2) {}

/- One object with these settings, each of them once, and blanks around it. -/
def Document (content : String) (settings : List Setting) : Prop :=
  ∃ members depth written, Alone content written ∧ Spelled depth (.object members) written ∧
    List.Forall₂ Stands members settings

variable {depth fuel : Nat} {v : Value} {written : List Char} {c : Config}

theorem fieldNamed (f : Field) : Field.ofName? f.name = some f := by
  cases f <;> rfl

theorem networkTakes {name : String} {network : Network} (named : Network.ofName? name = some network)
    (spelled : SpelledText name written) : Takes networkText written network := by
  intro blank rest blanks ends
  have read := Json.textTakes spelled blank rest blanks ends
  simp [networkText, read, named, bind, Except.bind, pure, Except.pure]

theorem matchModeTakes {name : String} {mode : MatchMode} (named : MatchMode.ofName? name = some mode)
    (spelled : SpelledText name written) : Takes matchModeText written mode := by
  intro blank rest blanks ends
  have read := Json.textTakes spelled blank rest blanks ends
  simp [matchModeText, read, named, bind, Except.bind, pure, Except.pure]

theorem optionalTakes {s : Option String} (spelled : Spelled depth (optional s) written) :
    Takes Json.optionalText written s := by
  cases s with
  | none => rw [Json.spelledNull spelled]; exact Json.nullTakes
  | some s => exact Json.optionalTextTakes (Json.spelledText spelled)

theorem numberTakes {n bound : Nat} (expected : Json.Expected) (fits : n ≤ bound) (small : bound ≤ Json.significandBound)
    (spelled : Spelled depth (.number (.whole n)) written) (store : Nat → Config) :
    Takes (fun input => do
      let (value, input) ← Json.unsigned bound expected input
      return (store value, input)) written (store n) := by
  rw [Json.spelledWhole spelled]
  exact (Json.unsignedTakes expected fits small).map store

theorem wideTakes {n : UInt64} (expected : Json.Expected) (spelled : Spelled depth (.number (.whole n.toNat)) written)
    (store : UInt64 → Config) :
    Takes (fun input => do
      let (value, input) ← Json.unsigned (Nat.pow 2 64 - 1) expected input
      return (store (.ofNat value), input)) written (store n) := by
  have stored := numberTakes expected (Nat.le_pred_of_lt n.toNat_lt) (Nat.le_refl _) spelled fun value =>
    store (.ofNat value)
  rwa [UInt64.ofNat_toNat] at stored

namespace RouteReader

theorem keyTaken {d : Draft} (fresh : d.key = none) {key : String} :
    MemberTaken (member fuel) Prod.fst (fun p : String × String => SpelledText p.2) d ("key", key)
      { d with key := some key } := by
  intro before written blanks spelled gap rest blanks' ends
  have read := Json.textTakes spelled before rest blanks ends
  simp [member, duplicate, fresh, colonTaken blanks', read, bind, Except.bind, pure, Except.pure]

theorem targetTaken {d : Draft} (fresh : d.target = none) {target : String} :
    MemberTaken (member fuel) Prod.fst (fun p : String × String => SpelledText p.2) d ("target", target)
      { d with target := some target } := by
  intro before written blanks spelled gap rest blanks' ends
  have read := Json.textTakes spelled before rest blanks ends
  simp [member, duplicate, fresh, colonTaken blanks', read, bind, Except.bind, pure, Except.pure]

theorem partsChain (fuel : Nat) {r : RouteConfig} {parts : List (String × String)} (both : RouteParts r parts) :
    Chain (MemberTaken (member fuel) Prod.fst fun p : String × String => SpelledText p.2) {} parts
      ⟨some r.key, some r.target⟩ := by
  cases both with
  | keyFirst => exact .next (keyTaken rfl) (.next (targetTaken rfl) .none)
  | targetFirst => exact .next (targetTaken rfl) (.next (keyTaken rfl) .none)

theorem routeTakes {r : RouteConfig} (isRoute : IsRoute v r) (spelled : Spelled depth v written)
    (enough : written.length < fuel) : Takes (route fuel) written r := by
  intro blank rest blanks _
  obtain ⟨parts, both, rfl⟩ := isRoute
  obtain ⟨inside, text, rfl, _, listed⟩ := Json.spelledObject spelled
  have texts : Listed (SpelledMember Prod.fst fun p : String × String => SpelledText p.2) '\x7d' true parts text := by
    have pairs : List.Forall₂ (fun m p => m = (p.1, Value.text p.2)) (parts.map fun p => (p.1, .text p.2)) parts :=
      List.forall₂_map_left_iff.mpr (List.forall₂_same.mpr fun _ _ => rfl)
    refine Json.listedRelated listed pairs ?_
    rintro m p item rfl spelled
    exact Json.memberRelated spelled rfl fun _ spelled => Json.spelledText spelled
  have few : parts.length < fuel := by
    have fits := Json.listedFits texts
    simp only [List.length_cons, Bool.toNat_true] at enough fits
    omega
  have read := Json.membersTake texts (partsChain fuel both) few rest
  simp [route, skipBlankAppend blanks, skipBlankCons _ (by decide : Json.isBlank '\x7b' = false), read, ofMembers, bind,
    Except.bind, pure, Except.pure]

theorem routesChain {spells : RouteConfig → List Char → Prop}
    (takes : ∀ {r written}, spells r written → Takes (route fuel) written r) (rs found : List RouteConfig) :
    Chain (ItemTaken (fun found input => do
      let (r, input) ← route fuel input
      return (r :: found, input)) spells) found rs (rs.reverse ++ found) := by
  induction rs generalizing found with
  | nil => exact .none
  | cons r rs ih =>
    rw [List.reverse_cons, List.append_assoc]
    exact .next (fun _ spelled => (takes spelled).map (· :: found)) (ih (r :: found))

theorem routesTakes {items : List Value} {rs : List RouteConfig} (areRoutes : List.Forall₂ IsRoute items rs)
    (spelled : Spelled depth (.array items) written) (enough : written.length < fuel) :
    Takes (routes fuel) written rs := by
  intro blank rest blanks _
  obtain ⟨inside, text, rfl, listed⟩ := Json.spelledArray spelled
  simp only [List.length_cons] at enough
  have shorter : Listed (fun v written => Spelled inside v written ∧ written.length < fuel) ']' true items text :=
    Json.listedImp listed fun _ _ _ short spelled => ⟨spelled, by omega⟩
  have routes' : Listed (fun r written => ∃ v, IsRoute v r ∧ Spelled inside v written ∧ written.length < fuel) ']' true
      rs text :=
    Json.listedRelated shorter areRoutes fun isRoute both => ⟨_, isRoute, both⟩
  have few : rs.length < fuel := by
    have fits := Json.listedFits routes'
    simp only [Bool.toNat_true] at fits
    omega
  have opens : ∀ r written, (∃ v, IsRoute v r ∧ Spelled inside v written ∧ written.length < fuel) →
      Json.Opens ']' written := fun _ _ ⟨_, _, spelled, _⟩ => Json.spelledOpens spelled
  have read := Json.elementsTake routes' opens
    (routesChain (fun ⟨_, isRoute, spelled, short⟩ => routeTakes isRoute spelled short) rs []) few rest
  simp only [bind, Except.bind, pure, Except.pure, List.append_nil] at read
  simp [routes, skipBlankAppend blanks, skipBlankCons _ (by decide : Json.isBlank '[' = false), read, bind, Except.bind,
    pure, Except.pure]

end RouteReader

theorem fieldTakes {f : Field} {x : f.Value} (holds : Holds f v x) (spelled : Spelled depth v written)
    (enough : written.length < fuel) : Takes (readField fuel c f) written (c.set f x) := by
  cases f with
  | network =>
    obtain ⟨name, rfl, named⟩ := holds
    exact (networkTakes named (Json.spelledText spelled)).map fun value => { c with network := value }
  | host =>
    cases holds
    exact (optionalTakes spelled).map fun value => { c with host := value }
  | port =>
    cases holds
    have stored := numberTakes .unsigned16 (Nat.le_pred_of_lt (UInt16.toNat_lt x)) (by decide) spelled fun value =>
      { c with port := .ofNat value }
    have same : UInt16.ofNat (UInt16.toNat x) = x := UInt16.ofNat_toNat
    rwa [same] at stored
  | listenBacklog =>
    cases holds
    have stored := numberTakes .unsigned32 (Nat.le_pred_of_lt (UInt32.toNat_lt x)) (by decide) spelled fun value =>
      { c with listenBacklog := .ofNat value }
    have same : UInt32.ofNat (UInt32.toNat x) = x := UInt32.ofNat_toNat
    rwa [same] at stored
  | headerSize =>
    cases holds
    exact wideTakes .size spelled fun value => { c with headerSize := value }
  | matchMode =>
    obtain ⟨name, rfl, named⟩ := holds
    exact (matchModeTakes named (Json.spelledText spelled)).map fun value => { c with matchMode := value }
  | peekTimeoutMs =>
    cases holds
    exact wideTakes .unsigned64 spelled fun value => { c with peekTimeoutMs := value }
  | queueCapacity =>
    cases holds
    exact wideTakes .size spelled fun value => { c with queueCapacity := value }
  | routes =>
    obtain ⟨items, rfl, areRoutes⟩ := holds
    exact (RouteReader.routesTakes areRoutes spelled enough).map fun value => { c with routes := value }
  | defaultTarget =>
    cases holds
    exact (optionalTakes spelled).map fun value => { c with defaultTarget := value }
  | logLevel =>
    cases holds
    exact (Json.textTakes (Json.spelledText spelled)).map fun value => { c with logLevel := value }
  | bufferSize =>
    cases holds
    exact wideTakes .size spelled fun value => { c with bufferSize := value }
  | connectionTimeout =>
    cases holds
    exact wideTakes .unsigned64 spelled fun value => { c with connectionTimeout := value }

def Stated (depth : Nat) (s : Setting) (written : List Char) : Prop := ∃ v, Holds s.1 v s.2 ∧ Spelled depth v written

theorem settingTaken {d : Draft} {s : Setting} (fresh : s.1 ∉ d.seen) :
    MemberTaken (member fuel) (fun s : Setting => s.1.name)
      (fun s written => Stated depth s written ∧ written.length < fuel) d s ⟨s.1 :: d.seen, d.config.set s.1 s.2⟩ := by
  rintro before written blanks ⟨⟨v, holds, spelled⟩, enough⟩ gap rest blanks' ends
  have read := fieldTakes holds spelled enough (c := d.config) before rest blanks ends
  simp [member, fieldNamed, duplicate, fresh, colonTaken blanks', read, bind, Except.bind, pure, Except.pure]

theorem settingsChain (fuel depth : Nat) {settings : List Setting} (once : (settings.map Sigma.fst).Nodup) {d : Draft}
    (fresh : ∀ s ∈ settings, s.1 ∉ d.seen) :
    Chain (MemberTaken (member fuel) (fun s : Setting => s.1.name)
      fun s written => Stated depth s written ∧ written.length < fuel) d settings
      ⟨(settings.map Sigma.fst).reverse ++ d.seen, settings.foldl (fun c s => c.set s.1 s.2) d.config⟩ := by
  induction settings generalizing d with
  | nil => exact .none
  | cons s settings ih =>
    obtain ⟨first, others⟩ := List.nodup_cons.mp once
    have later : ∀ t ∈ settings, t.1 ∉ s.1 :: d.seen := by
      intro t member
      have apart : t.1 ≠ s.1 := fun same => first (same ▸ List.mem_map_of_mem member)
      simp [apart, fresh t (by simp [member])]
    have chain := @ih others ⟨s.1 :: d.seen, d.config.set s.1 s.2⟩ later
    rw [List.append_cons, ← List.reverse_cons] at chain
    exact .next (settingTaken (fresh s (by simp))) chain

theorem settingsTake {settings : List Setting} {text : List Char} (once : (settings.map Sigma.fst).Nodup)
    (listed : Listed (SpelledMember (fun s : Setting => s.1.name) (Stated depth)) '\x7d' true settings text)
    (enough : text.length < fuel) : Takes (Config.document fuel) ('\x7b' :: text) (applied settings) := by
  intro blank rest blanks _
  have shorter : Listed (SpelledMember (fun s : Setting => s.1.name)
      fun s written => Stated depth s written ∧ written.length < fuel) '\x7d' true settings text :=
    Json.listedImp listed fun _ _ _ short spelled =>
      Json.memberRelated spelled rfl fun shorter stated => ⟨stated, by omega⟩
  have few : settings.length < fuel := by
    have fits := Json.listedFits listed
    simp only [Bool.toNat_true] at fits
    omega
  have chain := @settingsChain fuel depth settings once {} fun _ _ => List.not_mem_nil
  have read := Json.membersTake shorter chain few rest
  simp [Config.document, skipBlankAppend blanks, skipBlankCons _ (by decide : Json.isBlank '\x7b' = false), read,
    applied, bind, Except.bind, pure, Except.pure]

theorem settingsNamed {members : List (String × Value)} {settings : List Setting}
    (stand : List.Forall₂ Stands members settings) :
    (settings.map Sigma.fst).map Field.name = members.map Prod.fst := by
  induction stand with
  | nil => rfl
  | cons first _ ih => simp only [List.map_cons, ih, first.1]

theorem settingsOnce {members : List (String × Value)} {settings : List Setting}
    (stand : List.Forall₂ Stands members settings) (once : (members.map Prod.fst).Nodup) :
    (settings.map Sigma.fst).Nodup :=
  List.Nodup.of_map _ (settingsNamed stand ▸ once)

theorem documentGives {content : String} {settings : List Setting} (document : Document content settings) :
    ofJson content = .ok (applied settings) := by
  obtain ⟨found, depth, written, ⟨before, after, blanks, blanks', shape⟩, spelled, stand⟩ := document
  obtain ⟨inside, text, rfl, once, listed⟩ := Json.spelledObject spelled
  have stated : Listed (SpelledMember (fun s : Setting => s.1.name) (Stated inside)) '\x7d' true settings text :=
    Json.listedRelated listed stand fun stands spelled =>
      Json.memberRelated spelled stands.1 fun _ spelled => ⟨_, stands.2, spelled⟩
  have takes : Takes (Config.document (content.toList.length + 1)) ('\x7b' :: text) (applied settings) := by
    refine settingsTake (settingsOnce stand once) stated ?_
    simp only [shape, List.length_append, List.length_cons]
    omega
  have read := takes before after blanks (Json.blankEnds blanks')
  rw [← shape] at read
  simp [ofJson, read, Json.skipBlankAll blanks', bind, Except.bind, pure, Except.pure]

end SharedPort.Config
