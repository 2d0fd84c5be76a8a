import SharedPort.Proofs.Config.Documents
import SharedPort.Proofs.Config.Layers
import SharedPort.Proofs.Text.Encoding

/-! A document of settings means the same to every reader. The text, the file read as it is, and the file loaded through
the tree of settings give one configuration, whatever the order of the settings. -/
namespace SharedPort

theorem Utf8.decodeEncode (s : String) : decode? (encode s) = some s := by
  have whole : ∀ text : List Char, (text.map some).mapM id = some text := by
    intro text
    induction text with
    | nil => rfl
    | cons c text ih => simp [List.mapM_cons, ih]
  rw [decode?, scanEncode, whole, Option.map_some, String.ofList_toList]

namespace Config
open Json (Value Blank Spelled SpelledMember Listed Layer Alone)
open Settings (Node converted given putAll reading)

theorem getReplaced {settings : List Setting} (once : (settings.map Sigma.fst).Nodup) (c : Config) :
    (∀ s ∈ settings, (settings.foldl (fun c s => c.set s.1 s.2) c).get s.1 = s.2) ∧
      ∀ f ∉ settings.map Sigma.fst, (settings.foldl (fun c s => c.set s.1 s.2) c).get f = c.get f := by
  induction settings generalizing c with
  | nil => exact ⟨fun _ member => absurd member List.not_mem_nil, fun _ _ => rfl⟩
  | cons s settings ih =>
    obtain ⟨first, others⟩ := List.nodup_cons.mp once
    obtain ⟨inside, outside⟩ := ih others (c.set s.1 s.2)
    refine ⟨fun t member => ?_, fun f absent => ?_⟩
    · rcases List.mem_cons.mp member with rfl | member
      · exact (outside t.1 first).trans (c.getSet t.1 t.2)
      · exact inside t member
    · rw [List.map_cons, List.mem_cons, not_or] at absent
      exact (outside f absent.2).trans (c.getSetOther s.2 absent.1)

theorem appliedPerm {settings others : List Setting} (once : (settings.map Sigma.fst).Nodup)
    (perm : others.Perm settings) : applied others = applied settings := by
  have once' : (others.map Sigma.fst).Nodup := ((perm.map Sigma.fst).nodup_iff).mpr once
  obtain ⟨inside, outside⟩ := getReplaced once {}
  obtain ⟨inside', outside'⟩ := getReplaced once' {}
  refine sameSettings fun f => ?_
  by_cases member : f ∈ settings.map Sigma.fst
  · obtain ⟨s, here, rfl⟩ := List.mem_map.mp member
    exact (inside' s (perm.mem_iff.mpr here)).trans (inside s here).symm
  · exact (outside' f (mt (perm.map Sigma.fst).mem_iff.mp member)).trans (outside f member).symm

/- The numbers that the tree holds as whole numbers stay below half of the 64 bits. -/
def Below : (f : Field) → f.Value → Prop
  | .headerSize, (n : UInt64) | .peekTimeoutMs, (n : UInt64) | .queueCapacity, (n : UInt64)
  | .bufferSize, (n : UInt64) | .connectionTimeout, (n : UInt64) => n.toNat < Nat.pow 2 63
  | _, _ => True

theorem routeConverts {r : RouteConfig} {v : Value} (isRoute : IsRoute v r) (origin : Settings.Origin) (place : String) :
    Settings.route place (Settings.ofJson origin v) = .ok r := by
  obtain ⟨parts, both, rfl⟩ := isRoute
  cases both <;> rfl

theorem routesConvert {items : List Value} {rs : List RouteConfig} (areRoutes : List.Forall₂ IsRoute items rs)
    (origin : Settings.Origin) (place : String) (i : Nat) :
    Settings.routesFrom place i (Settings.ofItems origin items) = .ok rs := by
  induction areRoutes generalizing i with
  | nil => rfl
  | cons isRoute _ ih =>
    simp [Settings.ofItems, Settings.routesFrom, routeConverts isRoute, ih, bind, Except.bind, pure, Except.pure]

theorem smallWhole {n : Nat} (small : n < Nat.pow 2 63) (origin : Settings.Origin) :
    Settings.ofJson origin (.number (.whole n)) = .scalar (some origin) (.integer n) := by
  have below : (n : Int) < Nat.pow 2 63 := by exact_mod_cast small
  rw [Settings.ofJson, if_pos below]

theorem unsignedConverts {n : Nat} (small : n < Nat.pow 2 63) (origin : Settings.Origin) (place : String) :
    Settings.unsigned place (Settings.merge none (Settings.ofJson origin (.number (.whole n)))) = .ok n := by
  rw [smallWhole small]
  simp [Settings.merge, Settings.unsigned]

theorem boundedConverts {n bound : Nat} (fits : n ≤ bound) (small : n < Nat.pow 2 63) (wanted : Settings.Wanted)
    (origin : Settings.Origin) (place : String) :
    Settings.bounded bound wanted place (Settings.merge none (Settings.ofJson origin (.number (.whole n)))) = .ok n := by
  rw [Settings.bounded, unsignedConverts small]
  exact if_pos fits

theorem optionalConverts (s : Option String) (origin : Settings.Origin) (place : String) :
    Settings.optionalText place (Settings.merge none (Settings.ofJson origin (optional s))) = .ok s := by
  cases s <;> simp [optional, Settings.ofJson, Settings.merge, Settings.optionalText, Settings.text, Except.map]

theorem networkConverts {name : String} {network : Network} (named : Network.ofName? name = some network)
    (origin : Settings.Origin) (place : String) :
    Settings.network place (Settings.merge none (Settings.ofJson origin (.text name))) = .ok network := by
  simp [Settings.ofJson, Settings.merge, Settings.network, Settings.text, named, bind, Except.bind, pure, Except.pure]

theorem matchModeConverts {name : String} {mode : MatchMode} (named : MatchMode.ofName? name = some mode)
    (origin : Settings.Origin) (place : String) :
    Settings.matchMode place (Settings.merge none (Settings.ofJson origin (.text name))) = .ok mode := by
  simp [Settings.ofJson, Settings.merge, Settings.matchMode, Settings.text, named, bind, Except.bind, pure, Except.pure]

theorem stored {α : Type} {read : Except Settings.Fault α} {value : α} (reads : read = .ok value) (f : Field)
    (store : α → Config) :
    (do return store (← read) : Except Settings.Fault Config).map (·.get f) = .ok ((store value).get f) := by
  rw [reads]
  rfl

theorem wideStored {n : UInt64} (small : n.toNat < Nat.pow 2 63) (origin : Settings.Origin) (f : Field)
    (store : UInt64 → Config) :
    (do return store (.ofNat (← Settings.unsigned f.name
        (Settings.merge none (Settings.ofJson origin (.number (.whole n.toNat)))))) : Except Settings.Fault Config).map
      (·.get f) = .ok ((store n).get f) := by
  have kept := stored (unsignedConverts small origin f.name) f fun value => store (.ofNat value)
  rwa [UInt64.ofNat_toNat] at kept

theorem holdsConverted {f : Field} {v : Value} {x : f.Value} (holds : Holds f v x) (below : Below f x)
    (origin : Settings.Origin) :
    converted f (Settings.merge none (Settings.ofJson origin v)) = .ok x := by
  cases f with
  | network =>
    obtain ⟨name, rfl, named⟩ := holds
    exact stored (networkConverts named origin _) .network fun value => { network := value }
  | host =>
    cases holds
    exact stored (optionalConverts x origin _) .host fun value => { host := value }
  | port =>
    cases holds
    have fits := UInt16.toNat_lt x
    have read := boundedConverts (Nat.le_pred_of_lt fits) (Nat.lt_trans fits (by decide)) .unsigned16 origin
      Field.port.name
    exact (stored read .port fun value => { port := .ofNat value }).trans (congrArg Except.ok UInt16.ofNat_toNat)
  | listenBacklog =>
    cases holds
    have fits := UInt32.toNat_lt x
    have read := boundedConverts (Nat.le_pred_of_lt fits) (Nat.lt_trans fits (by decide)) .unsigned32 origin
      Field.listenBacklog.name
    exact (stored read .listenBacklog fun value => { listenBacklog := .ofNat value }).trans
      (congrArg Except.ok UInt32.ofNat_toNat)
  | headerSize =>
    cases holds
    exact wideStored below origin .headerSize fun value => { headerSize := value }
  | matchMode =>
    obtain ⟨name, rfl, named⟩ := holds
    exact stored (matchModeConverts named origin _) .matchMode fun value => { matchMode := value }
  | peekTimeoutMs =>
    cases holds
    exact wideStored below origin .peekTimeoutMs fun value => { peekTimeoutMs := value }
  | queueCapacity =>
    cases holds
    exact wideStored below origin .queueCapacity fun value => { queueCapacity := value }
  | routes =>
    obtain ⟨items, rfl, areRoutes⟩ := holds
    exact stored (routesConvert areRoutes origin _ 0) .routes fun value => { routes := value }
  | defaultTarget =>
    cases holds
    exact stored (optionalConverts x origin _) .defaultTarget fun value => { defaultTarget := value }
  | logLevel =>
    cases holds
    exact stored rfl .logLevel fun value => { logLevel := value }
  | bufferSize =>
    cases holds
    exact wideStored below origin .bufferSize fun value => { bufferSize := value }
  | connectionTimeout =>
    cases holds
    exact wideStored below origin .connectionTimeout fun value => { connectionTimeout := value }

def Carries (origin : Settings.Origin) (pair : Field × Node) (s : Setting) : Prop :=
  ∃ v, pair = (s.1, Settings.ofJson origin v) ∧ Holds s.1 v s.2

theorem membersCarry {members : List (String × Value)} {settings : List Setting}
    (stand : List.Forall₂ Stands members settings) (origin : Settings.Origin) :
    List.Forall₂ (Carries origin) ((Settings.ofMembers origin members).filterMap ofMember?) settings := by
  induction stand with
  | nil => exact .nil
  | @cons m s _ _ first _ ih =>
    obtain ⟨name, holds⟩ := first
    rw [Settings.ofMembers, List.filterMap_cons, ofNamed name]
    exact .cons ⟨m.2, rfl, holds⟩ ih

theorem givenCarried {origin : Settings.Origin} {pairs : List (Field × Node)} {settings : List Setting}
    (carry : List.Forall₂ (Carries origin) pairs settings) (once : (settings.map Sigma.fst).Nodup) :
    (∀ s ∈ settings, ∃ v, given pairs s.1 = some (Settings.ofJson origin v) ∧ Holds s.1 v s.2) ∧
      ∀ f ∉ settings.map Sigma.fst, given pairs f = none := by
  induction carry with
  | nil => exact ⟨fun _ member => absurd member List.not_mem_nil, fun _ _ => rfl⟩
  | @cons pair s _ others first _ ih =>
    obtain ⟨v, rfl, holds⟩ := first
    obtain ⟨fresh, once⟩ := List.nodup_cons.mp once
    obtain ⟨inside, outside⟩ := ih once
    refine ⟨fun t member => ?_, fun f absent => ?_⟩
    · rcases List.mem_cons.mp member with rfl | member
      · exact ⟨v, by simp [given], holds⟩
      · have apart : t.1 ≠ s.1 := fun same => fresh (same ▸ List.mem_map_of_mem member)
        obtain ⟨w, found, holds'⟩ := inside t member
        exact ⟨w, by simpa [given, Ne.symm apart] using found, holds'⟩
    · rw [List.map_cons, List.mem_cons, not_or] at absent
      have found := outside f absent.2
      simpa [given, Ne.symm absent.1] using found

theorem treeReads {origin : Settings.Origin} {members : List (String × Value)} {settings : List Setting}
    (stand : List.Forall₂ Stands members settings) (once : (settings.map Sigma.fst).Nodup)
    (below : ∀ s ∈ settings, Below s.1 s.2) {root : Node}
    (nodes : ∀ f, root.get? f.name =
      (given ((Settings.ofMembers origin members).filterMap ofMember?) f).map (Settings.merge none)) :
    Settings.toConfig root = .ok (applied settings) := by
  obtain ⟨inside, outside⟩ := givenCarried (membersCarry stand origin) once
  obtain ⟨replaced, kept⟩ := getReplaced once {}
  refine Settings.toConfigOf fun f => ?_
  by_cases member : f ∈ settings.map Sigma.fst
  · obtain ⟨s, here, rfl⟩ := List.mem_map.mp member
    obtain ⟨v, found, holds⟩ := inside s here
    rw [reading, nodes, found]
    exact (holdsConverted holds (below s here) origin).trans (congrArg Except.ok (replaced s here).symm)
  · rw [reading, nodes, outside f member]
    exact congrArg Except.ok (kept f member).symm

theorem optionalFlat (s : Option String) :
    (∀ items, optional s ≠ .array items) ∧ ∀ members, optional s ≠ .object members := by
  cases s <;> exact ⟨fun _ => nofun, fun _ => nofun⟩

theorem holdsFlat {f : Field} {v : Value} {x : f.Value} (holds : Holds f v x) (other : f ≠ .routes) {depth : Nat}
    {written : List Char} (spelled : Spelled depth v written) : Json.SpelledScalar v written := by
  rcases Json.spelledScalar spelled with flat | ⟨items, rfl⟩ | ⟨members, rfl⟩
  · exact flat
  · cases f with
    | routes => exact absurd rfl other
    | host | defaultTarget => exact absurd holds.symm ((optionalFlat x).1 items)
    | _ => simp [Holds] at holds
  · cases f with
    | routes => exact absurd rfl other
    | host | defaultTarget => exact absurd holds.symm ((optionalFlat x).2 members)
    | _ => simp [Holds] at holds

theorem routeShallow {v : Value} {r : RouteConfig} (isRoute : IsRoute v r) {depth : Nat} {written : List Char}
    (spelled : Spelled depth v written) (spare : Nat) : Spelled (spare + 1) v written := by
  obtain ⟨parts, _, rfl⟩ := isRoute
  obtain ⟨inside, text, rfl, once, listed⟩ := Json.spelledObject spelled
  refine Layer.object once (Json.listedImp listed fun m member item _ spelled => ?_)
  obtain ⟨p, _, rfl⟩ := List.mem_map.mp member
  exact Json.memberRelated spelled rfl fun _ spelled => Json.scalarAnywhere (.text (Json.spelledText spelled))

theorem partner {α β : Type} {related : α → β → Prop} {xs : List α} {ys : List β} (pairs : List.Forall₂ related xs ys)
    {x : α} (member : x ∈ xs) : ∃ y, related x y := by
  induction pairs with
  | nil => exact absurd member List.not_mem_nil
  | cons pair _ ih =>
    rcases List.mem_cons.mp member with rfl | member
    · exact ⟨_, pair⟩
    · exact ih member

theorem holdsShallow {f : Field} {v : Value} {x : f.Value} (holds : Holds f v x) {depth : Nat} {written : List Char}
    (spelled : Spelled depth v written) (spare : Nat) : Spelled (spare + 2) v written := by
  by_cases routes : f = .routes
  · subst routes
    obtain ⟨items, rfl, areRoutes⟩ := holds
    obtain ⟨inside, text, rfl, listed⟩ := Json.spelledArray spelled
    refine Layer.array (Json.listedImp listed fun v member item _ spelled => ?_)
    obtain ⟨r, isRoute⟩ := partner areRoutes member
    exact routeShallow isRoute spelled spare
  · exact Json.scalarAnywhere (holdsFlat holds routes spelled)

theorem documentMembers {content : String} {settings : List Setting} (document : Document content settings) :
    ∃ members, Value.ofText? content = some (.object members) ∧ (members.map Prod.fst).Nodup ∧
      List.Forall₂ Stands members settings := by
  obtain ⟨members, depth, written, alone, spelled, stand⟩ := document
  obtain ⟨inside, text, rfl, once, listed⟩ := Json.spelledObject spelled
  have shallow : Spelled Json.depthLimit (.object members) ('\x7b' :: text) := by
    refine Layer.object once (Json.listedImp listed fun m member item _ spelled => ?_)
    obtain ⟨s, stands⟩ := partner stand member
    exact Json.memberRelated spelled rfl fun _ spelled => holdsShallow stands.2 spelled 124
  exact ⟨members, Json.documentRead alone shallow, once, stand⟩

theorem fileFound {files : FileTree} {path : String} {bytes : Bytes} (read : files.read path = .ok bytes) :
    files.exists? path = true ∧ files.isFile path = true := by
  unfold FileTree.read at read
  unfold FileTree.exists? FileTree.isFile
  cases found : files.find path with
  | error e =>
    rw [found] at read
    cases read
  | ok entry =>
    rw [found] at read
    cases entry with
    | file content => exact ⟨rfl, rfl⟩
    | directory => cases read

theorem textRead {files : FileTree} {path content : String} (read : files.read path = .ok (Utf8.encode content)) :
    readText files path = .ok content := by
  simp [readText, read, Utf8.decodeEncode, bind, Except.bind, pure, Except.pure]

theorem keysKept (origin : Settings.Origin) (members : List (String × Value)) :
    (Settings.ofMembers origin members).map Prod.fst = members.map Prod.fst := by
  induction members with
  | nil => rfl
  | cons m members ih => rw [Settings.ofMembers, List.map_cons, List.map_cons, ih]

theorem namesStand {members : List (String × Value)} {settings : List Setting}
    (stand : List.Forall₂ Stands members settings) (once : (members.map Prod.fst).Nodup) (origin : Settings.Origin) :
    NamesSettings (Settings.ofMembers origin members) := by
  refine ⟨fun key member => ?_, by rw [keysKept]; exact once⟩
  rw [keysKept] at member
  obtain ⟨m, here, rfl⟩ := List.mem_map.mp member
  obtain ⟨s, stands⟩ := partner stand here
  exact ⟨s.1, stands.1⟩

theorem documentLoads {files : FileTree} {env : Environment} {path : Option String} {content : String}
    {settings : List Setting} (document : Document content settings) (below : ∀ s ∈ settings, Below s.1 s.2)
    (read : files.read (path.getD defaultFile) = .ok (Utf8.encode content))
    (silent : ∀ v ∈ env, Settings.Environment.key? v.1 = none) :
    (load files env path).value = .ok (applied settings) := by
  obtain ⟨members, parsed, once, stand⟩ := documentMembers document
  obtain ⟨there, isFile⟩ := fileFound read
  have located : locate files (path.getD defaultFile) = some (path.getD defaultFile) := if_pos isFile
  have text := textRead read
  have inside : fileMembers files path =
      Settings.ofMembers (.file (files.relative (path.getD defaultFile))) members := by
    simp only [fileMembers, located, text, parsed]
  obtain ⟨root, tree⟩ : ∃ root, settingsOfFile files (path.getD defaultFile) path.isSome = .ok root := by
    simp only [settingsOfFile, located, text, fileSettings, parsed, Settings.ofJson]
    exact ⟨_, rfl⟩
  have names : NamesSettings (fileMembers files path) := by
    rw [inside]
    exact namesStand stand once _
  have nodes := settingsOfFileGiven names tree
  simp only [fromFile, inside] at nodes
  have config := treeReads stand (settingsOnce stand once) below nodes
  have loaded : loadFrom files env (path.getD defaultFile) path.isSome = .ok (applied settings) := by
    simp only [loadFrom, Config.settings, tree, bind, Except.bind, pure, Except.pure, Except.mapError, putSilent silent,
      config]
  simp only [load, there, if_true, loaded]

/- What a document of settings gives, to each reader and in each order. Only the tree bounds the numbers. -/
structure Loads (content : String) (settings : List Setting) (c : Config) : Prop where
  replaced : ∀ s ∈ settings, c.get s.1 = s.2
  kept : ∀ f ∉ settings.map Sigma.fst, c.get f = ({} : Config).get f
  parsed : parseJson content = .ok c
  fromFile : ∀ (files : FileTree) (path : String), files.read path = .ok (Utf8.encode content) →
    ofFile files path = .ok c
  loaded : (∀ s ∈ settings, Below s.1 s.2) → ∀ (files : FileTree) (env : Environment) (path : Option String),
    files.read (path.getD defaultFile) = .ok (Utf8.encode content) →
      (∀ v ∈ env, Settings.Environment.key? v.1 = none) → (load files env path).value = .ok c
  reordered : ∀ (content' : String) (settings' : List Setting), settings'.Perm settings →
    Document content' settings' → parseJson content' = .ok c

theorem loadersAgree {content : String} {settings : List Setting} (document : Document content settings) :
    Loads content settings (applied settings) := by
  have read := documentGives document
  obtain ⟨members, _, named, stand⟩ := documentMembers document
  have once := settingsOnce stand named
  obtain ⟨replaced, kept⟩ := getReplaced once {}
  refine ⟨replaced, kept, ?_, fun files path there => ?_, fun below files env path there silent => ?_,
    fun content' settings' perm document' => ?_⟩
  · rw [parseJson, read]
    rfl
  · simp only [ofFile, textRead there, read, Except.mapError]
  · exact documentLoads document below there silent
  · rw [parseJson, documentGives document', appliedPerm once perm]
    rfl

def mixedText : String :=
  "\n\x7b \"routes\" : [\x7b\"target\":\"git:1\", \"key\":\"G\\u0049T0\"\x7d],\n  \"port\":8443 ,\"host\": null\x7d\n"

def mixedSettings : List Setting := [⟨.routes, [⟨"GIT0", "git:1"⟩]⟩, ⟨.port, (8443 : UInt16)⟩, ⟨.host, none⟩]

def mixedMembers : List (String × Value) :=
  [("routes", .array [.object [("target", .text "git:1"), ("key", .text "GIT0")]]), ("port", .number (.whole 8443)),
    ("host", .null)]

theorem escapedKey : Json.SpelledText "GIT0" ("\"G\\u0049T0\"").toList :=
  ⟨[['G'], ['\\', 'u', '0', '0', '4', '9'], ['T'], ['0']],
    .cons (.plain (by decide) (by decide) (by decide)) (.cons (.unit (by decide))
      (.cons (.plain (by decide) (by decide) (by decide)) (.cons (.plain (by decide) (by decide) (by decide)) .nil))),
    by decide⟩

theorem mixedDocument : Document mixedText mixedSettings := by
  have none : Blank [] := by decide
  have space : Blank [' '] := by decide
  have line : Blank ['\n', ' ', ' '] := by decide
  have route : Spelled 1 (.object [("target", .text "git:1"), ("key", .text "GIT0")]) _ :=
    Layer.object (by decide)
      (.item .first none (.mk (Json.printedSpelled "target") none none (.text (Json.printedSpelled "git:1")))
        (.item (.comma none) space (.mk (Json.printedSpelled "key") none none (.text escapedKey)) (.none none)))
  have routes : Spelled 2 (.array [.object [("target", .text "git:1"), ("key", .text "GIT0")]]) _ :=
    Layer.array (.item .first none route (.none none))
  have port : Spelled 2 (.number (.whole (8443 : Nat))) _ := Layer.scalar (.whole (by decide))
  have host : Spelled 2 .null _ := Layer.scalar .null
  have document : Spelled 3 (.object mixedMembers) _ :=
    Layer.object (by decide)
      (.item .first space (.mk (Json.printedSpelled "routes") space space routes)
        (.item (.comma none) line (.mk (Json.printedSpelled "port") none none port)
          (.item (.comma space) none (.mk (Json.printedSpelled "host") none space host) (.none none))))
  refine ⟨mixedMembers, 3, _, ⟨['\n'], ['\n'], by decide, by decide, ?_⟩, document, ?_⟩
  · decide +kernel
  · refine .cons ⟨rfl, _, rfl, .cons ⟨_, .targetFirst, rfl⟩ .nil⟩ (.cons ⟨rfl, rfl⟩ (.cons ⟨rfl, rfl⟩ .nil))

def mixedFiles : FileTree := ⟨[(["etc", "ports.json"], .file (Utf8.encode mixedText))], []⟩

def mixedConfig : Config := { port := 8443, routes := [⟨"GIT0", "git:1"⟩] }

theorem mixedAgree : Document mixedText mixedSettings ∧ Loads mixedText mixedSettings mixedConfig ∧
    parseJson mixedText = .ok mixedConfig ∧ ofFile mixedFiles "/etc/ports.json" = .ok mixedConfig ∧
    (load mixedFiles [("HOME", "/")] (some "/etc/ports.json")).value = .ok mixedConfig := by
  have loads : Loads mixedText mixedSettings mixedConfig := loadersAgree mixedDocument
  have there : mixedFiles.read "/etc/ports.json" = .ok (Utf8.encode mixedText) := by decide +kernel
  have silent : ∀ v ∈ [("HOME", "/")], Settings.Environment.key? v.1 = none := by decide +kernel
  have below : ∀ s ∈ mixedSettings, Below s.1 s.2 := by simp [mixedSettings, Below]
  exact ⟨mixedDocument, loads, loads.parsed, loads.fromFile _ _ there, loads.loaded below _ _ (some _) there silent⟩

/- A zero with a sign is no whole number to the strict reader, and is one to the tree. -/
def signedZeroText : String := "\x7b\"port\":-0\x7d"

def signedZeroFiles : FileTree := ⟨[(["ports.json"], .file (Utf8.encode signedZeroText))], []⟩

theorem signedZeroApart :
    parseJson signedZeroText = .error (.config (.invalidDocument
      (.wrongType (.number (.float (Binary64.ofNat 0).neg)) .unsigned16))) ∧
    ofFile signedZeroFiles "/ports.json" = .error (.config (.invalidFile "/ports.json"
      (.wrongType (.number (.float (Binary64.ofNat 0).neg)) .unsigned16))) ∧
    (load signedZeroFiles [] (some "/ports.json")).value = .ok { port := 0 } := by
  refine ⟨?_, ?_, ?_⟩ <;> decide +kernel

end Config
end SharedPort
