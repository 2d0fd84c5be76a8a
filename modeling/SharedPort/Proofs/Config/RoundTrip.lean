import SharedPort.Config.Load
import SharedPort.Proofs.Config.Documents

/-! Every configuration is read back as it was written. Each setting that is written stands in the document as its own,
and the two that may be absent are absent by default. -/
namespace SharedPort.Config
open Json (Value Spelled SpelledText SpelledMember Listed Layer printedSpelled)
open Json.Printer (Member separated)

theorem networkNamed (n : Network) : Network.ofName? n.name = some n := by
  cases n <;> decide +kernel

theorem matchModeNamed (m : MatchMode) : MatchMode.ofName? m.name = some m := by
  cases m <;> decide +kernel

def routeValue (r : RouteConfig) : Value := .object [("key", .text r.key), ("target", .text r.target)]

theorem routeWritten (r : RouteConfig) : Spelled 1 (routeValue r) r.toJson := by
  have texts : Listed (SpelledMember Prod.fst fun p : String × String => SpelledText p.2) '\x7d' true
      [("key", r.key), ("target", r.target)] _ :=
    Json.separatedListed fun p _ => Json.renderSpelled (printedSpelled p.2)
  have pairs : List.Forall₂ (fun (p : String × String) m => m = (p.1, Value.text p.2))
      [("key", r.key), ("target", r.target)] [("key", .text r.key), ("target", .text r.target)] :=
    .cons rfl (.cons rfl .nil)
  refine Layer.object (by simp) (Json.listedRelated texts pairs ?_)
  rintro p _ item rfl spelled
  exact Json.memberRelated spelled rfl fun _ spelled => Json.scalarAnywhere (.text spelled)

theorem routesWritten (rs : List RouteConfig) :
    Spelled 2 (.array (rs.map routeValue)) (Json.Printer.array (rs.map RouteConfig.toJson)) := by
  have listed : Listed (fun r written => Spelled 1 (routeValue r) written) ']' true rs
      (separated (rs.map RouteConfig.toJson) ++ [']']) := Json.separatedListed fun r _ => routeWritten r
  have pairs : List.Forall₂ (fun r v => v = routeValue r) rs (rs.map routeValue) :=
    List.forall₂_map_right_iff.mpr (List.forall₂_same.mpr fun _ _ => rfl)
  exact Layer.array (Json.listedRelated listed pairs fun same spelled => same ▸ spelled)

theorem areRoutes (rs : List RouteConfig) : List.Forall₂ IsRoute (rs.map routeValue) rs :=
  List.forall₂_map_left_iff.mpr (List.forall₂_same.mpr fun _ _ => ⟨_, .keyFirst, rfl⟩)

theorem wideStated (n : UInt64) : Spelled 2 (.number (.whole n.toNat)) (Json.Printer.number n.toNat) :=
  Layer.scalar (.whole (Nat.le_pred_of_lt n.toNat_lt))

theorem writtenStated {c : Config} {f : Field} {written : List Char} (writes : c.writtenField f = some written) :
    Stated 2 ⟨f, c.get f⟩ written := by
  cases f with
  | network => cases writes; exact ⟨_, ⟨_, rfl, networkNamed c.network⟩, .scalar (.text (printedSpelled _))⟩
  | host =>
    obtain ⟨host, present, rfl⟩ := Option.map_eq_some_iff.mp writes
    exact ⟨.text host, by rw [get, present]; rfl, .scalar (.text (printedSpelled _))⟩
  | port =>
    cases writes
    exact ⟨_, rfl, .scalar (.whole (Nat.le_trans (Nat.le_pred_of_lt c.port.toNat_lt) (by decide)))⟩
  | listenBacklog =>
    cases writes
    exact ⟨_, rfl, .scalar (.whole (Nat.le_trans (Nat.le_pred_of_lt c.listenBacklog.toNat_lt) (by decide)))⟩
  | headerSize => cases writes; exact ⟨_, rfl, wideStated c.headerSize⟩
  | matchMode => cases writes; exact ⟨_, ⟨_, rfl, matchModeNamed c.matchMode⟩, .scalar (.text (printedSpelled _))⟩
  | peekTimeoutMs => cases writes; exact ⟨_, rfl, wideStated c.peekTimeoutMs⟩
  | queueCapacity => cases writes; exact ⟨_, rfl, wideStated c.queueCapacity⟩
  | routes => cases writes; exact ⟨_, ⟨_, rfl, areRoutes c.routes⟩, routesWritten c.routes⟩
  | defaultTarget =>
    obtain ⟨target, present, rfl⟩ := Option.map_eq_some_iff.mp writes
    exact ⟨.text target, by rw [get, present]; rfl, .scalar (.text (printedSpelled _))⟩
  | logLevel => cases writes; exact ⟨_, rfl, .scalar (.text (printedSpelled _))⟩
  | bufferSize => cases writes; exact ⟨_, rfl, wideStated c.bufferSize⟩
  | connectionTimeout => cases writes; exact ⟨_, rfl, wideStated c.connectionTimeout⟩

def present (c : Config) (fields : List Field) : List Field := fields.filter fun f => (c.writtenField f).isSome

def writtenMembers (c : Config) (fields : List Field) : List Member :=
  fields.filterMap fun f => (c.writtenField f).map (Member.mk f.name)

def writtenSettings (c : Config) : List Setting := (c.present Field.all).map fun f => ⟨f, c.get f⟩

def writtenValue (c : Config) (f : Field) : List Char := (c.writtenField f).getD []

theorem membersPresent (c : Config) (fields : List Field) :
    c.writtenMembers fields = (c.present fields).map fun f => ⟨f.name, c.writtenValue f⟩ := by
  induction fields with
  | nil => rfl
  | cons f fields ih =>
    simp only [writtenMembers, present] at ih
    cases writes : c.writtenField f <;> simp [writtenMembers, present, writtenValue, writes, ih]

/- What is not written is absent, as it is by default. -/
theorem presentAll (c : Config) : applied c.writtenSettings = c := by
  obtain ⟨network, host, port, backlog, size, mode, peek, capacity, routes, target, level, buffer, timeout⟩ := c
  cases host <;> cases target <;> rfl

theorem settingsListed (c : Config) :
    Listed (SpelledMember (fun s : Setting => s.1.name) (Stated 2)) '\x7d' true c.writtenSettings
      (separated ((c.writtenMembers Field.all).map Member.render) ++ ['\x7d']) := by
  have members : (c.writtenMembers Field.all).map Member.render =
      c.writtenSettings.map fun s => Member.render ⟨s.1.name, c.writtenValue s.1⟩ := by
    rw [membersPresent, writtenSettings, List.map_map, List.map_map]
    rfl
  rw [members]
  refine Json.separatedListed fun s member => Json.renderSpelled ?_
  obtain ⟨f, written, rfl⟩ := List.mem_map.mp member
  obtain ⟨text, writes⟩ := Option.isSome_iff_exists.mp (List.mem_filter.mp written).2
  rw [writtenValue, writes]
  exact writtenStated writes

theorem writtenOnce (c : Config) : (c.writtenSettings.map Sigma.fst).Nodup := by
  have fields : c.writtenSettings.map Sigma.fst = c.present Field.all := by simp [writtenSettings, Function.comp_def]
  rw [fields]
  exact List.Nodup.filter _ (by decide)

theorem documentReads (c : Config) {fuel : Nat} (enough : c.toJson.toList.length < fuel) :
    document fuel c.toJson.toList = .ok (c, []) := by
  have text : c.toJson.toList = '\x7b' :: (separated ((c.writtenMembers Field.all).map Member.render) ++ ['\x7d']) :=
    String.toList_ofList
  rw [text] at enough ⊢
  have takes := settingsTake c.writtenOnce c.settingsListed (Nat.lt_of_succ_lt enough)
  have read := takes [] [] (by decide) Json.endsNil
  rwa [List.nil_append, List.append_nil, presentAll] at read

theorem readsBack (c : Config) : parseJson c.toJson = .ok c := by
  have read := c.documentReads (Nat.lt_succ_self _)
  simp [parseJson, ofJson, read, Json.skipBlank, Except.mapError, bind, Except.bind, pure, Except.pure]

end SharedPort.Config
