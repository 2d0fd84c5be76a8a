import SharedPort.Config.Load

/-! A configuration read from a tree of settings. The tree holds one node under the name of each setting that was put
into it; reading takes every setting from its own node or leaves its default. -/
namespace SharedPort

def Config.Field.Value : Field → Type
  | .network => Network
  | .host | .defaultTarget => Option String
  | .port => UInt16
  | .listenBacklog => UInt32
  | .headerSize | .peekTimeoutMs | .queueCapacity | .bufferSize | .connectionTimeout => UInt64
  | .matchMode => MatchMode
  | .routes => List RouteConfig
  | .logLevel => String

namespace Config

def get (c : Config) : (f : Field) → f.Value
  | .network => c.network
  | .host => c.host
  | .port => c.port
  | .listenBacklog => c.listenBacklog
  | .headerSize => c.headerSize
  | .matchMode => c.matchMode
  | .peekTimeoutMs => c.peekTimeoutMs
  | .queueCapacity => c.queueCapacity
  | .routes => c.routes
  | .defaultTarget => c.defaultTarget
  | .logLevel => c.logLevel
  | .bufferSize => c.bufferSize
  | .connectionTimeout => c.connectionTimeout

def set (c : Config) : (f : Field) → f.Value → Config
  | .network, value => { c with network := value }
  | .host, value => { c with host := value }
  | .port, value => { c with port := value }
  | .listenBacklog, value => { c with listenBacklog := value }
  | .headerSize, value => { c with headerSize := value }
  | .matchMode, value => { c with matchMode := value }
  | .peekTimeoutMs, value => { c with peekTimeoutMs := value }
  | .queueCapacity, value => { c with queueCapacity := value }
  | .routes, value => { c with routes := value }
  | .defaultTarget, value => { c with defaultTarget := value }
  | .logLevel, value => { c with logLevel := value }
  | .bufferSize, value => { c with bufferSize := value }
  | .connectionTimeout, value => { c with connectionTimeout := value }

theorem getSet (c : Config) (f : Field) (value : f.Value) : (c.set f value).get f = value := by
  cases f <;> rfl

theorem getSetOther (c : Config) {f g : Field} (value : f.Value) (other : g ≠ f) : (c.set f value).get g = c.get g := by
  cases f <;> cases g <;> first | rfl | exact absurd rfl other

theorem setGet (c : Config) (f : Field) : c.set f (c.get f) = c := by
  cases f <;> rfl

theorem sameSettings {c d : Config} (same : ∀ f, c.get f = d.get f) : c = d := by
  obtain ⟨⟩ := c
  obtain ⟨⟩ := d
  simp only [mk.injEq]
  exact ⟨same .network, same .host, same .port, same .listenBacklog, same .headerSize, same .matchMode,
    same .peekTimeoutMs, same .queueCapacity, same .routes, same .defaultTarget, same .logLevel, same .bufferSize,
    same .connectionTimeout⟩

end Config

namespace Settings
open Config (Field)

def converted (f : Field) (n : Node) : Except Fault f.Value := (readField {} f n).map (·.get f)

theorem readFieldConverts (c : Config) (f : Field) (n : Node) : readField c f n = (converted f n).map (c.set f) := by
  unfold converted
  cases f <;> simp only [readField, bind, Except.bind] <;> split <;> rfl

/- What a tree gives for a setting that has a value already. -/
def reading (root : Node) (c : Config) (f : Field) : Except Fault f.Value :=
  match root.get? f.name with
  | some n => converted f n
  | none => .ok (c.get f)

theorem readStep (root : Node) (c : Config) (f : Field) :
    (match root.get? f.name with
      | some n => readField c f n
      | none => .ok c) = (reading root c f).map (c.set f) := by
  unfold reading
  cases root.get? f.name with
  | some n => exact readFieldConverts c f n
  | none => exact congrArg Except.ok (c.setGet f).symm

theorem readsInOrder {root : Node} {fields : List Field} (once : fields.Nodup) {c d : Config}
    (read : fields.foldlM (fun c field =>
      match root.get? field.name with
      | some n => readField c field n
      | none => .ok c) c = .ok d) (f : Field) :
    (f ∈ fields → reading root c f = .ok (d.get f)) ∧ (f ∉ fields → d.get f = c.get f) := by
  induction fields generalizing c with
  | nil =>
    cases read
    exact ⟨fun member => absurd member List.not_mem_nil, fun _ => rfl⟩
  | cons g fields ih =>
    obtain ⟨first, later⟩ := List.nodup_cons.mp once
    rw [List.foldlM_cons, readStep] at read
    cases given : reading root c g with
    | error e =>
      rw [given] at read
      cases read
    | ok value =>
      rw [given] at read
      obtain ⟨inside, outside⟩ := ih later read
      by_cases same : f = g
      · subst same
        have kept := outside first
        rw [Config.getSet] at kept
        exact ⟨fun _ => by rw [given, kept], fun absent => absurd (List.mem_cons_self ..) absent⟩
      · have unchanged := c.getSetOther value same
        refine ⟨fun member => ?_, fun absent => ?_⟩
        · have read := inside ((List.mem_cons.mp member).resolve_left same)
          rwa [reading, unchanged] at read
        · rw [outside fun member => absent (List.mem_cons_of_mem _ member), unchanged]

theorem toConfigReads {root : Node} {c : Config} (read : toConfig root = .ok c) (f : Field) :
    reading root {} f = .ok (c.get f) :=
  (readsInOrder (by decide) read f).1 (by cases f <;> decide)

/- A configuration whose settings the tree gives is the one that is read. -/
theorem readsThrough {root : Node} {fields : List Field} (once : fields.Nodup) {c d : Config}
    (reads : ∀ f ∈ fields, reading root c f = .ok (d.get f)) :
    fields.foldlM (fun c field =>
      match root.get? field.name with
      | some n => readField c field n
      | none => .ok c) c = .ok (fields.foldl (fun c f => c.set f (d.get f)) c) := by
  induction fields generalizing c with
  | nil => rfl
  | cons g fields ih =>
    obtain ⟨first, later⟩ := List.nodup_cons.mp once
    rw [List.foldlM_cons, readStep, reads g (List.mem_cons_self ..)]
    refine ih later fun f member => ?_
    have other : f ≠ g := fun same => first (same ▸ member)
    have read := reads f (List.mem_cons_of_mem _ member)
    rwa [reading, ← c.getSetOther (d.get g) other] at read

theorem toConfigOf {root : Node} {d : Config} (reads : ∀ f, reading root {} f = .ok (d.get f)) :
    toConfig root = .ok d := by
  have read := readsThrough (by decide : Field.all.Nodup) fun f _ => reads f
  have same := Config.sameSettings fun f => Except.ok.inj ((toConfigReads read f).symm.trans (reads f))
  exact read.trans (congrArg Except.ok same)

theorem nameInjective {f g : Field} (same : f.name = g.name) : f = g := by
  have named := congrArg Field.ofName? same
  cases f <;> cases g <;> first | rfl | cases named

theorem namesItself (f : Field) : Path.ofKey f.name = [.member f.name] := by
  cases f <;> decide +kernel

theorem nameSmall (f : Field) : lowerKey f.name = f.name := by
  cases f <;> decide +kernel

theorem findPut {α : Type} (key other : String) (value : α) (members : List (String × α)) :
    ((Json.put key value members).find? (·.1 = other)).map Prod.snd =
      if other = key then some value else (members.find? (·.1 = other)).map Prod.snd := by
  induction members with
  | nil =>
    by_cases same : other = key
    · simp [Json.put, same]
    · simp [Json.put, same, Ne.symm same]
  | cons m members ih =>
    obtain ⟨k, v⟩ := m
    by_cases here : k = key
    · subst here
      by_cases same : other = k
      · simp [Json.put, same]
      · simp [Json.put, same, Ne.symm same]
    · by_cases found : k = other
      · subst found
        simp [Json.put, here]
      · simp [Json.put, here, found, ih]

theorem getAsTable (n : Node) (key : String) : n.asTable.get? key = n.get? key := by
  cases n <;> rfl

theorem getSet (n : Node) (key other : String) (value : Node) :
    (n.set key value).get? other = if other = key then some value else n.get? other := by
  rw [← getAsTable n other]
  cases n with
  | scalar | array => exact findPut key other value []
  | table origin members => exact findPut key other value members

theorem getPutKey (root : Node) (f g : Field) (value : Node) :
    (root.putKey f.name value).get? g.name =
      if g = f then some (merge (root.get? f.name) value) else root.get? g.name := by
  simp only [Node.putKey, namesItself, Node.put, nameSmall, getSet, getAsTable]
  by_cases same : g = f
  · simp [same]
  · simp [same, mt nameInjective same]

def given (pairs : List (Field × Node)) (f : Field) : Option Node := (pairs.find? (·.1 = f)).map Prod.snd

def putAll (root : Node) (pairs : List (Field × Node)) : Node :=
  pairs.foldl (fun root (f, n) => root.putKey f.name n) root

theorem givenNone {pairs : List (Field × Node)} {f : Field} (absent : f ∉ pairs.map Prod.fst) : given pairs f = none := by
  simp only [given, Option.map_eq_none_iff, List.find?_eq_none, decide_eq_true_eq]
  rintro pair member rfl
  exact absent (List.mem_map_of_mem member)

theorem getPutAll {pairs : List (Field × Node)} (once : (pairs.map Prod.fst).Nodup) (root : Node) (f : Field) :
    (putAll root pairs).get? f.name =
      ((given pairs f).map (merge (root.get? f.name))).or (root.get? f.name) := by
  induction pairs generalizing root with
  | nil => rfl
  | cons pair pairs ih =>
    obtain ⟨g, n⟩ := pair
    obtain ⟨first, later⟩ := List.nodup_cons.mp once
    have rest := ih later (root.putKey g.name n)
    rw [getPutKey] at rest
    rw [putAll, List.foldl_cons]
    refine rest.trans ?_
    by_cases same : f = g
    · subst same
      simp only [if_true, givenNone first, Option.map_none, Option.none_or]
      simp [given]
    · simp [given, same, Ne.symm same]

theorem mergeMembersTable (members : List (String × Node)) (target : Node)
    (table : ∃ origin inside, target = .table origin inside) :
    ∃ origin inside, mergeMembers target members = .table origin inside := by
  induction members generalizing target with
  | nil => exact table
  | cons m members ih =>
    obtain ⟨origin, inside, rfl⟩ := table
    exact ih _ ⟨origin, _, rfl⟩

theorem tableRefused (f : Field) (origin : Option Origin) (members : List (String × Node)) :
    ∃ e, converted f (.table origin members) = .error e := by
  cases f <;> exact ⟨_, rfl⟩

theorem convertedMerged {f : Field} {n : Node} {value : f.Value} (fits : converted f (merge none n) = .ok value) :
    converted f n = .ok value := by
  cases n with
  | scalar origin s => exact fits
  | array origin items => exact fits
  | table origin members =>
    obtain ⟨origin', inside, merged⟩ := mergeMembersTable members .emptyTable ⟨none, [], rfl⟩
    obtain ⟨e, refused⟩ := tableRefused f origin' inside
    rw [merge, Option.getD_none, merged, refused] at fits
    cases fits

end Settings
end SharedPort
