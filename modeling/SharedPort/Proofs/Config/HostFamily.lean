import SharedPort.Proofs.Gateway.Assembly
import SharedPort.Proofs.Net.Resolving

/-! Two judges of the host of a configuration: its checks, which take the text as it is given, and the resolving of the
address to listen on, which trims it. They agree on every text but an address of the wrong family with white space
around it; such a text passes the checks and is refused when the selector is bound. -/
namespace SharedPort.Config
open IpAddress (ofText?)

variable {lookup : Resolver} {c : Config} {ip : IpAddress}

def HostRefused (c : Config) : Prop := ∃ ip, c.validate.value = .error (.config (.hostOutsideNetwork ip c.network))

def AddressRefused (lookup : Resolver) (c : Config) : Prop :=
  ∃ ip, resolveListenAddress lookup c.network c.host c.port = .error (.config (.addressOutsideNetwork ip c.network))

/- The host is an address outside the network only once the white space around it is gone. -/
def Padded (c : Config) : Prop :=
  ∃ h ip, c.host = some h ∧ Blank.trim h ≠ h ∧ Outside c.network (Blank.trim h) ip

theorem listenerWell (well : validateListener { c with host := none } = .ok ()) :
    validHeaderSize c.headerSize.toNat = true ∧ c.listenBacklog ≠ 0 := by
  unfold validateListener at well
  cases size : validHeaderSize c.headerSize.toNat with
  | false => simp [size] at well
  | true => exact ⟨rfl, fun backlog => by simp [size, backlog] at well⟩

theorem listenerOutside {h : String} (well : validateListener { c with host := none } = .ok ())
    (given : c.host = some h) (outside : Outside c.network h ip) :
    validateListener c = .error (.config (.hostOutsideNetwork ip c.network)) := by
  obtain ⟨size, _⟩ := listenerWell well
  simp [validateListener, size, given, outside.1, outside.2, bind, Except.bind]

theorem listenerInside (well : validateListener { c with host := none } = .ok ())
    (inside : ∀ h ip, c.host = some h → ¬ Outside c.network h ip) : validateListener c = .ok () := by
  obtain ⟨size, backlog⟩ := listenerWell well
  have accepted : ∀ ip, c.host.bind ofText? = some ip → c.network.accepts ip = true := by
    intro ip read
    obtain ⟨h, given, read⟩ := Option.bind_eq_some_iff.mp read
    exact Bool.not_eq_false _ ▸ fun refused => inside h ip given ⟨read, refused⟩
  cases read : c.host.bind ofText? with
  | none =>
    simp [validateListener, size, read, backlog]
    rfl
  | some ip =>
    simp [validateListener, size, read, accepted ip read, backlog]
    rfl

theorem validateHost (well : { c with host := none }.validate.value = .ok ()) :
    (∀ h ip, c.host = some h → Outside c.network h ip →
        c.validate.value = .error (.config (.hostOutsideNetwork ip c.network))) ∧
      ((∀ h ip, c.host = some h → ¬ Outside c.network h ip) → c.validate.value = .ok ()) := by
  rw [validateParts] at well ⊢
  cases listener : validateListener { c with host := none } with
  | error e => simp [listener, bind, Except.bind] at well
  | ok =>
    constructor
    · intro h ip given outside
      rw [listenerOutside listener given outside]
      rfl
    · intro inside
      rw [listener] at well
      rw [listenerInside listener inside]
      exact well

theorem hostRefused (well : { c with host := none }.validate.value = .ok ()) :
    c.HostRefused ↔ ∃ h ip, c.host = some h ∧ Outside c.network h ip := by
  obtain ⟨outside, inside⟩ := validateHost well
  constructor
  · rintro ⟨ip, refused⟩
    by_cases some : ∃ h ip, c.host = some h ∧ Outside c.network h ip
    · exact some
    · rw [inside fun h ip given here => some ⟨h, ip, given, here⟩] at refused
      cases refused
  · rintro ⟨h, ip, given, here⟩
    exact ⟨ip, outside h ip given here⟩

theorem addressRefused :
    c.AddressRefused lookup ↔ ∃ h ip, c.host = some h ∧ Outside c.network (Blank.trim h) ip := by
  simp only [AddressRefused, ← resolvesOutside]
  cases c.host with
  | none =>
    constructor
    · rintro ⟨ip, read, _⟩
      cases read
    · rintro ⟨h, ip, given, _⟩
      cases given
  | some h =>
    constructor
    · rintro ⟨ip, outside⟩
      exact ⟨h, ip, rfl, outside⟩
    · rintro ⟨h, ip, ⟨⟩, outside⟩
      exact ⟨ip, outside⟩

theorem bindFails {e : Error} (valid : c.validate.value = .ok ()) (failed : Selector.bindConfig lookup c = .error e) :
    resolveListenAddress lookup c.network c.host c.port = .error e := by
  have size : validHeaderSize c.headerSize.toNat = true := by
    rw [validateParts] at valid
    cases size : validHeaderSize c.headerSize.toNat with
    | true => rfl
    | false => simp [validateListener, size, bind, Except.bind] at valid
  have checked : Selector.checkHeaderSize c.headerSize.toNat = .ok () := if_pos size
  simp only [Selector.bindConfig, Selector.bindNetwork, checked, bind, Except.bind] at failed
  cases resolved : resolveListenAddress lookup c.network c.host c.port with
  | error cause =>
    simp only [resolved] at failed
    cases failed
    rfl
  | ok address =>
    simp only [resolved] at failed
    cases failed

/- How the two judge the host of a configuration that is well otherwise. -/
structure HostJudged (lookup : Resolver) (c : Config) : Prop where
  checked : c.HostRefused ∨ c.validate.value = .ok ()
  sooner : c.HostRefused → c.AddressRefused lookup
  alike : (c.HostRefused ↔ c.AddressRefused lookup) ↔ ¬ c.Padded
  binds : ¬ c.Padded → c.validate.value = .ok () → ∀ e, Selector.bindConfig lookup c = .error e →
    ∃ h, c.host = some h ∧ Blank.trim h ≠ "" ∧ ofText? (Blank.trim h) = none ∧ Unfound lookup c.network (Blank.trim h) e

theorem hostJudged (well : { c with host := none }.validate.value = .ok ()) : HostJudged lookup c := by
  have given := hostRefused well
  have resolved : c.AddressRefused lookup ↔ _ := addressRefused
  have sooner : c.HostRefused → c.AddressRefused lookup := by
    rw [given, resolved]
    rintro ⟨h, ip, some, outside⟩
    exact ⟨h, ip, some, by rwa [IpAddress.trimmed outside.1]⟩
  have later : ¬ c.Padded → c.AddressRefused lookup → c.HostRefused := by
    rw [given, resolved]
    rintro plain ⟨h, ip, some, outside⟩
    by_cases trimmed : Blank.trim h = h
    · exact ⟨h, ip, some, trimmed ▸ outside⟩
    · exact absurd ⟨h, ip, some, trimmed, outside⟩ plain
  refine ⟨?_, sooner, ⟨?_, fun plain => ⟨sooner, later plain⟩⟩, ?_⟩
  · by_cases refused : c.HostRefused
    · exact .inl refused
    · refine .inr ((validateHost well).2 fun h ip some outside => refused (given.mpr ⟨h, ip, some, outside⟩))
  · rintro alike ⟨h, ip, some, padded, outside⟩
    obtain ⟨h', ip', some', outside'⟩ := given.mp (alike.mpr (resolved.mpr ⟨h, ip, some, outside⟩))
    cases some.symm.trans some'
    exact padded (IpAddress.trimmed outside'.1)
  · intro plain valid e failed
    have unresolved := bindFails valid failed
    rcases resolveFails unresolved with ⟨ip, rfl⟩ | unfound
    · obtain ⟨ip', refused⟩ := later plain ⟨ip, unresolved⟩
      rw [valid] at refused
      cases refused
    · exact unfound

/- An address of the other family in white space: the configuration is said to be well, and no selector can be bound. -/
def paddedConfig : Config := { network := .tcp4, host := some " ::1" }

theorem paddedUnbound : paddedConfig.validate.value = .ok () ∧ paddedConfig.AddressRefused localResolver ∧
    ¬ paddedConfig.HostRefused ∧ Selector.bindConfig localResolver paddedConfig =
      .error (.config (.addressOutsideNetwork (.v6 #v[0, 0, 0, 0, 0, 0, 0, 1]) .tcp4)) := by
  have valid : paddedConfig.validate.value = .ok () := rfl
  refine ⟨valid, ⟨_, rfl⟩, ?_, rfl⟩
  rintro ⟨ip, refused⟩
  rw [valid] at refused
  cases refused

theorem mappedJudged : HostJudged localResolver { paddedConfig with host := some "::ffff:127.0.0.1" } ∧
    HostRefused { paddedConfig with host := some "::ffff:127.0.0.1" } ∧
    ¬ Padded { paddedConfig with host := some "::ffff:127.0.0.1" } := by
  have judged : HostJudged localResolver { paddedConfig with host := some "::ffff:127.0.0.1" } := hostJudged rfl
  refine ⟨judged, ⟨_, rfl⟩, ?_⟩
  rintro ⟨h, ip, ⟨⟩, padded, _⟩
  exact padded rfl

end SharedPort.Config
