import SharedPort.Net.Listen
import SharedPort.Proofs.Net.AddressGrammar
import SharedPort.Proofs.Text.Encoding

/-! What resolving the address to listen on can come to. No white space is among the characters of an address, so a host
is an address only once it is trimmed. What is found has the port that was asked for and belongs to the network,
wherever it comes from. -/
namespace SharedPort.IpAddress
open Blank (isBlank)

variable {base d : Nat} {c : Char} {ds : List Nat} {text : List Char}

theorem digitSolid (digit : digitIn base c = some d) : isBlank c = false := by
  unfold digitIn at digit
  simp only [Option.filter_eq_some_iff] at digit
  obtain ⟨value, _⟩ := digit
  have place : 48 ≤ c.toNat ∧ c.toNat ≤ 57 ∨ 97 ≤ c.toNat ∧ c.toNat ≤ 102 ∨ 65 ≤ c.toNat ∧ c.toNat ≤ 70 := by
    split_ifs at value with figure small capital
    · exact .inl figure
    · exact .inr (.inl small)
    · exact .inr (.inr capital)
  simp only [isBlank, Bool.or_eq_false_iff, Bool.and_eq_false_iff, decide_eq_false_iff_not, beq_eq_false_iff_ne]
  omega

def Solid (text : List Char) : Prop := ∀ c ∈ text, isBlank c = false

theorem figuresSolid (figures : Figures base text ds) : Solid text := by
  induction figures with
  | nil => exact nofun
  | cons digit _ ih => exact List.forall_mem_cons.mpr ⟨digitSolid digit, ih⟩

theorem octetSolid (b : UInt8) : Solid (Nat.toDigits 10 b.toNat) := by
  have read : octet (Nat.toDigits 10 b.toNat) = some (b, []) := octetReads.mpr ⟨(List.append_nil _).symm, nofun⟩
  obtain ⟨ds, run, _⟩ := octetRun read
  obtain ⟨front, whole, figures, _⟩ := digitRunIs.mp run
  rw [whole, List.append_nil]
  exact figuresSolid figures

theorem dottedSolid (q : Quad) : Solid q.dotted := by
  rw [q.inFour]
  simp only [Solid, List.forall_mem_append, List.forall_mem_cons]
  exact ⟨octetSolid q.a, rfl, octetSolid q.b, rfl, octetSolid q.c, rfl, octetSolid q.d⟩

theorem gapSolid (isFirst : Bool) : Solid (gap isFirst) := by
  cases isFirst with
  | true => exact nofun
  | false => exact List.forall_mem_singleton.mpr rfl

theorem groupedSolid {isFirst endsInQuad : Bool} {groups : List UInt16}
    (grouped : Grouped isFirst text groups endsInQuad) : Solid text := by
  induction grouped with
  | none => exact nofun
  | quad q => exact List.forall_mem_append.mpr ⟨gapSolid _, dottedSolid q⟩
  | next group _ ih =>
    obtain ⟨ds, figures, _⟩ := group.value
    exact List.forall_mem_append.mpr ⟨gapSolid _, List.forall_mem_append.mpr ⟨figuresSolid figures, ih⟩⟩

theorem writtenSolid {ip : IpAddress} (written : Written text ip) : Solid text := by
  cases written with
  | four a b c d => exact dottedSolid ⟨a, b, c, d⟩
  | full grouped => exact groupedSolid grouped
  | shortened before after =>
    have zeros : Solid (':' :: ':' :: _) :=
      List.forall_mem_cons.mpr ⟨rfl, List.forall_mem_cons.mpr ⟨rfl, groupedSolid after⟩⟩
    exact List.forall_mem_append.mpr ⟨groupedSolid before, zeros⟩

theorem trimmed {text : String} {ip : IpAddress} (read : ofText? text = some ip) : Blank.trim text = text :=
  Blank.trimSolid (writtenSolid (readsWritten.mp read))

end SharedPort.IpAddress

namespace SharedPort
open Blank (Trimmed trimIs)
open IpAddress (Written ofText? readsWritten)

variable {lookup : Resolver} {network : Network} {host : Option String} {port : UInt16} {text : String}

inductive Unfound (lookup : Resolver) (network : Network) (name : String) : Error → Prop where
  | unresolved {cause} (failed : lookup name = .error cause) :
      Unfound lookup network name (.config (.unresolved name cause))
  | noAddress {found} (answered : lookup name = .ok found) (others : ∀ ip ∈ found, network.accepts ip = false) :
      Unfound lookup network name (.config (.noAddress network name))

/- All that resolving does with a trimmed text. -/
inductive Resolution (lookup : Resolver) (network : Network) (port : UInt16) :
    String → Except Error SocketAddress → Prop where
  | everywhere : Resolution lookup network port "" (.ok ⟨network.unspecified, port⟩)
  | literal {text ip} (read : ofText? text = some ip) (accepted : network.accepts ip = true) :
      Resolution lookup network port text (.ok ⟨ip, port⟩)
  | outside {text ip} (read : ofText? text = some ip) (refused : network.accepts ip = false) :
      Resolution lookup network port text (.error (.config (.addressOutsideNetwork ip network)))
  | found {text ip answer} (name : text ≠ "" ∧ ofText? text = none) (answered : lookup text = .ok answer)
      (first : answer.find? network.accepts = some ip) : Resolution lookup network port text (.ok ⟨ip, port⟩)
  | unfound {text e} (name : text ≠ "" ∧ ofText? text = none) (unfound : Unfound lookup network text e) :
      Resolution lookup network port text (.error e)

theorem resolves (lookup : Resolver) (network : Network) (host : Option String) (port : UInt16) :
    Resolution lookup network port (Blank.trim (host.getD "")) (resolveListenAddress lookup network host port) := by
  unfold resolveListenAddress
  generalize Blank.trim (host.getD "") = text
  dsimp only
  split
  · rename_i empty
    exact empty ▸ .everywhere
  · rename_i nonempty
    split
    · rename_i ip read
      split
      · exact .literal read ‹_›
      · exact .outside read (Bool.not_eq_true _ ▸ ‹_›)
    · rename_i unread
      have name : text ≠ "" ∧ ofText? text = none := ⟨nonempty, unread⟩
      split
      · exact .unfound name (.unresolved ‹_›)
      · rename_i answered
        split
        · exact .found name answered ‹_›
        · rename_i others
          have refused := List.find?_eq_none.mp others
          exact .unfound name (.noAddress answered fun ip member => Bool.not_eq_true _ ▸ refused ip member)

def Outside (network : Network) (text : String) (ip : IpAddress) : Prop :=
  ofText? text = some ip ∧ network.accepts ip = false

theorem resolvesOutside {ip : IpAddress} : Outside network (Blank.trim (host.getD "")) ip ↔
    resolveListenAddress lookup network host port = .error (.config (.addressOutsideNetwork ip network)) := by
  have resolution := resolves lookup network host port
  generalize Blank.trim (host.getD "") = text at resolution ⊢
  generalize resolveListenAddress lookup network host port = result at resolution ⊢
  constructor
  · rintro ⟨read, refused⟩
    cases resolution with
    | everywhere => cases read
    | literal read' accepted =>
      cases read.symm.trans read'
      rw [accepted] at refused
      cases refused
    | outside read' =>
      cases read.symm.trans read'
      rfl
    | found name | unfound name => cases read.symm.trans name.2
  · rintro rfl
    cases resolution with
    | outside read refused => exact ⟨read, refused⟩
    | unfound _ unfound => cases unfound

theorem resolveFails {e : Error} (failed : resolveListenAddress lookup network host port = .error e) :
    (∃ ip, e = .config (.addressOutsideNetwork ip network)) ∨
      ∃ h, host = some h ∧ Blank.trim h ≠ "" ∧ ofText? (Blank.trim h) = none ∧
        Unfound lookup network (Blank.trim h) e := by
  have resolution := resolves lookup network host port
  rw [failed] at resolution
  cases host with
  | none =>
    change Resolution lookup network port "" _ at resolution
    generalize blank : "" = text at resolution
    cases resolution with
    | outside read => subst blank; cases read
    | unfound name => exact absurd blank.symm name.1
  | some h =>
    change Resolution lookup network port (Blank.trim h) _ at resolution
    generalize trimmed : Blank.trim h = text at resolution
    cases resolution with
    | outside => exact .inl ⟨_, rfl⟩
    | unfound name unfound =>
      subst trimmed
      exact .inr ⟨h, rfl, name.1, name.2, unfound⟩


theorem Network.acceptsUnspecified (network : Network) : network.accepts network.unspecified = true := by
  cases network <;> rfl

theorem Resolution.fits {result : Except Error SocketAddress} {address : SocketAddress}
    (resolution : Resolution lookup network port text result) (listens : result = .ok address) :
    address.port = port ∧ network.accepts address.ip = true := by
  cases resolution with
  | everywhere =>
    cases listens
    exact ⟨rfl, network.acceptsUnspecified⟩
  | literal _ accepted =>
    cases listens
    exact ⟨rfl, accepted⟩
  | found _ _ first =>
    cases listens
    exact ⟨rfl, List.find?_some first⟩
  | outside | unfound => cases listens

theorem Resolution.fails {result : Except Error SocketAddress} {e : Error}
    (resolution : Resolution lookup network port text result) (failed : result = .error e) :
    ∃ fault, e = .config fault := by
  cases resolution with
  | everywhere | literal | found => cases failed
  | outside =>
    cases failed
    exact ⟨_, rfl⟩
  | unfound _ unfound =>
    cases failed
    cases unfound <;> exact ⟨_, rfl⟩

theorem Resolution.written {result : Except Error SocketAddress} {ip : IpAddress}
    (resolution : Resolution lookup network port text result) (written : Written text.toList ip) :
    result = if network.accepts ip then .ok ⟨ip, port⟩ else .error (.config (.addressOutsideNetwork ip network)) := by
  have read := readsWritten.mpr written
  cases resolution with
  | everywhere => cases read
  | literal read' accepted =>
    cases read.symm.trans read'
    rw [if_pos accepted]
  | outside read' refused =>
    cases read.symm.trans read'
    rw [refused]
    rfl
  | found name | unfound name => cases read.symm.trans name.2

theorem Resolution.named {result : Except Error SocketAddress} {address : SocketAddress}
    (resolution : Resolution lookup network port text result) (some : text ≠ "")
    (unwritten : ∀ ip, ¬ Written text.toList ip) (listens : result = .ok address) :
    ∃ answer, lookup text = .ok answer ∧ address.ip ∈ answer := by
  cases resolution with
  | everywhere => exact absurd rfl some
  | literal read => exact absurd (readsWritten.mp read) (unwritten _)
  | found _ answered first =>
    cases listens
    exact ⟨_, answered, List.mem_of_find?_eq_some first⟩
  | outside | unfound => cases listens

/- The result of resolving a host, in terms of the host's text without the white space around it. -/
structure Listens (lookup : Resolver) (network : Network) (host : Option String) (port : UInt16)
    (result : Except Error SocketAddress) : Prop where
  fits : ∀ address, result = .ok address → address.port = port ∧ network.accepts address.ip = true
  fails : ∀ e, result = .error e → ∃ fault, e = .config fault
  absent : host = none → result = .ok ⟨network.unspecified, port⟩
  empty : ∀ h, host = some h → Trimmed h "" → result = .ok ⟨network.unspecified, port⟩
  written : ∀ h text ip, host = some h → Trimmed h text → Written text.toList ip →
    result = if network.accepts ip then .ok ⟨ip, port⟩ else .error (.config (.addressOutsideNetwork ip network))
  named : ∀ h text address, host = some h → Trimmed h text → text ≠ "" → (∀ ip, ¬ Written text.toList ip) →
    result = .ok address → ∃ answer, lookup text = .ok answer ∧ address.ip ∈ answer

theorem resolveListens (lookup : Resolver) (network : Network) (host : Option String) (port : UInt16) :
    Listens lookup network host port (resolveListenAddress lookup network host port) := by
  have resolution := resolves lookup network host port
  refine ⟨fun _ => resolution.fits, fun _ => resolution.fails, ?_, ?_, ?_, ?_⟩
  · rintro rfl
    rfl
  · rintro h rfl trimmed
    simp [resolveListenAddress, trimIs.mpr trimmed]
  · rintro h text ip rfl trimmed written
    rw [Option.getD_some, trimIs.mpr trimmed] at resolution
    exact resolution.written written
  · rintro h text address rfl trimmed some unwritten listens
    rw [Option.getD_some, trimIs.mpr trimmed] at resolution
    exact resolution.named some unwritten listens

/- A mapped address in capitals between a wide space and a line break: an IPv6 address for all its IPv4 digits. -/
def mappedHost : String := "\u3000::FFFF:127.0.0.1\n"

def mapped : IpAddress := .v6 #v[0, 0, 0, 0, 0, 0xFFFF, 0x7F00, 1]

theorem mappedListens : resolveListenAddress localResolver .tcp6 (some mappedHost) 443 = .ok ⟨mapped, 443⟩ ∧
    resolveListenAddress localResolver .tcp4 (some mappedHost) 443 =
      .error (.config (.addressOutsideNetwork mapped .tcp4)) := by
  have trimmed : Trimmed mappedHost "::FFFF:127.0.0.1" := trimIs.mp (by decide +kernel)
  have written : Written "::FFFF:127.0.0.1".toList mapped := readsWritten.mp (by decide +kernel)
  have listens := fun network =>
    (resolveListens localResolver network (some mappedHost) 443).written _ _ _ rfl trimmed written
  exact ⟨listens .tcp6, listens .tcp4⟩

end SharedPort
