import SharedPort.Error
import SharedPort.Net.Address
import SharedPort.Text.Unicode

/-! From the texts of a configuration to the address that a socket is bound to. -/
namespace SharedPort

structure HostPort where
  host : Option String
  port : UInt16
  deriving DecidableEq, Repr

namespace HostPort

def splitLast (text : List Char) : Option (List Char × List Char) :=
  match text.reverse.dropWhile (· ≠ ':') with
  | [] => none
  | _ :: before => some (before.reverse, (text.reverse.takeWhile (· ≠ ':')).reverse)

theorem colonFree {text : List Char} (h : ':' ∉ text) : ∀ c ∈ text.reverse, decide (c ≠ ':') = true :=
  fun _ hc => decide_eq_true fun same => h (same ▸ List.mem_reverse.1 hc)

theorem splitLastAppend {host port : List Char} (h : ':' ∉ port) :
    splitLast (host ++ ':' :: port) = some (host, port) := by
  simp only [splitLast, List.reverse_append, List.reverse_cons, List.append_assoc, List.singleton_append,
    List.dropWhile_append_of_pos (colonFree h), List.takeWhile_append_of_pos (colonFree h)]
  simp

theorem splitLastNone {text : List Char} : splitLast text = none ↔ ':' ∉ text := by
  constructor
  · intro h present
    obtain ⟨after, before, split, last⟩ := List.eq_append_cons_of_mem (List.mem_reverse.2 present)
    have whole : text = before.reverse ++ ':' :: after.reverse := by
      simpa using congrArg List.reverse split
    rw [whole, splitLastAppend (by simpa using last)] at h
    cases h
  · intro absent
    have nothing : (text.reverse ++ []).dropWhile (· ≠ ':') = [] :=
      List.dropWhile_append_of_pos (colonFree absent)
    rw [List.append_nil] at nothing
    unfold splitLast
    rw [nothing]

def unbracket (host : List Char) : List Char :=
  Blank.dropTail (· = ']') (host.dropWhile (· = '['))

def parse (address : String) : Except Error HostPort :=
  match splitLast address.toList with
  | none => .error (.config (.missingPort address))
  | some (host, port) =>
      match Decimal.unsigned Decimal.bound16 port with
      | .error fault => .error (.config (.invalidPort address fault))
      | .ok port =>
          let host := unbracket host
          .ok ⟨if host = [] then none else some (String.ofList host), .ofNat port⟩

end HostPort

abbrev Resolver := String → Except String (List IpAddress)

/-- The address to listen on. White space around the host does not count, no host stands for every interface, and of
the addresses of a name the first that belongs to the network is taken. -/
def resolveListenAddress (lookup : Resolver) (network : Network) (host : Option String) (port : UInt16) :
    Except Error SocketAddress :=
  let host := Blank.trim (host.getD "")
  if host = "" then .ok ⟨network.unspecified, port⟩
  else
    match IpAddress.ofText? host with
    | some ip =>
        if network.accepts ip then .ok ⟨ip, port⟩
        else .error (.config (.addressOutsideNetwork ip network))
    | none =>
        match lookup host with
        | .error cause => .error (.config (.unresolved host cause))
        | .ok found =>
            match found.find? network.accepts with
            | some ip => .ok ⟨ip, port⟩
            | none => .error (.config (.noAddress network host))

def localResolver : Resolver := fun host =>
  if host.toLower = "localhost" then .ok [.loopback4, .v6 #v[0, 0, 0, 0, 0, 0, 0, 1]]
  else .error "failed to lookup address information: Name or service not known"

end SharedPort
