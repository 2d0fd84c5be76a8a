import SharedPort.Config.Load
import SharedPort.Proofs.Config.Documents
import SharedPort.Proofs.Text.Lowercase
import SharedPort.Registry

/-! The names of networks and of match modes. A text is a name up to the case of its ASCII letters, and in a mode's name
a hyphen stands for an underscore. No other text is one, neither alone nor as a setting of a document; it is refused as
it was written. -/
namespace SharedPort
open Lowercase (Plain isPlain lowerSame)

variable {s : String}

theorem Network.lowered (network : Network) (s : String) :
    Lowercase.lower s = network.name ↔ s.toLower = network.name := by
  have plain : isPlain network.name = true := by cases network <;> decide +kernel
  have same := lowerSame (f := id) (fun _ => id) plain s
  rwa [String.map_id, String.map_id] at same

theorem Network.named {network : Network} : Network.ofName? s = some network ↔ s.toLower = network.name := by
  rw [← network.lowered]
  constructor
  · intro named
    simp only [ofName?] at named
    split_ifs at named <;> cases named <;> assumption
  · intro same
    rw [ofName?, same]
    cases network <;> decide

namespace MatchMode

def names : MatchMode → List String
  | .equal => ["equal", "exact"]
  | .leading => ["prefix"]
  | .caseInsensitive => ["case_insensitive", "nocase"]

theorem underscoredPlain (c : Char) (plain : Plain (underscored c)) : Plain c := by
  unfold underscored at plain
  split at plain
  · rename_i hyphen
    subst hyphen
    decide
  · exact plain

theorem normalised (mode : MatchMode) (s : String) :
    normalise s ∈ mode.names ↔ s.toLower.map underscored ∈ mode.names := by
  have plain : ∀ name ∈ mode.names, isPlain name = true := by cases mode <;> decide +kernel
  constructor
  · intro member
    rwa [(lowerSame underscoredPlain (plain _ member) s).mp rfl]
  · intro member
    rwa [normalise, (lowerSame underscoredPlain (plain _ member) s).mpr rfl]

theorem named {mode : MatchMode} : ofName? s = some mode ↔ s.toLower.map underscored ∈ mode.names := by
  rw [← mode.normalised]
  constructor
  · intro named
    simp only [ofName?] at named
    split_ifs at named <;> cases named <;> simp [names, *]
  · intro member
    simp only [ofName?]
    cases mode <;> simp only [names, List.mem_cons, List.not_mem_nil, or_false] at member
    · rw [if_pos member]
    · rw [member]
      decide
    · rcases member with same | same <;> rw [same] <;> decide

end MatchMode

namespace Config
open Json (Value Spelled SpelledText SpelledMember Listed Chain MemberTaken MemberRefused Refuses Alone colonTaken
  skipBlankAppend skipBlankCons)

variable {depth fuel : Nat} {f : Field} {e : Json.Fault} {content : String} {written : List Char} {c : Config}
  {before after : List Setting}

/- One object in which a text is given for one setting, between others that are in order. -/
def Naming (content : String) (f : Field) (s : String) (before after : List Setting) : Prop :=
  ∃ first last depth written, Alone content written ∧
    Spelled depth (.object (first ++ (f.name, .text s) :: last)) written ∧
    List.Forall₂ Stands first before ∧ List.Forall₂ Stands last after

/- The text is no name of the kind that the setting takes. -/
inductive Misnamed (s : String) : Field → Json.Fault → Prop where
  | network (unknown : Network.ofName? s = none) : Misnamed s .network (.unsupportedNetwork s)
  | matchMode (unknown : MatchMode.ofName? s = none) : Misnamed s .matchMode (.invalidMatchMode s)

theorem fieldRefuses (misnamed : Misnamed s f e) (spelled : SpelledText s written) :
    Refuses (readField fuel c f) written e := by
  intro blank rest blanks ends
  have read := Json.textTakes spelled blank rest blanks ends
  cases misnamed with
  | network unknown => simp [readField, networkText, read, unknown, bind, Except.bind]
  | matchMode unknown => simp [readField, matchModeText, read, unknown, bind, Except.bind]

def Written (depth fuel : Nat) (m : String × Value) (written : List Char) : Prop :=
  Spelled depth m.2 written ∧ written.length < fuel

theorem misnamedRefused {d : Draft} (misnamed : Misnamed s f e) (fresh : f ∉ d.seen) :
    MemberRefused (member fuel) Prod.fst (Written depth fuel) e d (f.name, .text s) := by
  rintro before written blanks ⟨spelled, _⟩ gap rest blanks' ends
  have refuses : Refuses (readField fuel d.config f) _ e := fieldRefuses misnamed (Json.spelledText spelled)
  have refused := refuses before rest blanks ends
  simp [member, fieldNamed, duplicate, fresh, colonTaken blanks', refused, bind, Except.bind]

theorem membersChain {members : List (String × Value)} {d d' : Draft}
    (stand : List.Forall₂ Stands members before)
    (chain : Chain (MemberTaken (member fuel) (fun s : Setting => s.1.name)
      fun s written => Stated depth s written ∧ written.length < fuel) d before d') :
    Chain (MemberTaken (member fuel) Prod.fst (Written depth fuel)) d members d' := by
  induction stand generalizing d with
  | nil =>
    cases chain
    exact .none
  | cons first _ ih =>
    cases chain with
    | next taken chain =>
      refine .next (fun before written blanks spelled => ?_) (ih chain)
      rw [first.1]
      exact taken before written blanks ⟨⟨_, first.2, spelled.1⟩, spelled.2⟩

theorem objectRefuses {first last : List (String × Value)} {text : List Char}
    (once : ((first ++ (f.name, .text s) :: last).map Prod.fst).Nodup) (stand : List.Forall₂ Stands first before)
    (listed : Listed (SpelledMember Prod.fst fun m => Spelled depth m.2) '\x7d' true
      (first ++ (f.name, .text s) :: last) text)
    (misnamed : Misnamed s f e) (enough : text.length < fuel) : Refuses (document fuel) ('\x7b' :: text) e := by
  intro blank rest blanks _
  rw [List.map_append, List.map_cons, List.nodup_append] at once
  obtain ⟨early, _, apart⟩ := once
  have fresh : f ∉ (before.map Sigma.fst).reverse ++ ({} : Draft).seen := by
    rw [List.append_nil, List.mem_reverse]
    intro member
    have twice := List.mem_map_of_mem (f := Field.name) member
    rw [settingsNamed stand] at twice
    exact apart _ twice _ List.mem_cons_self rfl
  have shorter : Listed (SpelledMember Prod.fst (Written depth fuel)) '\x7d' true
      (first ++ (f.name, .text s) :: last) text :=
    Json.listedImp listed fun _ _ _ short spelled =>
      Json.memberRelated spelled rfl fun shorter spelled => ⟨spelled, by omega⟩
  have few : first.length < fuel := by
    have fits := Json.listedFits listed
    simp only [List.length_append, List.length_cons, Bool.toNat_true] at fits
    omega
  have chain := @settingsChain fuel depth before (settingsOnce stand early) {} fun _ _ => List.not_mem_nil
  have read := Json.membersRefuse shorter (membersChain stand chain) (misnamedRefused misnamed fresh) few rest
  simp [document, skipBlankAppend blanks, skipBlankCons _ (by decide : Json.isBlank '\x7b' = false), read, bind,
    Except.bind]

theorem namingRefused (naming : Naming content f s before after) (misnamed : Misnamed s f e) :
    ofJson content = .error e := by
  obtain ⟨first, last, depth, written, ⟨blank, blank', blanks, blanks', shape⟩, spelled, stand, _⟩ := naming
  obtain ⟨inside, text, rfl, once, listed⟩ := Json.spelledObject spelled
  have enough : text.length < content.toList.length + 1 := by
    simp only [shape, List.length_append, List.length_cons]
    omega
  have read := objectRefuses once stand listed misnamed enough blank blank' blanks (Json.blankEnds blanks')
  rw [← shape] at read
  simp [ofJson, read, bind, Except.bind]

theorem namingSettled (naming : Naming content f s before after) {x : f.Value} (holds : Holds f (.text s) x) :
    ofJson content = .ok (applied (before ++ ⟨f, x⟩ :: after)) := by
  obtain ⟨first, last, depth, written, alone, spelled, stand, stand'⟩ := naming
  exact documentGives ⟨_, depth, written, alone, spelled, List.rel_append stand (.cons ⟨rfl, holds⟩ stand')⟩

theorem networkParsed (s : String) : Network.parse s = (Network.ofName? s).elim (.error (.unsupportedNetwork s)) .ok := by
  unfold Network.parse
  cases Network.ofName? s <;> rfl

theorem matchModeParsed (s : String) :
    MatchMode.parse s = (MatchMode.ofName? s).elim (.error (.config (.invalidMatchMode s))) .ok := by
  unfold MatchMode.parse
  cases MatchMode.ofName? s <;> rfl

structure NamesRead (s : String) : Prop where
  network : ∀ n : Network, Network.parse s = .ok n ↔ s.toLower = n.name
  mode : ∀ m : MatchMode, MatchMode.parse s = .ok m ↔ s.toLower.map MatchMode.underscored ∈ m.names
  otherNetwork : (∀ n : Network, s.toLower ≠ n.name) → Network.parse s = .error (.unsupportedNetwork s)
  otherMode : (∀ m : MatchMode, s.toLower.map MatchMode.underscored ∉ m.names) →
    MatchMode.parse s = .error (.config (.invalidMatchMode s))
  networkSetting : ∀ content before after, Naming content .network s before after →
    parseJson content = match Network.parse s with
      | .ok n => .ok (applied (before ++ ⟨.network, n⟩ :: after))
      | .error _ => .error (.config (.invalidDocument (.unsupportedNetwork s)))
  modeSetting : ∀ content before after, Naming content .matchMode s before after →
    parseJson content = match MatchMode.parse s with
      | .ok m => .ok (applied (before ++ ⟨.matchMode, m⟩ :: after))
      | .error _ => .error (.config (.invalidDocument (.invalidMatchMode s)))

theorem namesRead (s : String) : NamesRead s := by
  refine ⟨fun n => ?_, fun m => ?_, fun other => ?_, fun other => ?_, fun content before after naming => ?_,
    fun content before after naming => ?_⟩
  · rw [networkParsed, ← Network.named]
    cases Network.ofName? s <;> simp
  · rw [matchModeParsed, ← MatchMode.named]
    cases MatchMode.ofName? s <;> simp
  · have unknown : Network.ofName? s = none :=
      Option.eq_none_iff_forall_ne_some.mpr fun n named => other n (Network.named.mp named)
    rw [networkParsed, unknown]
    rfl
  · have unknown : MatchMode.ofName? s = none :=
      Option.eq_none_iff_forall_ne_some.mpr fun m named => other m (MatchMode.named.mp named)
    rw [matchModeParsed, unknown]
    rfl
  · rw [networkParsed, parseJson]
    cases named : Network.ofName? s with
    | none =>
      rw [namingRefused naming (.network named)]
      rfl
    | some n =>
      rw [namingSettled naming (x := n) ⟨s, rfl, named⟩]
      rfl
  · rw [matchModeParsed, parseJson]
    cases named : MatchMode.ofName? s with
    | none =>
      rw [namingRefused naming (.matchMode named)]
      rfl
    | some m =>
      rw [namingSettled naming (x := m) ⟨s, rfl, named⟩]
      rfl

/- A name in two cases, with its hyphen written as an escape, and a name in letters that only look like ASCII. -/
def hyphenText : String := "\x7b\"port\":8443,\"match_mode\" : \"Case\\u002dINSENSITIVE\"\x7d"

def wideText : String := "\x7b\"network\":\"\uff34\uff23\uff30\"\x7d"

theorem escapedHyphen : SpelledText "Case-INSENSITIVE" "\"Case\\u002dINSENSITIVE\"".toList := by
  refine ⟨"Case".toList.map (fun c => [c]) ++ ['\\', 'u', '0', '0', '2', 'd'] :: "INSENSITIVE".toList.map (fun c => [c]),
    ?_, by decide +kernel⟩
  have plain : ∀ text : List Char, (text.all fun c => decide (c ≠ '"' ∧ c ≠ '\\' ∧ ¬ c < ' ')) = true →
      List.Forall₂ Json.SpelledChar text (text.map fun c => [c]) := by
    intro text solid
    refine List.forall₂_map_right_iff.mpr (List.forall₂_same.mpr fun c member => ?_)
    obtain ⟨quote, slash, control⟩ := of_decide_eq_true (List.all_eq_true.mp solid c member)
    exact .plain quote slash control
  exact List.rel_append (plain "Case".toList (by decide +kernel))
    (.cons (.unit (by decide +kernel)) (plain "INSENSITIVE".toList (by decide +kernel)))

theorem hyphenNaming : Naming hyphenText .matchMode "Case-INSENSITIVE" [⟨.port, (8443 : UInt16)⟩] [] := by
  have none : Json.Blank [] := by decide
  have space : Json.Blank [' '] := by decide
  have port : Spelled 2 (.number (.whole (8443 : Nat))) _ := Json.Layer.scalar (.whole (by decide))
  have mode : Spelled 2 (.text "Case-INSENSITIVE") _ := Json.Layer.scalar (.text escapedHyphen)
  have object : Spelled 3 (.object [("port", .number (.whole 8443)), ("match_mode", .text "Case-INSENSITIVE")]) _ :=
    Json.Layer.object (by decide)
      (.item .first none (.mk (Json.printedSpelled "port") none none port)
        (.item (.comma none) none (.mk (Json.printedSpelled "match_mode") space space mode) (.none none)))
  exact ⟨[("port", .number (.whole 8443))], [], 3, _, ⟨[], [], none, none, by decide +kernel⟩, object,
    .cons ⟨rfl, rfl⟩ .nil, .nil⟩

theorem wideNaming : Naming wideText .network "\uff34\uff23\uff30" [] [] := by
  have none : Json.Blank [] := by decide
  have object : Spelled 1 (.object [("network", .text "\uff34\uff23\uff30")]) _ :=
    Json.Layer.object (by decide)
      (.item .first none (.mk (Json.printedSpelled "network") none none (.text (Json.printedSpelled "\uff34\uff23\uff30")))
        (.none none))
  exact ⟨[], [], 1, _, ⟨[], [], none, none, by decide +kernel⟩, object, .nil, .nil⟩

theorem lookalikesRead :
    MatchMode.parse "Case-INSENSITIVE" = .ok .caseInsensitive ∧
      parseJson hyphenText = .ok { port := 8443, matchMode := .caseInsensitive } ∧
      Network.parse "\uff34\uff23\uff30" = .error (.unsupportedNetwork "\uff34\uff23\uff30") ∧
      parseJson wideText = .error (.config (.invalidDocument (.unsupportedNetwork "\uff34\uff23\uff30"))) := by
  have mode := ((namesRead "Case-INSENSITIVE").mode .caseInsensitive).mpr (by decide +kernel)
  have document := (namesRead _).modeSetting _ _ _ hyphenNaming
  have network := (namesRead "\uff34\uff23\uff30").otherNetwork fun n => by cases n <;> decide +kernel
  have document' := (namesRead _).networkSetting _ _ _ wideNaming
  rw [mode] at document
  rw [network] at document'
  exact ⟨mode, document, network, document'⟩

end Config
end SharedPort
