import TenantRelay.Instance.ControlPlane
import TenantRelay.Proofs.Addresses
import TenantRelay.Proofs.Codecs
import TenantRelay.Proofs.Escapes

/-!
Which service a request of the control plane is for. The spec that creates one has its name as it
is, and the requests that open and destroy it have the name in their addresses, where nothing of it
was escaped. They are for the service that was created if and only if every character of the
tenant's name stands for itself in an address.
-/

namespace TenantRelay

open Text

theorem forall_of_all {p : Char → Prop} [DecidablePred p] {cs : List Char}
    (all : cs.all (p ·) = true) : ∀ c ∈ cs, p c := by
  simpa using all

/-! Names that stand for themselves. -/

/-- A text that is read as it is where it ends an address. -/
structure Literal (cs : List Char) : Prop where
  whole : ∀ c ∈ cs, Url.isSlash true c = false
  unmarked : ∀ c ∈ cs, (c == '#') = false ∧ (c == '?') = false
  counts : ∀ c ∈ cs, Url.counts c = true
  ends : Url.EndsVisibly cs
  unescaped : Url.Unescaped cs

def isNameChar (c : Char) : Bool := c.isAlphanum || c == '-' || 0x7f < c.val

theorem visible_of_isAlpha {c : Char} (letter : c.isAlpha = true) : 0x20 < c.val := by
  rcases Bool.or_eq_true_iff.mp letter with upper | lower
  · have range : 'A'.val ≤ c.val ∧ c.val ≤ 'Z'.val := of_decide_eq_true upper
    exact UInt32.lt_of_lt_of_le (by decide) range.1
  · have least : 'a'.val ≤ c.val := of_decide_eq_true (Bool.and_eq_true_iff.mp lower).1
    exact UInt32.lt_of_lt_of_le (by decide) least

structure NameChar (c : Char) : Prop where
  whole : Url.isSlash true c = false
  unmarked : (c == '#') = false ∧ (c == '?') = false
  counts : Url.counts c = true
  visible : 0x20 < c.val
  plain : c ≠ '%'

theorem nameChar {c : Char} (plain : isNameChar c = true) : NameChar c := by
  have other : ∀ d : Char, isNameChar d = false → c ≠ d := by
    rintro d none rfl
    rw [plain] at none
    cases none
  have slash := other '/' (by decide)
  have back := other '\\' (by decide)
  have mark := other '#' (by decide)
  have question := other '?' (by decide)
  have tab := other '\t' (by decide)
  have line := other '\n' (by decide)
  have feed := other '\r' (by decide)
  refine ⟨?_, ?_, ?_, ?_, other '%' (by decide)⟩
  · simp [Url.isSlash, slash, back]
  · simp [mark, question]
  · simp [Url.counts, tab, line, feed]
  · simp only [isNameChar, Char.isAlphanum, Char.isDigit, Bool.or_eq_true, Bool.and_eq_true,
      decide_eq_true_eq, beq_iff_eq] at plain
    rcases plain with ((letter | digit) | rfl) | wide
    · exact visible_of_isAlpha letter
    · exact UInt32.lt_of_lt_of_le (by decide) digit.1
    · decide
    · exact UInt32.lt_trans (by decide) wide

section
variable {front back : List Char} (plain : ∀ c ∈ front, isNameChar c = true)
include plain

theorem unescaped_append : Url.Unescaped (front ++ back) ↔ Url.Unescaped back := by
  induction front with
  | nil => exact Iff.rfl
  | cons c front ih =>
      obtain ⟨own, others⟩ := List.forall_mem_cons.mp plain
      rw [← ih others]
      have other := (nameChar own).plain
      exact ⟨Url.Unescaped.tail, Url.unescaped_cons fun percent => absurd percent other⟩

theorem literal_append : Literal (front ++ back) ↔ Literal back := by
  have own : ∀ c ∈ front, NameChar c := fun c member => nameChar (plain c member)
  constructor
  · intro literal
    have inside : ∀ c ∈ back, c ∈ front ++ back := fun c => List.mem_append_right front
    refine ⟨fun c member => literal.whole c (inside c member),
      fun c member => literal.unmarked c (inside c member),
      fun c member => literal.counts c (inside c member), fun c last => ?_,
      (unescaped_append plain).mp literal.unescaped⟩
    apply literal.ends
    rw [List.getLast?_append, last]
    rfl
  · intro literal
    refine ⟨?_, ?_, ?_, fun c last => ?_, (unescaped_append plain).mpr literal.unescaped⟩
    · exact List.forall_mem_append.mpr ⟨fun c member => (own c member).whole, literal.whole⟩
    · exact List.forall_mem_append.mpr ⟨fun c member => (own c member).unmarked, literal.unmarked⟩
    · exact List.forall_mem_append.mpr ⟨fun c member => (own c member).counts, literal.counts⟩
    · rw [List.getLast?_append] at last
      cases ending : back.getLast? with
      | some d =>
          rw [ending] at last
          cases last
          exact literal.ends c ending
      | none =>
          rw [ending] at last
          exact (own c (List.mem_of_getLast? last)).visible

end

theorem not_dots {cs : List Char} (dash : '-' ∈ cs) :
    Url.isDoubleDot cs = false ∧ Url.isDot cs = false := by
  have lower : '-' ∈ cs.map Char.toLower := List.mem_map.mpr ⟨'-', dash, rfl⟩
  have other : ∀ text : List Char, '-' ∉ text → (cs.map Char.toLower == text) = false := by
    intro text none
    apply beq_false_of_ne
    rintro rfl
    exact none lower
  constructor
  · simp only [Url.isDoubleDot, List.any_cons, List.any_nil, Bool.or_false, Bool.or_eq_false_iff]
    exact ⟨other _ (by decide), other _ (by decide), other _ (by decide), other _ (by decide)⟩
  · have single : (cs == ['.']) = false := by
      apply beq_false_of_ne
      rintro rfl
      revert dash
      decide
    rw [Url.isDot, single, other _ (by decide)]
    rfl

theorem Literal.part {cs : List Char} (literal : Literal cs) (dash : '-' ∈ cs) : Url.Part cs :=
  ⟨literal.whole, literal.unmarked, not_dots dash⟩

theorem Literal.unescape_escape {text : String} (literal : Literal text.toList) :
    Url.unescape (Url.escape Url.pathEscapes text.toList) = Utf8.encode text := by
  rw [Url.unescape_escape]
  rcases Url.unescape_cases text.toList with ⟨_, same⟩ | ⟨escaped, _⟩
  · exact same
  · exact absurd literal.unescaped escaped

theorem literal_of_unescape {text : String}
    (unmarked : ∀ c ∈ Url.kept text.toList, (c == '#') = false ∧ (c == '?') = false)
    {piece : List Char} (member : piece ∈ Url.splitAt (Url.isSlash true) (Url.kept text.toList))
    (same : Url.unescape piece = Utf8.encode text) : Literal text.toList := by
  obtain ⟨part, whole⟩ := Url.splitAt_pieces _ piece member
  have left := Url.kept_sublist text.toList
  have fewer := Url.length_bytesOf_le (part.trans left)
  have length : (Url.unescape piece).length = (Url.bytesOf text.toList).length :=
    congrArg List.length same
  rcases Url.unescape_cases piece with ⟨unescaped, own⟩ | ⟨_, less⟩
  · have all : piece = text.toList :=
      Url.eq_of_length_bytesOf (part.trans left) (Nat.le_of_eq (by rw [← own, length]))
    have kept : Url.kept text.toList = text.toList :=
      left.eq_of_length_le (all ▸ part).length_le
    obtain ⟨counts, ends⟩ := Url.kept_eq_self_iff.mp kept
    rw [kept] at unmarked
    rw [all] at whole unescaped
    exact ⟨whole, unmarked, counts, ends, unescaped⟩
  · omega

namespace ControlPlane

/-- The base of a control plane is an address of the web without a query or a fragment, with no
white space at its end. -/
structure Based (c : ControlPlane) (base : Url) : Prop where
  target : Outgoing.target { url := c.baseUrl } = .ok base
  asked : base.query = none
  marked : base.fragment = none
  ends : Url.EndsVisibly c.baseUrl.toList

theorem target_ok {request : Outgoing} {base : Url} (target : request.target = .ok base) :
    ∃ url, Url.parse request.url = .ok url ∧ url.hasHost = true ∧ base = url.withoutLogin ∧
      (base.scheme = "http".toList ∨ base.scheme = "https".toList) := by
  unfold Outgoing.target at target
  cases read : Url.parse request.url with
  | error fault =>
      rw [read] at target
      cases target
  | ok url =>
      rw [read] at target
      dsimp only at target
      split at target
      case isTrue => cases target
      case isFalse hosted =>
        split at target
        case isTrue web =>
          cases target
          exact ⟨url, rfl, by simpa using hosted, rfl, web⟩
        case isFalse => cases target

variable {c : ControlPlane} {base : Url}

/-- Whatever path is put behind the base, the request can be built, and its address is read below
a path that all of them have in common. -/
def Leads (c : ControlPlane) (base : Url) (above : List (List Char)) : Prop :=
  ∀ (request : Outgoing) (path : String) rest, request.url = c.url path →
    path.toList = '/' :: rest → (∃ d ∈ rest, 0x20 < d.val) →
      request.target = .ok (base.below above (Url.kept rest))

theorem Based.leads (based : c.Based base) : ∃ above j,
    base.path = .segments (above ++ List.replicate j []) ∧ c.Leads base above := by
  obtain ⟨url, read, hosted, rfl, web⟩ := target_ok based.target
  have isWeb : Url.isWeb url.scheme = true := by
    rcases web with http | https
    · rw [show url.scheme = _ from http]; decide
    · rw [show url.scheme = _ from https]; decide
  obtain ⟨above, j, path, reads⟩ :=
    Url.parse_below read isWeb based.asked based.marked based.ends
  refine ⟨above, j, path, fun request path rest own same shown => ?_⟩
  have text : request.url.toList =
      (c.baseUrl.toList.reverse.dropWhile (· == '/')).reverse ++ '/' :: rest := by
    rw [own, ControlPlane.url, String.toList_append, String.toList_ofList, same]
  have stays : (url.below above (Url.kept rest)).hasHost = true := hosted
  unfold Outgoing.target
  rw [reads _ rest shown text]
  dsimp only
  rw [stays, if_neg (by decide)]
  exact if_pos web

/-- The address of a request is the base's own, but for the path: `beyond` a service of that name
among the services. -/
def Addresses (base : Url) (above : List (List Char)) (name : String)
    (beyond : List (List Char)) (request : Outgoing) : Prop :=
  ∃ segment, request.target = .ok { base with
      path := .segments (above ++ "services".toList :: segment :: beyond) } ∧
    Url.unescape segment = Utf8.encode name

variable {above : List (List Char)}

theorem Addresses.name_eq {name other : String} {beyond beyond' : List (List Char)}
    {request : Outgoing} (own : Addresses base above name beyond request)
    (also : Addresses base above other beyond' request) : other = name := by
  obtain ⟨segment, target, stands⟩ := own
  obtain ⟨segment', target', stands'⟩ := also
  rw [target] at target'
  have paths := congrArg Url.path (Except.ok.inj target')
  have same := List.append_cancel_left (Url.Path.segments.inj paths)
  have segments : segment = segment' := (List.cons.inj (List.cons.inj same).2).1
  rw [← segments, stands] at stands'
  have texts := congrArg Utf8.decode? stands'
  rw [Utf8.decode?_encode, Utf8.decode?_encode] at texts
  exact (Option.some.inj texts).symm

theorem instanceName_inj {extension tenant other : String} (same :
      InstanceSpec.instanceName extension tenant = InstanceSpec.instanceName extension other) :
    tenant = other := by
  have chars := congrArg String.toList same
  simp only [InstanceSpec.instanceName, String.toList_append, List.append_assoc] at chars
  exact String.toList_inj.mp (List.append_cancel_left (List.append_cancel_left chars))

theorem services_part : Url.Part "services".toList :=
  ⟨forall_of_all (by decide), forall_of_all (by decide), by decide⟩

theorem invokers_part : Url.Part "invokers".toList :=
  ⟨forall_of_all (by decide), forall_of_all (by decide), by decide⟩

theorem Leads.services (leads : c.Leads base above) {request : Outgoing} {path : String}
    {text : List Char} (own : request.url = c.url path)
    (same : path.toList = '/' :: ("services".toList ++ '/' :: text))
    (shown : ∃ d ∈ text, 0x20 < d.val) :
    request.target = .ok (base.below (above ++ ["services".toList]) (Url.kept text)) := by
  have front : "services".toList ++ '/' :: text = "services/".toList ++ text := rfl
  have counted : "services/".toList.filter Url.counts = "services/".toList := by decide
  obtain ⟨d, member, visible⟩ := shown
  rw [leads request path _ own same ⟨d, by simp [member], visible⟩, front,
    Url.kept_append ⟨d, member, visible⟩, counted]
  exact congrArg Except.ok (services_part.below_append base above (Url.kept text))

theorem dash_mem (extension tenant : String) :
    '-' ∈ (InstanceSpec.instanceName extension tenant).toList := by
  simp [InstanceSpec.instanceName]

theorem literal_instanceName {extension : String}
    (plain : ∀ d ∈ extension.toList, isNameChar d = true) (tenant : String) :
    Literal (InstanceSpec.instanceName extension tenant).toList ↔ Literal tenant.toList := by
  rw [InstanceSpec.instanceName, String.toList_append]
  apply literal_append
  rw [String.toList_append]
  exact List.forall_mem_append.mpr ⟨plain, forall_of_all (by decide)⟩

theorem servicePath_toList (tenant : String) : (c.servicePath tenant).toList = '/' ::
    ("services".toList ++ '/' :: (InstanceSpec.instanceName c.extension tenant).toList) := by
  rw [servicePath, String.toList_append]
  rfl

theorem Leads.reach_target (leads : c.Leads base above) (tenant : String) :
    (c.reachRequest tenant).target = .ok (base.below (above ++ ["services".toList])
      (Url.kept ((InstanceSpec.instanceName c.extension tenant).toList ++
        '/' :: "invokers".toList))) := by
  apply leads.services rfl
  · rw [String.toList_append, servicePath_toList, List.cons_append, List.append_assoc]
    rfl
  · exact ⟨'i', by simp, by decide⟩

theorem Leads.destroy_target (leads : c.Leads base above) (tenant : String) :
    (c.destroyRequest tenant).target = .ok (base.below (above ++ ["services".toList])
      (Url.kept (InstanceSpec.instanceName c.extension tenant).toList)) :=
  leads.services rfl (servicePath_toList tenant) ⟨'-', dash_mem c.extension tenant, by decide⟩

/-! What is sent. -/

def noting (answer : Outgoing → Except TransportFailure Arrival) :
    Network (StateM (List Outgoing)) := fun request => do
  modify (· ++ [request])
  return answer request

def sentBy {α : Type} (call : StateM (List Outgoing) α) : List Outgoing := (call.run []).2

def allowed (c : ControlPlane) (request : Outgoing) : List Outgoing :=
  if c.hasUsableToken then [request] else []

theorem sentBy_send {answer : Outgoing → Except TransportFailure Arrival} {request : Outgoing}
    {url : Url} (target : request.target = .ok url)
    {α : Type} (told : Except TransportFailure Arrival → α) :
    sentBy (do return told (← c.send (noting answer) request)) = c.allowed request := by
  unfold send allowed
  rw [target]
  cases c.hasUsableToken <;> rfl

def Posts (c : ControlPlane) (base : Url) (above : List (List Char)) (tenant : String) : Prop :=
  ∀ definition secret, definition.Counted → ∃ request spec,
    (∀ answer, sentBy (c.create (noting answer) tenant definition secret) = c.allowed request) ∧
    request.target = .ok { base with path := .segments (above ++ ["services".toList]) } ∧
    Json.parse InstanceSpec.decoder request.body = .ok spec ∧
    spec.name = InstanceSpec.instanceName c.extension tenant

/-- What opens a tenant's instance to its callers and what destroys it are for the service of the
tenant's name. -/
structure Serves (c : ControlPlane) (base : Url) (above : List (List Char)) (tenant : String) :
    Prop where
  reach : Addresses base above (InstanceSpec.instanceName c.extension tenant)
    ["invokers".toList] (c.reachRequest tenant)
  destroy : Addresses base above (InstanceSpec.instanceName c.extension tenant) []
    (c.destroyRequest tenant)

theorem createRequest_read {spec : InstanceSpec} (counted : spec.Counted) :
    Json.parse InstanceSpec.decoder (c.createRequest spec).body = .ok spec := by
  dsimp only [createRequest, jsonRequest]
  exact (InstanceSpec.comesBack counted).text (spec.flat_toJson.restored (by decide))

theorem Serves.only {tenant other : String} {beyond : List (List Char)}
    (serves : c.Serves base above tenant)
    (addressed : Addresses base above (InstanceSpec.instanceName c.extension other) beyond
        (c.reachRequest tenant) ∨
      Addresses base above (InstanceSpec.instanceName c.extension other) beyond
        (c.destroyRequest tenant)) : other = tenant := by
  rcases addressed with reach | destroy
  · exact instanceName_inj (serves.reach.name_eq reach)
  · exact instanceName_inj (serves.destroy.name_eq destroy)

section
variable (leads : c.Leads base above) (asked : base.query = none) (marked : base.fragment = none)
include leads asked marked

theorem Leads.create (spec : InstanceSpec) :
    (c.createRequest spec).target =
      .ok { base with path := .segments (above ++ ["services".toList]) } := by
  have kept : Url.kept "services".toList = "services".toList := by decide
  have shown : ∃ d ∈ "services".toList, 0x20 < d.val := ⟨'s', by decide, by decide⟩
  rw [leads (c.createRequest spec) "/services" "services".toList rfl rfl shown, kept,
    services_part.below_last asked marked]
  rfl

theorem Leads.reach {tenant : String}
    (literal : Literal (InstanceSpec.instanceName c.extension tenant).toList) :
    Addresses base above (InstanceSpec.instanceName c.extension tenant) ["invokers".toList]
      (c.reachRequest tenant) := by
  have part := literal.part (dash_mem c.extension tenant)
  have target := leads.reach_target tenant
  generalize InstanceSpec.instanceName c.extension tenant = name at literal part target ⊢
  have kept : Url.kept (name.toList ++ '/' :: "invokers".toList) =
      name.toList ++ '/' :: "invokers".toList := by
    apply Url.kept_eq_self_iff.mpr
    constructor
    · exact List.forall_mem_append.mpr ⟨literal.counts, forall_of_all (by decide)⟩
    · intro d last
      rw [List.getLast?_append] at last
      cases last
      decide
  refine ⟨Url.escape Url.pathEscapes name.toList, ?_, literal.unescape_escape⟩
  rw [target, kept, part.below_append, invokers_part.below_last asked marked]
  simp only [List.append_assoc]
  rfl

/-- A request to destroy addresses the service of its own name if and only if the name stands
for itself. -/
theorem Leads.destroy (tenant : String) :
    Addresses base above (InstanceSpec.instanceName c.extension tenant) []
        (c.destroyRequest tenant) ↔
      Literal (InstanceSpec.instanceName c.extension tenant).toList := by
  have dash := dash_mem c.extension tenant
  have target := leads.destroy_target tenant
  generalize InstanceSpec.instanceName c.extension tenant = name at dash target ⊢
  constructor
  · rintro ⟨segment, own, stands⟩
    rw [target] at own
    have same := Except.ok.inj own
    have paths : (base.below (above ++ ["services".toList]) (Url.kept name.toList)).path =
        .segments (above ++ ["services".toList] ++ [segment]) := by
      rw [same, List.append_assoc]
      rfl
    obtain ⟨unmarked, rfl | ⟨piece, member, rfl⟩⟩ :=
      Url.below_ends paths (by rw [same]; exact asked) (by rw [same]; exact marked)
    · -- An open end stands for nothing, and a name has its dash.
      rw [Url.unescape] at stands
      have whole := Utf8.decode?_encode name
      rw [← stands] at whole
      have empty : "" = name := Option.some.inj ((Utf8.decode?_encode "").symm.trans whole)
      rw [← empty] at dash
      cases dash
    · rw [Url.unescape_escape] at stands
      exact literal_of_unescape unmarked member stands
  · intro literal
    have kept := Url.kept_eq_self_iff.mpr ⟨literal.counts, literal.ends⟩
    refine ⟨Url.escape Url.pathEscapes name.toList, ?_, literal.unescape_escape⟩
    rw [target, kept, (literal.part dash).below_last asked marked, List.append_assoc]
    rfl

theorem Leads.posts (tenant : String) : c.Posts base above tenant := by
  intro definition secret counted
  refine ⟨c.createRequest (InstanceSpec.build c.extension tenant definition secret),
    InstanceSpec.build c.extension tenant definition secret, fun answer => ?_,
    leads.create asked marked _, createRequest_read ?_, rfl⟩
  · exact sentBy_send (leads.create asked marked _) _
  · exact ⟨counted.minInstances, counted.maxInstances, counted.timeout⟩

theorem Leads.serves_iff (plain : ∀ d ∈ c.extension.toList, isNameChar d = true)
    (tenant : String) : c.Serves base above tenant ↔ Literal tenant.toList := by
  rw [← literal_instanceName plain]
  constructor
  · intro serves
    exact (leads.destroy asked marked tenant).mp serves.destroy
  · intro literal
    exact ⟨leads.reach asked marked literal, (leads.destroy asked marked tenant).mpr literal⟩

end

/-- One service for each tenant. What a control plane is sent to create, to open and to destroy a
tenant's instance is below the path of the base. Creating posts a spec of the tenant's name, and
the two others are for the service of that name if and only if the tenant's name stands for itself
in an address. Then they are for no other tenant's service. -/
theorem requests_address_own_service (based : c.Based base)
    (plain : ∀ d ∈ c.extension.toList, isNameChar d = true) :
    ∃ above j, base.path = .segments (above ++ List.replicate j []) ∧ ∀ tenant,
      c.Posts base above tenant ∧
      (∀ answer, sentBy (c.reach (noting answer) tenant) = c.allowed (c.reachRequest tenant) ∧
        sentBy (c.destroy (noting answer) tenant) = c.allowed (c.destroyRequest tenant)) ∧
      (c.Serves base above tenant ↔ Literal tenant.toList) ∧
      (Literal tenant.toList → ∀ other beyond,
        Addresses base above (InstanceSpec.instanceName c.extension other) beyond
            (c.reachRequest tenant) ∨
          Addresses base above (InstanceSpec.instanceName c.extension other) beyond
            (c.destroyRequest tenant) →
        other = tenant) := by
  obtain ⟨above, j, path, leads⟩ := based.leads
  refine ⟨above, j, path, fun tenant => ?_⟩
  have serves := leads.serves_iff based.asked based.marked plain tenant
  refine ⟨leads.posts based.asked based.marked tenant, fun answer => ⟨?_, ?_⟩, serves,
    fun literal other beyond => (serves.mpr literal).only⟩
  · exact sentBy_send (leads.reach_target tenant) _
  · exact sentBy_send (leads.destroy_target tenant) _

def reference : ControlPlane :=
  { baseUrl := "http://127.0.0.1:1/api/", extension := "ext" }

def referenceUrl : Url :=
  { scheme := "http".toList, host := some "127.0.0.1".toList, portNumber := some 1
    path := .segments ["api".toList, []] }

theorem reference_based : reference.Based referenceUrl where
  target := by with_unfolding_all rfl
  asked := rfl
  marked := rfl
  ends := by
    intro d last
    cases last
    decide

theorem percent_escaped : ¬ Url.Unescaped "50%20off".toList := by
  intro unescaped
  rcases unescaped "50".toList "20off".toList rfl '2' '0' "off".toList rfl with none | none
  · cases none
  · cases none

theorem percent_literal : Literal "50% off".toList := by
  refine ⟨forall_of_all (by decide), forall_of_all (by decide), forall_of_all (by decide), ?_, ?_⟩
  · intro c last
    cases last
    decide
  · have apart : Url.Apart " off".toList := by
      rintro high low rest ⟨⟩
      exact Or.inl rfl
    have later : Url.Unescaped " off".toList := by
      intro front rest same
      have member : '%' ∈ " off".toList := by rw [same]; simp
      exact absurd member (by decide)
    have front : ∀ c ∈ "50".toList, isNameChar c = true := forall_of_all (by decide)
    exact (unescaped_append front).mpr (Url.unescaped_cons (fun _ => apart) later)

theorem requests_address_own_service_of_percent :
    reference.Based referenceUrl ∧
      (∀ d ∈ reference.extension.toList, isNameChar d = true) ∧
      ∃ above, reference.Serves referenceUrl above "50% off" ∧
        ¬ reference.Serves referenceUrl above "50%20off" := by
  have plain : ∀ d ∈ reference.extension.toList, isNameChar d = true :=
    forall_of_all (by decide)
  obtain ⟨above, j, path, services⟩ := requests_address_own_service reference_based plain
  refine ⟨reference_based, plain, above, ?_, ?_⟩
  · obtain ⟨_, _, serves, _⟩ := services "50% off"
    exact serves.mpr percent_literal
  · obtain ⟨_, _, serves, _⟩ := services "50%20off"
    intro served
    exact percent_escaped (serves.mp served).unescaped

/-- The dots in a tenant's name lead to the service of another tenant. -/
theorem other_service_destroyed :
    reference.Based referenceUrl ∧
      referenceUrl.path = .segments (["api".toList] ++ List.replicate 1 []) ∧
      ({ id := "x/../ext-abc", credential := "jwt" } : Tenant).validate = .ok () ∧
      Addresses referenceUrl ["api".toList] (InstanceSpec.instanceName reference.extension "abc") []
        (reference.destroyRequest "x/../ext-abc") ∧
      ¬ Addresses referenceUrl ["api".toList]
        (InstanceSpec.instanceName reference.extension "x/../ext-abc") []
        (reference.destroyRequest "x/../ext-abc") := by
  have addressed : Addresses referenceUrl ["api".toList]
      (InstanceSpec.instanceName reference.extension "abc") []
      (reference.destroyRequest "x/../ext-abc") :=
    ⟨"ext-abc".toList, by with_unfolding_all rfl, by with_unfolding_all rfl⟩
  refine ⟨reference_based, rfl, rfl, addressed, fun own => ?_⟩
  have same : "abc" = "x/../ext-abc" := instanceName_inj (own.name_eq addressed)
  revert same
  decide

end ControlPlane

end TenantRelay
