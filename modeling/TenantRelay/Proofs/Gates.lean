import Mathlib.Algebra.GroupWithZero.Nat
import TenantRelay.Proofs.Decoding
import TenantRelay.Proofs.Passage
import TenantRelay.Proofs.Retelling

/-!
The gates of a front, in their order. What becomes of a call is said once without the code: by
the gate that the call fails first, or by the one handler that takes it and what that receives.
Every call has exactly one fate, and handling a call is no more than its fate.
-/

namespace TenantRelay

open Document

/-! Unpacked data is as long as it was foretold. -/

namespace Gzip

theorem size_writePiece (out : Array UInt8) (piece : Piece) :
    (writePiece out piece).size = out.size + piece.size := by
  have copied : ∀ (all : List Nat) (next : Array UInt8 → UInt8) (out : Array UInt8),
      (all.foldl (fun out _ => out.push (next out)) out).size = out.size + all.length := by
    intro all next
    induction all with
    | nil => simp
    | cons _ rest ih =>
        intro out
        rw [List.foldl_cons, ih, Array.size_push, List.length_cons]
        omega
  cases piece with
  | byte b => simp [writePiece, Piece.size]
  | copy length distance =>
      rw [writePiece, copied, List.length_range]
      rfl

theorem size_foldl_writePiece (pieces : List Piece) (out : Array UInt8) :
    (pieces.foldl writePiece out).size = out.size + (pieces.map Piece.size).sum := by
  induction pieces generalizing out with
  | nil => rfl
  | cons piece rest ih =>
      rw [List.foldl_cons, ih, size_writePiece, List.map_cons, List.sum_cons, Nat.add_assoc]

theorem Reading.length_data (r : Reading) : r.data.length = r.size := by
  have size : r.size = (r.pieces.map Piece.size).sum := by
    rw [Reading.size, List.sum_eq_foldl, List.foldl_map]
  rw [Reading.data, Array.length_toList, size_foldl_writePiece, List.map_reverse,
    List.sum_reverse, size]
  exact Nat.zero_add _

theorem data_of_verified {reading : Reading} {data : Bytes}
    (accepted : verified reading = .ok data) : data = reading.data := by
  obtain ⟨⟨sum, rest⟩, _, accepted⟩ := ok_of_bind accepted
  obtain ⟨⟨size, _⟩, _, accepted⟩ := ok_of_bind accepted
  dsimp only at accepted
  split at accepted
  case isTrue => exact (Except.ok.inj accepted).symm
  case isFalse => cases accepted

theorem length_expand {limit : Nat} {bytes data : Bytes}
    (expanded : expand limit bytes = .ok data) : data.length ≤ limit := by
  unfold expand at expanded
  split at expanded
  case isTrue =>
    cases expanded
    exact Nat.zero_le limit
  case isFalse =>
    obtain ⟨rest, _, expanded⟩ := ok_of_bind expanded
    dsimp only at expanded
    split at expanded
    case h_1 =>
      split at expanded
      case isTrue fits =>
        rw [data_of_verified expanded, Reading.length_data]
        exact fits
      case isFalse => cases expanded
    case h_2 => cases expanded
    case h_3 => cases expanded

end Gzip

namespace RequestRoute

variable {m : Type → Type}

/-- What a route makes of what it receives. One handler gets the data as it is; another gets it
in a type of its own, if the data can be decoded to that. -/
inductive Takes : RequestRoute m → RequestParams Dict → m Outcome → Prop where
  | untyped (handler : RequestParams Dict → m Outcome) (params : RequestParams Dict) :
      Takes (.untyped handler) params (handler params)
  | typed {data : Type} {decoder : Decoder data} (handler : RequestParams data → m Outcome)
      {params : RequestParams Dict} {value : data} :
      Json.convert decoder (.ofDict params.request) = .ok value →
      Takes (.decoding decoder handler) params (handler { params with request := value })

inductive Refuses : RequestRoute m → RequestParams Dict → DecodeError → Prop where
  | typed {data : Type} {decoder : Decoder data} (handler : RequestParams data → m Outcome)
      {params : RequestParams Dict} {e : DecodeError} :
      Json.convert decoder (.ofDict params.request) = .error e →
      Refuses (.decoding decoder handler) params e

inductive Usual : RequestRoute m → Prop where
  | untyped (handler : RequestParams Dict → m Outcome) : Usual (.untyped handler)
  | typed {data : Type} (decoder : Decoder data) (handler : RequestParams data → m Outcome) :
      Usual (.decoding decoder handler)

variable {route : RequestRoute m} {params : RequestParams Dict} {handler : m Outcome}
  {e : DecodeError}

theorem Takes.call (takes : route.Takes params handler) : route.call params = .ok handler := by
  cases takes with
  | untyped handler params => rfl
  | typed handler read =>
      show Json.convert _ _ >>= _ = _
      rw [read]
      rfl

theorem Refuses.call (refuses : route.Refuses params e) : route.call params = .error e := by
  cases refuses with
  | typed handler read =>
      show Json.convert _ _ >>= _ = _
      rw [read]
      rfl

theorem Usual.takes (usual : route.Usual) (called : route.call params = .ok handler) :
    route.Takes params handler := by
  cases usual with
  | untyped handler =>
      cases called
      exact .untyped handler params
  | typed decoder handler =>
      obtain ⟨value, read, called⟩ := ok_of_bind called
      cases called
      exact .typed handler read

theorem Usual.refuses (usual : route.Usual) (called : route.call params = .error e) :
    route.Refuses params e := by
  cases usual with
  | untyped handler => cases called
  | typed decoder handler =>
      cases read : Json.convert decoder (.ofDict params.request) with
      | ok value =>
          have called : Json.convert decoder (.ofDict params.request) >>= _ = .error e := called
          rw [read] at called
          cases called
      | error other =>
          have called : Json.convert decoder (.ofDict params.request) >>= _ = .error e := called
          rw [read] at called
          cases called
          exact .typed handler read

end RequestRoute

namespace Registry

variable {m : Type → Type} {r : Registry m}

def Usual (r : Registry m) : Prop :=
  ∀ action route, r.requests.find? action = some route → route.Usual

theorem usual_empty : Usual ({} : Registry m) := by
  intro action route found
  cases found

theorem Usual.onRequest {name : String} {added : RequestRoute m} (usual : r.Usual)
    (own : added.Usual) : (r.onRequest name added).Usual := by
  intro action route found
  rw [Registry.onRequest, KeyMap.find?_insert] at found
  split at found
  case isTrue => exact Option.some.inj found ▸ own
  case isFalse => exact usual action route found

end Registry

def Payload.reports : Payload → List ErrorReport
  | errorReport report => [report]
  | _ => []

namespace Dispatcher

variable {m : Type → Type} (d : Dispatcher m) (call : Http.Call)

/-! The gates in front of the message. -/

def Unsigned (call : Http.Call) : Prop :=
  ∀ value, call.headers.get? Signature.header = some value → value = []

/-- The signature that came with a call. A header that is no text counts as an empty text. -/
def Signed (call : Http.Call) (signature : String) : Prop :=
  ∃ value, call.headers.get? Signature.header = some value ∧ value ≠ [] ∧
    signature = (Http.headerText? value).getD ""

structure Whole (signature : String) : Prop where
  signed : Signed call signature
  short : call.body.length ≤ d.maxBody
  sound : call.bodyFault = none

/-- A whole call from one who knows the secret. What is signed are the bytes as they came. -/
structure Genuine (signature : String) : Prop extends d.Whole call signature where
  verified : Signature.verify call.body signature (Text.Utf8.encode d.secret) = true

/-- The bytes that the message stands in. -/
inductive Unpacked : Bytes → Prop where
  | plain : isPacked call = false → Unpacked call.body
  | packed {data : Bytes} : isPacked call = true → Gzip.expand d.maxBody call.body = .ok data →
      data.length ≤ d.maxBody → Unpacked data

structure Admits (message : Message) : Prop where
  genuine : ∃ signature, d.Genuine call signature
  read : ∃ plain, d.Unpacked call plain ∧ Json.parse Message.decoder plain = .ok message

def requestParams (client : Client) (message : Message) (r : Request) : RequestParams Dict :=
  { client, action := r.action, request := r.data, config := r.config
    idempotencyKey := message.idempotencyKey, resourceState := r.resourceState
    investigationId := r.investigationId }

/-- What becomes of a call. -/
inductive Fate (m : Type → Type) where
  | unheard
  | refused (status : Nat) (rejection : Rejection)
  | granted (kind : String) (response : Response) (reports : List ErrorReport)
  | handed (kind : String) (tenant : Tenant) (handler : m Outcome)

/-- A handler runs only for a call that is handed to it, and it is all that runs then. -/
def Fate.run [Monad m] : Fate m → m Handled
  | unheard => pure { answer := .empty 200 }
  | refused _ rejection => pure (Dispatcher.refused rejection)
  | granted kind response reports => pure (handled kind { result := .ok response, reports })
  | handed kind tenant handler =>
    (fun outcome => handled kind { result := concluded kind tenant outcome }) <$> handler

/-- The fate of a message that was admitted, by the gate that it fails first. Each case says of
all the gates before its own that they were passed. -/
inductive Treated (message : Message) : Fate m → Prop where
  | empty : message.payloads = [] →
      Treated message (.refused 400 { cause := .invalidEnvelope .noPayload })
  | ambiguous : 1 < message.payloads.length → Treated message
      (.refused 400 { cause := .invalidEnvelope (.ambiguousPayload message.payloads.length) })
  | heartbeat : message.payloads = [.heartbeat] →
      Treated message (.granted "heartbeat" (success {}) [])
  | errorReport {report} : message.payloads = [.errorReport report] →
      Treated message (.granted "error_report" (success {}) [report])
  | schemaRequest : message.payloads = [.schemaRequest] → Treated message
      (.granted "schema_request" (success { data := some d.schema.toJson.normalize }) [])
  | unknownAction {r} : message.payloads = [.request r] →
      d.registry.requests.find? r.action = none →
      Treated message (.refused 400 (refusal "request" r.tenant (.unknownAction r.action)))
  | requestUnclaimed {r route text} : message.payloads = [.request r] →
      d.registry.requests.find? r.action = some route → d.clients r.tenant = .error text →
      Treated message (.refused 500 (refusal "request" r.tenant (.tenantClient text)))
  | undecodable {r route client e} : message.payloads = [.request r] →
      d.registry.requests.find? r.action = some route → d.clients r.tenant = .ok client →
      route.Refuses (requestParams client message r) e →
      Treated message (.refused 400 (refusal "request" r.tenant (.invalidRequestData e)))
  | request {r route client handler} : message.payloads = [.request r] →
      d.registry.requests.find? r.action = some route → d.clients r.tenant = .ok client →
      route.Takes (requestParams client message r) handler →
      Treated message (.handed "request" r.tenant handler)
  | unknownEvent {e} : message.payloads = [.event e] → d.registry.events.find? e.name = none →
      Treated message (.refused 400 (refusal "event" e.tenant (.unknownEvent e.name)))
  | eventUnclaimed {e route text} : message.payloads = [.event e] →
      d.registry.events.find? e.name = some route → d.clients e.tenant = .error text →
      Treated message (.refused 500 (refusal "event" e.tenant (.tenantClient text)))
  | event {e route client} : message.payloads = [.event e] →
      d.registry.events.find? e.name = some route → d.clients e.tenant = .ok client →
      Treated message (.handed "event" e.tenant (route (eventParams client message e)))
  | validationUnclaimed {c text} : message.payloads = [.configValidation c] →
      d.clients c.tenant = .error text →
      Treated message (.refused 500 (refusal "config_validation" c.tenant (.tenantClient text)))
  | unvalidated {c client} : message.payloads = [.configValidation c] →
      d.clients c.tenant = .ok client → d.registry.validator = none →
      Treated message (.granted "config_validation" (success {}) [])
  | validation {c client validator} : message.payloads = [.configValidation c] →
      d.clients c.tenant = .ok client → d.registry.validator = some validator →
      Treated message (.handed "config_validation" c.tenant (validator client c.config))

/-- The fate of a call by the gate that it fails first. -/
inductive Fated : Fate m → Prop where
  | unsigned : Unsigned call → Fated .unheard
  | tooLong {signature} : Signed call signature → d.maxBody < call.body.length →
      Fated (.refused 204 { cause := .bodyRead "length limit exceeded" })
  | unreadable {signature text} : Signed call signature → call.body.length ≤ d.maxBody →
      call.bodyFault = some text → Fated (.refused 204 { cause := .bodyRead text })
  | forged {signature} : d.Whole call signature →
      Signature.verify call.body signature (Text.Utf8.encode d.secret) = false →
      Fated (.refused 401 { cause := .invalidSignature })
  | corrupt {signature fault} : d.Genuine call signature → isPacked call = true →
      Gzip.expand d.maxBody call.body = .error fault →
      Fated (.refused 400 { cause := .decompression fault.message })
  | garbled {signature plain e} : d.Genuine call signature → d.Unpacked call plain →
      Json.parse Message.decoder plain = .error e →
      Fated (.refused 400 { cause := .invalidMessage e })
  | admitted {message fate} : d.Admits call message → d.Treated message fate → Fated fate

/-! What the code makes of a call. -/

def messageFate (message : Message) : Fate m :=
  match d.plan message with
  | .error rejection => .refused rejection.status rejection
  | .ok (.settled response reports) => .granted (kindOf message) response reports
  | .ok (.handling kind tenant handler) => .handed kind tenant handler

def fate : Fate m :=
  match signature? call with
  | none => .unheard
  | some signature =>
    match d.admitted signature call with
    | .error cause => .refused cause.status { cause }
    | .ok message => d.messageFate message

section
variable {d} {call} {signature : String} {message : Message}

theorem signature?_of_unsigned (unsigned : Unsigned call) : signature? call = none := by
  unfold signature?
  cases found : call.headers.get? Signature.header with
  | none => rfl
  | some value =>
      rw [unsigned value found]

theorem signature?_of_signed (signed : Signed call signature) :
    signature? call = some signature := by
  obtain ⟨value, found, full, rfl⟩ := signed
  cases value with
  | nil => exact absurd rfl full
  | cons b rest => simp only [signature?, found]

theorem unsigned_of_signature? (none : signature? call = none) : Unsigned call := by
  intro value found
  cases value with
  | nil => rfl
  | cons b rest => simp [signature?, found] at none

theorem signed_of_signature? (came : signature? call = some signature) :
    Signed call signature := by
  unfold signature? at came
  split at came
  case h_1 => cases came
  case h_2 => cases came
  case h_3 value full found =>
    cases came
    exact ⟨value, found, full, rfl⟩

theorem unpack_eq_ok_iff {plain : Bytes} :
    d.unpack call call.body = .ok plain ↔ d.Unpacked call plain := by
  unfold unpack
  constructor
  · intro unpacked
    split at unpacked
    case isTrue packed =>
      cases expanded : Gzip.expand d.maxBody call.body with
      | error fault =>
          rw [expanded] at unpacked
          cases unpacked
      | ok data =>
          rw [expanded] at unpacked
          cases unpacked
          exact .packed packed expanded (Gzip.length_expand expanded)
    case isFalse plain =>
      cases unpacked
      exact .plain (eq_false_of_ne_true plain)
  · intro unpacked
    cases unpacked with
    | plain plain => simp only [plain, Bool.false_eq_true, ↓reduceIte]
    | packed packed expanded _ => simp only [packed, expanded, mapError_ok, ↓reduceIte]

theorem Whole.admitted (whole : d.Whole call signature) :
    d.admitted signature call =
      if Signature.verify call.body signature (Text.Utf8.encode d.secret) then
        d.unpack call call.body >>= fun plain =>
          (Json.parse Message.decoder plain).mapError .invalidMessage
      else .error .invalidSignature := by
  have read : d.readBody call = .ok call.body := by
    simp only [readBody, Nat.not_lt.mpr whole.short, whole.sound, ↓reduceIte]
  simp only [Dispatcher.admitted, read, bind, Except.bind, throw, throwThe, MonadExceptOf.throw]

theorem Genuine.admitted (genuine : d.Genuine call signature) :
    d.admitted signature call = d.unpack call call.body >>= fun plain =>
      (Json.parse Message.decoder plain).mapError .invalidMessage := by
  rw [genuine.toWhole.admitted, genuine.verified]
  rfl

theorem Admits.admitted (admits : d.Admits call message) :
    ∃ signature, signature? call = some signature ∧ d.admitted signature call = .ok message := by
  obtain ⟨signature, genuine⟩ := admits.genuine
  obtain ⟨plain, unpacked, read⟩ := admits.read
  refine ⟨signature, signature?_of_signed genuine.signed, ?_⟩
  rw [genuine.admitted, unpack_eq_ok_iff.mpr unpacked]
  show (Json.parse Message.decoder plain).mapError _ = _
  rw [read]
  rfl

theorem fate_of_admits (admits : d.Admits call message) : d.fate call = d.messageFate message := by
  obtain ⟨signature, signed, admitted⟩ := admits.admitted
  simp only [fate, signed, admitted]

theorem fate_of_error {cause : Rejection.Cause} (signed : Signed call signature)
    (refused : d.admitted signature call = .error cause) :
    d.fate call = .refused cause.status { cause } := by
  simp only [fate, signature?_of_signed signed, refused]

/-! Whichever gate a call fails first, the code stops it there. -/

theorem fate_of_long (signed : Signed call signature) (long : d.maxBody < call.body.length) :
    d.fate call = .refused 204 { cause := .bodyRead "length limit exceeded" } := by
  have read : d.readBody call = .error (.bodyRead "length limit exceeded") := by
    simp only [readBody, long, ↓reduceIte]
  have stopped : d.admitted signature call = .error (.bodyRead "length limit exceeded") := by
    rw [Dispatcher.admitted, read]
    rfl
  exact fate_of_error signed stopped

theorem fate_of_fault {text : String} (signed : Signed call signature)
    (short : call.body.length ≤ d.maxBody) (fault : call.bodyFault = some text) :
    d.fate call = .refused 204 { cause := .bodyRead text } := by
  have read : d.readBody call = .error (.bodyRead text) := by
    simp only [readBody, Nat.not_lt.mpr short, fault, ↓reduceIte]
  have stopped : d.admitted signature call = .error (.bodyRead text) := by
    rw [Dispatcher.admitted, read]
    rfl
  exact fate_of_error signed stopped

theorem fate_of_forged (whole : d.Whole call signature)
    (forged : Signature.verify call.body signature (Text.Utf8.encode d.secret) = false) :
    d.fate call = .refused 401 { cause := .invalidSignature } := by
  have stopped : d.admitted signature call = .error .invalidSignature := by
    rw [whole.admitted, forged]
    rfl
  exact fate_of_error whole.signed stopped

theorem fate_of_corrupt {fault : Gzip.Fault} (genuine : d.Genuine call signature)
    (packed : isPacked call = true) (corrupt : Gzip.expand d.maxBody call.body = .error fault) :
    d.fate call = .refused 400 { cause := .decompression fault.message } := by
  have unpacked : d.unpack call call.body = .error (.decompression fault.message) := by
    simp only [unpack, packed, corrupt, mapError_error, ↓reduceIte]
  have stopped : d.admitted signature call = .error (.decompression fault.message) := by
    rw [genuine.admitted, unpacked]
    rfl
  exact fate_of_error genuine.signed stopped

theorem fate_of_garbled {plain : Bytes} {e : DecodeError} (genuine : d.Genuine call signature)
    (unpacked : d.Unpacked call plain) (garbled : Json.parse Message.decoder plain = .error e) :
    d.fate call = .refused 400 { cause := .invalidMessage e } := by
  have stopped : d.admitted signature call = .error (.invalidMessage e) := by
    rw [genuine.admitted, unpack_eq_ok_iff.mpr unpacked]
    show (Json.parse Message.decoder plain).mapError _ = _
    rw [garbled]
    rfl
  exact fate_of_error genuine.signed stopped

/-! Behind the gates in front of it a message has one payload, or none of its own. -/

theorem payload_of_payloads {payload : Payload} (one : message.payloads = [payload]) :
    message.payload = .ok payload := by
  rw [Message.payload, one]

theorem plan_of_empty (empty : message.payloads = []) :
    d.plan message = .error { cause := .invalidEnvelope .noPayload } := by
  have none : message.payload = .error .noPayload := by rw [Message.payload, empty]
  simp only [plan, none]

theorem payload_of_many (many : 1 < message.payloads.length) :
    message.payload = .error (.ambiguousPayload message.payloads.length) := by
  unfold Message.payload
  split
  case h_1 all => simp [all] at many
  case h_2 all => simp [all] at many
  case h_3 => rfl

theorem client_of_ok {kind : String} {tenant : Tenant} {client : Client}
    (made : d.clients tenant = .ok client) : d.client kind tenant = .ok client := by
  simp only [Dispatcher.client, made, mapError_ok]

theorem client_of_error {kind text : String} {tenant : Tenant}
    (unmade : d.clients tenant = .error text) :
    d.client kind tenant = .error (refusal kind tenant (.tenantClient text)) := by
  simp only [Dispatcher.client, unmade, mapError_error]

theorem messageFate_of_error {rejection : Rejection} (planned : d.plan message = .error rejection) :
    d.messageFate message = .refused rejection.status rejection := by
  simp only [messageFate, planned]

theorem messageFate_of_settled {response : Response} {reports : List ErrorReport}
    (planned : d.plan message = .ok (.settled response reports)) :
    d.messageFate message = .granted (kindOf message) response reports := by
  simp only [messageFate, planned]

theorem messageFate_of_handling {kind : String} {tenant : Tenant} {handler : m Outcome}
    (planned : d.plan message = .ok (.handling kind tenant handler)) :
    d.messageFate message = .handed kind tenant handler := by
  simp only [messageFate, planned]

theorem kindOf_of_payload {payload : Payload} (bears : message.payload = .ok payload) :
    kindOf message = payload.kind := by
  simp only [kindOf, bears]

theorem messageFate_of_granted {payload : Payload} {response : Response}
    {reports : List ErrorReport} (one : message.payloads = [payload])
    (planned : d.plan message = .ok (.settled response reports)) :
    d.messageFate message = .granted payload.kind response reports := by
  rw [messageFate_of_settled planned, kindOf_of_payload (payload_of_payloads one)]

theorem plan_of_request {r : Request} {route : RequestRoute m} {client : Client}
    (one : message.payloads = [.request r])
    (known : d.registry.requests.find? r.action = some route)
    (made : d.clients r.tenant = .ok client) :
    d.plan message = match route.call (requestParams client message r) with
      | .error e => .error (refusal "request" r.tenant (.invalidRequestData e))
      | .ok handler => .ok (.handling "request" r.tenant handler) := by
  simp only [plan, payload_of_payloads one, requestPlan, known, client_of_ok made]
  rfl

theorem Treated.messageFate {outcome : Fate m} (treated : d.Treated message outcome) :
    d.messageFate message = outcome := by
  cases treated with
  | empty none => exact messageFate_of_error (plan_of_empty none)
  | ambiguous many =>
      have planned : d.plan message = .error
          { cause := .invalidEnvelope (.ambiguousPayload message.payloads.length) } := by
        simp only [plan, payload_of_many many]
      exact messageFate_of_error planned
  | heartbeat one =>
      have planned : d.plan message = .ok (.settled (success {}) []) := by
        simp only [plan, payload_of_payloads one, settledWith]
      exact messageFate_of_granted one planned
  | @errorReport report one =>
      have planned : d.plan message = .ok (.settled (success {}) [report]) := by
        simp only [plan, payload_of_payloads one]
      exact messageFate_of_granted one planned
  | schemaRequest one =>
      have planned : d.plan message =
          .ok (.settled (success { data := some d.schema.toJson.normalize }) []) := by
        simp only [plan, payload_of_payloads one, settledWith]
      exact messageFate_of_granted one planned
  | @unknownAction r one unknown =>
      have planned : d.plan message =
          .error (refusal "request" r.tenant (.unknownAction r.action)) := by
        simp only [plan, payload_of_payloads one, requestPlan, unknown]
        rfl
      exact messageFate_of_error planned
  | @requestUnclaimed r _ text one known unmade =>
      have planned : d.plan message = .error (refusal "request" r.tenant (.tenantClient text)) := by
        simp only [plan, payload_of_payloads one, requestPlan, known, client_of_error unmade]
        rfl
      exact messageFate_of_error planned
  | @undecodable r _ _ e one known made refuses =>
      have planned : d.plan message =
          .error (refusal "request" r.tenant (.invalidRequestData e)) := by
        rw [plan_of_request one known made, refuses.call]
      exact messageFate_of_error planned
  | @request r _ _ handler one known made takes =>
      have planned : d.plan message = .ok (.handling "request" r.tenant handler) := by
        rw [plan_of_request one known made, takes.call]
      exact messageFate_of_handling planned
  | @unknownEvent e one unknown =>
      have planned : d.plan message = .error (refusal "event" e.tenant (.unknownEvent e.name)) := by
        simp only [plan, payload_of_payloads one, eventPlan, unknown]
        rfl
      exact messageFate_of_error planned
  | @eventUnclaimed e _ text one known unmade =>
      have planned : d.plan message = .error (refusal "event" e.tenant (.tenantClient text)) := by
        simp only [plan, payload_of_payloads one, eventPlan, known, client_of_error unmade]
        rfl
      exact messageFate_of_error planned
  | @event e route client one known made =>
      have planned : d.plan message =
          .ok (.handling "event" e.tenant (route (eventParams client message e))) := by
        simp only [plan, payload_of_payloads one, eventPlan, known, client_of_ok made]
        rfl
      exact messageFate_of_handling planned
  | @validationUnclaimed c text one unmade =>
      have planned : d.plan message =
          .error (refusal "config_validation" c.tenant (.tenantClient text)) := by
        simp only [plan, payload_of_payloads one, validationPlan, client_of_error unmade]
        rfl
      exact messageFate_of_error planned
  | unvalidated one made bare =>
      have planned : d.plan message = .ok (.settled (success {}) []) := by
        simp only [plan, payload_of_payloads one, validationPlan, client_of_ok made, bare]
        rfl
      exact messageFate_of_granted one planned
  | @validation c client validator one made installed =>
      have planned : d.plan message =
          .ok (.handling "config_validation" c.tenant (validator client c.config)) := by
        simp only [plan, payload_of_payloads one, validationPlan, client_of_ok made, installed]
        rfl
      exact messageFate_of_handling planned

theorem Fated.fate {outcome : Fate m} (fated : d.Fated call outcome) : d.fate call = outcome := by
  cases fated with
  | unsigned unsigned => simp only [Dispatcher.fate, signature?_of_unsigned unsigned]
  | tooLong signed long => exact fate_of_long signed long
  | unreadable signed short fault => exact fate_of_fault signed short fault
  | forged whole forged => exact fate_of_forged whole forged
  | corrupt genuine packed corrupt => exact fate_of_corrupt genuine packed corrupt
  | garbled genuine unpacked garbled => exact fate_of_garbled genuine unpacked garbled
  | admitted admits treated => rw [fate_of_admits admits, treated.messageFate]

/-! Every call passes all gates or fails one of them first. -/

theorem exists_treated (usual : d.registry.Usual) (message : Message) :
    ∃ outcome, d.Treated message outcome := by
  cases payloads : message.payloads with
  | nil => exact ⟨_, .empty payloads⟩
  | cons payload more =>
      cases more with
      | cons other more => exact ⟨_, .ambiguous (by simp [payloads])⟩
      | nil =>
          cases payload with
          | heartbeat => exact ⟨_, .heartbeat payloads⟩
          | errorReport report => exact ⟨_, .errorReport payloads⟩
          | schemaRequest => exact ⟨_, .schemaRequest payloads⟩
          | configValidation c =>
              cases made : d.clients c.tenant with
              | error text => exact ⟨_, .validationUnclaimed payloads made⟩
              | ok client =>
                  cases installed : d.registry.validator with
                  | none => exact ⟨_, .unvalidated payloads made installed⟩
                  | some validator => exact ⟨_, .validation payloads made installed⟩
          | event e =>
              cases known : d.registry.events.find? e.name with
              | none => exact ⟨_, .unknownEvent payloads known⟩
              | some route =>
                  cases made : d.clients e.tenant with
                  | error text => exact ⟨_, .eventUnclaimed payloads known made⟩
                  | ok client => exact ⟨_, .event payloads known made⟩
          | request r =>
              cases known : d.registry.requests.find? r.action with
              | none => exact ⟨_, .unknownAction payloads known⟩
              | some route =>
                  cases made : d.clients r.tenant with
                  | error text => exact ⟨_, .requestUnclaimed payloads known made⟩
                  | ok client =>
                      have own := usual r.action route known
                      cases called : route.call (requestParams client message r) with
                      | error e => exact ⟨_, .undecodable payloads known made (own.refuses called)⟩
                      | ok handler => exact ⟨_, .request payloads known made (own.takes called)⟩

theorem exists_fated_of_genuine (usual : d.registry.Usual) (genuine : d.Genuine call signature) :
    ∃ outcome, d.Fated call outcome := by
  have of_unpacked : ∀ plain, d.Unpacked call plain → ∃ outcome, d.Fated call outcome := by
    intro plain unpacked
    cases read : Json.parse Message.decoder plain with
    | error e => exact ⟨_, .garbled genuine unpacked read⟩
    | ok message =>
        obtain ⟨outcome, treated⟩ := exists_treated usual message
        exact ⟨outcome, .admitted ⟨⟨signature, genuine⟩, plain, unpacked, read⟩ treated⟩
  cases packed : isPacked call with
  | false => exact of_unpacked _ (.plain packed)
  | true =>
      cases expanded : Gzip.expand d.maxBody call.body with
      | error fault => exact ⟨_, .corrupt genuine packed expanded⟩
      | ok data => exact of_unpacked data (.packed packed expanded (Gzip.length_expand expanded))

theorem exists_fated (usual : d.registry.Usual) (call : Http.Call) :
    ∃ outcome, d.Fated call outcome := by
  cases came : signature? call with
  | none => exact ⟨_, .unsigned (unsigned_of_signature? came)⟩
  | some signature =>
      have signed := signed_of_signature? came
      by_cases long : d.maxBody < call.body.length
      · exact ⟨_, .tooLong signed long⟩
      · have short := Nat.le_of_not_lt long
        cases fault : call.bodyFault with
        | some text => exact ⟨_, .unreadable signed short fault⟩
        | none =>
            have whole : d.Whole call signature := ⟨signed, short, fault⟩
            cases verified :
                Signature.verify call.body signature (Text.Utf8.encode d.secret) with
            | false => exact ⟨_, .forged whole verified⟩
            | true => exact exists_fated_of_genuine usual ⟨whole, verified⟩

/-! Handling a call is its fate and nothing besides. -/

inductive Planned (message : Message) : Except Rejection (Plan m) → Prop where
  | unclear {e} : message.payload = .error e →
      Planned message (.error { cause := .invalidEnvelope e })
  | refused {payload tenant} (cause : Rejection.Cause) : message.payload = .ok payload →
      payload.tenant? = some tenant → Planned message (.error (refusal payload.kind tenant cause))
  | settled {payload response} : message.payload = .ok payload → response.error = "" →
      response.version = protocolVersion → Planned message (.ok (.settled response payload.reports))
  | handling {payload tenant} (handler : m Outcome) : message.payload = .ok payload →
      payload.tenant? = some tenant → Planned message (.ok (.handling payload.kind tenant handler))

theorem planned_request {r : Request} (key : String) (bears : message.payload = .ok (.request r)) :
    Planned message (d.requestPlan key r) := by
  unfold requestPlan
  split
  case h_1 => exact .refused _ bears rfl
  case h_2 route _ =>
    cases made : d.clients r.tenant with
    | error text =>
        rw [client_of_error made]
        exact .refused _ bears rfl
    | ok client =>
        simp only [client_of_ok made, bind, Except.bind]
        split
        case h_1 => exact .refused _ bears rfl
        case h_2 handler _ => exact .handling handler bears rfl

theorem planned_event {e : Event} (key : String) (bears : message.payload = .ok (.event e)) :
    Planned message (d.eventPlan key e) := by
  unfold eventPlan
  split
  case h_1 => exact .refused _ bears rfl
  case h_2 =>
    cases made : d.clients e.tenant with
    | error text =>
        rw [client_of_error made]
        exact .refused _ bears rfl
    | ok client =>
        rw [client_of_ok made]
        exact .handling _ bears rfl

theorem planned_validation {c : ConfigValidation}
    (bears : message.payload = .ok (.configValidation c)) :
    Planned message (d.validationPlan c) := by
  unfold validationPlan
  cases made : d.clients c.tenant with
  | error text =>
      rw [client_of_error made]
      exact .refused _ bears rfl
  | ok client =>
      simp only [client_of_ok made, bind, Except.bind]
      split
      case h_1 => exact .settled bears rfl rfl
      case h_2 validator _ => exact .handling _ bears rfl

theorem planned (d : Dispatcher m) (message : Message) : Planned message (d.plan message) := by
  unfold plan
  cases bears : message.payload with
  | error e => exact .unclear bears
  | ok payload =>
      cases payload with
      | heartbeat => exact .settled bears rfl rfl
      | errorReport report => exact .settled bears rfl rfl
      | schemaRequest => exact .settled bears rfl rfl
      | configValidation c => exact planned_validation bears
      | request r => exact planned_request message.idempotencyKey bears
      | event e => exact planned_event message.idempotencyKey bears

theorem kind_of_handling {kind : String} {tenant : Tenant} {handler : m Outcome}
    (planned : d.plan message = .ok (.handling kind tenant handler)) : kindOf message = kind := by
  have known := d.planned message
  rw [planned] at known
  cases known with
  | handling _ bears _ => exact kindOf_of_payload bears

theorem handled_dispatch [Monad m] [LawfulMonad m] (d : Dispatcher m) (message : Message) :
    handled (kindOf message) <$> d.dispatch message = (d.messageFate message).run := by
  unfold dispatch messageFate
  cases planned : d.plan message with
  | error rejection => exact map_pure _ _
  | ok plan =>
      cases plan with
      | settled response reports => exact map_pure _ _
      | handling kind tenant handler =>
          rw [kind_of_handling planned]
          simp only [Fate.run, map_eq_pure_bind, bind_assoc, pure_bind]

theorem handle_eq_run [Monad m] [LawfulMonad m] (d : Dispatcher m) (call : Http.Call) :
    d.handle call = (d.fate call).run := by
  unfold handle fate
  cases signature? call with
  | none => rfl
  | some signature =>
      cases admitted : d.admitted signature call with
      | error cause => simp only [admitted, Fate.run]
      | ok message =>
          simp only [admitted, ← handled_dispatch, map_eq_pure_bind]

theorem Treated.status {status : Nat} {rejection : Rejection}
    (treated : d.Treated message (.refused status rejection)) : rejection.status = status := by
  cases treated <;> rfl

theorem Fated.status {status : Nat} {rejection : Rejection}
    (fated : d.Fated call (.refused status rejection)) : rejection.status = status := by
  cases fated with
  | admitted _ treated => exact treated.status
  | _ => rfl

/-- A call has one fate, which is told by the gate that it fails first, and handling it is that
fate alone. No handler runs but the one it is handed to, and whoever is refused reads the status
of the gate. -/
theorem handler_gated [Monad m] [LawfulMonad m] (d : Dispatcher m) (usual : d.registry.Usual)
    (call : Http.Call) :
    ∃ outcome, d.Fated call outcome ∧ (∀ other, d.Fated call other → other = outcome) ∧
      d.handle call = outcome.run ∧
      ∀ status rejection, outcome = .refused status rejection →
        (Dispatcher.refused rejection).answer.status = status := by
  obtain ⟨outcome, fated⟩ := exists_fated usual call
  refine ⟨outcome, fated, fun other another => another.fate.symm.trans fated.fate, ?_, ?_⟩
  · rw [handle_eq_run, fated.fate]
  · intro status rejection own
    exact (status_refused "unknown" rejection).trans (own ▸ fated).status

/-! A call that is signed with the secret is admitted with what its body says. -/

section
variable {method path : String} {headers : Http.Headers} {body : Bytes}

theorem genuine_signed (short : body.length ≤ d.maxBody) :
    d.Genuine (signed (Text.Utf8.encode d.secret) ⟨method, path, headers, body, none⟩)
      (Signature.sign (Text.Utf8.encode d.secret) body) where
  signed := signed_of_signature? signature?_signed
  short := short
  sound := rfl
  verified := Signature.verify_sign (Text.Utf8.encode d.secret) body

theorem admits_signed (short : body.length ≤ d.maxBody)
    (read : Json.parse Message.decoder body = .ok message) :
    d.Admits (signed (Text.Utf8.encode d.secret) ⟨method, path, [], body, none⟩) message where
  genuine := ⟨_, genuine_signed short⟩
  read := by
    have other : (Signature.header == "content-encoding") = false := by decide
    refine ⟨body, .plain ?_, read⟩
    simp only [isPacked, signed, Http.Headers.get?, List.find?_cons, other, List.find?_nil,
      Option.map_none, Option.bind_none, Option.any_none]

end

end

/-! A front with a route of each kind, and a call that it hands to the one that decodes. -/

def echo (p : RequestParams Dict) : Id Outcome := .ok { data := some (.ofDict p.request) }

def note (p : RequestParams ErrorReport) : Id Outcome := .ok { data := some (.str p.request.error) }

def desk : Dispatcher Id where
  name := "desk"
  secret := "key"
  registry := (({} : Registry Id).onRequest "echo" (.untyped echo)).onRequest "note"
    (.decoding ErrorReport.decoder note)

def slip : Request where
  tenant := ⟨"acme", "token", none⟩
  action := "note"
  data := .ofList [("error", .str "late")]

def noting : Message := .carrying protocolVersion "once" (.request slip)

def noted : Http.Call :=
  signed (Text.Utf8.encode desk.secret) ⟨"POST", "/", [], noting.encode, none⟩

def taken : Id Outcome :=
  note { requestParams ⟨slip.tenant⟩ noting slip with request := { error := "late" } }

theorem desk_usual : desk.registry.Usual :=
  (Registry.usual_empty.onRequest (.untyped echo)).onRequest (.typed ErrorReport.decoder note)

theorem noting_read : Json.parse Message.decoder noting.encode = .ok noting := by
  have late : Json.Sound (.ofDict slip.data) := by
    apply Json.Sound.obj
    intro e member
    cases List.mem_singleton.mp member
    exact Json.sound_text "late"
  have told : slip.Told := ⟨⟨rfl, late⟩, ⟨rfl, nofun⟩, nofun⟩
  have numbers : noting.toJson.numbers = [.nat protocolVersion] := rfl
  apply Message.parse_carrying protocolVersion "once" (show Payload.Told (.request slip) from told)
  intro r member
  have member : .real r ∈ noting.toJson.numbers := member
  rw [numbers] at member
  cases List.mem_singleton.mp member

theorem noted_handed : desk.Fated noted (.handed "request" slip.tenant taken) := by
  have short : noting.encode.length ≤ desk.maxBody := by decide +kernel
  have decoded : Json.convert ErrorReport.decoder (.ofDict slip.data) =
      .ok { error := "late" } := rfl
  have takes : (RequestRoute.decoding ErrorReport.decoder note).Takes
      (requestParams ⟨slip.tenant⟩ noting slip) taken := .typed note decoded
  exact .admitted (admits_signed short noting_read) (.request rfl rfl rfl takes)

theorem handler_gated_desk : desk.registry.Usual ∧
    desk.Fated noted (.handed "request" slip.tenant taken) ∧
    desk.handle noted = Fate.run (.handed "request" slip.tenant taken) := by
  obtain ⟨outcome, _, only, same, _⟩ := handler_gated desk desk_usual noted
  rw [← only _ noted_handed] at same
  exact ⟨desk_usual, noted_handed, same⟩

end Dispatcher
end TenantRelay
