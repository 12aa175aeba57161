import Mathlib
import TenantRelay.Proofs.Gates
import TenantRelay.Proofs.Redaction

/-!
How a signed call is accounted for. The status, the count, the report and the body of an answer
are made apart from each other, and agree: whoever counts sees the status that was answered, and
whoever is told of a failure is told the text that the answer has.
-/

namespace TenantRelay

open Document

theorem Response.encode_ne_nil (r : Response) : r.encode ≠ [] := by
  unfold Response.encode Response.toJson Json.compact
  simp [Text.Utf8.encode, String.toList_append]

namespace Rejection

theorem Cause.status_ne_ok (cause : Cause) : cause.status ≠ 200 := by
  cases cause with
  | handler error => cases retriable : error.retriable <;> simp [status, retriable]
  | _ => simp [status]

theorem Cause.hasBody_eq_false_iff (cause : Cause) :
    cause.hasBody = false ↔ cause.status = 401 ∨ cause.status = 204 := by
  cases cause with
  | handler error => cases retriable : error.retriable <;> simp [status, hasBody, retriable]
  | _ => simp [status, hasBody]

theorem Cause.body_answer (cause : Cause) (text : String) : (cause.answer text).body =
    if cause.hasBody then ({ error := text, version := protocolVersion : Response }).encode
    else [] := by
  unfold Cause.answer
  cases cause.hasBody with
  | false => rfl
  | true => simp only [Http.Answer.json, Response.encode, ↓reduceIte]

theorem Cause.body_eq_nil_iff (cause : Cause) (text : String) :
    (cause.answer text).body = [] ↔ cause.status = 401 ∨ cause.status = 204 := by
  rw [← cause.hasBody_eq_false_iff, body_answer]
  cases cause.hasBody <;> simp [Response.encode_ne_nil]

theorem not_occurs_maskedMessage {r : Rejection} {tenant : Tenant} (known : r.tenant = some tenant)
    (plain : Masking.Plain tenant.credential.toList) :
    ¬ Masking.Occurs tenant.credential r.maskedMessage := by
  simp only [maskedMessage, known]
  exact Masking.not_occurs_mask plain List.mem_cons_self

end Rejection

namespace Dispatcher

variable {m : Type → Type} (d : Dispatcher m) (call : Http.Call)

def payload? : Option Payload := do
  let message ← d.message? call
  message.payload.toOption

def tenant? : Option Tenant := (d.payload? call).bind Payload.tenant?

/-- A call that is accounted for. -/
structure Accounts (h : Handled) : Prop where
  counted : h.measures =
    [.message (((d.payload? call).map Payload.kind).getD "unknown") h.answer.status]
  granted : h.answer.status = 200 →
    (∃ r : Response, r.error = "" ∧ r.version = protocolVersion ∧ h.answer.body = r.encode) ∧
      h.reports = ((d.payload? call).map Payload.reports).getD []
  refused : h.answer.status ≠ 200 → ∃ report, h.reports = [report] ∧
    report.tenantId = ((d.tenant? call).map (·.id)).getD "" ∧
    (h.answer.body = [] ↔ h.answer.status = 401 ∨ h.answer.status = 204) ∧
    (h.answer.body ≠ [] →
      h.answer.body = ({ error := report.error, version := protocolVersion : Response }).encode) ∧
    ∀ tenant, d.tenant? call = some tenant → Masking.Plain tenant.credential.toList →
      ¬ Masking.Occurs tenant.credential report.error

section
variable {d} {call} {message : Message} {payload : Payload}

theorem payload?_of_payload (bears : d.message? call = some message)
    (one : message.payload = .ok payload) : d.payload? call = some payload := by
  simp only [payload?, bears, one, Option.bind_eq_bind, Option.bind_some, Except.toOption]

theorem payload?_of_unclear {e : EnvelopeError} (bears : d.message? call = some message)
    (unclear : message.payload = .error e) : d.payload? call = none := by
  simp only [payload?, bears, unclear, Option.bind_eq_bind, Option.bind_some, Except.toOption]

theorem payload?_of_no_message (bears : d.message? call = none) : d.payload? call = none := by
  simp only [payload?, bears, Option.bind_eq_bind, Option.bind_none]

theorem message?_of_ok {signature : String} (came : signature? call = some signature)
    (admitted : d.admitted signature call = .ok message) : d.message? call = some message := by
  simp only [message?, came, admitted, Option.bind_eq_bind, Option.bind_some, Except.toOption]

theorem message?_of_error {signature : String} {cause : Rejection.Cause}
    (came : signature? call = some signature)
    (refused : d.admitted signature call = .error cause) : d.message? call = none := by
  simp only [message?, came, refused, Option.bind_eq_bind, Option.bind_some, Except.toOption]

end

/-- A rejection that knows just what was known of the call when it failed. -/
structure Knows (r : Rejection) : Prop where
  kind : r.kind = ((d.payload? call).map Payload.kind).getD "unknown"
  tenant : r.tenant = d.tenant? call

variable {d} {call}

theorem Knows.accounts {r : Rejection} (knows : d.Knows call r) :
    d.Accounts call (Dispatcher.refused r) := by
  have status : (Dispatcher.refused r).answer.status = r.status := status_refused r.kind r
  have body : (Dispatcher.refused r).answer.body = (r.cause.answer r.maskedMessage).body := rfl
  refine ⟨?_, ?_, ?_⟩
  · rw [status, ← knows.kind]
    rfl
  · intro granted
    exact absurd (status.symm.trans granted) r.cause.status_ne_ok
  · intro _
    refine ⟨_, rfl, ?_, ?_, ?_, ?_⟩
    · rw [← knows.tenant]
    · rw [status, body]
      exact r.cause.body_eq_nil_iff r.maskedMessage
    · rw [body, r.cause.body_answer]
      intro full
      split at full
      case isTrue bears => simp only [bears, ↓reduceIte]
      case isFalse => exact absurd rfl full
    · intro tenant known plain
      exact Rejection.not_occurs_maskedMessage (knows.tenant.trans known) plain

theorem accounts_granted {payload : Payload} {response : Response}
    (bears : d.payload? call = some payload) (good : response.error = "")
    (version : response.version = protocolVersion) : d.Accounts call
      (handled payload.kind { result := .ok response, reports := payload.reports }) where
  counted := by
    rw [bears]
    rfl
  granted _ := by
    rw [bears]
    refine ⟨⟨response, good, version, ?_⟩, rfl⟩
    simp only [handled, Http.Answer.json, Response.encode]
  refused failed := absurd rfl failed

theorem reports_of_tenant? {payload : Payload} {tenant : Tenant}
    (claimed : payload.tenant? = some tenant) : payload.reports = [] := by
  cases payload with
  | errorReport report => cases claimed
  | _ => rfl

theorem accounts_refused {payload : Payload} {tenant : Tenant} (cause : Rejection.Cause)
    (bears : d.payload? call = some payload) (claimed : payload.tenant? = some tenant) :
    d.Accounts call (Dispatcher.refused (refusal payload.kind tenant cause)) := by
  refine Knows.accounts ⟨?_, ?_⟩
  · rw [bears]
    rfl
  · rw [tenant?, bears]
    exact claimed.symm

theorem accounts_concluded {payload : Payload} {tenant : Tenant}
    (bears : d.payload? call = some payload) (claimed : payload.tenant? = some tenant)
    (outcome : Outcome) :
    d.Accounts call (handled payload.kind { result := concluded payload.kind tenant outcome }) := by
  cases outcome with
  | error error => exact accounts_refused (.handler error) bears claimed
  | ok reply =>
      have granted : d.Accounts call (handled payload.kind
          { result := .ok (success reply.toResponse), reports := payload.reports }) :=
        accounts_granted bears rfl rfl
      rw [reports_of_tenant? claimed] at granted
      exact granted

theorem accounts_of_message [Monad m] [LawfulMonad m] {message : Message}
    (bears : d.message? call = some message) :
    SatisfiesM (d.Accounts call) (d.messageFate message).run := by
  have planned := d.planned message
  unfold messageFate
  cases plans : d.plan message with
  | error rejection =>
      rw [plans] at planned
      cases planned with
      | unclear unclear =>
          have none := payload?_of_unclear bears unclear
          refine SatisfiesM.pure (Knows.accounts ⟨?_, ?_⟩)
          · rw [none]
            rfl
          · rw [tenant?, none]
            rfl
      | refused cause one claimed =>
          exact SatisfiesM.pure (accounts_refused cause (payload?_of_payload bears one) claimed)
  | ok plan =>
      rw [plans] at planned
      cases planned with
      | settled one good version =>
          rw [kindOf_of_payload one]
          exact SatisfiesM.pure (accounts_granted (payload?_of_payload bears one) good version)
      | handling handler one claimed =>
          have accounts := accounts_concluded (payload?_of_payload bears one) claimed
          exact (SatisfiesM.of_true accounts).map_pre

/-- Every signed call is answered, counted and reported as one. -/
theorem signed_call_accounted [Monad m] [LawfulMonad m] (d : Dispatcher m) {call : Http.Call}
    {signature : String} (signed : Signed call signature) :
    SatisfiesM (d.Accounts call) (d.handle call) := by
  have came := signature?_of_signed signed
  rw [handle_eq_run]
  cases admitted : d.admitted signature call with
  | error cause =>
      rw [fate_of_error signed admitted]
      have none := payload?_of_no_message (message?_of_error came admitted)
      refine SatisfiesM.pure (Knows.accounts ⟨?_, ?_⟩)
      · rw [none]
        rfl
      · rw [tenant?, none]
        rfl
  | ok message =>
      have same : d.fate call = d.messageFate message := by simp only [fate, came, admitted]
      rw [same]
      exact accounts_of_message (message?_of_ok came admitted)

/-! A front whose handler tells a credential when it fails. -/

def blurt (p : EventParams) : Id Outcome :=
  .error (.fatal ("no access with " ++ p.client.access.credential))

def gossip : Dispatcher Id where
  name := "gossip"
  secret := "key"
  registry := ({} : Registry Id).onEvent "tell" blurt

def tale : Event := { tenant := ⟨"acme", "token", none⟩, name := "tell" }

def telling : Message := .carrying protocolVersion "once" (.event tale)

def leak : Http.Call :=
  signed (Text.Utf8.encode gossip.secret) ⟨"POST", "/", [], telling.encode, none⟩

theorem telling_read : Json.parse Message.decoder telling.encode = .ok telling := by
  have kept : tale.Told := ⟨⟨rfl, nofun⟩, ⟨rfl, nofun⟩⟩
  have numbers : telling.toJson.numbers = [.nat protocolVersion] := rfl
  apply Message.parse_carrying protocolVersion "once" (show Payload.Told (.event tale) from kept)
  intro r member
  have member : .real r ∈ telling.toJson.numbers := member
  rw [numbers] at member
  cases List.mem_singleton.mp member

theorem leak_admitted : gossip.Admits leak telling := by
  have short : telling.encode.length ≤ gossip.maxBody := by decide +kernel
  exact admits_signed short telling_read

theorem leak_fated : gossip.Fated leak
    (.handed "event" tale.tenant (blurt (eventParams ⟨tale.tenant⟩ telling tale))) :=
  .admitted leak_admitted (.event rfl rfl rfl)

theorem leak_refused : (gossip.handle leak).answer.status = 500 := by
  rw [handle_eq_run, leak_fated.fate]
  exact status_refused "event" (refusal "event" tale.tenant (.handler (.fatal _)))

theorem signed_call_accounted_leak : ∃ signature, Signed leak signature ∧
    gossip.tenant? leak = some tale.tenant ∧
    ∃ report, (gossip.handle leak).reports = [report] ∧ report.tenantId = "acme" ∧
      ¬ Masking.Occurs "token" report.error := by
  obtain ⟨signature, genuine⟩ := leak_admitted.genuine
  obtain ⟨kept, same⟩ := signed_call_accounted gossip genuine.signed
  have accounts : gossip.Accounts leak (gossip.handle leak) := same ▸ kept.2
  have known : gossip.tenant? leak = some tale.tenant := by
    obtain ⟨signature, came, admitted⟩ := leak_admitted.admitted
    rw [tenant?, payload?_of_payload (message?_of_ok came admitted) rfl]
    rfl
  have failed : (gossip.handle leak).answer.status ≠ 200 := by
    rw [leak_refused]
    decide
  obtain ⟨report, only, tenant, _, _, hidden⟩ := accounts.refused failed
  have plain : Masking.Plain "token".toList := ⟨by decide, by decide, by decide +kernel⟩
  refine ⟨signature, genuine.signed, known, report, only, ?_, hidden _ known plain⟩
  rw [tenant, known]
  rfl

end Dispatcher
end TenantRelay
